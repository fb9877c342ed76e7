import BeeSdk.HttpRequest

/-! The byte range of a request, written into its `Range` header and read back. The
writer leaves out either end; the reader wants digits in front of the dash whenever it
reads at all. -/
namespace BeeSdk.HttpMessage
open TextSearch HttpHeader

/-- `boost::lexical_cast<int64_t>`: digits behind an optional sign, and nothing else. -/
def castInt64 (text : Text) : Option Int :=
  let (negative, digits) := match text with
    | '+' :: rest => (false, rest)
    | '-' :: rest => (true, rest)
    | _ => (false, text)
  let value := digits.foldl (fun value digit => 10 * value + (digit.toNat - '0'.toNat)) 0
  if digits = [] ∨ ¬ digits.all Char.isDigit then none
  else if negative then if value ≤ 2 ^ 63 then some (-value) else none
  else if value < 2 ^ 63 then some value else none

namespace HttpRequest

/-- The answer, and what is in the two out-parameters afterwards: the beginning is
assigned before the end is looked at. -/
def getRange (request : HttpRequest) (rangeBeg rangeEnd : Int) : Bool × Int × Int :=
  let rangeStr := request.getHeader "Range".toList
  if find "bytes=".toList rangeStr = some 0 then
    let rangeStr := rangeStr.drop "bytes=".toList.length
    if findFirstOf ',' rangeStr ≠ none then (false, rangeBeg, rangeEnd)
    else
      -- without a dash `substr` takes everything, and `pos + 1` is the beginning again
      let (front, behind) := match findFirstOf '-' rangeStr with
        | some pos => (rangeStr.take pos, pos + 1)
        | none => (rangeStr, 0)
      match castInt64 front with
      | none => (false, rangeBeg, rangeEnd)
      | some rangeBeg =>
        if behind < rangeStr.length then
          match castInt64 (rangeStr.drop behind) with
          | none => (false, rangeBeg, rangeEnd)
          | some rangeEnd => (true, rangeBeg, rangeEnd)
        else (true, rangeBeg, rangeEnd)
  else (false, rangeBeg, rangeEnd)

/-- The pairs that say which bytes are asked for: from a place on, between two places,
or the last so many. -/
def RangeAccepted (rangeBeg rangeEnd : Int) : Prop :=
  0 ≤ rangeBeg ∧ (rangeEnd = -1 ∨ rangeBeg ≤ rangeEnd) ∨ rangeBeg = -1 ∧ 0 < rangeEnd

end HttpRequest

/-! ### Numbers -/

theorem castInt64_digits {value : Nat} (fits : value < 2 ^ 63) :
    castInt64 (Nat.toDigits 10 value) = some (value : Int) := by
  have digits : ∀ symbol ∈ Nat.toDigits 10 value, symbol.isDigit := fun _ member =>
    Nat.isDigit_of_mem_toDigits (by decide) (by decide) member
  have number : (Nat.toDigits 10 value).foldl
      (fun value digit => 10 * value + (digit.toNat - '0'.toNat)) 0 = value := by
    rw [← Nat.ofDigitChars_eq_foldl, Nat.ofDigitChars_ten_toDigits]
  cases shape : Nat.toDigits 10 value with
  | nil => exact absurd shape Nat.toDigits_ne_nil
  | cons first rest =>
    rw [shape] at digits number
    have all : (first :: rest).all Char.isDigit := List.all_eq_true.mpr digits
    unfold castInt64
    split
    rename_i negative unsigned signs
    split at signs
    · rename_i plus
      cases plus
      exact absurd (digits '+' List.mem_cons_self) (by decide)
    · rename_i minus
      cases minus
      exact absurd (digits '-' List.mem_cons_self) (by decide)
    · cases signs
      simp only [number, all]
      simpa using fits

theorem castInt64_nil : castInt64 [] = none := by decide

private theorem digits_apart (value : Nat) {symbol : Char} (other : symbol.isDigit = false) :
    ∀ digit ∈ Nat.toDigits 10 value, digit ≠ symbol := by
  intro digit member same
  have read := @Nat.isDigit_of_mem_toDigits 10 value digit (by decide) (by decide) member
  rw [same, other] at read
  cases read

namespace HttpRequest
variable {request next : HttpRequest} {rangeBeg rangeEnd : Int}

/-! ### The header -/

/-- What follows the unit is read as a beginning, a dash and an end. -/
theorem getRange_of_header {front behind : Text}
    (header : request.getHeader "Range".toList = "bytes=".toList ++ (front ++ '-' :: behind))
    (undashed : ∀ symbol ∈ front, symbol ≠ '-')
    (single : ∀ symbol ∈ front ++ behind, symbol ≠ ',') :
    request.getRange rangeBeg rangeEnd =
      match castInt64 front with
      | none => (false, rangeBeg, rangeEnd)
      | some rangeBeg =>
        if behind = [] then (true, rangeBeg, rangeEnd)
        else match castInt64 behind with
          | none => (false, rangeBeg, rangeEnd)
          | some rangeEnd => (true, rangeBeg, rangeEnd) := by
  have started : find "bytes=".toList ("bytes=".toList ++ (front ++ '-' :: behind)) = some 0 :=
    find_of_match (List.prefix_append _ _)
  have commas : findFirstOf ',' (front ++ '-' :: behind) = none := by
    rw [findFirstOf, List.findIdx?_eq_none_iff]
    intro symbol member
    rw [List.mem_append, List.mem_cons] at member
    rcases member with member | rfl | member
    · simpa using single symbol (List.mem_append_left _ member)
    · decide
    · simpa using single symbol (List.mem_append_right _ member)
  have dash : findFirstOf '-' (front ++ '-' :: behind) = some front.length := by
    rw [findFirstOf, List.findIdx?_append, List.findIdx?_eq_none_iff.mpr (by simpa using undashed),
      List.findIdx?_cons]
    simp
  have cut : (front ++ '-' :: behind).drop (front.length + 1) = behind := by
    rw [List.drop_append, List.drop_eq_nil_of_le (by omega)]
    simp
  rw [getRange, header, if_pos started, List.drop_left]
  simp only [commas, dash, ne_eq, not_true_eq_false, if_false, List.take_left, cut]
  cases castInt64 front with
  | none => rfl
  | some number =>
    cases behind with
    | nil => simp
    | cons symbol rest => simp

/-- What setting a range puts into the header. -/
theorem getHeader_setRange {val : Text} (written : rangeText rangeBeg rangeEnd = some val)
    (set : request.setRange rangeBeg rangeEnd = some next) :
    next.getHeader "Range".toList = val := by
  rw [setRange, written] at set
  obtain ⟨table, assigned, rfl⟩ := Option.map_eq_some_iff.mp set
  have bound := HeaderTable.lookup_assigned assigned "Range".toList
  rw [if_pos rfl] at bound
  rw [getHeader, HeaderTable.getHeader, bound]
  rfl

private theorem number_text (value : Nat) : (toString (value : Int)).toList = Nat.toDigits 10 value :=
  Nat.toList_repr

/-- A range from a place on is read back. -/
theorem getRange_open (value : Nat) (fits : value < 2 ^ 63)
    (set : request.setRange value (-1) = some next) :
    next.getRange (-1) (-1) = (true, (value : Int), -1) := by
  have written : rangeText value (-1) =
      some ("bytes=".toList ++ (Nat.toDigits 10 value ++ '-' :: [])) := by
    rw [rangeText, if_pos (by omega), if_neg (by omega)]
    simp only [number_text, List.append_assoc]
    rfl
  rw [getRange_of_header (getHeader_setRange written set) (digits_apart value (by decide))
    (by rw [List.append_nil]; exact digits_apart value (by decide)), castInt64_digits fits]
  rfl

/-- A range between two places is read back. -/
theorem getRange_closed (first last : Nat) (order : first ≤ last) (fits : last < 2 ^ 63)
    (set : request.setRange first last = some next) :
    next.getRange (-1) (-1) = (true, (first : Int), (last : Int)) := by
  have written : rangeText first last =
      some ("bytes=".toList ++ (Nat.toDigits 10 first ++ '-' :: Nat.toDigits 10 last)) := by
    rw [rangeText, if_pos (by omega), if_pos (by omega), if_pos (by omega)]
    simp only [number_text, List.append_assoc]
    rfl
  have single : ∀ symbol ∈ Nat.toDigits 10 first ++ Nat.toDigits 10 last, symbol ≠ ',' := by
    intro symbol member
    rcases List.mem_append.mp member with member | member
    · exact digits_apart first (by decide) symbol member
    · exact digits_apart last (by decide) symbol member
  rw [getRange_of_header (getHeader_setRange written set) (digits_apart first (by decide)) single,
    castInt64_digits (by omega), castInt64_digits fits]
  simp only [if_neg (@Nat.toDigits_ne_nil last 10)]

/-- A range of the last so many bytes is refused: nothing stands in front of its dash. -/
theorem getRange_last (count : Nat) (some_bytes : 0 < count)
    (set : request.setRange (-1) count = some next) :
    next.getRange (-1) (-1) = (false, -1, -1) := by
  have written : rangeText (-1) count =
      some ("bytes=".toList ++ ([] ++ '-' :: Nat.toDigits 10 count)) := by
    rw [rangeText, if_neg (by omega), if_pos (by omega)]
    simp only [number_text, List.append_assoc]
    rfl
  rw [getRange_of_header (getHeader_setRange written set) (by simp)
    (digits_apart count (by decide)), castInt64_nil]

/-- Of the ranges a request takes exactly those with a beginning are read back. -/
theorem range_kept_iff (rangeBeg rangeEnd : Int64)
    (accepted : RangeAccepted rangeBeg.toInt rangeEnd.toInt)
    (set : request.setRange rangeBeg.toInt rangeEnd.toInt = some next) :
    next.getRange (-1) (-1) = (true, rangeBeg.toInt, rangeEnd.toInt) ↔ 0 ≤ rangeBeg.toInt := by
  have top : rangeEnd.toInt < 2 ^ 63 := rangeEnd.toInt_lt
  have begTop : rangeBeg.toInt < 2 ^ 63 := rangeBeg.toInt_lt
  generalize rangeBeg.toInt = first at *
  generalize rangeEnd.toInt = last at *
  rcases accepted with ⟨begins, rfl | order⟩ | ⟨rfl, positive⟩
  · lift first to ℕ using begins
    exact iff_of_true (getRange_open first (by omega) set) (by omega)
  · lift first to ℕ using begins
    lift last to ℕ using by omega
    exact iff_of_true (getRange_closed first last (by omega) (by omega) set) (by omega)
  · lift last to ℕ using by omega
    rw [getRange_last last (by omega) set]
    exact iff_of_false (by simp) (by decide)

theorem middle_bytes_kept : ∃ next, ({} : HttpRequest).setRange 100 199 = some next ∧
    next.getRange (-1) (-1) = (true, 100, 199) := by
  obtain ⟨next, set⟩ : ∃ next, ({} : HttpRequest).setRange 100 199 = some next := ⟨_, rfl⟩
  refine ⟨next, set, ?_⟩
  exact (range_kept_iff 100 199 (Or.inl ⟨by decide, Or.inr (by decide)⟩) set).mpr (by decide)

/-- The last five hundred bytes are asked for, and the reader knows of no range. -/
theorem last_bytes_refused :
    ∃ next, ({} : HttpRequest).setRange (-1) 500 = some next ∧ RangeAccepted (-1) 500 ∧
      next.getRange (-1) (-1) = (false, -1, -1) := by
  refine ⟨_, rfl, ?_, ?_⟩
  · exact Or.inr ⟨rfl, by decide⟩
  · decide +kernel

end HttpRequest
end BeeSdk.HttpMessage
