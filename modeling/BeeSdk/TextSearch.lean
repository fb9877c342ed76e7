import Mathlib.Data.List.DropRight
import Mathlib.Data.List.Infix
import Mathlib.Data.List.TakeWhile

/-! Searching and cutting text: where a pattern first stands, the pieces between
the places where a separator stands, and a text without what surrounds it. Texts
are lists of symbols of any kind. -/
namespace BeeSdk.TextSearch

variable {α : Type} [DecidableEq α]

/-- Where the pattern first stands in the text. -/
def find (pattern : List α) : List α → Option Nat
  | [] => if pattern = [] then some 0 else none
  | symbol :: rest =>
    if pattern <+: symbol :: rest then some 0 else (find pattern rest).map (· + 1)

/-- Where the symbol first stands in the text. -/
def findFirstOf (symbol : α) (text : List α) : Option Nat :=
  text.findIdx? (· = symbol)

/-- Where the text first holds another symbol. -/
def findFirstNotOf (symbol : α) (text : List α) : Option Nat :=
  text.findIdx? (· ≠ symbol)

/-- The pieces of the text, at most as many as the fuel allows. A separator at the
very end closes the last piece and opens none. -/
def splitLoop (separator : List α) : Nat → List α → List (List α)
  | 0, _ => []
  | fuel + 1, text =>
    if text = [] then []
    else match find separator text with
      | none => [text]
      | some position =>
        text.take position :: splitLoop separator fuel (text.drop (position + separator.length))

/-- Every piece takes a symbol of the text at least. -/
def split (text separator : List α) : List (List α) :=
  splitLoop separator text.length text

/-- The text without the symbols around it that the predicate takes. -/
def trim (space : α → Bool) (text : List α) : List α :=
  (text.dropWhile space).rdropWhile space

/-- The text neither begins nor ends with a symbol the predicate takes. -/
def Trimmed (space : α → Bool) (text : List α) : Prop :=
  (∀ symbol ∈ text.head?, space symbol = false) ∧ ∀ symbol ∈ text.getLast?, space symbol = false

/-! ### Where a pattern stands -/

theorem find_cons_of_mismatch {pattern rest : List α} {symbol : α}
    (elsewhere : ¬ pattern <+: symbol :: rest) :
    find pattern (symbol :: rest) = (find pattern rest).map (· + 1) := by
  simp only [find, if_neg elsewhere]

theorem find_of_match {pattern text : List α} (starts : pattern <+: text) :
    find pattern text = some 0 := by
  cases text with
  | nil => simp [find, List.prefix_nil.mp starts]
  | cons symbol rest => simp [find, starts]

/-- A pattern is not found exactly when it stands nowhere. -/
theorem find_eq_none_iff {pattern text : List α} :
    find pattern text = none ↔ ¬ pattern <:+: text := by
  induction text with
  | nil => simp [find, List.infix_nil]
  | cons symbol rest ih =>
    rw [List.infix_cons_iff, not_or, ← ih]
    by_cases starts : pattern <+: symbol :: rest
    · simp [find_of_match starts, starts]
    · simp [find_cons_of_mismatch starts, starts]

/-- In front of the place where a pattern is found it does not stand. -/
theorem free_before_find {pattern text : List α} {position : Nat} (real : pattern ≠ [])
    (found : find pattern text = some position) : ¬ pattern <:+: text.take position := by
  induction text generalizing position with
  | nil => simp [real]
  | cons symbol rest ih =>
    by_cases starts : pattern <+: symbol :: rest
    · rw [find_of_match starts] at found
      cases found
      simp [real]
    · rw [find_cons_of_mismatch starts, Option.map_eq_some_iff] at found
      obtain ⟨behind, found, rfl⟩ := found
      rw [List.take_succ_cons, List.infix_cons_iff, not_or]
      refine ⟨fun held => starts ?_, ih found⟩
      exact held.trans (List.cons_prefix_cons.mpr ⟨rfl, List.take_prefix _ _⟩)

/-- Where a pattern is found it stands. -/
theorem prefix_at_find {pattern text : List α} {position : Nat}
    (found : find pattern text = some position) : pattern <+: text.drop position := by
  induction text generalizing position with
  | nil =>
    simp only [find, Option.ite_none_right_eq_some] at found
    simp [found.1]
  | cons symbol rest ih =>
    by_cases starts : pattern <+: symbol :: rest
    · rw [find_of_match starts] at found
      cases found
      exact starts
    · rw [find_cons_of_mismatch starts, Option.map_eq_some_iff] at found
      obtain ⟨behind, found, rfl⟩ := found
      exact ih found

/-- The first place of a pattern is behind a text it does not reach into. -/
theorem find_append {pattern before : List α} (behind : List α)
    (free : ¬ pattern <:+: before ++ pattern.dropLast) :
    find pattern (before ++ pattern ++ behind) = some before.length := by
  induction before with
  | nil => exact find_of_match (by simp)
  | cons symbol rest ih =>
    rw [List.cons_append, List.infix_cons_iff, not_or] at free
    have elsewhere : ¬ pattern <+: symbol :: (rest ++ pattern ++ behind) := by
      intro starts
      apply free.1
      apply List.prefix_of_prefix_length_le starts
      · rw [List.append_assoc, List.cons_prefix_cons]
        exact ⟨rfl, (List.prefix_append_right_inj _).mpr
          ((List.dropLast_prefix _).trans (List.prefix_append _ _))⟩
      · simp
        omega
    rw [List.cons_append, List.cons_append, find_cons_of_mismatch elsewhere, ih free.2]
    rfl

omit [DecidableEq α] in
/-- A pattern does not reach into a text without its first symbol. -/
theorem free_of_head_absent {first : α} {before : List α} (tail : List α) (absent : first ∉ before) :
    ¬ first :: tail <:+: before ++ (first :: tail).dropLast := by
  induction before with
  | nil =>
    intro held
    have shorter := held.length_le
    rw [List.nil_append, List.length_dropLast, List.length_cons] at shorter
    omega
  | cons symbol rest ih =>
    rw [List.mem_cons, not_or] at absent
    rw [List.cons_append, List.infix_cons_iff, not_or, List.cons_prefix_cons]
    exact ⟨fun held => absent.1 held.1, ih absent.2⟩

omit [DecidableEq α] in
/-- A pattern of two symbols reaches into no text without it. -/
theorem free_of_pair {first second : α} {before : List α} (differ : first ≠ second)
    (free : ¬ [first, second] <:+: before) :
    ¬ [first, second] <:+: before ++ [first, second].dropLast := by
  rintro ⟨front, back, same⟩
  rcases List.eq_nil_or_concat back with rfl | ⟨middle, last, rfl⟩
  · have ends := congrArg List.getLast? same
    simp at ends
    exact differ ends.symm
  · apply free
    have shorter := congrArg List.dropLast same
    refine ⟨front, middle, ?_⟩
    simpa [← List.append_assoc] using shorter

omit [DecidableEq α] in
/-- A pattern whose first symbol the front lacks stands behind the front. -/
theorem infix_behind {first : α} {before behind : List α} (tail : List α) (absent : first ∉ before)
    (held : first :: tail <:+: before ++ behind) : first :: tail <:+: behind := by
  induction before with
  | nil => exact held
  | cons symbol rest ih =>
    rw [List.mem_cons, not_or] at absent
    rw [List.cons_append, List.infix_cons_iff, List.cons_prefix_cons] at held
    rcases held with ⟨same, _⟩ | held
    · exact absurd same absent.1
    · exact ih absent.2 held

/-- A symbol the front lacks is looked for behind it. -/
theorem findFirstOf_behind {symbol : α} {before : List α} (behind : List α)
    (absent : symbol ∉ before) :
    findFirstOf symbol (before ++ behind) =
      (findFirstOf symbol behind).map (· + before.length) := by
  have none : before.findIdx? (· = symbol) = none := by
    rw [List.findIdx?_eq_none_iff]
    intro other member
    simpa using fun same : other = symbol => absent (same ▸ member)
  simp [findFirstOf, List.findIdx?_append, none]

theorem findFirstOf_append {symbol : α} {before : List α} (behind : List α)
    (absent : symbol ∉ before) :
    findFirstOf symbol (before ++ symbol :: behind) = some before.length := by
  rw [findFirstOf_behind _ absent]
  simp [findFirstOf, List.findIdx?_cons]

omit [DecidableEq α] in
@[simp] theorem drop_behind (before behind : List α) (symbol : α) :
    (before ++ symbol :: behind).drop (before.length + 1) = behind := by
  simp

theorem findFirstOf_eq_none_iff {symbol : α} {text : List α} :
    findFirstOf symbol text = none ↔ symbol ∉ text := by
  rw [findFirstOf, List.findIdx?_eq_none_iff]
  constructor
  · intro none member
    simpa using none symbol member
  · intro absent other member
    simpa using fun same : other = symbol => absent (same ▸ member)

/-- The symbol is found nowhere, or where the text first holds it. -/
theorem findFirstOf_cases (symbol : α) (text : List α) :
    (symbol ∉ text ∧ findFirstOf symbol text = none) ∨
      ∃ before behind, text = before ++ symbol :: behind ∧ symbol ∉ before ∧
        findFirstOf symbol text = some before.length := by
  by_cases member : symbol ∈ text
  · obtain ⟨before, behind, rfl, absent⟩ := List.eq_append_cons_of_mem member
    exact .inr ⟨before, behind, rfl, absent, findFirstOf_append behind absent⟩
  · exact .inl ⟨member, findFirstOf_eq_none_iff.mpr member⟩

theorem takeWhile_ne {symbol : α} {before : List α} (behind : List α) (absent : symbol ∉ before) :
    (before ++ symbol :: behind).takeWhile (· ≠ symbol) = before := by
  rw [List.takeWhile_append_of_pos, List.takeWhile_cons_of_neg (by simp), List.append_nil]
  intro other member
  simpa using fun same : other = symbol => absent (same ▸ member)

theorem dropWhile_ne {symbol : α} {before : List α} (behind : List α) (absent : symbol ∉ before) :
    (before ++ symbol :: behind).dropWhile (· ≠ symbol) = symbol :: behind := by
  rw [List.dropWhile_append_of_pos, List.dropWhile_cons_of_neg (by simp)]
  intro other member
  simpa using fun same : other = symbol => absent (same ▸ member)

theorem takeWhile_ne_of_absent {symbol : α} {text : List α} (absent : symbol ∉ text) :
    text.takeWhile (· ≠ symbol) = text := by
  rw [List.takeWhile_eq_self_iff]
  intro other member
  simpa using fun same : other = symbol => absent (same ▸ member)

theorem dropWhile_ne_of_absent {symbol : α} {text : List α} (absent : symbol ∉ text) :
    text.dropWhile (· ≠ symbol) = [] := by
  rw [List.dropWhile_eq_nil_iff]
  intro other member
  simpa using fun same : other = symbol => absent (same ▸ member)

theorem findFirstNotOf_skip {symbol other : α} {rest : List α} (differ : other ≠ symbol) :
    findFirstNotOf symbol (symbol :: other :: rest) = some 1 := by
  simp [findFirstNotOf, List.findIdx?_cons, differ]

/-! ### The pieces of a text -/

private theorem splitLoop_step {separator text : List α} {fuel : Nat} (filled : text ≠ []) :
    splitLoop separator (fuel + 1) text = match find separator text with
      | none => [text]
      | some position =>
        text.take position :: splitLoop separator fuel (text.drop (position + separator.length)) := by
  simp only [splitLoop, if_neg filled]

private theorem splitLoop_succ {separator text : List α} {fuel : Nat} (real : separator ≠ [])
    (enough : text.length ≤ fuel) :
    splitLoop separator (fuel + 1) text = splitLoop separator fuel text := by
  induction fuel generalizing text with
  | zero =>
    rw [Nat.le_zero, List.length_eq_zero_iff] at enough
    simp [splitLoop, enough]
  | succ fuel ih =>
    by_cases empty : text = []
    · simp [splitLoop, empty]
    · rw [splitLoop_step empty, splitLoop_step empty]
      cases find separator text with
      | none => rfl
      | some position =>
        have long := List.length_pos_iff.mpr real
        have shorter : (text.drop (position + separator.length)).length ≤ fuel := by
          rw [List.length_drop]
          omega
        exact congrArg (text.take position :: ·) (ih shorter)

private theorem splitLoop_enough {separator text : List α} {fuel : Nat} (real : separator ≠ [])
    (enough : text.length ≤ fuel) : splitLoop separator fuel text = split text separator := by
  induction fuel, enough using Nat.le_induction with
  | base => rfl
  | succ fuel enough ih => rw [splitLoop_succ real enough, ih]

/-- What stands in front of the first separator is the first piece. -/
theorem split_append {separator before : List α} (behind : List α) (real : separator ≠ [])
    (free : ¬ separator <:+: before ++ separator.dropLast) :
    split (before ++ separator ++ behind) separator = before :: split behind separator := by
  have filled : before ++ separator ++ behind ≠ [] := by simp [real]
  have long := List.length_pos_iff.mpr real
  have length : (before ++ separator ++ behind).length =
      (before ++ separator ++ behind).length - 1 + 1 := by
    simp only [List.length_append]
    omega
  rw [split, length, splitLoop_step filled, find_append behind free]
  simp only [← List.length_append, List.drop_left]
  rw [splitLoop_enough real (by simp only [List.length_append]; omega), List.append_assoc,
    List.take_left]

/-- A piece ends where the separator is found, and the rest is split. -/
theorem split_of_found {separator text : List α} {position : Nat} (real : separator ≠ [])
    (filled : text ≠ []) (found : find separator text = some position) :
    split text separator =
      text.take position :: split (text.drop (position + separator.length)) separator := by
  have long := List.length_pos_iff.mpr real
  obtain ⟨symbol, rest, rfl⟩ := List.exists_cons_of_ne_nil filled
  rw [split, List.length_cons, splitLoop_step filled, found]
  refine congrArg (_ :: ·) (splitLoop_enough real ?_)
  rw [List.length_drop, List.length_cons]
  omega

/-- A text without the separator is its only piece. -/
theorem split_of_free {separator text : List α} (filled : text ≠ [])
    (free : ¬ separator <:+: text) : split text separator = [text] := by
  obtain ⟨symbol, rest, rfl⟩ := List.exists_cons_of_ne_nil filled
  rw [split, List.length_cons, splitLoop_step filled, find_eq_none_iff.mpr free]

/-- Lines that are each closed by a separator are the pieces of the text they make up. -/
theorem split_lines {separator : List α} {lines : List (List α)} (real : separator ≠ [])
    (free : ∀ line ∈ lines, ¬ separator <:+: line ++ separator.dropLast) :
    split (lines.flatMap (· ++ separator)) separator = lines := by
  induction lines with
  | nil => rfl
  | cons line rest ih =>
    rw [List.flatMap_cons, split_append _ real (free line (by simp)),
      ih fun line member => free line (by simp [member])]

private theorem free_of_mem_splitLoop {separator text piece : List α} {fuel : Nat}
    (real : separator ≠ []) (member : piece ∈ splitLoop separator fuel text) :
    ¬ separator <:+: piece := by
  induction fuel generalizing text with
  | zero => cases member
  | succ fuel ih =>
    by_cases empty : text = []
    · simp [splitLoop, empty] at member
    · rw [splitLoop_step empty] at member
      cases found : find separator text with
      | none =>
        rw [found, List.mem_singleton] at member
        rw [member]
        exact find_eq_none_iff.mp found
      | some position =>
        rw [found, List.mem_cons] at member
        rcases member with rfl | behind
        · exact free_before_find real found
        · exact ih behind

/-- No piece holds the separator. -/
theorem free_of_mem_split {separator text piece : List α} (real : separator ≠ [])
    (member : piece ∈ split text separator) : ¬ separator <:+: piece :=
  free_of_mem_splitLoop real member

theorem split_ne_nil {separator text : List α} (real : separator ≠ []) (filled : text ≠ []) :
    split text separator ≠ [] := by
  cases found : find separator text with
  | none => rw [split_of_free filled (find_eq_none_iff.mp found)]; simp
  | some position => rw [split_of_found real filled found]; simp

/-- Where the separator is found, it stands between what is before and what is behind it. -/
theorem take_found_drop {separator text : List α} {position : Nat}
    (found : find separator text = some position) :
    text.take position ++ separator ++ text.drop (position + separator.length) = text := by
  obtain ⟨behind, same⟩ := prefix_at_find found
  have rest : text.drop (position + separator.length) = behind := by
    rw [← List.drop_drop, ← same, List.drop_left]
  rw [rest, List.append_assoc, same, List.take_append_drop]

/-- The pieces joined are the text, but for a separator at its very end. -/
theorem join_split {separator : List α} (real : separator ≠ []) (text : List α) :
    separator.intercalate (split text separator) = text ∨
      separator.intercalate (split text separator) ++ separator = text := by
  generalize bound : text.length = length
  induction length using Nat.strongRecOn generalizing text with
  | ind length ih =>
    by_cases empty : text = []
    · exact .inl (by rw [empty]; rfl)
    cases found : find separator text with
    | none =>
      rw [split_of_free empty (find_eq_none_iff.mp found), List.intercalate_singleton]
      exact .inl rfl
    | some position =>
      have long := List.length_pos_iff.mpr real
      have some := List.length_pos_iff.mpr empty
      have whole := take_found_drop found
      have shorter : (text.drop (position + separator.length)).length < length := by
        rw [List.length_drop]
        omega
      have rest := ih _ shorter (text.drop (position + separator.length)) rfl
      rw [split_of_found real empty found]
      by_cases last : text.drop (position + separator.length) = []
      · rw [last] at whole ⊢
        rw [List.append_nil] at whole
        have none : split ([] : List α) separator = [] := rfl
        rw [none, List.intercalate_singleton]
        exact .inr whole
      · rw [List.intercalate_cons_of_ne_nil (split_ne_nil real last)]
        refine rest.imp (fun joined => ?_) fun joined => ?_
        · rw [joined, whole]
        · rw [List.append_assoc, joined, whole]

/-! ### What surrounds a text -/

omit [DecidableEq α] in
theorem trim_of_head {space : α → Bool} {text : List α}
    (begins : ∀ symbol ∈ text.head?, space symbol = false) :
    trim space text = text.rdropWhile space := by
  cases text with
  | nil => rfl
  | cons symbol rest =>
    rw [trim, List.dropWhile_cons_of_neg (by simp [begins symbol rfl])]

omit [DecidableEq α] in
/-- Of a trimmed text nothing is taken. -/
theorem Trimmed.trim_eq {space : α → Bool} {text : List α} (trimmed : Trimmed space text) :
    trim space text = text := by
  rw [trim_of_head trimmed.1, List.rdropWhile_eq_self_iff]
  intro filled
  simp [trimmed.2 _ (List.getLast_mem_getLast? filled)]

omit [DecidableEq α] in
theorem trim_cons {space : α → Bool} {symbol : α} {text : List α} (spaced : space symbol = true) :
    trim space (symbol :: text) = trim space text := by
  rw [trim, List.dropWhile_cons_of_pos spaced, trim]

end BeeSdk.TextSearch
