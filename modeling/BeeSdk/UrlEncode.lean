import Mathlib.Data.List.Basic

/-! `sdk_UrlEncode`: a byte stays as it is or becomes a group of a percent sign and two digits,
written one by one behind what is there. The block they are written to has room for a group a
byte, and none for the terminator behind them. -/
namespace BeeSdk.UrlEncode

/-! ### The encoder -/

/-- The value a byte has as a `char`, which is signed on some platforms. -/
def charValue (signed : Bool) (byte : UInt8) : Int :=
  if signed ∧ 128 ≤ byte.toNat then byte.toNat - 256 else byte.toNat

/-- The test of a `char` that is to be escaped: `0` is 48, `9` 57, `A` 65, `Z` 90, `a` 97, `z` 122,
the minus sign 45, the dot 46 and the underscore 95. -/
def escapes (c : Int) : Bool :=
  (c < 48 && c ≠ 45 && c ≠ 46) || (c < 65 && c > 57) || (c > 90 && c < 97 && c ≠ 95) || c > 122

/-- `characters`. -/
def characters : List UInt8 :=
  [48, 49, 50, 51, 52, 53, 54, 55, 56, 57, 65, 66, 67, 68, 69, 70]

/-- `characters[c & 0x0f]`. -/
def digitOf (c : Int) : UInt8 := characters.getD (c % 16).toNat 0

/-- The block `output`, the index the next byte goes to, and all indexes written so far. -/
structure Output where
  memory : Nat → UInt8 := fun _ => 0
  j : Nat := 0
  writes : List Nat := []

namespace Output

def put (output : Output) (index : Nat) (value : UInt8) : Output :=
  { output with
    memory := fun other => if other = index then value else output.memory other
    writes := output.writes ++ [index] }

/-- `output[j] = value`, and `j` moves on. -/
def push (output : Output) (value : UInt8) : Output :=
  { output.put output.j value with j := output.j + 1 }

/-- The `j` bytes that are pushed to Lua. -/
def text (output : Output) : List UInt8 := (List.range output.j).map output.memory

end Output

/-- One round of the loop. -/
def encodeByte (signed : Bool) (output : Output) (byte : UInt8) : Output :=
  let c := charValue signed byte
  if escapes c then ((output.push 37).push (digitOf (c >>> (4 : Nat)))).push (digitOf c)
  else output.push byte

/-- The size of the block. -/
def allocated (input : List UInt8) : Nat := 3 * input.length

/-- `lua_url_encode`, which raises an error for an empty text. -/
def luaUrlEncode (signed : Bool) (input : List UInt8) : Option Output :=
  if input = [] then none
  else
    let output := input.foldl (encodeByte signed) {}
    some (output.put output.j 0)

/-! ### What is written -/

/-- What a byte becomes. -/
def group (byte : UInt8) : List UInt8 :=
  if escapes byte.toNat then [37, digitOf (byte.toNat / 16 : Nat), digitOf byte.toNat] else [byte]

/-- Letters, digits, and three more. -/
def isSafe (byte : UInt8) : Bool :=
  (48 ≤ byte && byte ≤ 57) || (65 ≤ byte && byte ≤ 90) || (97 ≤ byte && byte ≤ 122) ||
    byte = 45 || byte = 46 || byte = 95

/-- The value of a hexadecimal digit. -/
def hexValue (byte : UInt8) : Option Nat :=
  if 48 ≤ byte ∧ byte ≤ 57 then some (byte.toNat - 48)
  else if 65 ≤ byte ∧ byte ≤ 70 then some (byte.toNat - 55)
  else if 97 ≤ byte ∧ byte ≤ 102 then some (byte.toNat - 87)
  else none

/-- Every group of a percent sign and two digits read back. -/
def percentDecode : List UInt8 → List UInt8
  | percent :: high :: low :: rest =>
    if percent = 37 then
      match hexValue high, hexValue low with
      | some highValue, some lowValue => UInt8.ofNat (16 * highValue + lowValue) :: percentDecode rest
      | _, _ => percent :: percentDecode (high :: low :: rest)
    else percent :: percentDecode (high :: low :: rest)
  | text => text

/-- A text of safe bytes and of groups. -/
inductive SafeText : List UInt8 → Prop where
  | nil : SafeText []
  | plain (safe : isSafe byte = true) (rest : SafeText text) : SafeText (byte :: text)
  | escape (highDigit : (hexValue high).isSome) (lowDigit : (hexValue low).isSome)
      (rest : SafeText text) : SafeText (37 :: high :: low :: text)

/-! ### Bytes and digits -/

/-- A negative `char` is escaped, and so is the byte that it is. -/
theorem escapes_charValue (signed : Bool) (byte : UInt8) :
    escapes (charValue signed byte) = escapes byte.toNat := by
  have bound := byte.toNat_lt
  unfold charValue
  split
  · rename_i high
    have negative : escapes ((byte.toNat : Int) - 256) = true := by
      simp only [escapes, Bool.or_eq_true, Bool.and_eq_true, decide_eq_true_eq]
      omega
    have above : escapes byte.toNat = true := by
      simp only [escapes, Bool.or_eq_true, Bool.and_eq_true, decide_eq_true_eq]
      omega
    rw [negative, above]
  · rfl

theorem digitOf_low (signed : Bool) (byte : UInt8) :
    digitOf (charValue signed byte) = digitOf byte.toNat := by
  unfold digitOf charValue
  split
  · rw [show ((byte.toNat : Int) - 256) % 16 = (byte.toNat : Int) % 16 by omega]
  · rfl

theorem digitOf_high (signed : Bool) (byte : UInt8) :
    digitOf (charValue signed byte >>> (4 : Nat)) = digitOf (byte.toNat / 16 : Nat) := by
  unfold digitOf charValue
  rw [Int.shiftRight_eq_div_pow]
  split
  · rw [show ((byte.toNat : Int) - 256) / (2 ^ 4 : Nat) % 16 = ((byte.toNat / 16 : Nat) : Int) % 16 by omega]
  · rw [show (byte.toNat : Int) / (2 ^ 4 : Nat) % 16 = ((byte.toNat / 16 : Nat) : Int) % 16 by omega]

/-- A digit is read back as what it stands for. -/
theorem hexValue_digitOf (number : Nat) : hexValue (digitOf number) = some (number % 16) := by
  have digits : ∀ digit < 16, hexValue (characters.getD digit 0) = some digit := by decide
  have low : ((number : Int) % 16).toNat = number % 16 := by omega
  rw [digitOf, low]
  exact digits _ (Nat.mod_lt _ (by decide))

theorem isSafe_of_unescaped {byte : UInt8} (plain : escapes byte.toNat = false) :
    isSafe byte = true := by
  simp only [escapes, Bool.or_eq_false_iff, Bool.and_eq_false_imp, decide_eq_false_iff_not,
    decide_eq_true_eq, Bool.and_eq_true] at plain
  simp only [isSafe, Bool.or_eq_true, Bool.and_eq_true, decide_eq_true_eq, UInt8.le_iff_toNat_le,
    ← UInt8.toNat_inj, UInt8.reduceToNat]
  omega

theorem ne_percent_of_isSafe {byte : UInt8} (safe : isSafe byte = true) : byte ≠ 37 := by
  rintro rfl
  exact absurd safe (by decide)

/-! ### The text -/

section
variable (output : Output) (value : UInt8)

@[simp] theorem Output.push_text : (output.push value).text = output.text ++ [value] := by
  unfold Output.text Output.push Output.put
  rw [List.range_succ, List.map_append]
  congr 1
  · refine List.map_congr_left fun index member => ?_
    exact if_neg (Nat.ne_of_lt (List.mem_range.mp member))
  · exact congrArg (fun byte => [byte]) (if_pos rfl)

@[simp] theorem Output.push_j : (output.push value).j = output.j + 1 := rfl

@[simp] theorem Output.push_writes : (output.push value).writes = output.writes ++ [output.j] := rfl

/-- What is written behind the text is no part of it. -/
theorem Output.put_text : (output.put output.j value).text = output.text :=
  List.map_congr_left fun _ member => if_neg (Nat.ne_of_lt (List.mem_range.mp member))

end

/-- A round writes the group of its byte behind the text, at the indexes from `j` on. -/
theorem encodeByte_writes (signed : Bool) (output : Output) (byte : UInt8) :
    (encodeByte signed output byte).text = output.text ++ group byte ∧
      (encodeByte signed output byte).j = output.j + (group byte).length ∧
      (encodeByte signed output byte).writes =
        output.writes ++ List.range' output.j (group byte).length := by
  unfold encodeByte group
  simp only [escapes_charValue, digitOf_high, digitOf_low]
  split
  · simp [List.range']
  · simp

theorem encode_writes (signed : Bool) (input : List UInt8) (output : Output) :
    (input.foldl (encodeByte signed) output).text = output.text ++ input.flatMap group ∧
      (input.foldl (encodeByte signed) output).j = output.j + (input.flatMap group).length ∧
      (input.foldl (encodeByte signed) output).writes =
        output.writes ++ List.range' output.j (input.flatMap group).length := by
  induction input generalizing output with
  | nil => simp
  | cons byte rest ih =>
    obtain ⟨text, j, writes⟩ := encodeByte_writes signed output byte
    obtain ⟨text', j', writes'⟩ := ih (encodeByte signed output byte)
    rw [List.foldl_cons, List.flatMap_cons, List.length_append]
    refine ⟨?_, ?_, ?_⟩
    · rw [text', text, List.append_assoc]
    · rw [j', j, Nat.add_assoc]
    · rw [writes', writes, j, List.append_assoc, List.range'_append_1]

/-- The text that is pushed, and the indexes written: those of the text, and the one behind it. -/
theorem luaUrlEncode_filled (signed : Bool) {input : List UInt8} (filled : input ≠ []) :
    ∃ output, luaUrlEncode signed input = some output ∧ output.text = input.flatMap group ∧
      output.writes = List.range ((input.flatMap group).length + 1) := by
  obtain ⟨text, j, writes⟩ := encode_writes signed input {}
  refine ⟨_, if_neg filled, ?_, ?_⟩
  · rw [Output.put_text, text]
    rfl
  · unfold Output.put
    dsimp only
    rw [writes, j]
    simp [List.range_succ, List.range_eq_range']

/-! ### There and back -/

theorem percentDecode_plain {byte : UInt8} (plain : byte ≠ 37) (rest : List UInt8) :
    percentDecode (byte :: rest) = byte :: percentDecode rest := by
  match rest with
  | [] => rfl
  | [_] => rfl
  | _ :: _ :: _ => rw [percentDecode, if_neg plain]

theorem percentDecode_group (byte : UInt8) (rest : List UInt8) :
    percentDecode (group byte ++ rest) = byte :: percentDecode rest := by
  unfold group
  cases escaped : escapes byte.toNat with
  | false => exact percentDecode_plain (ne_percent_of_isSafe (isSafe_of_unescaped escaped)) rest
  | true =>
    have bound := byte.toNat_lt
    have whole : 16 * (byte.toNat / 16 % 16) + byte.toNat % 16 = byte.toNat := by omega
    simp only [if_true, List.cons_append, List.nil_append, percentDecode, hexValue_digitOf, whole,
      UInt8.ofNat_toNat]

theorem percentDecode_groups (input : List UInt8) : percentDecode (input.flatMap group) = input := by
  induction input with
  | nil => rfl
  | cons byte rest ih => rw [List.flatMap_cons, percentDecode_group, ih]

theorem safeText_groups (input : List UInt8) : SafeText (input.flatMap group) := by
  induction input with
  | nil => exact .nil
  | cons byte rest ih =>
    rw [List.flatMap_cons]
    unfold group
    cases escaped : escapes byte.toNat with
    | false => exact .plain (isSafe_of_unescaped escaped) ih
    | true =>
      refine .escape ?_ ?_ ih
      · rw [hexValue_digitOf]
        rfl
      · rw [hexValue_digitOf]
        rfl

/-- Whether `char` is signed or not, every text is read back from what it is encoded as, which is
safe, and no other text is encoded like it. -/
theorem url_encode_reversible (signed : Bool) {input : List UInt8} (filled : input ≠ []) :
    ∃ output, luaUrlEncode signed input = some output ∧ percentDecode output.text = input ∧
      SafeText output.text ∧ ∀ other otherOutput, luaUrlEncode signed other = some otherOutput →
        otherOutput.text = output.text → other = input := by
  obtain ⟨output, encoded, text, -⟩ := luaUrlEncode_filled signed filled
  refine ⟨output, encoded, ?_, ?_, fun other otherOutput otherEncoded same => ?_⟩
  · rw [text, percentDecode_groups]
  · rw [text]
    exact safeText_groups input
  · have otherFilled : other ≠ [] := by
      rintro rfl
      cases otherEncoded
    obtain ⟨_, again, otherText, -⟩ := luaUrlEncode_filled signed otherFilled
    rw [otherEncoded] at again
    cases again
    rw [otherText, text] at same
    rw [← percentDecode_groups other, same, percentDecode_groups]

/-- A letter, a space and a byte that is negative as a `char`. -/
theorem mixed_reversible :
    ∃ output, luaUrlEncode true [97, 32, 255] = some output ∧ percentDecode output.text = [97, 32, 255] ∧
      SafeText output.text ∧ ∀ other otherOutput, luaUrlEncode true other = some otherOutput →
        otherOutput.text = output.text → other = [97, 32, 255] :=
  url_encode_reversible true (by decide)

/-! ### Inside the block -/

theorem group_length (byte : UInt8) :
    (group byte).length = if escapes byte.toNat then 3 else 1 := by
  unfold group
  split <;> rfl

theorem groups_length_le (input : List UInt8) : (input.flatMap group).length ≤ 3 * input.length := by
  induction input with
  | nil => exact Nat.le_refl 0
  | cons byte rest ih =>
    have own : (group byte).length ≤ 3 := by rw [group_length]; split <;> decide
    rw [List.flatMap_cons, List.length_append, List.length_cons]
    omega

/-- There is room for a terminator if and only if some byte is not escaped. -/
theorem groups_length_lt_iff (input : List UInt8) :
    (input.flatMap group).length < 3 * input.length ↔ ∃ byte ∈ input, escapes byte.toNat = false := by
  induction input with
  | nil => simp
  | cons byte rest ih =>
    have others := groups_length_le rest
    rw [List.flatMap_cons, List.length_append, List.length_cons]
    simp only [List.mem_cons, exists_eq_or_imp]
    rw [← ih, group_length]
    cases escapes byte.toNat with
    | false =>
      rw [if_neg Bool.false_ne_true]
      exact iff_of_true (by omega) (.inl rfl)
    | true =>
      rw [if_pos rfl]
      constructor
      · exact fun room => .inr (by omega)
      · rintro (same | room)
        · cases same
        · omega

/-- All that is written lies inside the block exactly when a byte of the text is not escaped. -/
theorem writes_inside_iff (signed : Bool) {input : List UInt8} (filled : input ≠ []) :
    ∃ output, luaUrlEncode signed input = some output ∧
      ((∀ index ∈ output.writes, index < allocated input) ↔
        ∃ byte ∈ input, escapes (charValue signed byte) = false) := by
  obtain ⟨output, encoded, -, writes⟩ := luaUrlEncode_filled signed filled
  refine ⟨output, encoded, ?_⟩
  simp only [escapes_charValue]
  rw [writes, allocated, ← groups_length_lt_iff]
  constructor
  · exact fun inside => inside _ (List.mem_range.mpr (Nat.lt_succ_self _))
  · exact fun room index member => Nat.lt_of_lt_of_le (List.mem_range.mp member) room

theorem mixed_inside : ∃ output, luaUrlEncode true [97, 32] = some output ∧
    ((∀ index ∈ output.writes, index < allocated [97, 32]) ↔
      ∃ byte ∈ [97, 32], escapes (charValue true byte) = false) :=
  writes_inside_iff true (by decide)

/-- A single space: its group fills the block, and the terminator is written behind it. -/
theorem space_outside : ¬ ∀ (signed : Bool) (input : List UInt8), input ≠ [] →
    ∃ output, luaUrlEncode signed input = some output ∧
      ∀ index ∈ output.writes, index < allocated input := by
  intro inside
  obtain ⟨output, encoded, all⟩ := inside true [32] (by decide)
  cases encoded
  exact absurd (all 3 (by decide)) (by decide)

end BeeSdk.UrlEncode
