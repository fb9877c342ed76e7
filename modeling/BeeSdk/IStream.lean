import Mathlib.Algebra.Group.Nat.Defs

/-! A standard input stream over buffered bytes: the formatted extraction of an
unsigned number under `std::hex`, character extraction and `read`. Each
operation says what it leaves in the buffer and whether the stream is still
good, as the standard library in its classic locale does. -/
namespace BeeSdk.IStream

def newline : UInt8 := 10
def carriageReturn : UInt8 := 13
def crlf : List UInt8 := [carriageReturn, newline]

def isSpace (byte : UInt8) : Bool := byte = 32 ∨ (9 ≤ byte ∧ byte ≤ 13)

/-- The value of a hexadecimal digit in either case. -/
def hexDigit (byte : UInt8) : Option Nat :=
  if 48 ≤ byte ∧ byte ≤ 57 then some (byte.toNat - 48)
  else if 65 ≤ byte ∧ byte ≤ 70 then some (byte.toNat - 55)
  else if 97 ≤ byte ∧ byte ≤ 102 then some (byte.toNat - 87)
  else none

def isHexDigit (byte : UInt8) : Bool := (hexDigit byte).isSome

/-- The number a sequence of digits stands for, most significant first. -/
def hexValue (digits : List UInt8) : Nat :=
  digits.foldl (fun value digit => 16 * value + (hexDigit digit).getD 0) 0

/-- What an extraction leaves: the variable's value, whether no bit of the
stream is set, and the unread bytes. -/
structure Extracted where
  value : Nat
  good : Bool
  rest : List UInt8
  deriving DecidableEq

/-- An optional sign; whether it was a minus. -/
def skipSign : List UInt8 → Bool × List UInt8
  | 43 :: rest => (false, rest)
  | 45 :: rest => (true, rest)
  | bytes => (false, bytes)

/-- An optional `0x`. -/
def skipBase : List UInt8 → List UInt8
  | 48 :: 120 :: rest => rest
  | 48 :: 88 :: rest => rest
  | bytes => bytes

/-- `is >> std::hex >> n` for an unsigned `n` of the given width: leading white
space is skipped, the variable keeps its value when nothing else is left, no
digit at all stores zero and a number too large stores the largest value. -/
def extractHex (width previous : Nat) (bytes : List UInt8) : Extracted :=
  match bytes.dropWhile isSpace with
  | [] => ⟨previous, false, []⟩
  | text =>
    let (negative, text) := skipSign text
    let text := skipBase text
    let digits := text.takeWhile isHexDigit
    let rest := text.dropWhile isHexDigit
    let value := hexValue digits
    if digits = [] then ⟨0, false, rest⟩
    else if 2 ^ width ≤ value then ⟨2 ^ width - 1, false, rest⟩
    else ⟨if negative then (2 ^ width - value) % 2 ^ width else value, true, rest⟩

/-- `while (is.get(ch) && ch != '\\n');` -/
def skipLine (good : Bool) (bytes : List UInt8) : List UInt8 :=
  if good then (bytes.dropWhile (· ≠ newline)).drop 1 else bytes

/-- `is.read(data, count)` into memory whose bytes beyond what the stream holds
are left as they were allocated. -/
def readBytes (count : Nat) (bytes : List UInt8) : List UInt8 × List UInt8 :=
  (bytes.take count ++ List.replicate (count - bytes.length) 0, bytes.drop count)

/-! ### Numbers as they are sent -/

/-- Digits of either case, with any number of leading zeros, that spell the
number. -/
structure Spells (digits : List UInt8) (value : Nat) : Prop where
  some_digit : digits ≠ []
  hex : ∀ digit ∈ digits, isHexDigit digit = true
  value : hexValue digits = value

private theorem hexDigit_not_space {byte : UInt8} (hex : isHexDigit byte = true) :
    isSpace byte = false := by
  simp only [isHexDigit, hexDigit] at hex
  simp only [isSpace, UInt8.le_iff_toNat_le, ← UInt8.toNat_inj, decide_eq_false_iff_not] at hex ⊢
  simp only [UInt8.toNat_ofNat] at hex ⊢
  split at hex
  · omega
  · split at hex
    · omega
    · split at hex
      · omega
      · cases hex

private theorem skipSign_hex {digit : UInt8} (hex : isHexDigit digit = true) (rest : List UInt8) :
    skipSign (digit :: rest) = (false, digit :: rest) := by
  unfold skipSign
  split
  · rename_i same
    cases same
    cases hex
  · rename_i same
    cases same
    cases hex
  · rfl

private theorem skipBase_hex {digit next : UInt8}
    (ends : next = carriageReturn ∨ isHexDigit next = true) (rest : List UInt8) :
    skipBase (digit :: next :: rest) = digit :: next :: rest := by
  unfold skipBase
  split
  · rename_i same
    cases same
    rcases ends with ends | ends <;> cases ends
  · rename_i same
    cases same
    rcases ends with ends | ends <;> cases ends
  · rfl

/-- A spelled number and the carriage return behind it are read back. -/
theorem extractHex_spelled (spells : Spells digits value) (fits : value < 2 ^ width)
    (previous : Nat) (rest : List UInt8) :
    extractHex width previous (digits ++ carriageReturn :: rest) =
      ⟨value, true, carriageReturn :: rest⟩ := by
  obtain ⟨some_digit, hex, rfl⟩ := spells
  obtain ⟨digit, others, rfl⟩ := List.exists_cons_of_ne_nil some_digit
  have head := hex digit (by simp)
  have based : skipBase (digit :: (others ++ carriageReturn :: rest)) =
      digit :: (others ++ carriageReturn :: rest) := by
    cases others with
    | nil => exact skipBase_hex (.inl rfl) rest
    | cons next others => exact skipBase_hex (.inr (hex next (by simp))) _
  have taken : (digit :: (others ++ carriageReturn :: rest)).takeWhile isHexDigit =
      digit :: others := by
    rw [← List.cons_append, List.takeWhile_append_of_pos hex]
    simp [carriageReturn, isHexDigit, hexDigit]
  have left : (digit :: (others ++ carriageReturn :: rest)).dropWhile isHexDigit =
      carriageReturn :: rest := by
    rw [← List.cons_append, List.dropWhile_append_of_pos hex]
    simp [carriageReturn, isHexDigit, hexDigit]
  rw [extractHex, List.cons_append, List.dropWhile_cons_of_neg (by simp [hexDigit_not_space head])]
  simp only [skipSign_hex head, based, taken, left]
  rw [if_neg (by simp), if_neg (by omega)]
  rfl

/-- In front of a digit nothing is skipped but an `0x`. -/
theorem extractHex_at_digit {digit : UInt8} (hex : isHexDigit digit = true) (width previous : Nat)
    (rest : List UInt8) :
    extractHex width previous (digit :: rest) =
      let text := skipBase (digit :: rest)
      let value := hexValue (text.takeWhile isHexDigit)
      if text.takeWhile isHexDigit = [] then ⟨0, false, text.dropWhile isHexDigit⟩
      else if 2 ^ width ≤ value then ⟨2 ^ width - 1, false, text.dropWhile isHexDigit⟩
      else ⟨value, true, text.dropWhile isHexDigit⟩ := by
  rw [extractHex, List.dropWhile_cons_of_neg (by simp [hexDigit_not_space hex])]
  simp only [skipSign_hex hex]
  rfl

/-- The line of a spelled number ends at its line feed. -/
theorem skipLine_spelled (rest : List UInt8) :
    skipLine true (carriageReturn :: newline :: rest) = rest := by
  simp [skipLine, carriageReturn, newline]

end BeeSdk.IStream
