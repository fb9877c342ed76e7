import BeeSdk.CaSignatureChanges

/-! `check_sum` against the checksum it is meant to be. An odd last byte is taken for the high byte
of a word whose low one lies behind the buffer, and then added once more. -/
namespace BeeSdk.CaSignature
open OnesComplementSum

/-- Whatever lies in memory behind the bytes given, the result is their checksum. -/
def SumsUp (bytes : List UInt8) : Prop :=
  ∀ behind, ∃ sum, checkSum (bytes ++ behind) bytes.length = some sum ∧
    sum.toNat = internetChecksum bytes

/-- Over an odd length the loop reads one byte too many. -/
theorem sumWords_odd (buffer : List UInt8) (rest i : Nat) (sum : UInt32)
    (odd : i + 2 * rest + 1 = buffer.length) (fuel : Nat) (enough : rest < fuel) :
    sumWords buffer buffer.length fuel i sum = none := by
  induction rest generalizing i sum fuel with
  | zero =>
    obtain ⟨fuel, rfl⟩ : ∃ less, fuel = less + 1 := ⟨fuel - 1, by omega⟩
    have inside : i < buffer.length := by omega
    have behind : buffer[i + 1]? = none := List.getElem?_eq_none (by omega)
    rw [sumWords, if_pos inside, List.getElem?_eq_getElem inside, behind]
    rfl
  | succ rest ih =>
    obtain ⟨fuel, rfl⟩ : ∃ less, fuel = less + 1 := ⟨fuel - 1, by omega⟩
    have high : i < buffer.length := by omega
    have low : i + 1 < buffer.length := by omega
    rw [sumWords, if_pos high, List.getElem?_eq_getElem high, List.getElem?_eq_getElem low]
    exact ih (i + 2) _ (by omega) fuel (by omega)

theorem checkSum_odd {bytes : List UInt8} (odd : bytes.length % 2 = 1) :
    checkSum bytes bytes.length = none := by
  have ends := sumWords_odd bytes (bytes.length / 2) 0 0 (by omega) bytes.length (by omega)
  rw [checkSum, ends]
  rfl

theorem checkSum_even_checksum {bytes : List UInt8} (even : bytes.length % 2 = 0)
    (short : bytes.length < 2 ^ 17) : SumsUp bytes := by
  intro behind
  have half : bytes.length = 2 * (bytes.length / 2) := by omega
  obtain ⟨total, summed, value⟩ := checkSum_complement (bytes ++ behind) (bytes.length / 2)
    (by rw [List.length_append]; omega) (by omega)
  rw [← half] at summed
  rw [← half, List.take_left] at value
  refine ⟨complement total, summed, ?_⟩
  have sum := onesSum_rounded bytes (bytes.length / 2) 0 half
  rw [Nat.zero_add] at sum
  have start : rounded 0 = 0 := rfl
  rw [complement_rounded, value, internetChecksum, ← sum, start]

/-- The bytes of a buffer are summed up as they should be exactly when their number is even. -/
theorem sums_up_iff (bytes : List UInt8) (short : bytes.length < 2 ^ 17) :
    SumsUp bytes ↔ bytes.length % 2 = 0 := by
  constructor
  · intro right
    obtain ⟨sum, summed, -⟩ := right []
    rw [List.append_nil] at summed
    by_contra odd
    rw [checkSum_odd (by omega)] at summed
    cases summed
  · exact fun even => checkSum_even_checksum even short

theorem sums_up_pair : SumsUp [0x12, 0x34] :=
  (sums_up_iff [0x12, 0x34] (by decide)).mpr rfl

/-- A single byte. -/
theorem odd_byte_misread : ¬ ∀ bytes : List UInt8, bytes.length < 2 ^ 17 → SumsUp bytes := by
  intro right
  obtain ⟨sum, summed, -⟩ := right [0x12] (by decide) []
  cases summed

/-- The byte that is read behind the buffer is the low one of the word, and the last byte of the
buffer is there twice. -/
example : checkSum [0x12, 0x34] 1 = some (~~~ (0x1234 + 0x12)) := by decide

end BeeSdk.CaSignature
