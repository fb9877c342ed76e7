import Mathlib.Algebra.Group.Nat.Defs

/-! Sums of 16-bit words with the carries added back in: the sum stands for the total modulo
65535, twice for nothing. One byte weighs 1 or 256, and no difference of two bytes times its
weight is nothing modulo 65535. -/
namespace BeeSdk.OnesComplementSum

/-- What the words of a text add up to, high byte first. A last byte alone is no word. -/
def wordsTotal : List UInt8 → Nat
  | high :: low :: rest => 256 * high.toNat + low.toNat + wordsTotal rest
  | _ => 0

/-- What a byte counts for at its place. -/
def weight (index : Nat) : Nat := if index % 2 = 0 then 256 else 1

theorem weight_later (index : Nat) : weight (index + 2) = weight index := by
  rw [weight, weight, Nat.add_mod_right]

/-- Setting a byte moves the total by its weight times the difference. -/
theorem words_total_set (bytes : List UInt8) (value : UInt8) (half index : Nat)
    (even : bytes.length = 2 * half) (before : UInt8) (held : bytes[index]? = some before) :
    wordsTotal (bytes.set index value) + weight index * before.toNat =
      wordsTotal bytes + weight index * value.toNat := by
  induction half generalizing bytes index with
  | zero =>
    rw [List.eq_nil_of_length_eq_zero even] at held
    cases held
  | succ half ih =>
    match bytes, even with
    | high :: low :: rest, even =>
      match index with
      | 0 =>
        cases held
        simp only [List.set_cons_zero, wordsTotal, weight, Nat.zero_mod, ↓reduceIte]
        omega
      | 1 =>
        cases held
        simp only [List.set_cons_succ, List.set_cons_zero, wordsTotal, weight, Nat.one_mod,
          Nat.one_ne_zero, ↓reduceIte]
        omega
      | index + 2 =>
        have moved := ih rest index (by simp only [List.length_cons] at even; omega) held
        simp only [List.set_cons_succ, wordsTotal, weight_later]
        omega

/-- One byte changed to another one moves the total modulo 65535. -/
theorem words_total_moves (bytes : List UInt8) (value : UInt8) (half index : Nat)
    (even : bytes.length = 2 * half) (before : UInt8) (held : bytes[index]? = some before)
    (different : before ≠ value) :
    wordsTotal (bytes.set index value) % 65535 ≠ wordsTotal bytes % 65535 := by
  have moved := words_total_set bytes value half index even before held
  have apart : before.toNat ≠ value.toNat := fun same => different (UInt8.toNat_inj.mp same)
  have beforeBound := before.toNat_lt
  have valueBound := value.toNat_lt
  unfold weight at moved
  split at moved <;> omega

/-- The carries added back in twice, and the complement of what is left. -/
def complement (total : UInt32) : UInt16 :=
  let folded := (total >>> 16) + (total &&& 0xffff)
  let folded := folded + (folded >>> 16)
  (~~~ folded).toUInt16

theorem complement_toNat (total : UInt32) {folded : Nat}
    (once : folded = total.toNat / 65536 + total.toNat % 65536) :
    (complement total).toNat = 65535 - (folded + folded / 65536) % 65536 := by
  have bound := total.toNat_lt
  have mask : total.toNat &&& 65535 = total.toNat % 65536 := Nat.and_two_pow_sub_one_eq_mod _ 16
  have first : ((total >>> 16) + (total &&& 0xffff)).toNat = folded := by
    rw [once]
    simp only [UInt32.toNat_add, UInt32.toNat_shiftRight, UInt32.toNat_and, UInt32.reduceToNat, mask,
      Nat.shiftRight_eq_div_pow, Nat.reduceMod, Nat.reducePow]
    omega
  simp only [complement]
  generalize (total >>> 16) + (total &&& 0xffff) = reached at first ⊢
  have twice : (reached + (reached >>> 16)).toNat = folded + folded / 65536 := by
    simp only [UInt32.toNat_add, UInt32.toNat_shiftRight, UInt32.reduceToNat, Nat.shiftRight_eq_div_pow,
      Nat.reduceMod, Nat.reducePow, first]
    omega
  rw [UInt32.toNat_toUInt16, UInt32.toNat_not, twice, show UInt32.size = 4294967296 from rfl]
  omega

/-- The complement is minus the total modulo 65535. -/
theorem complement_sum (total : UInt32) : ((complement total).toNat + total.toNat) % 65535 = 0 := by
  have bound := total.toNat_lt
  rw [complement_toNat total rfl]
  generalize once : total.toNat / 65536 + total.toNat % 65536 = folded
  -- The carry of the second round is 1 or nothing, and the first round has taken 65535 a carry.
  have carry : folded / 65536 = 0 ∨ folded / 65536 = 1 := by omega
  rcases carry with none | one
  · have whole : 65535 - (folded + folded / 65536) % 65536 + total.toNat =
        65535 * (total.toNat / 65536 + 1) := by omega
    rw [whole, Nat.mul_mod_right]
  · have whole : 65535 - (folded + folded / 65536) % 65536 + total.toNat =
        65535 * (total.toNat / 65536 + 2) := by omega
    rw [whole, Nat.mul_mod_right]

/-! ### The checksum of a packet -/

/-- Two 16-bit words added with the carry brought round to the other end. -/
def onesAdd (left right : Nat) : Nat :=
  if left + right < 65536 then left + right else left + right - 65535

/-- The words of a text added up from a sum. A last byte alone is the high one of a word. -/
def onesSum : Nat → List UInt8 → Nat
  | sum, high :: low :: rest => onesSum (onesAdd sum (256 * high.toNat + low.toNat)) rest
  | sum, [last] => onesAdd sum (256 * last.toNat)
  | sum, [] => sum

/-- The Internet checksum: the complement of the sum in ones' complement. -/
def internetChecksum (bytes : List UInt8) : Nat := 65535 - onesSum 0 bytes

/-- What a total comes to when its carries are brought round. Only nothing comes to nothing. -/
def rounded (total : Nat) : Nat := if total = 0 then 0 else (total - 1) % 65535 + 1

theorem onesAdd_rounded {word : Nat} (small : word < 65536) (total : Nat) :
    onesAdd (rounded total) word = rounded (total + word) := by
  unfold onesAdd rounded
  by_cases none : total = 0
  · rw [if_pos none, none]
    split
    · split <;> omega
    · omega
  · have some : total + word ≠ 0 := by omega
    rw [if_neg none, if_neg some]
    split <;> omega

/-- Of an even text the sum is the total of its words. -/
theorem onesSum_rounded (bytes : List UInt8) (half total : Nat) (even : bytes.length = 2 * half) :
    onesSum (rounded total) bytes = rounded (total + wordsTotal bytes) := by
  induction half generalizing bytes total with
  | zero =>
    rw [List.eq_nil_of_length_eq_zero even]
    rfl
  | succ half ih =>
    match bytes, even with
    | high :: low :: rest, even =>
      have highBound := high.toNat_lt
      have lowBound := low.toNat_lt
      rw [onesSum, onesAdd_rounded (by omega), ih rest _ (by simp only [List.length_cons] at even; omega),
        wordsTotal, Nat.add_assoc]

/-- The two rounds of carries are enough for a total of 32 bits. -/
theorem complement_rounded (total : UInt32) : (complement total).toNat = 65535 - rounded total.toNat := by
  have bound := total.toNat_lt
  rw [complement_toNat total rfl, rounded]
  by_cases none : total.toNat = 0
  · rw [none]
    rfl
  rw [if_neg none]
  generalize once : total.toNat / 65536 + total.toNat % 65536 = folded
  have whole : total.toNat - 1 = 65535 * (total.toNat / 65536) + (folded - 1) := by omega
  rw [whole, Nat.mul_add_mod]
  have carry : folded / 65536 = 0 ∨ folded / 65536 = 1 := by omega
  rcases carry with none | one
  · omega
  · have folds : (folded + folded / 65536) % 65536 = folded - 65535 := by omega
    have rounds : (folded - 1) % 65535 = folded - 65536 := by omega
    rw [folds, rounds]
    omega

end BeeSdk.OnesComplementSum
