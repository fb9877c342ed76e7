import BeeSdk.XxteaProofs

/-! Decrypting what nobody encrypted. The sum is counted down to zero whatever the words are,
and the length found in the last word is checked against the other words before a byte is
copied; only the count of the words themselves can be too large for 32 bits. -/
namespace BeeSdk.Xxtea

/-- A call of `xxtea_decrypt` that returns, with the buffer or with nothing where it returns
`NULL`. -/
def xxteaDecryptReturns (data : List UInt8) (key : Vector UInt8 16) : Option (Option (List UInt8)) :=
  if data = [] then some none
  else (xxteaUintDecrypt (xxteaToUintArray data false) (xxteaToUintArray (fixedKey key) false)).map
    (xxteaToUbyteArray · true)

/-- What is decrypted is what the call returns. -/
theorem decrypt_eq_returned (data : List UInt8) (key : Vector UInt8 16) :
    xxteaDecrypt data key = (xxteaDecryptReturns data key).join := by
  rw [xxteaDecrypt, xxteaUbyteDecrypt, xxteaDecryptReturns]
  split
  · rfl
  · cases xxteaUintDecrypt (xxteaToUintArray data false) (xxteaToUintArray (fixedKey key) false) with
    | none => rfl
    | some words => rfl

variable {key : List UInt32} {n : Nat}

/-! ### The loop ends -/

theorem decryptSteps_length (sum e : UInt32) (cells : List Nat) (state : List UInt32 × UInt32) :
    (cells.foldl (decryptStep key sum e) state).1.length = state.1.length := by
  induction cells generalizing state with
  | nil => rfl
  | cons p rest ih =>
    rw [List.foldl_cons, ih]
    exact List.length_set

theorem decryptRound_length (sum : UInt32) (state : List UInt32 × UInt32) :
    (decryptRound key n sum state).1.length = state.1.length := by
  rw [decryptRound]
  simp only [List.length_set]
  exact decryptSteps_length sum _ _ state

/-- Counted down from a multiple of the step, the sum is zero at the latest after as many
rounds. -/
theorem decryptLoop_ends (key : List UInt32) (n q : Nat) (state : List UInt32 × UInt32) :
    ∃ words, decryptLoop key n (q + 1) (UInt32.ofNat q * DELTA) state = some words ∧
      words.length = state.1.length := by
  induction q generalizing state with
  | zero => exact ⟨state.1, rfl, rfl⟩
  | succ q ih =>
    have counted : UInt32.ofNat (q + 1) * DELTA - DELTA = UInt32.ofNat q * DELTA := by
      rw [UInt32.ofNat_add, UInt32.add_mul, show UInt32.ofNat 1 * DELTA = DELTA from rfl,
        UInt32.add_sub_cancel]
    rw [decryptLoop]
    split
    · exact ⟨state.1, rfl, rfl⟩
    · obtain ⟨words, ended, length⟩ := ih (decryptRound key n (UInt32.ofNat (q + 1) * DELTA) state)
      rw [counted]
      exact ⟨words, ended, length.trans (decryptRound_length _ _)⟩

/-- Every number of words that is not zero in 32 bits is decrypted to as many words. -/
theorem uintDecrypt_ends (data key : List UInt32) (counts : data.length % 2 ^ 32 ≠ 0) :
    ∃ words, xxteaUintDecrypt data key = some words ∧ words.length = data.length := by
  rw [xxteaUintDecrypt]
  simp only
  rw [if_neg (by omega)]
  split
  · exact ⟨data, rfl, rfl⟩
  · exact decryptLoop_ends key _ _ _

theorem uintDecrypt_undefined (data key : List UInt32) (counts : data.length % 2 ^ 32 = 0) :
    xxteaUintDecrypt data key = none := by
  rw [xxteaUintDecrypt]
  simp only
  rw [if_pos (by omega)]

/-! ### The length that was found -/

/-- The bytes taken are the first ones of the words, as many as the other words can have. -/
theorem ubyteArray_inside {words : List UInt32} {out : List UInt8}
    (taken : xxteaToUbyteArray words true = some out) :
    4 * (words.length - 1) - 3 ≤ out.length ∧ out.length ≤ 4 * (words.length - 1) ∧
      out <+: bytesOf words := by
  rw [xxteaToUbyteArray] at taken
  simp only [if_true] at taken
  split at taken
  · cases taken
  · rename_i fits
    cases taken
    have whole := bytesOf_length words
    rw [← bytesOf, List.length_take]
    exact ⟨by omega, by omega, List.take_prefix _ _⟩

/-- The words a text is taken as. -/
def wordCount (data : List UInt8) : Nat := (data.length + 3) / 4

/-- The call returns, and a buffer it returns has a length the words in front of the last
one can have and is copied from the decrypted words. -/
def ReturnsInside (data : List UInt8) (key : Vector UInt8 16) : Prop :=
  ∃ returned, xxteaDecryptReturns data key = some returned ∧ ∀ out, returned = some out →
    ∃ words, xxteaUintDecrypt (wordsOf data) (wordsOf (fixedKey key)) = some words ∧
      4 * (wordCount data - 1) - 3 ≤ out.length ∧ out.length ≤ 4 * (wordCount data - 1) ∧
      out <+: bytesOf words

/-- A call returns, with a buffer inside the words or without one, exactly where the number of
words is not a multiple of 2^32 or there is nothing to decrypt. -/
theorem returns_inside_iff (data : List UInt8) (key : Vector UInt8 16) :
    ReturnsInside data key ↔ data = [] ∨ wordCount data % 2 ^ 32 ≠ 0 := by
  have count : (wordsOf data).length = wordCount data := wordsOf_length data
  constructor
  · rintro ⟨returned, returns, -⟩
    by_cases empty : data = []
    · exact .inl empty
    · refine .inr fun multiple => ?_
      rw [xxteaDecryptReturns, if_neg empty, ← wordsOf, ← wordsOf,
        uintDecrypt_undefined _ _ (count ▸ multiple)] at returns
      cases returns
  · intro counts
    by_cases empty : data = []
    · exact ⟨none, by rw [xxteaDecryptReturns, if_pos empty], fun out same => by cases same⟩
    · have counts : (wordsOf data).length % 2 ^ 32 ≠ 0 := count ▸ counts.resolve_left empty
      obtain ⟨words, ended, length⟩ := uintDecrypt_ends (wordsOf data) (wordsOf (fixedKey key)) counts
      refine ⟨xxteaToUbyteArray words true, ?_, fun out taken => ⟨words, ended, ?_⟩⟩
      · rw [xxteaDecryptReturns, if_neg empty, ← wordsOf, ← wordsOf, ended, Option.map_some]
      · rw [← count, ← length]
        exact ubyteArray_inside taken

/-- Sixteen gibibytes have 2^32 words. -/
theorem words_wrapped : ¬ ReturnsInside (List.replicate (2 ^ 34) 0) (shortKey 0) := by
  rintro ⟨returned, returns, -⟩
  have count : (wordsOf (List.replicate (2 ^ 34) 0)).length % 2 ^ 32 = 0 := by
    rw [wordsOf_length, List.length_replicate]
    decide
  have filled : List.replicate (2 ^ 34) (0 : UInt8) ≠ [] := by
    rw [← List.length_pos_iff, List.length_replicate]
    exact Nat.two_pow_pos 34
  rw [xxteaDecryptReturns, if_neg filled, ← wordsOf, ← wordsOf, uintDecrypt_undefined _ _ count] at returns
  cases returns

end BeeSdk.Xxtea
