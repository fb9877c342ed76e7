import BeeSdk.Xxtea
import Mathlib.Data.List.Range

/-! XXTEA takes back what it does. The loops that carry a neighbour along are rounds of a
ring, which are taken back going round the other way; the sums of the rounds are counted
down to zero; and the bytes of words are the words of bytes. -/
namespace BeeSdk.Xxtea
open ByteOrder RingRounds

/-- What a round adds to a word, by its position and its neighbours. -/
def change (key : List UInt32) (sum : UInt32) (p : Nat) (z y : UInt32) : UInt32 :=
  MX key sum ((sum >>> 2) &&& 3) (UInt32.ofNat p) z y

variable {key data : List UInt32} {sum : UInt32} {n : Nat}

/-! ### Rounds -/

/-- `z` is the cell in front, before the step and after it. -/
private theorem encryptStep_eq {p : Nat} (inside : p + 1 < data.length) :
    encryptStep key sum ((sum >>> 2) &&& 3) (data, left 0 data p) p =
      (turn 0 (change key sum) data p, left 0 (turn 0 (change key sum) data p) (p + 1)) := by
  rw [left_succ, getD_turn (by omega), right_of_lt inside]
  simp only [encryptStep, turn, right_of_lt inside]
  rfl

private theorem encryptSteps (length : data.length = n + 1) (count : Nat) (fits : count ≤ n) :
    (List.range count).foldl (encryptStep key sum ((sum >>> 2) &&& 3)) (data, left 0 data 0) =
      ((List.range count).foldl (turn 0 (change key sum)) data,
        left 0 ((List.range count).foldl (turn 0 (change key sum)) data) count) := by
  induction count with
  | zero => rfl
  | succ count ih =>
    rw [List.range_succ, List.foldl_append, List.foldl_append, ih (by omega)]
    exact encryptStep_eq (by rw [turns_length]; omega)

/-- A round of encryption is a round of the ring. -/
theorem encryptRound_eq (length : data.length = n + 1) :
    encryptRound key n sum (data, left 0 data 0) =
      (RingRounds.round 0 (change key sum) data, left 0 (RingRounds.round 0 (change key sum) data) 0) := by
  have whole : RingRounds.round 0 (change key sum) data =
      turn 0 (change key sum) ((List.range n).foldl (turn 0 (change key sum)) data) n := by
    rw [RingRounds.round, length, List.range_succ, List.foldl_append]
    rfl
  rw [encryptRound]
  simp only
  rw [encryptSteps length n (Nat.le_refl n), whole]
  generalize turned : (List.range n).foldl (turn 0 (change key sum)) data = cells
  have same : cells.length = n + 1 := by rw [← turned, turns_length, length]
  rw [left_zero (turn_length.trans same), getD_turn (by omega), right_last same]
  simp only [turn, right_last same]
  rfl

/-- `y` is the cell behind, before the step and after it. -/
private theorem decryptStep_eq {p : Nat} (inside : p + 1 < data.length) :
    decryptStep key sum ((sum >>> 2) &&& 3) (data, right 0 data (p + 1)) (p + 1) =
      (turnBack 0 (change key sum) data (p + 1),
        right 0 (turnBack 0 (change key sum) data (p + 1)) p) := by
  have next : right 0 (turnBack 0 (change key sum) data (p + 1)) p =
      (turnBack 0 (change key sum) data (p + 1)).getD (p + 1) 0 :=
    right_of_lt (by rw [turnBack_length]; exact inside)
  rw [next, getD_turnBack inside]
  simp only [decryptStep, turnBack, left_succ, Nat.add_sub_cancel]
  rfl

private theorem decryptSteps (count : Nat) (fits : count < data.length) :
    ((List.range count).map (· + 1)).reverse.foldl (decryptStep key sum ((sum >>> 2) &&& 3))
      (data, right 0 data count) =
      (((List.range count).map (· + 1)).reverse.foldl (turnBack 0 (change key sum)) data,
        right 0 (((List.range count).map (· + 1)).reverse.foldl (turnBack 0 (change key sum)) data)
          0) := by
  induction count generalizing data with
  | zero => rfl
  | succ count ih =>
    rw [List.range_succ, List.map_append, List.reverse_append]
    simp only [List.map_cons, List.map_nil, List.reverse_singleton, List.singleton_append,
      List.foldl_cons]
    rw [decryptStep_eq fits, ih (by rw [turnBack_length]; omega)]

/-- A round of decryption is a round of the ring the other way. -/
theorem decryptRound_eq (length : data.length = n + 1) (two : 1 ≤ n) :
    decryptRound key n sum (data, right 0 data n) =
      (roundBack 0 (change key sum) data, right 0 (roundBack 0 (change key sum) data) n) := by
  have whole : roundBack 0 (change key sum) data =
      turnBack 0 (change key sum)
        (((List.range n).map (· + 1)).reverse.foldl (turnBack 0 (change key sum)) data) 0 := by
    rw [roundBack, length, List.range_succ_eq_map, List.reverse_cons, List.foldl_append]
    rfl
  rw [decryptRound]
  simp only
  rw [decryptSteps n (by omega), whole]
  generalize turned : ((List.range n).map (· + 1)).reverse.foldl (turnBack 0 (change key sum))
    data = cells
  have same : cells.length = n + 1 := by rw [← turned, turnsBack_length, length]
  rw [right_last (turnBack_length.trans same), getD_turnBack (by omega), left_zero same]
  simp only [turnBack, left_zero same]
  rfl

/-! ### All rounds -/

/-- The rounds of encryption, each under a sum of its own. -/
def rounds (key : List UInt32) : Nat → UInt32 → List UInt32 → List UInt32
  | 0, _, data => data
  | q + 1, sum, data => rounds key q (sum + DELTA) (RingRounds.round 0 (change key (sum + DELTA)) data)

@[simp] theorem rounds_length (key : List UInt32) (q : Nat) (sum : UInt32) (data : List UInt32) :
    (rounds key q sum data).length = data.length := by
  induction q generalizing sum data with
  | zero => rfl
  | succ q ih => rw [rounds, ih, round_length]

theorem encryptLoop_eq (key : List UInt32) (length : data.length = n + 1) (q : Nat) (sum : UInt32) :
    encryptLoop key n q sum (data, left 0 data 0) = rounds key q sum data := by
  induction q generalizing sum data with
  | zero => rfl
  | succ q ih =>
    rw [encryptLoop, rounds, encryptRound_eq length]
    exact ih (by rw [round_length, length]) _

private theorem one_delta : UInt32.ofNat 1 * DELTA = DELTA := by decide

/-- The decryption that starts where the rounds ended comes back to where they started. -/
theorem decryptLoop_rounds (key : List UInt32) (length : data.length = n + 1) (two : 1 ≤ n) (q : Nat)
    (sums : ∀ count, count < q → sum + UInt32.ofNat (count + 1) * DELTA ≠ 0) (fuel : Nat) :
    decryptLoop key n (fuel + q) (sum + UInt32.ofNat q * DELTA)
      (rounds key q sum data, right 0 (rounds key q sum data) n) =
      decryptLoop key n fuel sum (data, right 0 data n) := by
  induction q generalizing sum data fuel with
  | zero => simp [rounds]
  | succ q ih =>
    have counted : ∀ count : Nat, sum + UInt32.ofNat (count + 1) * DELTA =
        sum + DELTA + UInt32.ofNat count * DELTA := by
      intro count
      rw [UInt32.ofNat_add, UInt32.add_mul, UInt32.add_comm (UInt32.ofNat count * DELTA),
        UInt32.add_assoc, one_delta]
    have here : sum + DELTA ≠ 0 := by
      have first := sums 0 (by omega)
      rwa [Nat.zero_add, one_delta] at first
    have later : ∀ count, count < q → sum + DELTA + UInt32.ofNat (count + 1) * DELTA ≠ 0 := by
      intro count fits
      rw [← counted (count + 1)]
      exact sums (count + 1) (by omega)
    have ring : (RingRounds.round 0 (change key (sum + DELTA)) data).length = n + 1 := by
      rw [round_length, length]
    rw [counted, show fuel + (q + 1) = fuel + 1 + q by omega, rounds, ih ring later, decryptLoop,
      if_neg here, decryptRound_eq ring two, UInt32.add_sub_cancel,
      roundBack_round UInt32.add_sub_cancel (by omega)]

/-- At most thirty-two rounds are made, and no sum of theirs is zero. -/
private theorem sums_not_zero : ∀ count : Fin 32, UInt32.ofNat (count.val + 1) * DELTA ≠ 0 := by
  decide

/-- The words of two or more are decrypted to what was encrypted. -/
theorem uintDecrypt_uintEncrypt (key : List UInt32) (two : 2 ≤ data.length)
    (fits : data.length < 2 ^ 32) :
    xxteaUintDecrypt (xxteaUintEncrypt data key) key = some data ∧
      (xxteaUintEncrypt data key).length = data.length := by
  obtain ⟨n, length⟩ : ∃ n, data.length = n + 1 := ⟨data.length - 1, by omega⟩
  have loop := encryptLoop_eq key length (6 + 52 / (n + 1)) 0
  rw [left_zero length] at loop
  have encrypted : xxteaUintEncrypt data key = rounds key (6 + 52 / (n + 1)) 0 data := by
    rw [xxteaUintEncrypt]
    simp only [length, Nat.add_sub_cancel]
    rw [if_neg (by omega), loop]
  have few : 6 + 52 / (n + 1) ≤ 32 := by
    have : 52 / (n + 1) ≤ 52 / 2 := Nat.div_le_div_left (by omega) (by omega)
    omega
  have sums : ∀ count, count < 6 + 52 / (n + 1) → 0 + UInt32.ofNat (count + 1) * DELTA ≠ 0 := by
    intro count fits
    rw [UInt32.zero_add]
    exact sums_not_zero ⟨count, by omega⟩
  have back := decryptLoop_rounds key length (by omega) _ sums 1
  rw [encrypted]
  refine ⟨?_, rounds_length _ _ _ _⟩
  have last : (n + 1 + 2 ^ 32 - 1) % 2 ^ 32 = n := by omega
  rw [xxteaUintDecrypt]
  simp only [rounds_length, length, last]
  rw [if_neg (by omega), if_neg (by omega), Nat.add_comm _ 1, ← UInt32.zero_add (UInt32.ofNat _ * DELTA),
    ← right_last (by rw [rounds_length, length]), back, decryptLoop, if_pos rfl]

/-! ### Words and bytes -/

/-- The words of bytes, the last filled up with zeros. -/
def wordsOf (bytes : List UInt8) : List UInt32 := xxteaToUintArray bytes false

/-- The bytes of words. -/
def bytesOf (words : List UInt32) : List UInt8 := words.flatMap fun word => storeLittle 4 word.toNat

theorem wordsOf_length (bytes : List UInt8) : (wordsOf bytes).length = (bytes.length + 3) / 4 := by
  simp only [wordsOf, xxteaToUintArray, Bool.false_eq_true, if_false, List.length_map,
    List.length_range]
  split <;> omega

@[simp] theorem bytesOf_length (words : List UInt32) : (bytesOf words).length = 4 * words.length := by
  induction words with
  | nil => rfl
  | cons word rest ih =>
    rw [bytesOf, List.flatMap_cons, List.length_append, storeLittle_length, ← bytesOf, ih,
      List.length_cons]
    omega

theorem wordsOf_eq (bytes : List UInt8) : wordsOf bytes =
    (List.range ((bytes.length + 3) / 4)).map fun i =>
      UInt32.ofNat (loadLittle ((bytes.drop (4 * i)).take 4)) := by
  have count : (if bytes.length % 4 = 0 then bytes.length / 4 else bytes.length / 4 + 1) =
      (bytes.length + 3) / 4 := by
    split <;> omega
  simp only [wordsOf, xxteaToUintArray, Bool.false_eq_true, if_false, count]

/-- Four bytes at the beginning are the first word. -/
theorem wordsOf_append {block : List UInt8} (four : block.length = 4) (rest : List UInt8) :
    wordsOf (block ++ rest) = UInt32.ofNat (loadLittle block) :: wordsOf rest := by
  have count : ((block ++ rest).length + 3) / 4 = (rest.length + 3) / 4 + 1 := by
    rw [List.length_append]
    omega
  rw [wordsOf_eq, wordsOf_eq, count, List.range_succ_eq_map, List.map_cons, List.map_map]
  congr 1
  · rw [Nat.mul_zero, List.drop_zero, ← four, List.take_left]
  · apply List.map_congr_left
    intro i _
    have behind : 4 * (i + 1) = block.length + 4 * i := by omega
    rw [Function.comp_apply, Nat.succ_eq_add_one, behind, List.drop_length_add_append]

/-- Up to four bytes are one word. -/
theorem wordsOf_block {block : List UInt8} (filled : block ≠ []) (four : block.length ≤ 4) :
    wordsOf block = [UInt32.ofNat (loadLittle block)] := by
  have long := List.length_pos_iff.mpr filled
  rw [wordsOf_eq, show (block.length + 3) / 4 = 1 by omega]
  simp [List.take_of_length_le four]

private theorem load_word {block : List UInt8} (four : block.length ≤ 4) :
    (UInt32.ofNat (loadLittle block)).toNat = loadLittle block := by
  have bound := loadLittle_lt block
  have most : 256 ^ block.length ≤ 256 ^ 4 := Nat.pow_le_pow_right (by omega) four
  rw [UInt32.toNat_ofNat']
  exact Nat.mod_eq_of_lt (by omega)

/-- The words of the bytes of words are these words. -/
theorem wordsOf_bytesOf (words : List UInt32) : wordsOf (bytesOf words) = words := by
  induction words with
  | nil => rfl
  | cons word rest ih =>
    have fits : word.toNat < 256 ^ 4 := word.toNat_lt
    rw [bytesOf, List.flatMap_cons, wordsOf_append (storeLittle_length 4 _), load_store fits,
      UInt32.ofNat_toNat, ← bytesOf, ih]

private theorem take_storeLittle {count few : Nat} (fits : few ≤ count) (value : Nat) :
    (storeLittle count value).take few = storeLittle few value := by
  induction few generalizing count value with
  | zero => rfl
  | succ few ih =>
    obtain ⟨more, rfl⟩ : ∃ more, count = more + 1 := ⟨count - 1, by omega⟩
    rw [storeLittle, storeLittle, List.take_succ_cons, ih (by omega)]

/-- The bytes of the words of bytes are these bytes and what they were filled up with. -/
theorem take_bytesOf_wordsOf (bytes : List UInt8) :
    (bytesOf (wordsOf bytes)).take bytes.length = bytes := by
  generalize limit : bytes.length = length
  induction length using Nat.strongRecOn generalizing bytes with
  | ind length ih =>
    by_cases few : length ≤ 4
    · by_cases empty : bytes = []
      · rw [← limit, empty]
        rfl
      · rw [wordsOf_block empty (by omega), bytesOf, List.flatMap_singleton,
          load_word (by omega), take_storeLittle few, ← limit, store_load]
    · have four : (bytes.take 4).length = 4 := by rw [List.length_take]; omega
      have rest := ih (length - 4) (by omega) (bytes.drop 4) (by rw [List.length_drop, limit])
      have block : storeLittle 4 (loadLittle (bytes.take 4)) = bytes.take 4 := by
        have stored := store_load (bytes.take 4)
        rwa [four] at stored
      rw [← List.take_append_drop 4 bytes, wordsOf_append four, bytesOf, List.flatMap_cons,
        load_word (by omega), block, ← bytesOf,
        show length = (bytes.take 4).length + (length - 4) by omega,
        List.take_length_add_append, rest]

private theorem withLength (bytes : List UInt8) : xxteaToUintArray bytes true =
    wordsOf bytes ++ [UInt32.ofNat bytes.length] := by
  simp [wordsOf, xxteaToUintArray]

private theorem withoutLength (words : List UInt32) :
    xxteaToUbyteArray words false = some (bytesOf words) := by
  simp only [xxteaToUbyteArray, Bool.false_eq_true, if_false]
  rw [List.take_of_length_le]
  · rfl
  · exact (bytesOf_length words).le

/-- Bytes that were given their length are found again. -/
theorem ubyteArray_uintArray {bytes : List UInt8} (filled : bytes ≠ []) (fits : bytes.length < 2 ^ 32) :
    xxteaToUbyteArray (xxteaToUintArray bytes true) true = some bytes := by
  have long := List.length_pos_iff.mpr filled
  have words := wordsOf_length bytes
  have last : (UInt32.ofNat bytes.length).toNat = bytes.length := by
    rw [UInt32.toNat_ofNat']
    exact Nat.mod_eq_of_lt fits
  rw [withLength, xxteaToUbyteArray]
  simp only [if_true, List.length_append, List.length_singleton, Nat.add_sub_cancel]
  rw [List.getD_append_right _ _ _ _ (Nat.le_refl _), Nat.sub_self, List.getD_cons_zero, last,
    if_neg (by omega), List.flatMap_append, ← bytesOf, List.take_append_of_le_length,
    take_bytesOf_wordsOf]
  rw [bytesOf_length]
  omega

/-- What is read of a key as a string of sixteen characters at most. -/
def keyString (key : Vector UInt8 16) : List UInt8 := key.toList.takeWhile (· ≠ 0)

/-- Every text that is not empty and shorter than 2^32 bytes comes back under every key that
reads as the same string, and is encrypted to four bytes for each word and its length. -/
theorem decrypt_encrypt {data : List UInt8} {key other : Vector UInt8 16} (filled : data ≠ [])
    (fits : data.length < 2 ^ 32) (same : keyString key = keyString other) :
    ∃ cipher, xxteaEncrypt data key = some cipher ∧
      cipher.length = 4 * ((data.length + 3) / 4 + 1) ∧ xxteaDecrypt cipher other = some data := by
  have keys : fixedKey other = fixedKey key := by
    simp only [fixedKey]
    rw [← keyString, ← keyString, same]
  have count : (xxteaToUintArray data true).length = (data.length + 3) / 4 + 1 := by
    rw [withLength, List.length_append, wordsOf_length]
    rfl
  have long := List.length_pos_iff.mpr filled
  obtain ⟨back, length⟩ := uintDecrypt_uintEncrypt (wordsOf (fixedKey key))
    (show 2 ≤ (xxteaToUintArray data true).length by omega) (by omega)
  refine ⟨bytesOf (xxteaUintEncrypt (xxteaToUintArray data true) (wordsOf (fixedKey key))), ?_, ?_, ?_⟩
  · rw [xxteaEncrypt, xxteaUbyteEncrypt, if_neg filled]
    exact withoutLength _
  · rw [bytesOf_length, length, count]
  · have some_bytes : bytesOf (xxteaUintEncrypt (xxteaToUintArray data true)
        (wordsOf (fixedKey key))) ≠ [] := by
      rw [← List.length_pos_iff, bytesOf_length, length, count]
      omega
    rw [xxteaDecrypt, xxteaUbyteDecrypt, if_neg some_bytes, keys, ← wordsOf, ← wordsOf,
      wordsOf_bytesOf, back]
    exact ubyteArray_uintArray filled fits

/-- A key of three letters, with whatever lies behind its end. -/
def shortKey (behind : UInt8) : Vector UInt8 16 :=
  ⟨#[97, 98, 99, 0] ++ (List.replicate 12 behind).toArray, by simp⟩

theorem five_bytes_come_back : ∃ cipher,
    xxteaEncrypt [104, 101, 108, 108, 111] (shortKey 7) = some cipher ∧ cipher.length = 12 ∧
      xxteaDecrypt cipher (shortKey 9) = some [104, 101, 108, 108, 111] :=
  decrypt_encrypt (by decide) (by decide) (by decide)

end BeeSdk.Xxtea
