import BeeSdk.CaSignatureProofs

/-! One byte of an accepted signature changed. The text may still say the same words, but the
checksum is over the text itself and the digest, and no single byte leaves it where it was. -/
namespace BeeSdk.CaSignature
open ByteOrder OnesComplementSum

/-! ### The checksum as a number -/

/-- The checksum is minus the total modulo 65535. -/
theorem checkSum_total (buffer : List UInt8) (half : Nat) (inside : 2 * half ≤ buffer.length)
    (small : 65535 * half < 2 ^ 32) : ∃ sum, checkSum buffer (2 * half) = some sum ∧
      (sum.toNat + wordsTotal (buffer.take (2 * half))) % 65535 = 0 := by
  obtain ⟨total, summed, value⟩ := checkSum_complement buffer half inside small
  exact ⟨complement total, summed, value ▸ complement_sum total⟩

/-- Buffers with one checksum have one total modulo 65535. -/
theorem checkSum_same (buffer other : List UInt8) (half : Nat) (inside : 2 * half ≤ buffer.length)
    (otherInside : 2 * half ≤ other.length) (small : 65535 * half < 2 ^ 32)
    (summed : checkSum buffer (2 * half) = some sum) (otherSummed : checkSum other (2 * half) = some sum) :
    wordsTotal (buffer.take (2 * half)) % 65535 = wordsTotal (other.take (2 * half)) % 65535 := by
  obtain ⟨_, found, zero⟩ := checkSum_total buffer half inside small
  obtain ⟨_, otherFound, otherZero⟩ := checkSum_total other half otherInside small
  rw [summed] at found
  rw [otherSummed] at otherFound
  cases found
  cases otherFound
  omega

/-! ### Signatures that are accepted and not -/

/-- What is accepted is as long as a signature and carries the checksum of the rest. -/
theorem accepted_summed {signature : List UInt8}
    (accepted : checkSignature digest signature signatureLength pubKey pubKeyLength = some true) :
    signatureLength.toNat = kSignatureLen ∧ kSignatureLen ≤ signature.length ∧
      ∃ computed, checkSum (signature.drop 2) (2 * 26) = some computed ∧
        loadLittle (signature.take 2) = ntohs computed.toNat := by
  rw [checkSignature] at accepted
  split at accepted
  · cases accepted
  rename_i length
  have length : signatureLength.toNat = kSignatureLen := Decidable.not_not.mp length
  have even : kSignatureLen - 2 = 2 * 26 := rfl
  split at accepted
  · cases accepted
  rw [length, even] at accepted
  obtain ⟨sum, sumRead, accepted⟩ := Option.bind_eq_some_iff.mp accepted
  obtain ⟨r, rRead, accepted⟩ := Option.bind_eq_some_iff.mp accepted
  obtain ⟨hash, hashRead, accepted⟩ := Option.bind_eq_some_iff.mp accepted
  obtain ⟨computed, summed, accepted⟩ := Option.bind_eq_some_iff.mp accepted
  have whole : kSignatureLen ≤ signature.length := by
    apply Classical.byContradiction
    intro short
    rw [RingMemory.copyOut_outside (Nat.lt_of_not_le short)] at hashRead
    cases hashRead
  refine ⟨length, whole, computed, summed, ?_⟩
  rw [RingMemory.copyOut, if_pos (Nat.le_trans (by decide) whole)] at sumRead
  cases sumRead
  split at accepted
  · cases accepted
  · rename_i same
    exact Decidable.not_not.mp same

/-- Another checksum than that of the rest is rejected. -/
theorem checkSignature_rejects (digest : List UInt8 → Digest) {signature : List UInt8}
    (pubKey : List UInt8) (pubKeyLength : UInt32) (length : signatureLength.toNat = kSignatureLen)
    (whole : kSignatureLen ≤ signature.length)
    (summed : checkSum (signature.drop 2) (2 * 26) = some computed)
    (wrong : loadLittle (signature.take 2) ≠ ntohs computed.toNat) :
    checkSignature digest signature signatureLength pubKey pubKeyLength = some false := by
  have even : kSignatureLen - 2 = 2 * 26 := rfl
  rw [checkSignature, if_neg (fun different => different length)]
  split
  · rfl
  rw [length, even, summed]
  simp only [RingMemory.copyOut]
  rw [if_pos (Nat.le_trans (by decide) whole), if_pos (Nat.le_trans (by decide) whole),
    if_pos (Nat.le_trans (by decide) whole)]
  exact if_pos wrong

theorem ntohs_injective {one other : UInt16} (same : ntohs one.toNat = ntohs other.toNat) :
    one = other := by
  have swapped := congrArg (swapBytes 2) same
  rw [ntohs, ntohs, swapBytes_swapBytes one.toNat_lt, swapBytes_swapBytes other.toNat_lt] at swapped
  exact UInt16.toNat_inj.mp swapped

/-- A byte of the checksum changed is another checksum. -/
theorem sum_changed {signature : List UInt8} (whole : kSignatureLen ≤ signature.length)
    (early : index < 2) (different : signature[index]? ≠ some value) :
    loadLittle ((signature.set index value).take 2) ≠ loadLittle (signature.take 2) := by
  have length : signature.length ≥ 2 := Nat.le_trans (by decide) whole
  intro same
  have stored := store_load ((signature.set index value).take 2)
  have before := store_load (signature.take 2)
  rw [List.length_take_of_le (by rw [List.length_set]; exact length), same] at stored
  rw [List.length_take_of_le length, stored] at before
  refine different ?_
  rw [← List.getElem?_take_of_lt early, ← before, List.getElem?_take_of_lt early,
    List.getElem?_set_self (Nat.lt_of_lt_of_le early length)]

/-- A byte behind the checksum changed has another checksum. -/
theorem rest_changed {signature : List UInt8} (whole : kSignatureLen ≤ signature.length)
    (late : 2 ≤ index) (inside : index < kSignatureLen) (different : signature[index]? ≠ some value)
    (summed : checkSum (signature.drop 2) (2 * 26) = some computed)
    (after : checkSum ((signature.set index value).drop 2) (2 * 26) = some other) : other ≠ computed := by
  rintro rfl
  obtain ⟨offset, rfl⟩ : ∃ offset, index = offset + 2 := ⟨index - 2, by omega⟩
  have behind : offset < 2 * 26 := Nat.lt_of_add_lt_add_right inside
  have room : 2 * 26 ≤ (signature.drop 2).length := by
    rw [List.length_drop]
    exact Nat.le_sub_of_add_le whole
  have moved : (signature.set (offset + 2) value).drop 2 = (signature.drop 2).set offset value := by
    rw [List.drop_set, if_neg (by omega), Nat.add_sub_cancel]
  rw [moved] at after
  have same := checkSum_same (signature.drop 2) ((signature.drop 2).set offset value) 26 room
    (by rw [List.length_set]; exact room) (by decide) summed after
  have there : offset + 2 < signature.length := Nat.lt_of_lt_of_le inside whole
  have held : ((signature.drop 2).take (2 * 26))[offset]? = some signature[offset + 2] := by
    rw [List.getElem?_take_of_lt behind, List.getElem?_drop, Nat.add_comm 2 offset,
      List.getElem?_eq_getElem]
  rw [List.take_set] at same
  refine words_total_moves _ value 26 offset (List.length_take_of_le room) _ held ?_ same.symm
  intro written
  exact different ((List.getElem?_eq_getElem there).trans (congrArg some written))

/-- An accepted signature with one byte changed, wherever it lies, is rejected. -/
theorem changed_rejected (digest : List UInt8 → Digest) (signature : List UInt8)
    (signatureLength : UInt32) (pubKey : List UInt8) (pubKeyLength : UInt32) (index : Nat)
    (value : UInt8)
    (accepted : checkSignature digest signature signatureLength pubKey pubKeyLength = some true)
    (inside : index < kSignatureLen) (different : signature[index]? ≠ some value) :
    checkSignature digest (signature.set index value) signatureLength pubKey pubKeyLength =
      some false := by
  obtain ⟨length, whole, computed, summed, carried⟩ := accepted_summed accepted
  have still : kSignatureLen ≤ (signature.set index value).length := by
    rw [List.length_set]
    exact whole
  by_cases early : index < 2
  · have kept : (signature.set index value).drop 2 = signature.drop 2 := by
      rw [List.drop_set_of_lt early]
    refine checkSignature_rejects digest pubKey pubKeyLength length still (kept ▸ summed) ?_
    rw [← carried]
    exact sum_changed whole early different
  · have late : 2 ≤ index := Nat.le_of_not_lt early
    have kept : (signature.set index value).take 2 = signature.take 2 := by
      rw [List.take_set_of_le late]
    obtain ⟨other, after⟩ := checkSum_even ((signature.set index value).drop 2) 26 (by
      rw [List.length_drop]
      exact Nat.le_sub_of_add_le still) (by decide)
    refine checkSignature_rejects digest pubKey pubKeyLength length still after ?_
    rw [kept, carried]
    intro same
    exact rest_changed whole late inside different summed after (ntohs_injective same).symm

/-- The text of words without a bit set, behind its checksum and in front of the digest. -/
def zerosSignature : List UInt8 :=
  [0xfc, 0xfc] ++ List.replicate 32 48 ++ List.replicate SHA_DIGEST_LENGTH 0

/-- A blank in place of the first zero is read as the same words, and rejected. -/
theorem blank_rejected :
    checkSignature (fun _ => .zero) (zerosSignature.set 2 32) 54 (List.replicate 155 65) 155 = some false :=
  changed_rejected (fun _ => .zero) zerosSignature 54 (List.replicate 155 65) 155 2 32 rfl (by decide)
    (by decide)

end BeeSdk.CaSignature
