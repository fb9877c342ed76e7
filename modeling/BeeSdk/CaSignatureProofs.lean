import BeeSdk.CaSignature
import BeeSdk.OnesComplementSum

/-! What is made is accepted. Both sides walk the key with the same bits, and
the words come back from their hexadecimal text. -/
namespace BeeSdk.CaSignature
open ByteOrder IStream OnesComplementSum

/-! ### The words in the text -/

private theorem strtol_nibbles : ∀ high low : Fin 16,
    strtol ([hexChar high, hexChar low].takeWhile (· ≠ 0)) = (((16 * high + low : Nat) : Int), []) := by
  decide

theorem strtol_hexText (byte : UInt8) :
    strtol ((hexText byte).takeWhile (· ≠ 0)) = ((byte.toNat : Int), []) := by
  have bound : byte.toNat < 256 := byte.toNat_lt
  have read := strtol_nibbles ⟨byte.toNat / 16, by omega⟩ ⟨byte.toNat % 16, by omega⟩
  have whole : 16 * (byte.toNat / 16) + byte.toNat % 16 = byte.toNat := by omega
  simp only [whole] at read
  exact read

/-- The text of some bytes is read back as these bytes. -/
theorem readHex_hexText (bytes : List UInt8) : readHex (bytes.flatMap hexText) = some bytes := by
  induction bytes with
  | nil => rfl
  | cons byte bytes ih =>
    have read := strtol_hexText byte
    have same : UInt8.ofNat ((byte.toNat : Int) % 256).toNat = byte := by
      apply UInt8.toNat_inj.mp
      rw [UInt8.toNat_ofNat']
      have bound : byte.toNat < 256 := byte.toNat_lt
      omega
    simp only [hexText] at read
    simp only [List.flatMap_cons, hexText, List.cons_append, List.nil_append, readHex, read]
    rw [if_neg (by simp), same]
    exact congrArg (Option.map _) ih

theorem hexText_length (bytes : List UInt8) : (bytes.flatMap hexText).length = 2 * bytes.length := by
  induction bytes with
  | nil => rfl
  | cons byte bytes ih =>
    rw [List.flatMap_cons, List.length_append, ih, List.length_cons, hexText]
    simp only [List.length_cons, List.length_nil]
    omega

private theorem storeLittle_four (word : Nat) (bytes : List UInt8) :
    loadWords (storeLittle 4 word ++ bytes) = loadLittle (storeLittle 4 word) :: loadWords bytes :=
  rfl

theorem loadWords_stored (fit : ∀ word ∈ words, word < 256 ^ 4) :
    loadWords (words.flatMap (storeLittle 4)) = words := by
  induction words with
  | nil => rfl
  | cons word words ih =>
    rw [List.flatMap_cons, storeLittle_four, load_store (fit word (by simp)),
      ih (fun other member => fit other (by simp [member]))]

theorem storedWords_length (words : List Nat) :
    (words.flatMap (storeLittle 4)).length = 4 * words.length := by
  induction words with
  | nil => rfl
  | cons word words ih =>
    rw [List.flatMap_cons, List.length_append, storeLittle_length, ih, List.length_cons]
    omega

/-! ### The chosen bytes -/

/-- While the key is long enough both sides choose the same bytes; the
terminator behind the key is never reached. -/
theorem same_bits (key : List UInt8) (word : Nat) (bits : List Nat) (chosen : Chosen)
    (enough : chosen.oriPos + bits.length ≤ key.length) :
    ∃ value, chooseBits (key ++ [0]) word bits chosen = some ⟨value, chosen.oriPos + bits.length⟩ ∧
      checkBits key key.length word bits chosen =
        some (some ⟨value, chosen.oriPos + bits.length⟩) := by
  induction bits generalizing chosen with
  | nil => exact ⟨chosen.value, rfl, rfl⟩
  | cons j rest ih =>
    rw [List.length_cons] at enough ⊢
    have inside : chosen.oriPos < key.length := by omega
    have more : key.length ≠ chosen.oriPos := by omega
    have moved : chosen.oriPos + 1 + rest.length = chosen.oriPos + (rest.length + 1) := by omega
    rw [chooseBits, checkBits, if_neg more]
    by_cases bit : word.testBit j = true
    · have made : (key ++ [0])[chosen.oriPos]? = some key[chosen.oriPos] := by
        rw [List.getElem?_append_left inside, List.getElem?_eq_getElem inside]
      have checked : key[chosen.oriPos]? = some key[chosen.oriPos] := List.getElem?_eq_getElem inside
      obtain ⟨value, chose, agreed⟩ :=
        ih ⟨chosen.value ++ [key[chosen.oriPos]], chosen.oriPos + 1⟩ (by simp only; omega)
      simp only [moved] at chose agreed
      rw [if_pos bit, if_pos bit, made, checked]
      exact ⟨value, chose, agreed⟩
    · obtain ⟨value, chose, agreed⟩ :=
        ih { chosen with oriPos := chosen.oriPos + 1 } (by simp only; omega)
      simp only [moved] at chose agreed
      rw [if_neg bit, if_neg bit]
      exact ⟨value, chose, agreed⟩

/-- The words as they are sent choose the bytes they were chosen with. -/
theorem same_words (randR : UInt32 → UInt32 × UInt32) (key : List UInt8) (count : Nat)
    (seedp : UInt32) (chosen : Chosen) (enough : chosen.oriPos + 32 * count ≤ key.length) :
    ∃ r made, chooseWords randR (key ++ [0]) count seedp chosen = some (r, made) ∧
      r.length = count ∧ (∀ word ∈ r, word < 256 ^ 4) ∧
      checkWords key key.length r chosen = some (some made) := by
  induction count generalizing seedp chosen with
  | zero => exact ⟨[], chosen, rfl, rfl, by simp, rfl⟩
  | succ count ih =>
    obtain ⟨⟨next, word⟩, drawn⟩ : ∃ pair, randR seedp = pair := ⟨_, rfl⟩
    obtain ⟨value, chose, agreed⟩ := same_bits key word.toNat (List.range 32) chosen
      (by rw [List.length_range]; omega)
    obtain ⟨r, made, chosen_rest, length, fit, agreed_rest⟩ :=
      ih next ⟨value, chosen.oriPos + (List.range 32).length⟩
        (by rw [List.length_range]; simp only; omega)
    have fits : word.toNat < 256 ^ 4 := word.toNat_lt
    have sent : ntohl (ntohl word.toNat) = word.toNat := swapBytes_swapBytes fits
    refine ⟨ntohl word.toNat :: r, made, ?_, ?_, ?_, ?_⟩
    · rw [chooseWords, drawn]
      simp only [chose, Option.bind_some, chosen_rest, Option.map_some]
    · rw [List.length_cons, length]
    · intro sentWord member
      rcases List.mem_cons.mp member with rfl | member
      · exact swapBytes_lt 4 _
      · exact fit sentWord member
    · rw [checkWords, sent, agreed]
      exact agreed_rest

/-! ### The checksum -/

/-- The word two bytes are added as. -/
theorem joined_word (high low : UInt8) :
    (high.toUInt32 <<< 8 ||| low.toUInt32).toNat = 256 * high.toNat + low.toNat := by
  have highBound := high.toNat_lt
  have lowBound := low.toNat_lt
  have shifted : high.toNat <<< 8 % 2 ^ 32 = high.toNat <<< 8 := by
    rw [Nat.shiftLeft_eq]
    omega
  simp only [UInt32.toNat_or, UInt32.toNat_shiftLeft, UInt8.toNat_toUInt32, UInt32.reduceToNat,
    Nat.reduceMod, shifted]
  rw [← Nat.shiftLeft_add_eq_or_of_lt lowBound, Nat.shiftLeft_eq, Nat.mul_comm]

/-- What the loop over an even length adds up. -/
theorem sumWords_total (buffer : List UInt8) (rest : Nat) (i : Nat) (sum : UInt32)
    (inside : i + 2 * rest ≤ buffer.length) (fuel : Nat) (enough : rest ≤ fuel)
    (small : sum.toNat + 65535 * rest < 2 ^ 32) :
    ∃ total, sumWords buffer (i + 2 * rest) fuel i sum = some (i + 2 * rest, total) ∧
      total.toNat = sum.toNat + wordsTotal ((buffer.drop i).take (2 * rest)) := by
  induction rest generalizing i sum fuel with
  | zero =>
    refine ⟨sum, ?_, rfl⟩
    cases fuel with
    | zero => rfl
    | succ fuel => rw [sumWords, if_neg (by omega)]; rfl
  | succ rest ih =>
    obtain ⟨fuel, rfl⟩ : ∃ less, fuel = less + 1 := ⟨fuel - 1, by omega⟩
    have high : i < buffer.length := by omega
    have low : i + 1 < buffer.length := by omega
    have same : i + 2 * (rest + 1) = i + 2 + 2 * rest := by omega
    have word := joined_word buffer[i] buffer[i + 1]
    have highBound := buffer[i].toNat_lt
    have lowBound := buffer[i + 1].toNat_lt
    have added : (sum + (buffer[i].toUInt32 <<< 8 ||| buffer[i + 1].toUInt32)).toNat =
        sum.toNat + (256 * buffer[i].toNat + buffer[i + 1].toNat) := by
      rw [UInt32.toNat_add, word]
      omega
    obtain ⟨total, summed, value⟩ := ih (i + 2) (sum + (buffer[i].toUInt32 <<< 8 ||| buffer[i + 1].toUInt32))
      (by omega) fuel (by omega) (by omega)
    refine ⟨total, ?_, ?_⟩
    · rw [sumWords, if_pos (by omega), List.getElem?_eq_getElem high, List.getElem?_eq_getElem low, same]
      exact summed
    · have taken : (buffer.drop i).take (2 * (rest + 1)) =
          buffer[i] :: buffer[i + 1] :: (buffer.drop (i + 2)).take (2 * rest) := by
        rw [List.drop_eq_getElem_cons high, List.drop_eq_getElem_cons low]
        rfl
      rw [value, added, taken, wordsTotal]
      omega

/-- The checksum over an even length is the complement of the total of the words. -/
theorem checkSum_complement (buffer : List UInt8) (half : Nat) (inside : 2 * half ≤ buffer.length)
    (small : 65535 * half < 2 ^ 32) : ∃ total, checkSum buffer (2 * half) = some (complement total) ∧
      total.toNat = wordsTotal (buffer.take (2 * half)) := by
  obtain ⟨total, summed, value⟩ := sumWords_total buffer half 0 0 (by omega) (2 * half) (by omega)
    (by rw [UInt32.toNat_zero]; omega)
  rw [Nat.zero_add] at summed
  rw [UInt32.toNat_zero, Nat.zero_add, List.drop_zero] at value
  refine ⟨total, ?_, value⟩
  simp only [checkSum, summed, Option.bind_some]
  rw [if_neg (by simp)]
  rfl

theorem checkSum_even (buffer : List UInt8) (half : Nat) (inside : 2 * half ≤ buffer.length)
    (small : 65535 * half < 2 ^ 32) : ∃ sum, checkSum buffer (2 * half) = some sum :=
  (checkSum_complement buffer half inside small).elim fun _ summed => ⟨_, summed.1⟩

/-! ### The whole signature -/

theorem Signature.memory_length (signature : Signature) (text : signature.r.length = 32) :
    signature.memory.length = kSignatureLen := by
  rw [Signature.memory, List.length_append, List.length_append, storeLittle_length, text,
    signature.hash.whole]
  rfl

theorem Signature.memory_behind (signature : Signature) :
    signature.memory.drop 2 = signature.r ++ signature.hash.bytes := by
  rw [Signature.memory, List.drop_append_of_le_length (by rw [storeLittle_length]),
    List.drop_of_length_le (by rw [storeLittle_length]), List.nil_append]

/-- The fields of the structure are read where they lie. -/
theorem Signature.memory_fields (signature : Signature) (text : signature.r.length = 32) :
    RingMemory.copyOut signature.memory 0 2 = some (storeLittle 2 signature.sum) ∧
    RingMemory.copyOut signature.memory 2 32 = some signature.r ∧
    RingMemory.copyOut signature.memory 34 SHA_DIGEST_LENGTH = some signature.hash.bytes := by
  have length := signature.memory_length text
  have hash := signature.hash.whole
  have behind := signature.memory_behind
  have fourth : signature.memory.drop 34 = signature.hash.bytes := by
    have two : signature.memory.drop 34 = (signature.memory.drop 2).drop 32 := by
      rw [List.drop_drop]
    rw [two, behind, List.drop_left' text]
  simp only [RingMemory.copyOut, length, kSignatureLen, SHA_DIGEST_LENGTH] at hash ⊢
  rw [if_pos (by omega), if_pos (by omega), if_pos (by omega), behind, fourth, List.drop_zero]
  refine ⟨?_, ?_, ?_⟩
  · rw [Signature.memory, List.take_left' (storeLittle_length ..)]
  · rw [List.take_left' text]
  · rw [List.take_of_length_le (by omega)]

/-- The checksum is over the text and the digest, not over its own field. -/
theorem Signature.checkSum_defined (signature : Signature) (text : signature.r.length = 32) :
    ∃ sum, checkSum (signature.r ++ signature.hash.bytes) (kSignatureLen - 2) = some sum := by
  have length : (signature.r ++ signature.hash.bytes).length = 52 := by
    rw [List.length_append, text, signature.hash.whole]
    rfl
  exact checkSum_even _ 26 (by omega) (by decide)

/-- A signature in memory is accepted when its checksum is the one over the rest,
its text is that of some words and its digest that of the bytes they choose. -/
theorem checkSignature_accepts (signature : Signature) (digest : List UInt8 → Digest)
    (pubKey : List UInt8) (pubKeyLength : UInt32) (more : sizeofBeginPublicKey < pubKeyLength.toNat)
    (four : r.length = 4) (fit : ∀ word ∈ r, word < 256 ^ 4)
    (text : signature.r = (r.flatMap (storeLittle 4)).flatMap hexText)
    (summed : checkSum (signature.r ++ signature.hash.bytes) (kSignatureLen - 2) = some sum)
    (sum_sent : signature.sum = ntohs sum.toNat)
    (agreed : checkWords (pubKey.drop sizeofBeginPublicKey)
      (pubKeyLength.toNat - sizeofBeginPublicKey) r {} = some (some chosen))
    (hashed : signature.hash = (sha1 digest chosen.value .zero).2) :
    checkSignature digest signature.memory (UInt32.ofNat kSignatureLen) pubKey pubKeyLength =
      some true := by
  have text_length : signature.r.length = 32 := by
    rw [text, hexText_length, storedWords_length, four]
  obtain ⟨sum_field, text_field, hash_field⟩ := signature.memory_fields text_length
  have sum_read : loadLittle (storeLittle 2 signature.sum) = ntohs sum.toNat := by
    rw [sum_sent]
    exact load_store (swapBytes_lt 2 _)
  have length : (UInt32.ofNat kSignatureLen).toNat = kSignatureLen := rfl
  rw [checkSignature, if_neg (by rw [length]; exact fun different => different rfl),
    if_neg (by omega), sum_field, text_field, hash_field, length, signature.memory_behind, summed]
  simp only [Option.bind_some]
  rw [if_neg (by rw [sum_read]; exact fun different => different rfl), text, readHex_hexText]
  simp only [loadWords_stored fit, agreed, Option.map_some, hashed, decide_true]

/-- The text of some words. -/
def wordsText (r : List Nat) : List UInt8 := (r.flatMap (storeLittle 4)).flatMap hexText

/-- For a long enough key a signature is made, of four words that choose the same
bytes when it is checked. -/
theorem createSignature_makes (digest : List UInt8 → Digest) (randR : UInt32 → UInt32 × UInt32)
    (seedp : UInt32) (clientPublicKey : List UInt8) (before : Signature)
    (long : sizeofBeginPublicKey + 128 ≤ clientPublicKey.length) :
    ∃ r chosen sum, r.length = 4 ∧ (∀ word ∈ r, word < 256 ^ 4) ∧
      checkWords (clientPublicKey.drop sizeofBeginPublicKey)
        (clientPublicKey.length - sizeofBeginPublicKey) r {} = some (some chosen) ∧
      checkSum (wordsText r ++ (sha1 digest chosen.value .zero).2.bytes) (kSignatureLen - 2) = some sum ∧
      createSignature digest randR seedp clientPublicKey before =
        some (true, ⟨ntohs sum.toNat, wordsText r, (sha1 digest chosen.value .zero).2⟩) := by
  have some_key : clientPublicKey ≠ [] := by
    intro empty
    rw [empty] at long
    cases long
  have behind : (clientPublicKey ++ [0]).drop sizeofBeginPublicKey =
      clientPublicKey.drop sizeofBeginPublicKey ++ [0] :=
    List.drop_append_of_le_length (by omega)
  have left : (clientPublicKey.drop sizeofBeginPublicKey).length =
      clientPublicKey.length - sizeofBeginPublicKey := List.length_drop
  obtain ⟨r, chosen, chose, four, fit, agreed⟩ :=
    same_words randR (clientPublicKey.drop sizeofBeginPublicKey) 4 seedp {}
      (by rw [left]; simp only; omega)
  let unsummed : Signature := ⟨0, wordsText r, (sha1 digest chosen.value .zero).2⟩
  obtain ⟨sum, summed⟩ := unsummed.checkSum_defined
    (by simp only [unsummed, wordsText, hexText_length, storedWords_length, four])
  rw [left] at agreed
  refine ⟨r, chosen, sum, four, fit, agreed, summed, ?_⟩
  rw [createSignature, if_neg some_key]
  simp only [behind, chose, Option.bind_some]
  rw [Signature.memory_behind]
  simp only [wordsText, unsummed] at summed
  simp only [summed, Option.map_some, wordsText]

/-- Whatever is made for a long enough key is accepted with that key, for any
random words and any digest. -/
theorem made_accepted (digest : List UInt8 → Digest) (randR : UInt32 → UInt32 × UInt32)
    (seedp : UInt32) (clientPublicKey : List UInt8) (before : Signature) (pubKeyLength : UInt32)
    (long : sizeofBeginPublicKey + 128 ≤ clientPublicKey.length)
    (same : pubKeyLength.toNat = clientPublicKey.length) :
    ∃ signature, createSignature digest randR seedp clientPublicKey before = some (true, signature) ∧
      checkSignature digest signature.memory (UInt32.ofNat kSignatureLen) clientPublicKey
        pubKeyLength = some true := by
  obtain ⟨r, chosen, sum, four, fit, agreed, summed, made⟩ :=
    createSignature_makes digest randR seedp clientPublicKey before long
  rw [← same] at agreed
  have more : sizeofBeginPublicKey < pubKeyLength.toNat := by omega
  exact ⟨_, made, checkSignature_accepts _ digest clientPublicKey pubKeyLength more four fit rfl summed
    rfl agreed rfl⟩

/-- The `rand_r` of the sources. -/
def randR (seedp : UInt32) : UInt32 × UInt32 :=
  let next := seedp * 1103515245 + 12345
  (next, next / 65536 % 32768)

/-- A key of the shortest length: the letters over and over. -/
def lettersKey : List UInt8 := (List.range 155).map fun i => UInt8.ofNat (65 + i % 26)

/-- What a seed of 1 chooses of this key, and the digest of that. -/
def seededValue : List UInt8 := "CDHIJPIJKLMNQRTNUVWXATUWYZDH".toList.map fun letter => letter.toUInt8

def seededDigest : Digest :=
  ⟨[88, 66, 16, 119, 6, 38, 121, 88, 243, 218, 198, 78, 131, 77, 39, 141, 19, 229, 164, 43], rfl⟩

/-- The digest as far as it is asked for. -/
def lettersDigest (value : List UInt8) : Digest := if value = seededValue then seededDigest else .zero

theorem made_accepted_seeded : ∃ signature,
    createSignature lettersDigest randR 1 lettersKey ⟨0, [], .zero⟩ = some (true, signature) ∧
    signature.hash = seededDigest ∧
    checkSignature lettersDigest signature.memory (UInt32.ofNat kSignatureLen) lettersKey 155 =
      some true := by
  have hashed : (createSignature lettersDigest randR 1 lettersKey ⟨0, [], .zero⟩).map (·.2.hash) =
      some seededDigest := by decide +kernel
  obtain ⟨signature, made, accepted⟩ := made_accepted lettersDigest randR 1 lettersKey ⟨0, [], .zero⟩
    155 (by decide +kernel) (by decide +kernel)
  rw [made] at hashed
  exact ⟨signature, made, Option.some.inj hashed, accepted⟩

/-! ### A check is always defined -/

private theorem checkBits_defined (pubKey : List UInt8) (inside : pubKeyLength ≤ pubKey.length)
    (word : Nat) (bits : List Nat) (chosen : Chosen) (before : chosen.oriPos ≤ pubKeyLength) :
    ∃ stopped, checkBits pubKey pubKeyLength word bits chosen = some stopped ∧
      ∀ next, stopped = some next → next.oriPos ≤ pubKeyLength := by
  induction bits generalizing chosen with
  | nil => exact ⟨some chosen, rfl, fun next same => by cases same; exact before⟩
  | cons j rest ih =>
    rw [checkBits]
    split
    · exact ⟨none, rfl, fun next same => by cases same⟩
    rename_i more
    split
    · have here : chosen.oriPos < pubKey.length := by omega
      rw [List.getElem?_eq_getElem here]
      exact ih _ (by simp only; omega)
    · exact ih _ (by simp only; omega)

private theorem checkWords_defined (pubKey : List UInt8) (inside : pubKeyLength ≤ pubKey.length)
    (words : List Nat) (chosen : Chosen) (before : chosen.oriPos ≤ pubKeyLength) :
    ∃ stopped, checkWords pubKey pubKeyLength words chosen = some stopped := by
  induction words generalizing chosen with
  | nil => exact ⟨some chosen, rfl⟩
  | cons word words ih =>
    obtain ⟨stopped, checked, bound⟩ :=
      checkBits_defined pubKey inside (ntohl word) (List.range 32) chosen before
    rw [checkWords, checked]
    cases stopped with
    | none => exact ⟨none, rfl⟩
    | some next => exact ih next (bound next rfl)

/-- With memory behind both pointers a signature is accepted or not. -/
theorem checkSignature_defined (digest : List UInt8 → Digest) (signature : List UInt8)
    (signatureLength : UInt32) (pubKey : List UInt8) (pubKeyLength : UInt32)
    (memory : signatureLength.toNat ≤ signature.length)
    (key : pubKeyLength.toNat ≤ pubKey.length) :
    ∃ accepted, checkSignature digest signature signatureLength pubKey pubKeyLength =
      some accepted := by
  rw [checkSignature]
  split
  · exact ⟨false, rfl⟩
  rename_i length
  split
  · exact ⟨false, rfl⟩
  rename_i longer
  have length : signatureLength.toNat = 54 := Decidable.not_not.mp length
  have digest_length : SHA_DIGEST_LENGTH = 20 := rfl
  have even : signatureLength.toNat - 2 = 2 * 26 := by omega
  obtain ⟨sum, summed⟩ := checkSum_even (signature.drop 2) 26 (by rw [List.length_drop]; omega)
    (by decide)
  rw [even, summed]
  simp only [RingMemory.copyOut]
  rw [if_pos (by omega), if_pos (by omega), if_pos (by omega)]
  simp only [Option.bind_some]
  split
  · exact ⟨false, rfl⟩
  split
  · exact ⟨false, rfl⟩
  rename_i memory _
  have inside : pubKeyLength.toNat - sizeofBeginPublicKey ≤
      (pubKey.drop sizeofBeginPublicKey).length := by
    rw [List.length_drop]
    omega
  obtain ⟨stopped, checked⟩ := checkWords_defined (pubKey.drop sizeofBeginPublicKey) inside
    (loadWords memory) {} (Nat.zero_le _)
  rw [checked]
  exact ⟨_, rfl⟩

end BeeSdk.CaSignature
