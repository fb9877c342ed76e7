import BeeSdk.CaReplies
import BeeSdk.CaSignatureProofs
import BeeSdk.ReceiveTlvProofs

/-! Each handler uses only its message exactly when the message is long enough for
what the handler reads. The rules of `Logged.All` take a handler apart into the
uses it makes; what is left is arithmetic about the lengths. -/
namespace BeeSdk.CaRepliesProofs
open ByteOrder CaSignature CaReplies Logged ReceiveTlv StateMachine

variable {Rsa : Type} {crypto : Crypto Rsa} {client : CAClient Rsa} {bytes behind : List UInt8}

/-! ### Reading the message -/

/-- In the memory of a message exactly its own bytes may be read. -/
theorem all_readBytes (Good : List UInt8 → Prop) (offset count : Nat) :
    All (Use.Within bytes.length) (readBytes (bytes ++ behind) offset count) Good ↔
      offset + count ≤ bytes.length ∧ Good ((bytes.drop offset).take count) := by
  rw [readBytes, all_bind, all_use, all_lift]
  constructor
  · rintro ⟨inside, read, copied, good⟩
    have inside : offset + count ≤ bytes.length := inside
    rw [ReceiveTlvProofs.copyOut_front bytes behind inside] at copied
    cases copied
    exact ⟨inside, good⟩
  · rintro ⟨inside, good⟩
    exact ⟨inside, _, ReceiveTlvProofs.copyOut_front bytes behind inside, good⟩

/-- What the check of a header that is all there comes to. -/
def headerError (reply : Reply) (bytes : List UInt8) : Option BeeErrorCode :=
  if ntohl (loadLittle ((bytes.drop (reply.inputEvent.lengthSize + 1)).take 4)) ≠ CA_MARK then
    some .invalidProtocolMark
  else if loadLittle ((bytes.drop reply.inputEvent.lengthSize).take 1) ≠ reply.code then
    some .invalidMessage
  else none

theorem headerError_addressed (reply : Reply) (addressed : reply.Addressed bytes) :
    headerError reply bytes = none := by
  rw [headerError, if_neg (fun different => different addressed.1),
    if_neg (fun different => different addressed.2)]

theorem headerError_other (reply : Reply) (other : ¬ reply.Addressed bytes) :
    ∃ ec1, headerError reply bytes = some ec1 ∧ ec1 ≠ .success := by
  rw [headerError]
  split
  · exact ⟨_, rfl, by simp⟩
  rename_i mark
  split
  · exact ⟨_, rfl, by simp⟩
  rename_i code
  exact absurd ⟨Decidable.not_not.mp mark, Decidable.not_not.mp code⟩ other

theorem all_checkHeader (reply : Reply) (Good : Option BeeErrorCode → Prop) :
    All (Use.Within bytes.length)
        (checkHeader (bytes ++ behind) reply.inputEvent.lengthSize reply.code) Good ↔
      reply.inputEvent.lengthSize + 5 ≤ bytes.length ∧ Good (headerError reply bytes) := by
  rw [checkHeader, all_bind, all_readBytes]
  apply and_congr_right
  intro inside
  rw [headerError]
  split
  · rw [all_pure]
  · rw [all_bind, all_readBytes]
    have code_inside : reply.inputEvent.lengthSize + 1 ≤ bytes.length := by omega
    rw [and_iff_right code_inside]
    split <;> rw [all_pure]

/-- Every reply handler ends with an error where the header is not its own. -/
theorem breaks_fails (client : CAClient Rsa) (error : ec1 ≠ .success) :
    (client.breaks ec1).Fails client := ⟨rfl, error, rfl, rfl, rfl, rfl⟩

theorem withMessage_memory (client : CAClient Rsa) (memory : List UInt8)
    (handle : List UInt8 → Access (Handled Rsa)) :
    withMessage client { rcvBuffer := some memory } handle = handle memory := by
  rw [withMessage, if_neg (by simp [ErrorCode.isError])]

/-- Behind the check of its header a handler goes on with a message of its own. -/
theorem all_checked (reply : Reply) (rest : Access (Handled Rsa)) (Good : Handled Rsa → Prop)
    (good : ∀ ec1, ec1 ≠ .success → Good (client.breaks ec1)) :
    All (Use.Within bytes.length)
        (checkHeader (bytes ++ behind) reply.inputEvent.lengthSize reply.code >>= fun
          | some ec1 => pure (client.breaks ec1)
          | none => rest) Good ↔
      reply.headerLen ≤ bytes.length ∧
        (reply.Addressed bytes → All (Use.Within bytes.length) rest Good) := by
  have header : reply.inputEvent.lengthSize + 5 = reply.headerLen := by cases reply <;> rfl
  rw [all_bind, all_checkHeader, header]
  apply and_congr_right
  intro _
  by_cases addressed : reply.Addressed bytes
  · rw [headerError_addressed reply addressed]
    exact ⟨fun all _ => all, fun all => all addressed⟩
  · obtain ⟨ec1, found, error⟩ := headerError_other reply addressed
    rw [found]
    simp only [all_pure]
    exact ⟨fun _ here => absurd here addressed, fun _ => good ec1 error⟩

/-! ### The handlers -/

/-- A key that was generated signs; without a key nothing is made. -/
theorem createSignature_defined (digest : List UInt8 → Digest) (randR : UInt32 → UInt32 × UInt32)
    (seedp : UInt32) (clientPublicKey : List UInt8) (before : Signature)
    (generated : clientPublicKey = [] ∨ sizeofBeginPublicKey + 128 ≤ clientPublicKey.length) :
    ∃ made, createSignature digest randR seedp clientPublicKey before = some made := by
  rcases generated with empty | long
  · exact ⟨(false, before), if_pos empty⟩
  · obtain ⟨r, chosen, sum, _, _, _, _, made⟩ :=
      createSignature_makes digest randR seedp clientPublicKey before long
    exact ⟨_, made⟩

theorem pubKey_uses (seedp : UInt32) (handler : Option CAHandler) :
    Reply.UsesItsBytes crypto client bytes .pubKey seedp handler behind ↔
      Reply.Contained crypto client bytes .pubKey behind := by
  rw [Reply.UsesItsBytes, Reply.handle, handleRcvPubKey, withMessage_memory]
  refine (all_checked .pubKey _ _ (fun ec1 error _ => breaks_fails client error)).trans ?_
  apply and_congr_right
  intro _
  apply imp_congr_right
  intro _
  rw [all_bind, all_readBytes]
  apply and_iff_left_of_imp
  intro whole
  have well : ¬ Reply.Malformed crypto client bytes .pubKey := Nat.not_lt.mpr whole
  simp only [well, false_imp_iff]
  split
  · rw [all_pure]
    trivial
  · rw [all_bind, all_lift]
    obtain ⟨made, defined⟩ := createSignature_defined crypto.digest crypto.randR seedp
      client.clientPublicKey client.signature client.generated
    refine ⟨made, defined, ?_⟩
    split <;> rw [all_pure] <;> trivial

/-- The length of a small header, and what is left for its payload. -/
theorem all_decryptPayload (Good : Option (List UInt8 × Nat) → Prop)
    (carries : loadBig (bytes.take 2) = bytes.length) (header : kCAHeaderLen ≤ bytes.length) :
    All (Use.Within bytes.length) (decryptPayload crypto client (bytes ++ behind)) Good ↔
      match decrypted crypto client bytes with
      | none => Good none
      | some out => ∃ decBuff,
        RingMemory.copyIn (IOBuffer.ofCapacity (bytes.length - kCAHeaderLen)).buffer 0 out =
          some decBuff ∧ Good (some (decBuff, out.length)) := by
  have seven : kCAHeaderLen = 7 := rfl
  have two : (bytes.take 2).length = 2 := by rw [List.length_take]; omega
  have short := loadBig_lt (bytes.take 2)
  rw [carries, two] at short
  have pkgLen : ntohs (loadLittle ((bytes.drop 0).take 2)) = bytes.length := by
    have swapped := swapBytes_load (bytes.take 2)
    rw [two, carries] at swapped
    exact swapped
  have inLen : (UInt32.ofNat bytes.length - UInt32.ofNat kCAHeaderLen).toNat =
      bytes.length - kCAHeaderLen := by
    rw [UInt32.toNat_sub, UInt32.toNat_ofNat', UInt32.toNat_ofNat']
    omega
  have whole : (bytes.drop kCAHeaderLen).take (bytes.length - kCAHeaderLen) =
      bytes.drop kCAHeaderLen := List.take_of_length_le (by rw [List.length_drop])
  have inside : kCAHeaderLen + (bytes.length - kCAHeaderLen) ≤ bytes.length := by omega
  have taken_off : Use.Within bytes.length (.payload bytes.length kCAHeaderLen) := header
  rw [decryptPayload, all_bind, all_readBytes, pkgLen, and_iff_right (by omega), all_bind, all_use,
    and_iff_right taken_off]
  dsimp only
  rw [all_bind, inLen, all_readBytes, and_iff_right inside, whole, decrypted]
  cases made : rsaDecrypt crypto client.clientRsa (bytes.drop kCAHeaderLen) with
  | none =>
    dsimp only
    rw [all_pure]
  | some out =>
    dsimp only
    rw [all_bind, all_lift]
    simp only [all_pure]

/-- A decrypted payload is written into a buffer as long as the payload was. -/
theorem decBuff_made : RingMemory.copyIn (IOBuffer.ofCapacity inLen).buffer 0 out = some decBuff →
    out.length ≤ inLen ∧ decBuff.length = inLen := by
  intro written
  rw [RingMemory.copyIn, IOBuffer.ofCapacity, IOBuffer.ofBytes, List.length_replicate] at written
  split at written
  · rename_i room
    cases written
    refine ⟨by omega, ?_⟩
    simp only [List.take_zero, List.nil_append, List.length_append, List.length_drop,
      List.length_replicate]
    omega
  · cases written

theorem decBuff_fits (room : out.length ≤ inLen) :
    ∃ decBuff, RingMemory.copyIn (IOBuffer.ofCapacity inLen).buffer 0 out = some decBuff := by
  refine ⟨_, if_pos ?_⟩
  rw [IOBuffer.ofCapacity, IOBuffer.ofBytes, List.length_replicate]
  omega

theorem signature_uses (seedp : UInt32) (handler : Option CAHandler)
    (carries : loadBig (bytes.take 2) = bytes.length) :
    Reply.UsesItsBytes crypto client bytes .signature seedp handler behind ↔
      Reply.Contained crypto client bytes .signature behind := by
  rw [Reply.UsesItsBytes, Reply.handle, handleRcvSignature, withMessage_memory]
  refine (all_checked .signature _ _ (fun ec1 error _ => breaks_fails client error)).trans ?_
  apply and_congr_right
  intro header
  apply imp_congr_right
  intro _
  have well : ¬ Reply.Malformed crypto client bytes .signature := Nat.not_lt.mpr header
  rw [all_bind, all_decryptPayload _ carries header]
  simp only [well, false_imp_iff]
  split
  · rename_i failed
    rw [all_pure]
    simp only [failed, reduceCtorEq, false_imp_iff, implies_true]
  · rename_i out made
    constructor
    · rintro ⟨decBuff, written, _⟩ other same
      rw [made] at same
      cases same
      exact (decBuff_made written).1
    · intro room
      obtain ⟨decBuff, written⟩ := decBuff_fits (room out made)
      refine ⟨decBuff, written, ?_⟩
      have held := (decBuff_made written).2
      have memory : (UInt32.ofNat out.length).toNat ≤ decBuff.length := by
        rw [held, UInt32.toNat_ofNat']
        exact (Nat.mod_le ..).trans (room out made)
      have key : (UInt32.ofNat client.serverPublicKey.length).toNat ≤ client.serverPublicKey.length := by
        rw [UInt32.toNat_ofNat']
        exact Nat.mod_le ..
      obtain ⟨accepted, checked⟩ := checkSignature_defined crypto.digest decBuff _ _ _ memory key
      rw [all_bind, all_lift]
      refine ⟨accepted, checked, ?_⟩
      split <;> rw [all_pure] <;> trivial

theorem shareKey_uses (seedp : UInt32) (handler : Option CAHandler)
    (carries : loadBig (bytes.take 2) = bytes.length) :
    Reply.UsesItsBytes crypto client bytes .shareKey seedp handler behind ↔
      Reply.Contained crypto client bytes .shareKey behind := by
  rw [Reply.UsesItsBytes, Reply.handle, handleRcvShareKey, withMessage_memory]
  refine (all_checked .shareKey _ _ (fun ec1 error _ => breaks_fails client error)).trans ?_
  apply and_congr_right
  intro header
  apply imp_congr_right
  intro _
  rw [all_bind, all_decryptPayload _ carries header]
  cases made : decrypted crypto client bytes with
  | none =>
    simp only [all_pure, reduceCtorEq, false_imp_iff, implies_true, iff_true]
    intro _
    exact breaks_fails client (by simp)
  | some out =>
    constructor
    · rintro ⟨decBuff, written, rest⟩ other same
      cases same
      rw [all_bind, all_use] at rest
      exact ⟨(decBuff_made written).1, rest.1⟩
    · intro fits
      obtain ⟨room, enough⟩ := fits out rfl
      obtain ⟨decBuff, written⟩ := decBuff_fits room
      refine ⟨decBuff, written, ?_⟩
      have held := (decBuff_made written).2
      have well : ¬ Reply.Malformed crypto client bytes .shareKey := by
        rintro (short | ⟨other, same, small⟩)
        · exact absurd header (Nat.not_le.mpr short)
        · rw [made] at same
          cases same
          exact absurd enough (Nat.not_le.mpr small)
      have there : 0 + sizeofCAKey ≤ decBuff.length := by omega
      rw [all_bind, all_use, all_bind, all_lift]
      refine ⟨enough, _, if_pos there, ?_⟩
      simp only [well, false_imp_iff]
      split <;> rw [all_pure] <;> trivial

/-- The memory behind the header of a script once it is in plain text. -/
def plainBytes (crypto : Crypto Rsa) (client : CAClient Rsa) (bytes : List UInt8) : List UInt8 :=
  bytes.take kCABigHeaderLen ++ plainLua crypto client bytes

theorem plainLua_length (crypto : Crypto Rsa) (client : CAClient Rsa) (bytes : List UInt8) :
    (plainLua crypto client bytes).length = bytes.length - kCABigHeaderLen := by
  rw [plainLua, crypto.rc4_length, List.length_drop]

theorem plainBytes_length (header : kCABigHeaderLen ≤ bytes.length) :
    (plainBytes crypto client bytes).length = bytes.length := by
  rw [plainBytes, List.length_append, plainLua_length, List.length_take]
  omega

theorem plainBytes_behind (header : kCABigHeaderLen ≤ bytes.length) :
    (plainBytes crypto client bytes).drop kCABigHeaderLen = plainLua crypto client bytes := by
  rw [plainBytes, List.drop_left' (by rw [List.length_take]; omega)]

/-- Decrypting in place. -/
theorem plain_written (header : kCABigHeaderLen ≤ bytes.length) :
    RingMemory.copyIn (bytes ++ behind) kCABigHeaderLen (plainLua crypto client bytes) =
      some (plainBytes crypto client bytes ++ behind) := by
  have length := plainLua_length crypto client bytes
  have front : (bytes ++ behind).take kCABigHeaderLen = bytes.take kCABigHeaderLen :=
    List.take_append_of_le_length header
  have past : (bytes ++ behind).drop (kCABigHeaderLen + (plainLua crypto client bytes).length) =
      behind := List.drop_left' (by rw [length]; omega)
  rw [RingMemory.copyIn, if_pos (by rw [List.length_append, length]; omega), front, past, plainBytes]

theorem luaLen_lt (crypto : Crypto Rsa) (client : CAClient Rsa) (bytes : List UInt8) :
    luaLen crypto client bytes < 2 ^ 32 := swapBytes_lt 4 _

/-- What is decompressed, once the payload is decrypted. -/
theorem lua_unpacked (Good : Handled Rsa → Prop) (header : kCABigHeaderLen ≤ bytes.length)
    (finish : Inflated → Handled Rsa) :
    All (Use.Within bytes.length) (do
        let memory ← Logged.lift (RingMemory.copyIn (bytes ++ behind) kCABigHeaderLen
          (plainLua crypto client bytes))
        let field ← readBytes memory kCABigHeaderLen 4
        let inflated := crypto.gzDecompress (memory.drop (kCABigHeaderLen + 4))
          (UInt32.ofNat (ntohl (loadLittle field))).toNat
          (UInt32.ofNat (ntohl (loadLittle field)) * 3).toNat
        Logged.use (.read (kCABigHeaderLen + 4) inflated.read)
        pure (finish inflated)) Good ↔
      kCABigHeaderLen + 4 ≤ bytes.length ∧
        kCABigHeaderLen + 4 + (inflatedLua crypto client bytes behind).read ≤ bytes.length ∧
        Good (finish (inflatedLua crypto client bytes behind)) := by
  have length := @plainBytes_length _ crypto client _ header
  rw [all_bind, all_lift]
  simp only [plain_written header, Option.some.injEq, exists_eq_left']
  rw [← length, all_bind, all_readBytes, length]
  apply and_congr_right
  intro enough
  have field : ntohl (loadLittle (((plainBytes crypto client bytes).drop kCABigHeaderLen).take 4)) =
      luaLen crypto client bytes := by
    rw [plainBytes_behind header]
    rfl
  have number : (UInt32.ofNat (luaLen crypto client bytes)).toNat = luaLen crypto client bytes := by
    rw [UInt32.toNat_ofNat']
    exact Nat.mod_eq_of_lt (luaLen_lt crypto client bytes)
  have tripled : (UInt32.ofNat (luaLen crypto client bytes) * 3).toNat =
      luaLen crypto client bytes * 3 % 2 ^ 32 := by
    rw [UInt32.toNat_mul, number]
    rfl
  have zdata : (plainBytes crypto client bytes ++ behind).drop (kCABigHeaderLen + 4) =
      (plainLua crypto client bytes).drop 4 ++ behind := by
    rw [List.drop_append_of_le_length (by omega), ← List.drop_drop, plainBytes_behind header]
  rw [field, number, tripled, zdata, all_bind, all_use, all_pure]
  rfl

theorem lua_uses (seedp : UInt32) (handler : Option CAHandler)
    (carries : loadBig (bytes.take 4) = bytes.length) :
    Reply.UsesItsBytes crypto client bytes .lua seedp handler behind ↔
      Reply.Contained crypto client bytes .lua behind := by
  rw [Reply.UsesItsBytes, Reply.handle, handleRcvLua, withMessage_memory]
  refine (all_checked .lua _ _ (fun ec1 error _ => breaks_fails client error)).trans ?_
  apply and_congr_right
  intro header
  have header : kCABigHeaderLen ≤ bytes.length := header
  apply imp_congr_right
  intro _
  have nine : kCABigHeaderLen = 9 := rfl
  have four : (bytes.take 4).length = 4 := by rw [List.length_take]; omega
  have short := loadBig_lt (bytes.take 4)
  rw [carries, four] at short
  have pkgLen : ntohl (loadLittle ((bytes.drop 0).take 4)) = bytes.length := by
    have swapped := swapBytes_load (bytes.take 4)
    rw [four, carries] at swapped
    exact swapped
  have inLen : (UInt32.ofNat bytes.length - UInt32.ofNat kCABigHeaderLen).toNat =
      bytes.length - kCABigHeaderLen := by
    rw [UInt32.toNat_sub, UInt32.toNat_ofNat', UInt32.toNat_ofNat']
    omega
  have taken_off : Use.Within bytes.length (.payload bytes.length kCABigHeaderLen) := header
  rw [all_bind, all_readBytes, pkgLen, and_iff_right (by omega), all_bind, all_use,
    and_iff_right taken_off]
  dsimp only
  rw [all_bind, all_readBytes]
  by_cases small : bytes.length - kCABigHeaderLen < 2 ^ 31
  · have count : toSizeT (UInt32.ofNat bytes.length - UInt32.ofNat kCABigHeaderLen).toInt32 =
        bytes.length - kCABigHeaderLen := by rw [toSizeT_small (by rw [inLen]; exact small), inLen]
    have whole : (bytes.drop kCABigHeaderLen).take (bytes.length - kCABigHeaderLen) =
        bytes.drop kCABigHeaderLen := List.take_of_length_le (by rw [List.length_drop])
    rw [count, whole, and_iff_right (by omega)]
    refine (lua_unpacked _ header (client.finishLua handler { rcvBuffer := _ })).trans ?_
    apply and_congr_right
    intro enough
    rw [and_iff_right small]
    constructor
    · rintro ⟨inside, refused⟩
      cases data : (inflatedLua crypto client bytes behind).data with
      | none => exact .inr ⟨rfl, by omega⟩
      | some lua =>
        refine .inl (Decidable.byContradiction fun wrong => ?_)
        have malformed : Reply.Malformed crypto client bytes .lua := by
          right
          omega
        have ends := (refused malformed).ends
        rw [CAClient.finishLua, data] at ends
        cases ends
    · rintro (⟨within, tripled⟩ | ⟨fails, within⟩)
      · have looked := crypto.gz_reads ((plainLua crypto client bytes).drop 4 ++ behind)
          (luaLen crypto client bytes) (luaLen crypto client bytes * 3 % 2 ^ 32)
        have read : (inflatedLua crypto client bytes behind).read ≤ luaLen crypto client bytes := looked
        refine ⟨by omega, ?_⟩
        rintro (short | long | wraps) <;> omega
      · refine ⟨by omega, fun _ => ?_⟩
        rw [CAClient.finishLua, fails]
        exact breaks_fails client (by simp)
  · have count : 2 ^ 32 ≤ toSizeT (UInt32.ofNat bytes.length - UInt32.ofNat kCABigHeaderLen).toInt32 :=
      toSizeT_large (by rw [inLen]; omega)
    constructor
    · rintro ⟨inside, _⟩
      omega
    · rintro ⟨_, within, _⟩
      exact absurd within small

/-- Each reply handler uses only bytes of its message and refuses one that is
malformed exactly when the message is contained. -/
theorem uses_its_bytes_iff (crypto : Crypto Rsa) (client : CAClient Rsa) (reply : Reply)
    (seedp : UInt32) (handler : Option CAHandler) (message : Message) (behind : List UInt8)
    (offset : message.lengthOffset = reply.inputEvent.lengthOffset)
    (size : message.lengthSize = reply.inputEvent.lengthSize) :
    reply.UsesItsBytes crypto client message.bytes seedp handler behind ↔
      reply.Contained crypto client message.bytes behind := by
  have carries := message.carries
  rw [offset, size] at carries
  cases reply with
  | pubKey => exact pubKey_uses seedp handler
  | signature => exact signature_uses seedp handler carries
  | shareKey => exact shareKey_uses seedp handler carries
  | lua => exact lua_uses seedp handler carries

/-! ### Short replies -/

/-- Libraries that find no key in what they are given. -/
def libraries : Crypto Unit where
  readPublicKey := fun _ => none
  privateDecrypt := fun _ _ => none
  digest := fun _ => .zero
  randR := fun seedp => (seedp, 0)
  rc4 := fun _ input => input
  rc4_length := fun _ _ => rfl
  gzDecompress := fun _ _ _ => ⟨0, none⟩
  gz_reads := fun _ nzdata _ => Nat.zero_le nzdata

/-- A reply that ends behind its header. -/
def headerOnly (code : UInt8) : Message where
  bytes := [0, 7, code, 0x53, 0x48, 0x43, 0x41]
  lengthOffset := 0
  lengthSize := 2
  width := ReceiveTlvProofs.two_width
  inside := by
    simp only [List.length_cons]
    omega
  carries := rfl

/-- Libraries that decrypt all but the first byte. -/
def decrypting : Crypto Unit := { libraries with privateDecrypt := fun _ input => some input.tail }

/-- A signature reply with three bytes encrypted. -/
def shortSignature : Message where
  bytes := [0, 10, 0x21, 0x53, 0x48, 0x43, 0x41, 1, 2, 3]
  lengthOffset := 0
  lengthSize := 2
  width := ReceiveTlvProofs.two_width
  inside := by decide
  carries := rfl

theorem short_signature_refused :
    Reply.UsesItsBytes decrypting { clientRsa := some () } shortSignature.bytes .signature 0 none
      [] := by
  apply (uses_its_bytes_iff decrypting _ .signature 0 none shortSignature [] rfl rfl).mpr
  refine ⟨by decide, fun _ out same => ?_⟩
  cases same
  decide

theorem header_only_overrun :
    ¬ ∀ (crypto : Crypto Unit) (client : CAClient Unit) (reply : Reply) (seedp : UInt32)
      (handler : Option CAHandler) (message : Message) (behind : List UInt8),
      message.lengthOffset = reply.inputEvent.lengthOffset →
      message.lengthSize = reply.inputEvent.lengthSize →
        reply.UsesItsBytes crypto client message.bytes seedp handler behind := by
  intro all
  have uses := all libraries {} .pubKey 0 none (headerOnly 0x20) (List.replicate 32761 0) rfl rfl
  have contained := (pubKey_uses 0 none).mp uses
  exact absurd (contained.2 ⟨by decide, by decide⟩) (by decide)

end BeeSdk.CaRepliesProofs
