import BeeSdk.CaSignature
import BeeSdk.IOBuffer
import BeeSdk.LoggedAccess
import BeeSdk.ReceiveTlv
import BeeSdk.StateMachine

/-! What `CAClient` does with the four replies of a CA server. A handler reads the
memory the receiving state points to, whatever the length of the message that was
received into it; each use of this memory is logged, and a read or write outside a
block of memory leaves nothing defined. -/
namespace BeeSdk.CaReplies
open ByteOrder CaSignature StateMachine

def CA_MARK : Nat := 0x53484341
def CA_CLIENT_PUBLIC_KEY : Nat := 0x20
def CA_CLIENT_SIGNATURE : Nat := 0x21
def CA_REPLY_ENCRYPT_BIGLUA : Nat := 0x24
def CA_REPLY_ENCRYPT_MD5 : Nat := 0x25

def PUBLIC_KEY_LENGTH : Nat := 272
def ENCRYPT_KEY_SIZE : Nat := 16
def CA_MD5_SIZE : Nat := 32

/-- `sizeof(CAHeader)`: the length, the code and the mark, packed. -/
def kCAHeaderLen : Nat := 7

/-- `sizeof(CABigHeader)`, with a length of four bytes. -/
def kCABigHeaderLen : Nat := 9

/-- `sizeof(CAKey)`. -/
def sizeofCAKey : Nat := 8 + ENCRYPT_KEY_SIZE + CA_MD5_SIZE

def eCAState_Resolve : Int := 0
def eCAState_ConnectCA : Int := 1
def eCAState_SendPubKey : Int := 2
def eCAState_RcvPubKey : Int := 3
def eCAState_SendSignature : Int := 4
def eCAState_RcvSignature : Int := 5
def eCAState_RequestShareKey : Int := 6
def eCAState_RcvShareKey : Int := 7
def eCAState_RequestLua : Int := 8
def eCAState_RcvLua : Int := 9

/-- What `gz_decompress` does: how much of its input it looks at, and the output
unless it returns -1. -/
structure Inflated where
  read : Nat
  data : Option (List UInt8)
  deriving DecidableEq

/-- The functions of the libraries. A stream cipher gives as many bytes as it takes,
and a decompressor looks at no more input than it is given. -/
structure Crypto (Rsa : Type) where
  readPublicKey : List UInt8 → Option Rsa
  privateDecrypt : Rsa → List UInt8 → Option (List UInt8)
  digest : List UInt8 → Digest
  randR : UInt32 → UInt32 × UInt32
  rc4 : List UInt8 → List UInt8 → List UInt8
  rc4_length : ∀ key input, (rc4 key input).length = input.length
  gzDecompress : List UInt8 → Nat → Nat → Inflated
  gz_reads : ∀ zdata nzdata ndata, (gzDecompress zdata nzdata ndata).read ≤ nzdata

/-- The client. A key it has generated is long enough to be signed with. -/
structure CAClient (Rsa : Type) where
  clientRsa : Option Rsa := none
  serverRsa : Option Rsa := none
  clientPublicKey : List UInt8 := []
  serverPublicKey : List UInt8 := []
  signature : Signature := ⟨0, List.replicate 32 0, .zero⟩
  lua : List UInt8 := []
  luaMd5 : List UInt8 := []
  gslbKey : List UInt8 := []
  gslbTs : Nat := 0
  generated : clientPublicKey = [] ∨ sizeofBeginPublicKey + 128 ≤ clientPublicKey.length := by
    exact .inl rfl

/-- The `CAHandler` and what it answers. -/
structure CAHandler where
  checkLuaMd5 : List UInt8 → Bool

/-- What the handler is told. -/
inductive Told where
  | checkLuaMd5 (md5 : List UInt8) (same : Bool)
  | handleCaData (ec1 : BeeErrorCode) (ec2 : ErrorCode) (lua md5 gslbKey : List UInt8) (gslbTs : Nat)
  deriving DecidableEq

/-- What a reply handler finds in its event. -/
structure Received where
  ec1 : BeeErrorCode := .success
  ec2 : ErrorCode := .none
  rcvBuffer : Option (List UInt8)
  deriving DecidableEq

/-- What it leaves: the state it names, `ev->ec1`, the client and what was told. -/
structure Handled (Rsa : Type) where
  next : Int
  ec1 : BeeErrorCode
  client : CAClient Rsa
  told : List Told := []

/-- A use of the memory a message was received into, a header length taken off the
length of a message, and a structure read from bytes of which only so many are
there. -/
inductive Use where
  | read (offset count : Nat)
  | payload (pkgLen headerLen : Nat)
  | struct (size held : Nat)
  deriving DecidableEq

abbrev Access := Logged Use

/-- Bytes a handler reads or hands on. -/
def readBytes (memory : List UInt8) (offset count : Nat) : Access (List UInt8) := do
  Logged.use (.read offset count)
  Logged.lift (RingMemory.copyOut memory offset count)

section Handlers

variable {Rsa : Type}

/-- `ev->ec1` is set and the handler ends. -/
def CAClient.breaks (client : CAClient Rsa) (ec1 : BeeErrorCode) : Handled Rsa :=
  { next := kInvalidState, ec1, client }

/-- How every reply handler begins: an event that failed or points nowhere ends it. -/
def withMessage (client : CAClient Rsa) (ev : Received)
    (handle : List UInt8 → Access (Handled Rsa)) : Access (Handled Rsa) :=
  if ev.ec1 ≠ .success ∨ ev.ec2.isError then pure (client.breaks ev.ec1)
  else
    match ev.rcvBuffer with
    | none => pure (client.breaks .nullPointer)
    | some memory => handle memory

/-- The mark and the code of a header with a length of `lengthSize` bytes. -/
def checkHeader (memory : List UInt8) (lengthSize code : Nat) : Access (Option BeeErrorCode) := do
  let mark ← readBytes memory (lengthSize + 1) 4
  if ntohl (loadLittle mark) ≠ CA_MARK then pure (some .invalidProtocolMark)
  else do
    let found ← readBytes memory lengthSize 1
    if loadLittle found ≠ code then pure (some .invalidMessage) else pure none

/-- `process_server_rsa_key`. -/
def CAClient.processServerRsaKey (client : CAClient Rsa) (crypto : Crypto Rsa)
    (pubKey : List UInt8) : Bool × CAClient Rsa :=
  let serverRsa := crypto.readPublicKey pubKey
  (serverRsa.isSome, { client with serverPublicKey := pubKey, serverRsa })

def handleRcvPubKey (crypto : Crypto Rsa) (seedp : UInt32) (client : CAClient Rsa)
    (ev : Received) : Access (Handled Rsa) :=
  withMessage client ev fun memory => do
    match ← checkHeader memory 2 CA_CLIENT_PUBLIC_KEY with
    | some ec1 => pure (client.breaks ec1)
    | none =>
      let pubKey ← readBytes memory kCAHeaderLen PUBLIC_KEY_LENGTH
      let (accepted, client) := client.processServerRsaKey crypto pubKey
      if ¬ accepted then pure (client.breaks .cryptoError)
      else do
        let (made, signature) ← Logged.lift
          (createSignature crypto.digest crypto.randR seedp client.clientPublicKey client.signature)
        let client := { client with signature }
        if ¬ made then pure (client.breaks .signatureError)
        else pure { next := eCAState_SendSignature, ec1 := ev.ec1, client }

/-- `rsa_decrypt`; nothing where it fails. -/
def rsaDecrypt (crypto : Crypto Rsa) (rsa : Option Rsa) (inData : List UInt8) :
    Option (List UInt8) :=
  rsa.bind fun rsa => if inData = [] then none else crypto.privateDecrypt rsa inData

/-- How `RcvSignature` and `RcvShareKey` come by the decrypted payload: the buffer
it is written into, which is as long as the payload, and `out_len`. -/
def decryptPayload (crypto : Crypto Rsa) (client : CAClient Rsa) (memory : List UInt8) :
    Access (Option (List UInt8 × Nat)) := do
  let length ← readBytes memory 0 2
  let pkgLen := ntohs (loadLittle length)
  Logged.use (.payload pkgLen kCAHeaderLen)
  let inLen := UInt32.ofNat pkgLen - UInt32.ofNat kCAHeaderLen
  let inData ← readBytes memory kCAHeaderLen inLen.toNat
  match rsaDecrypt crypto client.clientRsa inData with
  | none => pure none
  | some out =>
    let decBuff ← Logged.lift (RingMemory.copyIn (IOBuffer.ofCapacity inLen.toNat).buffer 0 out)
    pure (some (decBuff, out.length))

def handleRcvSignature (crypto : Crypto Rsa) (client : CAClient Rsa) (ev : Received) :
    Access (Handled Rsa) :=
  withMessage client ev fun memory => do
    match ← checkHeader memory 2 CA_CLIENT_SIGNATURE with
    | some ec1 => pure (client.breaks ec1)
    | none =>
      match ← decryptPayload crypto client memory with
      | none => pure (client.breaks .cryptoError)
      | some (decBuff, outLen) =>
        let accepted ← Logged.lift (checkSignature crypto.digest decBuff (UInt32.ofNat outLen)
          client.serverPublicKey (UInt32.ofNat client.serverPublicKey.length))
        if ¬ accepted then pure (client.breaks .signatureError)
        else pure { next := eCAState_RequestShareKey, ec1 := ev.ec1, client }

def handleRcvShareKey (crypto : Crypto Rsa) (handler : Option CAHandler) (client : CAClient Rsa)
    (ev : Received) : Access (Handled Rsa) :=
  withMessage client ev fun memory => do
    match ← checkHeader memory 2 CA_REPLY_ENCRYPT_MD5 with
    | some ec1 => pure (client.breaks ec1)
    | none =>
      match ← decryptPayload crypto client memory with
      | none => pure (client.breaks .cryptoError)
      | some (decBuff, outLen) =>
        Logged.use (.struct sizeofCAKey outLen)
        let rs ← Logged.lift (RingMemory.copyOut decBuff 0 sizeofCAKey)
        let client := { client with
          gslbTs := ntohll (loadLittle (rs.take 8))
          gslbKey := (rs.drop 8).take ENCRYPT_KEY_SIZE
          luaMd5 := rs.drop (8 + ENCRYPT_KEY_SIZE) }
        match handler with
        | none => pure { next := eCAState_RequestLua, ec1 := ev.ec1, client }
        | some handler =>
          let sameVersion := handler.checkLuaMd5 client.luaMd5
          pure {
            next := if sameVersion then kFinishedState else eCAState_RequestLua
            ec1 := ev.ec1, client
            told := [.checkLuaMd5 client.luaMd5 sameVersion] }

/-- How `RcvLua` ends: the script is kept and handed to the handler. -/
def CAClient.finishLua (client : CAClient Rsa) (handler : Option CAHandler) (ev : Received)
    (inflated : Inflated) : Handled Rsa :=
  match inflated.data with
  | none => client.breaks .decompressError
  | some lua =>
    { next := kFinishedState
      ec1 := ev.ec1
      client := { client with lua }
      told := if handler.isSome then
          [.handleCaData .success ev.ec2 lua client.luaMd5 client.gslbKey client.gslbTs]
        else [] }

def handleRcvLua (crypto : Crypto Rsa) (handler : Option CAHandler) (client : CAClient Rsa)
    (ev : Received) : Access (Handled Rsa) :=
  withMessage client ev fun memory => do
    match ← checkHeader memory 4 CA_REPLY_ENCRYPT_BIGLUA with
    | some ec1 => pure (client.breaks ec1)
    | none =>
      let length ← readBytes memory 0 4
      let pkgLen := ntohl (loadLittle length)
      Logged.use (.payload pkgLen kCABigHeaderLen)
      let inLen := UInt32.ofNat pkgLen - UInt32.ofNat kCABigHeaderLen
      -- `rc4` takes its length as an `int32_t` and works in place.
      let input ← readBytes memory kCABigHeaderLen (toSizeT inLen.toInt32)
      let memory ← Logged.lift
        (RingMemory.copyIn memory kCABigHeaderLen (crypto.rc4 client.gslbKey input))
      let field ← readBytes memory kCABigHeaderLen 4
      let luaLen := UInt32.ofNat (ntohl (loadLittle field))
      let dzLen := luaLen * 3
      let inflated := crypto.gzDecompress (memory.drop (kCABigHeaderLen + 4)) luaLen.toNat dzLen.toNat
      Logged.use (.read (kCABigHeaderLen + 4) inflated.read)
      pure (client.finishLua handler ev inflated)

end Handlers

/-- The four replies. -/
inductive Reply where
  | pubKey
  | signature
  | shareKey
  | lua
  deriving DecidableEq

/-- `Transform_To_RcvTlv` and `Transform_To_RcvBigTlv`: where the message has its
length. -/
def Reply.inputEvent : Reply → ReceiveTlv.TcpRcvTlvInputEvent
  | .pubKey | .signature | .shareKey => ⟨true, 0, 2⟩
  | .lua => ⟨true, 0, 4⟩

def Reply.handle (crypto : Crypto Rsa) (seedp : UInt32) (handler : Option CAHandler)
    (client : CAClient Rsa) (ev : Received) : Reply → Access (Handled Rsa)
  | .pubKey => handleRcvPubKey crypto seedp client ev
  | .signature => handleRcvSignature crypto client ev
  | .shareKey => handleRcvShareKey crypto handler client ev
  | .lua => handleRcvLua crypto handler client ev

/-! ### What a message may do -/

def Reply.headerLen : Reply → Nat
  | .pubKey | .signature | .shareKey => kCAHeaderLen
  | .lua => kCABigHeaderLen

def Reply.code : Reply → Nat
  | .pubKey => CA_CLIENT_PUBLIC_KEY
  | .signature => CA_CLIENT_SIGNATURE
  | .shareKey => CA_REPLY_ENCRYPT_MD5
  | .lua => CA_REPLY_ENCRYPT_BIGLUA

/-- The mark and the code are those of the reply. -/
def Reply.Addressed (reply : Reply) (bytes : List UInt8) : Prop :=
  ntohl (loadLittle ((bytes.drop (reply.inputEvent.lengthSize + 1)).take 4)) = CA_MARK ∧
    loadLittle ((bytes.drop reply.inputEvent.lengthSize).take 1) = reply.code

/-- The use is of bytes of a message of this length, or of bytes that are there. -/
def Use.Within (length : Nat) : Use → Prop
  | .read offset count => offset + count ≤ length
  | .payload pkgLen headerLen => headerLen ≤ pkgLen
  | .struct size held => size ≤ held

section Messages

variable {Rsa : Type} (crypto : Crypto Rsa) (client : CAClient Rsa) (bytes : List UInt8)

def decrypted : Option (List UInt8) :=
  rsaDecrypt crypto client.clientRsa (bytes.drop kCAHeaderLen)

/-- A script as it is received, and the length it gives itself. -/
def plainLua : List UInt8 := crypto.rc4 client.gslbKey (bytes.drop kCABigHeaderLen)

def luaLen : Nat := ntohl (loadLittle ((plainLua crypto client bytes).take 4))

/-- What the decompressor is asked for, in the memory the message lies in. -/
def inflatedLua (behind : List UInt8) : Inflated :=
  crypto.gzDecompress ((plainLua crypto client bytes).drop 4 ++ behind) (luaLen crypto client bytes)
    (luaLen crypto client bytes * 3 % 2 ^ 32)

/-- The message is too short for its reply, or gives a length that is wrong. -/
def Reply.Malformed : Reply → Prop
  | .pubKey => bytes.length < kCAHeaderLen + PUBLIC_KEY_LENGTH
  | .signature => bytes.length < kCAHeaderLen
  | .shareKey => bytes.length < kCAHeaderLen ∨
    ∃ out, decrypted crypto client bytes = some out ∧ out.length < sizeofCAKey
  | .lua => bytes.length < kCABigHeaderLen + 4 ∨
    bytes.length - (kCABigHeaderLen + 4) < luaLen crypto client bytes ∨
    2 ^ 32 ≤ luaLen crypto client bytes * 3

/-- The run ends with an error and nothing received is kept. -/
structure Handled.Fails (handled : Handled Rsa) (before : CAClient Rsa) : Prop where
  ends : handled.next = kInvalidState
  error : handled.ec1 ≠ .success
  lua : handled.client.lua = before.lua
  luaMd5 : handled.client.luaMd5 = before.luaMd5
  gslbKey : handled.client.gslbKey = before.gslbKey
  gslbTs : handled.client.gslbTs = before.gslbTs

/-- The handler uses only bytes of the message, and refuses one that is malformed.
Behind the message lie other bytes of the buffer it was received into. -/
def Reply.UsesItsBytes (reply : Reply) (seedp : UInt32) (handler : Option CAHandler)
    (behind : List UInt8) : Prop :=
  Logged.All (Use.Within bytes.length)
    (reply.handle crypto seedp handler client { rcvBuffer := some (bytes ++ behind) })
    fun handled => reply.Malformed crypto client bytes → handled.Fails client

/-- The header is all there; so is a public key under its mark and code, a decrypted
payload fits the buffer it is written into and a key fits in it, and a script is
as long as it says, of a length that can be tripled, unless the decompressor fails
before it leaves the message. -/
def Reply.Contained (reply : Reply) (behind : List UInt8) : Prop :=
  reply.headerLen ≤ bytes.length ∧ (reply.Addressed bytes →
    match reply with
    | .pubKey => kCAHeaderLen + PUBLIC_KEY_LENGTH ≤ bytes.length
    | .signature => ∀ out, decrypted crypto client bytes = some out →
      out.length ≤ bytes.length - kCAHeaderLen
    | .shareKey => ∀ out, decrypted crypto client bytes = some out →
      out.length ≤ bytes.length - kCAHeaderLen ∧ sizeofCAKey ≤ out.length
    | .lua => kCABigHeaderLen + 4 ≤ bytes.length ∧ bytes.length - kCABigHeaderLen < 2 ^ 31 ∧
      (luaLen crypto client bytes ≤ bytes.length - (kCABigHeaderLen + 4) ∧
          luaLen crypto client bytes * 3 < 2 ^ 32 ∨
        (inflatedLua crypto client bytes behind).data = none ∧
          (inflatedLua crypto client bytes behind).read ≤ bytes.length - (kCABigHeaderLen + 4)))

end Messages

end BeeSdk.CaReplies
