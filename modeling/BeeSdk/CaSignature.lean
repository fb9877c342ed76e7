import BeeSdk.ByteOrder
import BeeSdk.IStream
import BeeSdk.RingMemory

/-! The signature `CAClient` and the CA server exchange: the bits of four random
words choose bytes of the public key behind its first line, and the words travel
as hexadecimal text beside the digest of the chosen bytes. A read outside the
memory it points into leaves no outcome. -/
namespace BeeSdk.CaSignature
open ByteOrder IStream

def SHA_DIGEST_LENGTH : Nat := 20

/-- `sizeof("-----BEGIN PUBLIC KEY-----")`, the terminator counted. -/
def sizeofBeginPublicKey : Nat := 27

/-- An array of `SHA_DIGEST_LENGTH` bytes. -/
structure Digest where
  bytes : List UInt8
  whole : bytes.length = SHA_DIGEST_LENGTH
  deriving DecidableEq

def Digest.zero : Digest := ⟨List.replicate SHA_DIGEST_LENGTH 0, List.length_replicate⟩

/-- `sha1` into an array of the right size; an empty input leaves it alone. -/
def sha1 (digest : List UInt8 → Digest) (inData : List UInt8) (outData : Digest) : Bool × Digest :=
  if inData = [] then (false, outData) else (true, digest inData)

structure Signature where
  sum : Nat
  r : List UInt8
  hash : Digest
  deriving DecidableEq

def kSignatureLen : Nat := 2 + 32 + SHA_DIGEST_LENGTH

/-- The packed structure as it lies in memory. -/
def Signature.memory (signature : Signature) : List UInt8 :=
  storeLittle 2 signature.sum ++ (signature.r ++ signature.hash.bytes)

/-! ### The checksum -/

/-- The loop over 16-bit words: where it ended and what it summed. -/
def sumWords (buffer : List UInt8) (len : Nat) : Nat → Nat → UInt32 → Option (Nat × UInt32)
  | 0, i, sum => some (i, sum)
  | fuel + 1, i, sum =>
    if i < len then
      buffer[i]?.bind fun high => buffer[i + 1]?.bind fun low =>
        sumWords buffer len fuel (i + 2) (sum + (high.toUInt32 <<< 8 ||| low.toUInt32))
    else some (i, sum)

/-- `check_sum`. -/
def checkSum (buffer : List UInt8) (len : Nat) : Option UInt16 :=
  (sumWords buffer len len 0 0).bind fun (i, (sum : UInt32)) =>
    (if i ≠ len then buffer[len - 1]?.map fun last => sum + last.toUInt32
      else some sum).map fun (total : UInt32) =>
      let folded := (total >>> 16) + (total &&& 0xffff)
      let folded := folded + (folded >>> 16)
      (~~~ folded).toUInt16

/-! ### Making a signature -/

/-- The bytes chosen so far and the position in the key. -/
structure Chosen where
  value : List UInt8 := []
  oriPos : Nat := 0
  deriving DecidableEq

/-- The bits of one word, the lowest first; the four words choose at most the
128 bytes `value` has. -/
def chooseBits (ori : List UInt8) (word : Nat) : List Nat → Chosen → Option Chosen
  | [], chosen => some chosen
  | j :: rest, chosen =>
    if word.testBit j then
      ori[chosen.oriPos]?.bind fun byte =>
        chooseBits ori word rest ⟨chosen.value ++ [byte], chosen.oriPos + 1⟩
    else chooseBits ori word rest { chosen with oriPos := chosen.oriPos + 1 }

/-- The loop over the random words: `r` as it is left, in network order. -/
def chooseWords (randR : UInt32 → UInt32 × UInt32) (ori : List UInt8) :
    Nat → UInt32 → Chosen → Option (List Nat × Chosen)
  | 0, _, chosen => some ([], chosen)
  | count + 1, seedp, chosen =>
    let (seedp, word) := randR seedp
    (chooseBits ori word.toNat (List.range 32) chosen).bind fun chosen =>
      (chooseWords randR ori count seedp chosen).map fun (r, chosen) =>
        (ntohl word.toNat :: r, chosen)

def hexChar (digit : Nat) : UInt8 := UInt8.ofNat (if digit < 10 then 48 + digit else 87 + digit)

/-- `snprintf` of one byte by `%02x`. -/
def hexText (byte : UInt8) : List UInt8 := [hexChar (byte.toNat / 16), hexChar (byte.toNat % 16)]

/-- `create_signature` for a `client_public_key_`, with the time for a seed;
`signature_` is as it was when nothing was made. -/
def createSignature (digest : List UInt8 → Digest) (randR : UInt32 → UInt32 × UInt32)
    (seedp : UInt32) (clientPublicKey : List UInt8) (before : Signature) : Option (Bool × Signature) :=
  if clientPublicKey = [] then some (false, before)
  else
    let ori := (clientPublicKey ++ [0]).drop sizeofBeginPublicKey
    (chooseWords randR ori 4 seedp {}).bind fun (r, chosen) =>
      let (_, hash) := sha1 digest chosen.value .zero
      let signature : Signature := ⟨0, (r.flatMap (storeLittle 4)).flatMap hexText, hash⟩
      (checkSum (signature.memory.drop 2) (kSignatureLen - 2)).map fun sum =>
        (true, { signature with sum := ntohs sum.toNat })

/-! ### Checking a signature -/

/-- `strtol` in base 16 of a text short enough for a `long`: the value and what
`endptr` points at, the text itself when it has no number. -/
def strtol (text : List UInt8) : Int × List UInt8 :=
  let (negative, unsigned) := skipSign (text.dropWhile isSpace)
  let based := skipBase unsigned
  let digits := if (based.takeWhile isHexDigit).isEmpty then unsigned else based
  match digits.takeWhile isHexDigit with
  | [] => (0, text)
  | number =>
    (if negative then -(hexValue number : Int) else hexValue number, digits.dropWhile isHexDigit)

/-- The loop over the hexadecimal text, two characters at a time. A character
that is zero ends the string `strtol` reads. -/
def readHex : List UInt8 → Option (List UInt8)
  | high :: low :: rest =>
    let (value, endptr) := strtol ([high, low].takeWhile (· ≠ 0))
    if endptr ≠ [] then none
    else (readHex rest).map (UInt8.ofNat (value % 256).toNat :: ·)
  | _ => some []

/-- Bytes in memory as an array of `uint32_t`. -/
def loadWords : List UInt8 → List Nat
  | a :: b :: c :: d :: rest => loadLittle [a, b, c, d] :: loadWords rest
  | _ => []

/-- The bits of one word against the key; nothing when the key ends first. -/
def checkBits (pubKey : List UInt8) (pubKeyLength word : Nat) :
    List Nat → Chosen → Option (Option Chosen)
  | [], chosen => some (some chosen)
  | j :: rest, chosen =>
    if pubKeyLength = chosen.oriPos then some none
    else if word.testBit j then
      pubKey[chosen.oriPos]?.bind fun byte =>
        checkBits pubKey pubKeyLength word rest ⟨chosen.value ++ [byte], chosen.oriPos + 1⟩
    else checkBits pubKey pubKeyLength word rest { chosen with oriPos := chosen.oriPos + 1 }

def checkWords (pubKey : List UInt8) (pubKeyLength : Nat) :
    List Nat → Chosen → Option (Option Chosen)
  | [], chosen => some (some chosen)
  | word :: words, chosen =>
    match checkBits pubKey pubKeyLength (ntohl word) (List.range 32) chosen with
    | some (some chosen) => checkWords pubKey pubKeyLength words chosen
    | stopped => stopped

/-- `check_signature`. -/
def checkSignature (digest : List UInt8 → Digest) (signature : List UInt8) (signatureLength : UInt32)
    (pubKey : List UInt8) (pubKeyLength : UInt32) : Option Bool :=
  if signatureLength.toNat ≠ kSignatureLen then some false
  else if pubKeyLength.toNat ≤ sizeofBeginPublicKey then some false
  else
    (RingMemory.copyOut signature 0 2).bind fun sum =>
    (RingMemory.copyOut signature 2 32).bind fun r =>
    (RingMemory.copyOut signature 34 SHA_DIGEST_LENGTH).bind fun hash =>
    (checkSum (signature.drop 2) (signatureLength.toNat - 2)).bind fun computed =>
      if loadLittle sum ≠ ntohs computed.toNat then some false
      else
        match readHex r with
        | none => some false
        | some memory =>
          (checkWords (pubKey.drop sizeofBeginPublicKey) (pubKeyLength.toNat - sizeofBeginPublicKey)
              (loadWords memory) {}).map fun
            | none => false
            | some chosen => decide (hash = (sha1 digest chosen.value .zero).2.bytes)

end BeeSdk.CaSignature
