import BeeSdk.DataPromise
import Mathlib.Algebra.Group.Nat.Defs

/-! The values `Scanf` pushes for a script: `LuaVideoCache::Scanf` takes its bytes
from the ring, `LuaHttpScanfReader::scanf` from a buffer with a read position of
its own. `none` stands for what is undefined: a read that is, a block pushed
although the read did not fill it, and a push beyond the slots of the stack. -/
namespace BeeSdk.ScanfValues
open VideoCache DataPromise ByteOrder RingMemory BoundedFifo

/-- The double whose 64 bits are given, all NaN being one. -/
def double (bits : Nat) : Option Nat :=
  if 0x7FF0000000000000 < bits % 2 ^ 63 then none else some bits

/-- The Lua values the decoders push. -/
inductive Value where
  | integer (v : Int)
  | number (v : Option Nat)
  | string (v : List UInt8)
  deriving DecidableEq

/-! ### One field -/

/-- A variable of `size` bytes that held `v`, with the bytes a read put at its front. -/
def readInto (size v : Nat) (bytes : List UInt8) : Nat :=
  loadLittle (bytes ++ (storeLittle size v).drop bytes.length)

def convert (field : DataField) (v : Nat) : Nat :=
  if field.hton then
    match field.type with
    | .int16 | .uint16 => ntohs v
    | .int32 | .uint32 => ntohl v
    | .int64 | .uint64 => ntohll v
    | _ => v
  else v

/-- `lua_pushinteger` of the unsigned variable, which the eight-byte types narrow
to a `uint32_t`, and `lua_pushnumber`. -/
def pushed (field : DataField) (v : Nat) : Value :=
  match field.type with
  | .int64 | .uint64 => .integer (v % 2 ^ 32 : Nat)
  | .double => .number (double v)
  | _ => .integer v

section Decoder
variable {σ : Type} (read : σ → UInt32 → Option (List UInt8 × σ))

/-- The loop over the elements of a field; `v` keeps what a read leaves of it. -/
def pushElements (field : DataField) : Nat → Nat → σ → Option (List Value × σ)
  | 0, _, source => some ([], source)
  | count + 1, v, source => do
    let (bytes, source) ← read source (UInt32.ofNat (kDataTypeSize field.type))
    let v := convert field (readInto (kDataTypeSize field.type) v bytes)
    let (values, source) ← pushElements field count v source
    pure (pushed field v :: values, source)

/-- The block of a `byte_array` or a `string`, whose memory `new` does not initialise. -/
def readBlock (field : DataField) (source : σ) : Option (List UInt8 × σ) := do
  let (bytes, source) ← read source (UInt32.ofNat field.length)
  if bytes.length < field.length then none else pure (bytes, source)

/-- `lua_pushlstring` takes the whole block, `lua_pushstring` what is in front of
its first zero. -/
def pushField (field : DataField) (source : σ) : Option (List Value × σ) :=
  match field.type with
  | .byteArray => (readBlock read field source).map fun (bytes, source) => ([.string bytes], source)
  | .string =>
    (readBlock read field source).map fun (bytes, source) =>
      ([.string (bytes.takeWhile (· ≠ 0))], source)
  | _ => pushElements read field field.length 0 source

def pushFormat : List DataField → σ → Option (List Value × σ)
  | [], source => some ([], source)
  | field :: format, source => do
    let (first, source) ← pushField read field source
    let (rest, source) ← pushFormat format source
    pure (first ++ rest, source)

/-- The loop over the format, `ret` going up with the fields, on a stack with the
given free slots. -/
def scanfLoop (slots : Nat) (format : List DataField) (source : σ) :
    Option (Int32 × List Value × σ) := do
  let (values, source) ← pushFormat read format source
  if slots < values.length then none else pure (Int32.ofNat format.length, values, source)

end Decoder

/-! ### The two decoders -/

/-- `LuaVideoCache::Scanf`; `l` is the number of free slots of the stack, if there is one. -/
def LuaVideoCache.scanf (cache : LuaVideoCache) (l : Option Nat) (format : List DataField) :
    Option (Int32 × List Value × LuaVideoCache) :=
  match l with
  | none => some (-1, [], cache)
  | some slots =>
    if format = [] then some (-1, [], cache)
    else scanfLoop VideoCache.LuaVideoCache.readData slots format cache

structure LuaHttpScanfReader where
  buff : List UInt8
  size : Nat
  readPos : Nat := 0
  deriving DecidableEq

/-- The bytes stand for what the call leaves in `dst`. -/
def LuaHttpScanfReader.readData (reader : LuaHttpScanfReader) (len : UInt32) :
    Option (List UInt8 × LuaHttpScanfReader) :=
  if reader.size = 0 ∨ len = 0 ∨ reader.size ≤ reader.readPos then some ([], reader)
  else
    let ret := min len.toNat (reader.size - reader.readPos)
    (copyOut reader.buff reader.readPos ret).map fun bytes =>
      (bytes, { reader with readPos := reader.readPos + ret })

/-- `LuaHttpScanfReader::scanf`; `co_` is the number of free slots of the coroutine's stack. -/
def LuaHttpScanfReader.scanf (reader : LuaHttpScanfReader) (co : Option Nat)
    (format : List DataField) : Option (Int32 × List Value × LuaHttpScanfReader) :=
  match co with
  | none => some (0, [], reader)
  | some slots =>
    if format = [] then some (0, [], reader)
    else scanfLoop LuaHttpScanfReader.readData slots format reader

/-! ### What the bytes mean -/

def fieldSize (field : DataField) : Nat := kDataTypeSize field.type * field.length

def formatSize : List DataField → Nat
  | [] => 0
  | field :: format => fieldSize field + formatSize format

/-- The number the bytes are, lowest first or in network order. -/
def numberOf (field : DataField) (bytes : List UInt8) : Nat :=
  if field.hton then loadBig bytes else loadLittle bytes

/-- A number of so many bytes in two's complement. -/
def signed (size number : Nat) : Int :=
  if 2 * number < 256 ^ size then number else number - 256 ^ size

def encodedElement (field : DataField) (bytes : List UInt8) : Value :=
  match field.type with
  | .double => .number (double (numberOf field bytes))
  | .int8 | .int16 | .int32 | .int64 =>
    .integer (signed (kDataTypeSize field.type) (numberOf field bytes))
  | _ => .integer (numberOf field bytes)

def encodedElements (field : DataField) : Nat → List UInt8 → List Value
  | 0, _ => []
  | count + 1, bytes =>
    encodedElement field (bytes.take (kDataTypeSize field.type)) ::
      encodedElements field count (bytes.drop (kDataTypeSize field.type))

def encodedField (field : DataField) (bytes : List UInt8) : List Value :=
  match field.type with
  | .byteArray | .string => [.string (bytes.take field.length)]
  | _ => encodedElements field field.length bytes

/-- The values a format says the bytes hold. -/
def encoded : List DataField → List UInt8 → List Value
  | [], _ => []
  | field :: format, bytes =>
    encodedField field bytes ++ encoded format (bytes.drop (fieldSize field))

/-- How many values a format stands for. -/
def valueCount : List DataField → Nat
  | [] => 0
  | field :: format =>
    (match field.type with
      | .byteArray | .string => 1
      | _ => field.length) + valueCount format

/-! ### When they are what is pushed -/

/-- The unsigned variable, its narrowing, the swap of the two halves and the number
that is never swapped lose nothing of the element, and no zero ends the string. -/
def PushedRight (field : DataField) (bytes : List UInt8) : Prop :=
  match field.type with
  | .int8 | .int16 | .int32 => 2 * numberOf field bytes < 256 ^ kDataTypeSize field.type
  | .int64 | .uint64 =>
    numberOf field bytes < 2 ^ 32 ∧ (field.hton = true → numberOf field bytes = 0)
  | .double => field.hton = true → double (loadLittle bytes) = double (loadBig bytes)
  | .string => 0 ∉ bytes
  | _ => True

/-- Every field stands for one value and that is pushed as it is encoded. -/
def FormatRight : List DataField → List UInt8 → Prop
  | [], _ => True
  | field :: format, bytes =>
    (field.type = .byteArray ∨ field.type = .string ∨ field.length = 1) ∧
      PushedRight field (bytes.take (fieldSize field)) ∧
      FormatRight format (bytes.drop (fieldSize field))

/-- The first of the reads does not step out of a full ring. -/
def FirstInside (cache : LuaVideoCache) (reads : List UInt32) : Prop :=
  ∀ len ∈ reads.head?, ¬ ReadsPastEnd cache len

/-- `Scanf` reports as many results as the bytes hold values, and those are pushed. -/
def Returned (slots : Nat) (cache : LuaVideoCache) (format : List DataField)
    (bytes : List UInt8) : Prop :=
  ∃ ret next, LuaVideoCache.scanf cache (some slots) format =
    some (ret, encoded format bytes, next) ∧ ret.toInt = (encoded format bytes).length

/-- What is left of the buffer is what the reader holds. -/
def LuaHttpScanfReader.Holds (reader : LuaHttpScanfReader) (bytes : List UInt8) : Prop :=
  reader.size = reader.buff.length ∧ reader.buff.drop reader.readPos = bytes

/-- Both decoders push the same values, report the same count and take the format's
total size. -/
def Agree (l co : Nat) (cache : LuaVideoCache) (reader : LuaHttpScanfReader)
    (format : List DataField) (queue : Fifo UInt8) : Prop :=
  ∃ ret values next after,
    LuaVideoCache.scanf cache (some l) format = some (ret, values, next) ∧
      reader.scanf (some co) format = some (ret, values, after) ∧
      Represents next (queue.drop (formatSize format)) ∧
      after.readPos = reader.readPos + formatSize format

end BeeSdk.ScanfValues
