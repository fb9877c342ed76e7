import BeeSdk.RingMemory
import BeeSdk.BoundedFifo

/-! `LuaVideoCache`: the byte ring between a downloader and the script that
plays what it downloads. `use_` and `tail_` are free-running 32-bit counters;
every access reduces them modulo `size_`. `none` stands for the two ways a call
is undefined: a division by a zero `size_` and a `memcpy` that leaves
`buffer_`. -/
namespace BeeSdk.VideoCache
open RingMemory BoundedFifo

/-- What a caller passes as `(buf, len)`: bytes a `uint32_t` can count. -/
structure Source where
  bytes : List UInt8
  counted : bytes.length < 2 ^ 32

def Source.len (buf : Source) : UInt32 := UInt32.ofNat buf.bytes.length

structure LuaVideoCache where
  buffer : List UInt8
  use : UInt32
  tail : UInt32
  size : UInt32

namespace LuaVideoCache

/-- `LuaVideoCache::LuaVideoCache`. The memory `new` returns is not
initialised, so it is an argument. -/
def construct (memory : Vector UInt8 2097152) : LuaVideoCache where
  buffer := memory.toList
  use := 0
  tail := 0
  size := 2097152

/-- The `%` of two `uint32_t`, undefined for a zero divisor. -/
def modulo (dividend divisor : UInt32) : Option UInt32 :=
  if divisor = 0 then none else some (dividend % divisor)

def getSpaceSize (cache : LuaVideoCache) (expectSize : UInt32) : UInt32 :=
  let space := cache.size - (cache.tail - cache.use)
  if expectSize > space then space else expectSize

def getDataSize (cache : LuaVideoCache) : UInt32 := cache.tail - cache.use

def writeData (cache : LuaVideoCache) (buf : Source) : Option (UInt32 × LuaVideoCache) := do
  let tail ← modulo cache.tail cache.size
  let use ← modulo cache.use cache.size
  let space := cache.getSpaceSize (-1)
  let len := if buf.len > space then space else buf.len
  let advanced := { cache with tail := cache.tail + len }
  if use > tail then
    let buffer ← copyIn cache.buffer tail.toNat (buf.bytes.take len.toNat)
    pure (len, { advanced with buffer })
  else
    let l := cache.size - tail
    if l ≥ len then
      let buffer ← copyIn cache.buffer tail.toNat (buf.bytes.take len.toNat)
      pure (len, { advanced with buffer })
    else
      let buffer ← copyIn cache.buffer tail.toNat (buf.bytes.take l.toNat)
      let buffer ← copyIn buffer 0 ((buf.bytes.take len.toNat).drop l.toNat)
      pure (len, { advanced with buffer })

/-- The bytes stand for what the call leaves in the caller's `buf`. -/
def readData (cache : LuaVideoCache) (len : UInt32) : Option (List UInt8 × LuaVideoCache) := do
  let tail ← modulo cache.tail cache.size
  let use ← modulo cache.use cache.size
  let dataSize := cache.tail - cache.use
  let len := if len > dataSize then dataSize else len
  let advanced := { cache with use := cache.use + len }
  if use > tail then
    let l := cache.size - use
    if l ≥ len then
      let bytes ← copyOut cache.buffer use.toNat len.toNat
      pure (bytes, advanced)
    else
      let first ← copyOut cache.buffer use.toNat l.toNat
      let second ← copyOut cache.buffer 0 (len - l).toNat
      pure (first ++ second, advanced)
  else
    let bytes ← copyOut cache.buffer use.toNat len.toNat
    pure (bytes, advanced)

def clearData (cache : LuaVideoCache) : LuaVideoCache := { cache with use := 0, tail := 0 }

def skipData (cache : LuaVideoCache) (size : UInt32) : UInt32 × LuaVideoCache :=
  let dataSize := cache.tail - cache.use
  if dataSize > size then (size, { cache with use := cache.use + size })
  else (dataSize, { cache with use := 0, tail := 0 })

/-- `tmp` is the new block as the allocation returns it; what `ReadData` copies
lands at its front. -/
def resetSize (cache : LuaVideoCache) (size : UInt32) (tmp : Vector UInt8 size.toNat) :
    Option LuaVideoCache := do
  let (bytes, _) ← cache.readData size
  pure { buffer := bytes ++ tmp.toList.drop bytes.length, use := 0,
         tail := UInt32.ofNat bytes.length, size := size }

end LuaVideoCache

/-- The public calls that move bytes or positions. The Lua bindings and the
promises of `SyncReadData`, `Scanf` and `WaitUntil` reach the ring only through
them. -/
inductive Call where
  | writeData (buf : Source)
  | readData (len : UInt32)
  | clearData
  | skipData (size : UInt32)
  | resetSize (size : UInt32) (tmp : Vector UInt8 size.toNat)

/-- What a call hands back to its caller. -/
inductive Result where
  | wrote (len : UInt32)
  | read (bytes : List UInt8)
  | skipped (len : UInt32)
  | nothing

def step (cache : LuaVideoCache) : Call → Option (Result × LuaVideoCache)
  | .writeData buf => (cache.writeData buf).map fun (len, next) => (.wrote len, next)
  | .readData len => (cache.readData len).map fun (bytes, next) => (.read bytes, next)
  | .clearData => some (.nothing, cache.clearData)
  | .skipData size => some (.skipped (cache.skipData size).1, (cache.skipData size).2)
  | .resetSize size tmp => (cache.resetSize size tmp).map fun next => (.nothing, next)

/-! ### What the cache is for -/

/-- The queue operation a call stands for. -/
def Call.request : Call → Request UInt8
  | .writeData buf => .write buf.bytes
  | .readData len => .read len.toNat
  | .clearData => .clear
  | .skipData size => .skip size.toNat
  | .resetSize size _ => .resize size.toNat

/-- What of a queue operation the caller of the cache gets to see. -/
def shown : Moved UInt8 → Result
  | .wrote items => .wrote (UInt32.ofNat items.length)
  | .took items => .read items
  | .skipped items => .skipped (UInt32.ofNat items.length)
  | .cleared _ => .nothing
  | .resized _ => .nothing

def specStep (queue : Fifo UInt8) (call : Call) : Moved UInt8 × Fifo UInt8 :=
  queue.step call.request

/-- The ring holds the queue: its counters say how many bytes are stored and
the stored bytes lie from `use_` on. The counters may pass 2^32 only where the
modulus divides it; otherwise `tail_` is still ahead of `use_` as a number. -/
structure Represents (cache : LuaVideoCache) (queue : Fifo UInt8) : Prop where
  block : cache.buffer.length = cache.size.toNat
  capacity : queue.capacity = cache.size.toNat
  count : (cache.tail - cache.use).toNat = queue.contents.length
  aligned : cache.size.toNat ∣ 2 ^ 32 ∨
    cache.use.toNat + queue.contents.length = cache.tail.toNat
  holds : Holds cache.buffer cache.use.toNat queue.contents

/-- A read of a full ring that would have to wrap: both positions reduce to the
same index, which the read path takes for "not wrapped". -/
def ReadsPastEnd (cache : LuaVideoCache) (len : UInt32) : Prop :=
  cache.tail - cache.use = cache.size ∧
    cache.size.toNat < (cache.use % cache.size).toNat + min len.toNat cache.size.toNat

/-- No read is one that runs past the end of the block. -/
def ReadsInside (cache : LuaVideoCache) : Call → Prop
  | .readData len => ¬ ReadsPastEnd cache len
  | _ => True

/-- The modulus is not zero where the call reduces by it, no read runs past the
end, and `tail_` passes 2^32 only under a modulus that divides it. -/
def StaysDefined (cache : LuaVideoCache) : Call → Prop
  | .writeData buf => cache.size ≠ 0 ∧
    (cache.size.toNat ∣ 2 ^ 32 ∨
      cache.tail.toNat + min buf.bytes.length (cache.getSpaceSize (-1)).toNat < 2 ^ 32)
  | .readData len => cache.size ≠ 0 ∧ ¬ ReadsPastEnd cache len
  | .resetSize size _ => cache.size ≠ 0 ∧ ¬ ReadsPastEnd cache size
  | .clearData => True
  | .skipData _ => True

end BeeSdk.VideoCache
