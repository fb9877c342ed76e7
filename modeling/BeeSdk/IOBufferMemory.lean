import BeeSdk.IOBufferQueue
import BeeSdk.Runs

/-! `IOBuffer`s in memory. Every buffer owns an array that `new` made, known by its address;
what is moved is moved between arrays, and a buffer made from another one has an array of
its own. -/
namespace BeeSdk.IOBufferMemory
open ByteFields Runs

structure Block where
  base : Nat
  bytes : List UInt8

/-- The members of an `IOBuffer`. -/
structure Members where
  beginOffset : Nat
  endOffset : Nat
  /-- Which array `buffer_` owns, none while it is null. -/
  buffer : Option Nat
  bufferCapacity : Nat

structure Memory where
  blocks : List Block := []
  buffers : List Members := []

/-- What `new` comes to: where the array is and what its bytes happen to be. -/
structure Fresh where
  base : Nat
  contents : List UInt8

inductive Request where
  | ofCapacity (capacity : Nat) (fresh : Fresh)
  | ofString (str : List UInt8) (fresh : Fresh)
  | ofBytes (bytes : List UInt8) (fresh : Fresh)
  | clone (buffer : Nat) (fresh : Fresh)
  | dataBuffer (buffer : Nat) (fresh : Fresh)
  | clear (buffer : Nat)
  | resize (buffer : Nat) (length : Nat)
  | fill (buffer : Nat) (data : Nat)
  | consume (buffer : Nat) (count : Nat)
  | produce (buffer : Nat) (count : Nat)
  | align (buffer : Nat)

inductive Reply where
  | nothing
  /-- A buffer has been made. -/
  | buffer (buffer : Nat)
  /-- `fill` has moved this many bytes. -/
  | filled (count : Nat)

namespace Members

def empty (members : Members) : Bool := members.beginOffset = members.endOffset

def size (members : Members) : Nat := (members.endOffset + 2 ^ 64 - members.beginOffset) % 2 ^ 64

def freespace (members : Members) : Nat :=
  (members.bufferCapacity + 2 ^ 64 - members.endOffset) % 2 ^ 64

def clear (members : Members) : Members := { members with beginOffset := 0, endOffset := 0 }

def consume (members : Members) (count : Nat) : Members :=
  let members := { members with beginOffset := (members.beginOffset + count) % 2 ^ 64 }
  if members.empty then members.clear else members

def produce (members : Members) (count : Nat) : Members :=
  { members with endOffset := (members.endOffset + count) % 2 ^ 64 }

end Members

namespace Memory

/-- The array behind a pointer; null points to no bytes at all. -/
def bytes (memory : Memory) : Option Nat → List UInt8
  | none => []
  | some array => ((memory.blocks[array]?).map (·.bytes)).getD []

def base (memory : Memory) : Option Nat → Nat
  | none => 0
  | some array => ((memory.blocks[array]?).map (·.base)).getD 0

def setBytes (memory : Memory) (array : Option Nat) (bytes : List UInt8) : Memory :=
  match array with
  | none => memory
  | some array =>
    { memory with blocks := memory.blocks.modify array fun block => { block with bytes := bytes } }

/-- The source of a move. Undefined where it leaves the array. -/
def read (memory : Memory) (array : Option Nat) (offset count : Nat) : Option (List UInt8) :=
  if offset + count ≤ (memory.bytes array).length then
    some (((memory.bytes array).drop offset).take count)
  else none

/-- The destination of a move. Undefined where it leaves the array. -/
def write (memory : Memory) (array : Option Nat) (offset : Nat) (data : List UInt8) :
    Option Memory :=
  if offset + data.length ≤ (memory.bytes array).length then
    some (memory.setBytes array (overwritten (memory.bytes array) offset data))
  else none

/-- `new byte_type[capacity]`, not called for no bytes. What a process allocates lies in the
lower half of the address space and not at null. -/
def newArray (memory : Memory) (fresh : Fresh) (capacity : Nat) : Option (Option Nat × Memory) :=
  if capacity = 0 then some (none, memory)
  else if fresh.contents.length = capacity ∧ 0 < fresh.base ∧ fresh.base + capacity ≤ 2 ^ 63 then
    some (some memory.blocks.length,
      { memory with blocks := memory.blocks ++ [⟨fresh.base, fresh.contents⟩] })
  else none

def put (memory : Memory) (buffer : Nat) (members : Members) : Memory :=
  { memory with buffers := memory.buffers.set buffer members }

def push (memory : Memory) (members : Members) : Memory :=
  { memory with buffers := memory.buffers ++ [members] }

/-- `IOBuffer(capacity)`. -/
def ofCapacity (memory : Memory) (capacity : Nat) (fresh : Fresh) : Option (Members × Memory) := do
  let (array, memory) ← memory.newArray fresh capacity
  some (⟨0, capacity, array, capacity⟩, memory)

/-- `IOBuffer(bytes, bytes_len)` and, with the bytes of a string, `IOBuffer(str)`. -/
def ofBytes (memory : Memory) (bytes : List UInt8) (fresh : Fresh) : Option (Members × Memory) := do
  let (array, memory) ← memory.newArray fresh bytes.length
  let memory ← memory.write array 0 bytes
  some (⟨0, bytes.length, array, bytes.length⟩, memory)

def clone (memory : Memory) (members : Members) (fresh : Fresh) : Option (Members × Memory) := do
  let bytes ← memory.read members.buffer 0 members.bufferCapacity
  let (newbuf, memory) ← memory.ofBytes bytes fresh
  some ({ newbuf with beginOffset := members.beginOffset, endOffset := members.endOffset }, memory)

def dataBuffer (memory : Memory) (members : Members) (fresh : Fresh) :
    Option (Members × Memory) := do
  let bytes ← memory.read members.buffer members.beginOffset members.size
  memory.ofBytes bytes fresh

/-- The unread bytes are moved to the beginning of the array. -/
def moveToFront (memory : Memory) (members : Members) : Option Memory := do
  let bytes ← memory.read members.buffer members.beginOffset members.size
  memory.write members.buffer 0 bytes

def resize (memory : Memory) (members : Members) (length : Nat) : Option (Members × Memory) :=
  if (members.beginOffset + length) % 2 ^ 64 ≤ members.bufferCapacity then
    some ({ members with endOffset := (members.beginOffset + length) % 2 ^ 64 }, memory)
  else do
    let memory ← memory.moveToFront members
    some ({ members with beginOffset := 0, endOffset := length }, memory)

/-- Two stretches of one array have bytes in common, so that `memcpy` must not move one to the
other. -/
def Overlap (members data : Members) (count : Nat) : Prop :=
  members.buffer = data.buffer ∧ members.endOffset < data.beginOffset + count ∧
    data.beginOffset < members.endOffset + count

instance (members data : Members) (count : Nat) : Decidable (Overlap members data count) :=
  inferInstanceAs (Decidable (_ ∧ _))

def fill (memory : Memory) (members data : Members) : Option (Nat × Members × Memory) :=
  let fillLen := min data.size members.freespace
  if Overlap members data fillLen then none
  else do
    let bytes ← memory.read data.buffer data.beginOffset fillLen
    let memory ← memory.write members.buffer members.endOffset bytes
    some (fillLen, { members with endOffset := (members.endOffset + fillLen) % 2 ^ 64 }, memory)

def align (memory : Memory) (members : Members) : Option (Members × Memory) :=
  if members.beginOffset ≠ 0 then
    if members.beginOffset ≠ members.endOffset then do
      let memory ← memory.moveToFront members
      some ({ members with beginOffset := 0, endOffset := members.size }, memory)
    else some (members.clear, memory)
  else some (members, memory)

/-- A sum of a pointer and a number; it is undefined past the end of the address space. -/
def pointer (address count : Nat) : Option Nat :=
  if address + count < 2 ^ 64 then some (address + count) else none

def valid (memory : Memory) (members : Members) (ptr len : Nat) : Option Bool :=
  if ptr = 0 ∨ len = 0 then some false
  else do
    let dataEnd ← pointer ptr len
    let start ← pointer (memory.base members.buffer) members.beginOffset
    let stop ← pointer start members.bufferCapacity
    some (decide (ptr ≥ start ∧ dataEnd ≤ stop))

def made (memory : Memory) : Option (Members × Memory) → Option (Reply × Memory)
  | none => none
  | some (members, after) => some (.buffer memory.buffers.length, after.push members)

def step (memory : Memory) : Request → Option (Reply × Memory)
  | .ofCapacity capacity fresh => memory.made (memory.ofCapacity capacity fresh)
  | .ofString str fresh => memory.made (memory.ofBytes str fresh)
  | .ofBytes bytes fresh => memory.made (memory.ofBytes bytes fresh)
  | .clone buffer fresh => do
    let members ← memory.buffers[buffer]?
    memory.made (memory.clone members fresh)
  | .dataBuffer buffer fresh => do
    let members ← memory.buffers[buffer]?
    memory.made (memory.dataBuffer members fresh)
  | .clear buffer => do
    let members ← memory.buffers[buffer]?
    some (.nothing, memory.put buffer members.clear)
  | .resize buffer length => do
    let members ← memory.buffers[buffer]?
    let (members, memory) ← memory.resize members length
    some (.nothing, memory.put buffer members)
  | .fill buffer data => do
    let members ← memory.buffers[buffer]?
    let other ← memory.buffers[data]?
    let (count, members, memory) ← memory.fill members other
    some (.filled count, memory.put buffer members)
  | .consume buffer count => do
    let members ← memory.buffers[buffer]?
    some (.nothing, memory.put buffer (members.consume count))
  | .produce buffer count => do
    let members ← memory.buffers[buffer]?
    some (.nothing, memory.put buffer (members.produce count))
  | .align buffer => do
    let members ← memory.buffers[buffer]?
    let (members, memory) ← memory.align members
    some (.nothing, memory.put buffer members)

/-- A buffer with the bytes of its array. -/
def view (memory : Memory) (members : Members) : IOBuffer :=
  ⟨members.beginOffset, members.endOffset, memory.bytes members.buffer⟩

/-- The bytes `data()` and `size()` delimit in a buffer. -/
def queue (memory : Memory) (buffer : Nat) : Option (List UInt8) :=
  memory.buffers[buffer]?.map fun members => (memory.view members).data

/-- The range is inside the array of the buffer. -/
def Inside (memory : Memory) (members : Members) (ptr len : Nat) : Prop :=
  memory.base members.buffer ≤ ptr ∧
    ptr + len ≤ memory.base members.buffer + (memory.bytes members.buffer).length

/-- `valid` accepts only ranges inside the array. -/
def Sound (memory : Memory) (members : Members) : Prop :=
  ∀ ptr len, memory.valid members ptr len = some true → memory.Inside members ptr len

/-- The buffer is there and its members meet the condition. -/
def Present (memory : Memory) (buffer : Nat) (condition : Members → Prop) : Prop :=
  ∃ members ∈ memory.buffers[buffer]?, condition members

instance (memory : Memory) (buffer : Nat) (condition : Members → Prop)
    [DecidablePred condition] : Decidable (memory.Present buffer condition) :=
  inferInstanceAs (Decidable (∃ _ ∈ _, _))

end Memory

/-- `new` has found room for the array. -/
def Fresh.Placed (fresh : Fresh) (capacity : Nat) : Prop :=
  capacity = 0 ∨
    fresh.contents.length = capacity ∧ 0 < fresh.base ∧ fresh.base + capacity ≤ 2 ^ 63

instance (fresh : Fresh) (capacity : Nat) : Decidable (fresh.Placed capacity) :=
  inferInstanceAs (Decidable (_ ∨ _))

namespace Request

/-- What the assertions ask for, of buffers that are there. -/
def Allowed (memory : Memory) : Request → Prop
  | .ofCapacity capacity fresh => fresh.Placed capacity
  | .ofString str fresh => fresh.Placed str.length
  | .ofBytes bytes fresh => fresh.Placed bytes.length
  | .clone buffer fresh => memory.Present buffer fun members => fresh.Placed members.bufferCapacity
  | .dataBuffer buffer fresh => memory.Present buffer fun members => fresh.Placed members.size
  | .clear buffer => memory.Present buffer fun _ => True
  | .resize buffer length => memory.Present buffer fun members => length ≤ members.bufferCapacity
  | .fill buffer data => memory.Present buffer fun _ => memory.Present data fun _ => True
  | .consume buffer count => memory.Present buffer fun members => count ≤ members.size
  | .produce buffer count => memory.Present buffer fun members => count ≤ members.freespace
  | .align buffer => memory.Present buffer fun _ => True

instance (memory : Memory) : (request : Request) → Decidable (request.Allowed memory)
  | .ofCapacity .. | .ofString .. | .ofBytes .. | .clone .. | .dataBuffer .. | .clear .. |
    .resize .. | .fill .. | .consume .. | .produce .. | .align .. => by
    unfold Allowed
    infer_instance

/-- The buffer whose bytes the request changes. -/
def target : Request → Option Nat
  | .clear buffer | .resize buffer _ | .fill buffer _ | .consume buffer _ | .produce buffer _ |
    .align buffer => some buffer
  | _ => none

end Request

/-- A buffer behind all others has been made, and its bytes meet the law. -/
def Makes (before : Memory) (reply : Reply) (after : Memory) (law : List UInt8 → Prop) : Prop :=
  reply = .buffer before.buffers.length ∧
    ∃ bytes ∈ after.queue before.buffers.length, law bytes

/-- The law holds between the bytes of a buffer before and after. -/
def Turns (before after : Memory) (buffer : Nat) (law : List UInt8 → List UInt8 → Prop) : Prop :=
  ∃ old ∈ before.queue buffer, ∃ new ∈ after.queue buffer, law old new

/-- What each operation is to the queue of its buffer. -/
def Law (before : Memory) (reply : Reply) (after : Memory) : Request → Prop
  | .ofCapacity capacity _ => Makes before reply after fun bytes => bytes.length = capacity
  | .ofString str _ => Makes before reply after fun bytes => bytes = str
  | .ofBytes given _ => Makes before reply after fun bytes => bytes = given
  | .clone buffer _ | .dataBuffer buffer _ =>
    Makes before reply after fun bytes => before.queue buffer = some bytes
  | .clear buffer => Turns before after buffer fun _ new => new = []
  | .resize buffer length => Turns before after buffer fun old new =>
    new.length = length ∧ new.take old.length = old.take length
  | .fill buffer data => ∃ given ∈ before.queue data, ∃ count, reply = .filled count ∧
    before.Present buffer (fun members => count = min given.length members.freespace) ∧
    Turns before after buffer fun old new => new = old ++ given.take count
  | .consume buffer count => Turns before after buffer fun old new => new = old.drop count
  | .produce buffer count => Turns before after buffer fun old new =>
    ∃ bytes, bytes.length = count ∧ new = old ++ bytes
  | .align buffer => Turns before after buffer fun old new => new = old

/-- The offsets are in order and inside the buffer, its bytes follow the law of the
operation, no other buffer is touched, and `valid` is sound for exactly the buffers that
begin at the front of their array. -/
structure Right (before : Memory) (request : Request) (reply : Reply) (after : Memory) : Prop where
  ordered : ∀ members ∈ after.buffers, members.beginOffset ≤ members.endOffset ∧
    members.endOffset ≤ members.bufferCapacity
  law : Law before reply after request
  others : ∀ buffer, buffer < before.buffers.length → request.target ≠ some buffer →
    after.queue buffer = before.queue buffer
  sound : ∀ members ∈ after.buffers, after.Sound members ↔ members.beginOffset = 0

/-! ### Buffers and their arrays -/

namespace Memory

structure Owned (memory : Memory) (members : Members) : Prop where
  valid : (memory.view members).Valid
  capacity : (memory.bytes members.buffer).length = members.bufferCapacity
  held : ∀ array, members.buffer = some array → array < memory.blocks.length

/-- Every buffer is in order and owns an array no other buffer owns. -/
structure Kept (memory : Memory) : Prop where
  owned : ∀ (i : Nat) members, memory.buffers[i]? = some members → memory.Owned members
  apart : ∀ (i j : Nat) left right array, memory.buffers[i]? = some left →
    memory.buffers[j]? = some right → left.buffer = some array → right.buffer = some array → i = j
  placed : ∀ block ∈ memory.blocks, 0 < block.base ∧ block.base + block.bytes.length ≤ 2 ^ 63

/-- The buffer has been given other offsets and other bytes in its array. -/
def changed (memory : Memory) (buffer : Nat) (members : Members) (value : IOBuffer) : Memory :=
  (memory.setBytes members.buffer value.buffer).put buffer
    { members with beginOffset := value.beginOffset, endOffset := value.endOffset }

/-- A buffer has been made with an array of its own. -/
def added (memory : Memory) (base : Nat) (value : IOBuffer) : Memory :=
  if value.buffer = [] then memory.push ⟨value.beginOffset, value.endOffset, none, 0⟩
  else push { memory with blocks := memory.blocks ++ [⟨base, value.buffer⟩] }
    ⟨value.beginOffset, value.endOffset, some memory.blocks.length, value.capacity⟩

variable {memory : Memory} {members : Members} {value : IOBuffer}

theorem bytes_setBytes {array : Option Nat} {bytes : List UInt8}
    (same : bytes.length = (memory.bytes array).length)
    (held : ∀ index, array = some index → index < memory.blocks.length) :
    (memory.setBytes array bytes).bytes array = bytes := by
  cases array with
  | none => exact (List.eq_nil_of_length_eq_zero same).symm
  | some index =>
    simp [Memory.bytes, setBytes, List.getElem?_eq_getElem (held index rfl)]

theorem bytes_setBytes_ne {array other : Option Nat} (bytes : List UInt8)
    (apart : ∀ index, array = some index → other ≠ some index) :
    (memory.setBytes array bytes).bytes other = memory.bytes other := by
  cases array with
  | none => rfl
  | some index =>
    cases other with
    | none => rfl
    | some position =>
      have different : index ≠ position := fun same => apart index rfl (congrArg some same.symm)
      simp [Memory.bytes, setBytes, List.getElem?_modify_ne _ _ different]

theorem setBytes_bytes (array : Option Nat) :
    memory.setBytes array (memory.bytes array) = memory := by
  cases array with
  | none => rfl
  | some index =>
    have unmodified : memory.blocks.modify index
        (fun block => { block with bytes := memory.bytes (some index) }) = memory.blocks := by
      apply List.ext_getElem?
      intro position
      rw [List.getElem?_modify]
      by_cases same : index = position
      · subst same
        cases found : memory.blocks[index]? <;> simp [Memory.bytes, found]
      · simp [same]
    simp only [setBytes, unmodified]

theorem blocks_setBytes (array : Option Nat) (bytes : List UInt8) :
    (memory.setBytes array bytes).blocks.length = memory.blocks.length := by
  cases array with
  | none => rfl
  | some index => exact List.length_modify _ _ _

theorem Owned.small (placed : ∀ block ∈ memory.blocks,
      0 < block.base ∧ block.base + block.bytes.length ≤ 2 ^ 63)
    (owned : memory.Owned members) : members.bufferCapacity < 2 ^ 63 := by
  rw [← owned.capacity]
  cases array : members.buffer with
  | none => exact Nat.two_pow_pos 63
  | some index =>
    have within := owned.held index array
    have bounds := placed _ (List.getElem_mem within)
    simp only [Memory.bytes, List.getElem?_eq_getElem within, Option.map_some, Option.getD_some]
    omega

/-! ### One buffer changed -/

theorem buffers_setBytes (array : Option Nat) (bytes : List UInt8) :
    (memory.setBytes array bytes).buffers = memory.buffers := by
  cases array <;> rfl

theorem changed_self {i : Nat} (present : memory.buffers[i]? = some members) :
    (memory.changed i members value).buffers[i]? =
      some { members with beginOffset := value.beginOffset, endOffset := value.endOffset } := by
  obtain ⟨within, -⟩ := List.getElem?_eq_some_iff.mp present
  rw [changed, put, buffers_setBytes]
  exact List.getElem?_set_self within

theorem changed_other {i j : Nat} (other : j ≠ i) :
    (memory.changed i members value).buffers[j]? = memory.buffers[j]? := by
  rw [changed, put, buffers_setBytes]
  exact List.getElem?_set_ne other.symm

theorem changed_bytes_self {i : Nat} (owned : memory.Owned members)
    (same : value.capacity = (memory.bytes members.buffer).length) :
    (memory.changed i members value).bytes members.buffer = value.buffer :=
  bytes_setBytes same owned.held

/-- The arrays of all other buffers are as they were. -/
theorem changed_bytes_other {i j : Nat} {other : Members} (kept : memory.Kept)
    (present : memory.buffers[i]? = some members) (beside : memory.buffers[j]? = some other)
    (different : j ≠ i) :
    (memory.changed i members value).bytes other.buffer = memory.bytes other.buffer :=
  bytes_setBytes_ne _ fun array mine theirs =>
    different (kept.apart j i other members array beside present theirs mine)

theorem Owned.congr {after : Memory} (owned : memory.Owned members)
    (same : after.bytes members.buffer = memory.bytes members.buffer)
    (blocks : memory.blocks.length ≤ after.blocks.length) : after.Owned members where
  valid := by
    rw [view, same]
    exact owned.valid
  capacity := by
    rw [same]
    exact owned.capacity
  held := fun array mine => Nat.lt_of_lt_of_le (owned.held array mine) blocks

theorem kept_changed {i : Nat} (kept : memory.Kept) (present : memory.buffers[i]? = some members)
    (valid : value.Valid) (same : value.capacity = (memory.bytes members.buffer).length) :
    (memory.changed i members value).Kept where
  owned := by
    have mine := kept.owned i members present
    intro j other found
    by_cases here : j = i
    · subst here
      rw [changed_self present] at found
      cases found
      have bytes := changed_bytes_self (i := j) mine same
      refine ⟨?_, ?_, fun array held => ?_⟩
      · rw [view]
        dsimp only
        rw [bytes]
        exact valid
      · dsimp only
        rw [bytes, ← mine.capacity, ← same]
        rfl
      · rw [show (memory.changed j members value).blocks.length = memory.blocks.length from
          blocks_setBytes _ _]
        exact mine.held array held
    · rw [changed_other here] at found
      exact (kept.owned j other found).congr (changed_bytes_other kept present found here)
        (Nat.le_of_eq (blocks_setBytes _ _).symm)
  apart := by
    have arrays : ∀ (j : Nat) other, (memory.changed i members value).buffers[j]? = some other →
        ∃ before, memory.buffers[j]? = some before ∧ before.buffer = other.buffer := by
      intro j other found
      by_cases here : j = i
      · subst here
        rw [changed_self present] at found
        cases found
        exact ⟨members, present, rfl⟩
      · rw [changed_other here] at found
        exact ⟨other, found, rfl⟩
    intro j k left right array first second mine theirs
    obtain ⟨left', first, same⟩ := arrays j left first
    obtain ⟨right', second, same'⟩ := arrays k right second
    exact kept.apart j k left' right' array first second (same.trans mine) (same'.trans theirs)
  placed := by
    intro block member
    cases array : members.buffer with
    | none =>
      simp only [changed, array, setBytes] at member
      exact kept.placed block member
    | some index =>
      simp only [changed, array, setBytes, put] at member
      obtain ⟨position, within, rfl⟩ := List.mem_iff_getElem.mp member
      rw [List.getElem_modify]
      have inside : position < memory.blocks.length := by rwa [List.length_modify] at within
      have bounds := kept.placed _ (List.getElem_mem inside)
      split
      · next here =>
        subst here
        have length : value.buffer.length = memory.blocks[index].bytes.length := by
          rw [array, IOBuffer.capacity] at same
          simpa [Memory.bytes, List.getElem?_eq_getElem inside] using same
        exact ⟨bounds.1, by rw [length]; exact bounds.2⟩
      · exact bounds

theorem queue_changed_self {i : Nat} (kept : memory.Kept)
    (present : memory.buffers[i]? = some members)
    (same : value.capacity = (memory.bytes members.buffer).length) :
    (memory.changed i members value).queue i = some value.data := by
  rw [queue, changed_self present, Option.map_some, view]
  dsimp only
  rw [changed_bytes_self (kept.owned i members present) same]

theorem queue_changed_other {i j : Nat} (kept : memory.Kept)
    (present : memory.buffers[i]? = some members) (different : j ≠ i) :
    (memory.changed i members value).queue j = memory.queue j := by
  rw [queue, queue, changed_other different]
  cases found : memory.buffers[j]? with
  | none => rw [Option.map_none, Option.map_none]
  | some other =>
    rw [Option.map_some, Option.map_some, view, view,
      changed_bytes_other kept present found different]

/-! ### One buffer added -/

/-- The array of a buffer that is added. -/
def addedArray (memory : Memory) (value : IOBuffer) : Option Nat :=
  if value.buffer = [] then none else some memory.blocks.length

theorem added_buffers (base : Nat) (value : IOBuffer) :
    (memory.added base value).buffers = memory.buffers ++
      [⟨value.beginOffset, value.endOffset, memory.addedArray value, value.capacity⟩] := by
  unfold added addedArray
  split
  · next nothing =>
    rw [IOBuffer.capacity, nothing]
    rfl
  · rfl

theorem added_bytes (base : Nat) (value : IOBuffer) :
    (memory.added base value).bytes (memory.addedArray value) = value.buffer := by
  unfold added addedArray
  split
  · next nothing => exact nothing.symm
  · simp [Memory.bytes, push]

theorem added_bytes_other (base : Nat) (value : IOBuffer) {array : Option Nat}
    (held : ∀ index, array = some index → index < memory.blocks.length) :
    (memory.added base value).bytes array = memory.bytes array := by
  cases array with
  | none => rfl
  | some index =>
    unfold added
    split
    · rfl
    · simp [Memory.bytes, push, List.getElem?_append_left (held index rfl)]

theorem added_blocks (base : Nat) (value : IOBuffer) :
    memory.blocks.length ≤ (memory.added base value).blocks.length := by
  unfold added
  split
  · exact Nat.le_refl _
  · simp [push]

theorem added_mem {base : Nat} {j : Nat} {other : Members}
    (found : (memory.added base value).buffers[j]? = some other) :
    memory.buffers[j]? = some other ∨ j = memory.buffers.length ∧
      other = ⟨value.beginOffset, value.endOffset, memory.addedArray value, value.capacity⟩ := by
  rw [added_buffers] at found
  rcases Nat.lt_trichotomy j memory.buffers.length with before | here | behind
  · rw [List.getElem?_append_left before] at found
    exact .inl found
  · subst here
    rw [List.getElem?_append_right (Nat.le_refl _), Nat.sub_self] at found
    exact .inr ⟨rfl, (Option.some.inj found).symm⟩
  · rw [List.getElem?_eq_none (by simpa using Nat.succ_le_of_lt behind)] at found
    cases found

theorem kept_added {base : Nat} (kept : memory.Kept) (valid : value.Valid)
    (placed : value.buffer = [] ∨ 0 < base ∧ base + value.capacity ≤ 2 ^ 63) :
    (memory.added base value).Kept where
  owned := by
    intro j other found
    rcases added_mem found with found | ⟨rfl, rfl⟩
    · have mine := kept.owned j other found
      exact mine.congr (added_bytes_other base value mine.held) (added_blocks base value)
    · refine ⟨?_, ?_, fun array held => ?_⟩
      · rw [view]
        dsimp only
        rw [added_bytes]
        exact valid
      · dsimp only
        rw [added_bytes]
        rfl
      · unfold addedArray at held
        split at held
        · cases held
        · next something =>
          cases held
          simp [added, if_neg something, push]
  apart := by
    -- the array of the new buffer lies behind those of all others
    have fresh : ∀ (j : Nat) other array, memory.buffers[j]? = some other →
        other.buffer = some array → memory.addedArray value ≠ some array := by
      intro j other array found mine theirs
      unfold addedArray at theirs
      split at theirs
      · cases theirs
      · cases theirs
        exact Nat.lt_irrefl _ ((kept.owned j other found).held _ mine)
    intro j k left right array first second mine theirs
    rcases added_mem first with first | ⟨rfl, rfl⟩ <;>
      rcases added_mem second with second | ⟨rfl, rfl⟩
    · exact kept.apart j k left right array first second mine theirs
    · exact absurd theirs (fresh j left array first mine)
    · exact absurd mine (fresh k right array second theirs)
    · rfl
  placed := by
    intro block member
    unfold added at member
    split at member
    · exact kept.placed block member
    · next something =>
      rcases List.mem_append.mp member with before | here
      · exact kept.placed block before
      · cases List.mem_singleton.mp here
        exact placed.resolve_left something

theorem queue_added_self (base : Nat) (value : IOBuffer) :
    (memory.added base value).queue memory.buffers.length = some value.data := by
  rw [queue, added_buffers, List.getElem?_append_right (Nat.le_refl _), Nat.sub_self]
  show some ((memory.added base value).view _).data = _
  rw [view]
  dsimp only
  rw [added_bytes]

theorem queue_added_other {base j : Nat} (kept : memory.Kept) (before : j < memory.buffers.length) :
    (memory.added base value).queue j = memory.queue j := by
  rw [queue, queue, added_buffers, List.getElem?_append_left before]
  cases found : memory.buffers[j]? with
  | none => rw [Option.map_none, Option.map_none]
  | some other =>
    rw [Option.map_some, Option.map_some, view, view,
      added_bytes_other base value (kept.owned j other found).held]

/-! ### Ranges of a buffer -/

/-- The ends of an array are addresses, and null is the end of no byte. -/
theorem Owned.range (placed : ∀ block ∈ memory.blocks,
      0 < block.base ∧ block.base + block.bytes.length ≤ 2 ^ 63)
    (owned : memory.Owned members) :
    memory.base members.buffer + members.bufferCapacity ≤ 2 ^ 63 ∧
      (0 < members.bufferCapacity → 0 < memory.base members.buffer) := by
  rw [← owned.capacity]
  cases array : members.buffer with
  | none => exact ⟨by simp [base, Memory.bytes], fun some => absurd some (Nat.lt_irrefl 0)⟩
  | some index =>
    have within := owned.held index array
    have bounds := placed _ (List.getElem_mem within)
    simp only [Memory.bytes, base, List.getElem?_eq_getElem within, Option.map_some,
      Option.getD_some]
    exact ⟨bounds.2, fun _ => bounds.1⟩

/-- `valid` takes the end of its range as far behind the unread bytes as the array is long,
so that the two agree only at the front of the array. -/
theorem sound_iff (kept : memory.Kept) (member : members ∈ memory.buffers) :
    memory.Sound members ↔ members.beginOffset = 0 := by
  obtain ⟨i, found⟩ := List.mem_iff_getElem?.mp member
  have owned := kept.owned i members found
  obtain ⟨most, least⟩ := owned.range kept.placed
  have ordered := owned.valid.ordered
  have inside := owned.valid.inside
  rw [IOBuffer.capacity, view] at inside
  rw [view] at ordered
  dsimp only at ordered inside
  rw [owned.capacity] at inside
  have start : pointer (memory.base members.buffer) members.beginOffset =
      some (memory.base members.buffer + members.beginOffset) := if_pos (by omega)
  have stop : pointer (memory.base members.buffer + members.beginOffset) members.bufferCapacity =
      some (memory.base members.buffer + members.beginOffset + members.bufferCapacity) :=
    if_pos (by omega)
  constructor
  · intro sound
    apply Classical.byContradiction
    intro shifted
    have accepted : memory.valid members (memory.base members.buffer + members.beginOffset)
        members.bufferCapacity = some true := by
      rw [valid, if_neg (by omega)]
      simp only [start, stop, Option.bind_eq_bind, Option.bind_some]
      simp
    have past := (sound _ _ accepted).2
    rw [owned.capacity] at past
    omega
  · intro front ptr len accepted
    rw [valid] at accepted
    split at accepted
    · cases accepted
    · simp only [start, stop, Option.bind_eq_bind, Option.bind_some] at accepted
      obtain ⟨dataEnd, last, accepted⟩ := Option.bind_eq_some_iff.mp accepted
      have reached : ptr + len = dataEnd := by
        rw [pointer] at last
        split at last
        · exact Option.some.inj last
        · cases last
      obtain ⟨first, within⟩ := of_decide_eq_true (Option.some.inj accepted)
      rw [Inside, owned.capacity]
      omega

theorem Kept.ordered (kept : memory.Kept) (member : members ∈ memory.buffers) :
    members.beginOffset ≤ members.endOffset ∧ members.endOffset ≤ members.bufferCapacity := by
  obtain ⟨i, found⟩ := List.mem_iff_getElem?.mp member
  have owned := kept.owned i members found
  have inside := owned.valid.inside
  rw [← owned.capacity]
  exact ⟨owned.valid.ordered, inside⟩

theorem queue_present {i : Nat} (present : memory.buffers[i]? = some members) :
    memory.queue i = some (memory.view members).data := by
  rw [queue, present, Option.map_some]

/-! ### Moves -/

theorem Owned.freespace_eq (owned : memory.Owned members) :
    (memory.view members).freespace = members.freespace := by
  rw [IOBuffer.freespace, IOBuffer.capacity, Members.freespace, ← owned.capacity, view]

theorem view_size : (memory.view members).size = members.size := by
  rw [IOBuffer.size, Members.size, view]

/-- The unread bytes, or some of the first of them, can be read. -/
theorem Owned.read (owned : memory.Owned members) {count : Nat} (most : count ≤ members.size) :
    memory.read members.buffer members.beginOffset count =
      some ((memory.view members).data.take count) := by
  have ordered := owned.valid.ordered
  have inside := owned.valid.inside
  have size : members.size = members.endOffset - members.beginOffset := by
    rw [← view_size, owned.valid.size_eq, view]
  rw [IOBuffer.capacity, view] at inside
  rw [view] at ordered
  dsimp only at ordered inside
  rw [Memory.read, if_pos (by omega), owned.valid.data_eq, view]
  dsimp only
  rw [List.take_take, ← size, Nat.min_eq_left most]

theorem Owned.moveToFront (owned : memory.Owned members) :
    memory.moveToFront members = some (memory.setBytes members.buffer
      ((memory.view members).data ++ (memory.bytes members.buffer).drop members.size)) := by
  have ordered := owned.valid.ordered
  have inside := owned.valid.inside
  have length : (memory.view members).data.length = members.size := by
    rw [owned.valid.data_length, view_size]
  have size : members.size = members.endOffset - members.beginOffset := by
    rw [← view_size, owned.valid.size_eq, view]
  rw [IOBuffer.capacity, view] at inside
  dsimp only at inside
  rw [Memory.moveToFront, owned.read (Nat.le_refl _), ← length, List.take_length]
  rw [Option.bind_eq_bind, Option.bind_some, write, if_pos (by omega), overwritten_front]

theorem put_changed (i : Nat) (members : Members) (beginOffset endOffset : Nat) :
    memory.put i { members with beginOffset := beginOffset, endOffset := endOffset } =
      memory.changed i members ⟨beginOffset, endOffset, memory.bytes members.buffer⟩ := by
  rw [changed, setBytes_bytes]

end Memory

/-! ### Every operation -/

open Memory

variable {memory : Memory} {members : Members} {value : IOBuffer} {request : Request} {reply : Reply}

/-- The request is answered, rightly, and the memory stays in order. -/
def Handles (memory : Memory) (request : Request) : Prop :=
  ∃ reply next, memory.step request = some (reply, next) ∧ Right memory request reply next ∧
    next.Kept

theorem right_of_kept {next : Memory} (kept : next.Kept) (law : Law memory reply next request)
    (others : ∀ buffer, buffer < memory.buffers.length → request.target ≠ some buffer →
      next.queue buffer = memory.queue buffer) : Right memory request reply next :=
  ⟨fun _ member => kept.ordered member, law, others, fun _ member => sound_iff kept member⟩

theorem handles_changed (value : IOBuffer) (reply : Reply) {i : Nat} (kept : memory.Kept)
    (present : memory.buffers[i]? = some members) (valid : value.Valid)
    (same : value.capacity = (memory.bytes members.buffer).length)
    (target : request.target = some i)
    (taken : memory.step request = some (reply, memory.changed i members value))
    (law : (memory.changed i members value).queue i = some value.data →
      Law memory reply (memory.changed i members value) request) : Handles memory request := by
  have after := kept_changed kept present valid same
  refine ⟨reply, _, taken, right_of_kept after (law (queue_changed_self kept present same)) ?_, after⟩
  intro buffer _ other
  refine queue_changed_other kept present fun here => other ?_
  rw [target, here]

theorem handles_added {base : Nat} (kept : memory.Kept) (valid : value.Valid)
    (placed : value.buffer = [] ∨ 0 < base ∧ base + value.capacity ≤ 2 ^ 63)
    (taken : memory.step request =
      some (.buffer memory.buffers.length, memory.added base value))
    (law : (memory.added base value).queue memory.buffers.length = some value.data →
      Law memory (.buffer memory.buffers.length) (memory.added base value) request) :
    Handles memory request := by
  have after := kept_added kept valid placed
  exact ⟨_, _, taken, right_of_kept after (law (queue_added_self base value))
    fun buffer before _ => queue_added_other kept before, after⟩

theorem turns {i : Nat} {next : Memory} {law : List UInt8 → List UInt8 → Prop}
    (present : memory.buffers[i]? = some members) (after : next.queue i = some value.data)
    (holds : law (memory.view members).data value.data) : Turns memory next i law :=
  ⟨_, queue_present present, _, after, holds⟩

theorem handles_clear {i : Nat} (kept : memory.Kept)
    (present : memory.buffers[i]? = some members) : Handles memory (.clear i) := by
  have owned := kept.owned i members present
  refine handles_changed (memory.view members).clear .nothing kept present owned.valid.clear rfl rfl
    ?_ fun after => ?_
  · rw [step, present, Option.bind_eq_bind, Option.bind_some, Members.clear, put_changed]
    rfl
  · exact turns present after (IOBuffer.data_clear owned.valid)

theorem handles_consume {i count : Nat} (kept : memory.Kept)
    (present : memory.buffers[i]? = some members) (held : count ≤ members.size) :
    Handles memory (.consume i count) := by
  have owned := kept.owned i members present
  have buffer : ((memory.view members).consume count).buffer = memory.bytes members.buffer := by
    rw [IOBuffer.consume]
    split <;> rfl
  have consumed : members.consume count =
      { members with
        beginOffset := ((memory.view members).consume count).beginOffset
        endOffset := ((memory.view members).consume count).endOffset } := by
    rw [Members.consume, IOBuffer.consume, Members.empty, IOBuffer.empty, view]
    dsimp only
    split <;> rfl
  refine handles_changed ((memory.view members).consume count) .nothing kept present
    (owned.valid.consume held) (by rw [IOBuffer.capacity, buffer]) rfl ?_ fun after => ?_
  · rw [step, present, Option.bind_eq_bind, Option.bind_some, consumed, put_changed, ← buffer]
  · exact turns present after (IOBuffer.data_consume owned.valid held)

theorem handles_produce {i count : Nat} (kept : memory.Kept)
    (present : memory.buffers[i]? = some members) (room : count ≤ members.freespace) :
    Handles memory (.produce i count) := by
  have owned := kept.owned i members present
  rw [← owned.freespace_eq] at room
  obtain ⟨valid, data⟩ := IOBuffer.data_produce owned.valid room
  refine handles_changed ((memory.view members).produce count) .nothing kept present valid rfl rfl
    ?_ fun after => ?_
  · rw [step, present, Option.bind_eq_bind, Option.bind_some, Members.produce, put_changed]
    rfl
  · refine turns present after ⟨_, ?_, data⟩
    have inside := owned.valid.inside
    rw [owned.valid.freespace_eq] at room
    rw [List.length_take, List.length_drop]
    rw [IOBuffer.capacity] at inside room
    omega

theorem Memory.Owned.front_capacity (owned : memory.Owned members) (length : Nat) :
    IOBuffer.capacity ⟨0, length, (memory.view members).data ++
      (memory.view members).buffer.drop (memory.view members).size⟩ =
      (memory.bytes members.buffer).length := by
  have inside : members.endOffset ≤ (memory.bytes members.buffer).length := owned.valid.inside
  have size : (memory.view members).size = members.endOffset - members.beginOffset :=
    owned.valid.size_eq
  rw [IOBuffer.capacity, List.length_append, List.length_drop, owned.valid.data_length, size]
  show _ + ((memory.bytes members.buffer).length - _) = _
  omega

/-- The unread bytes moved to the front, and the offsets set. -/
theorem put_front {i length : Nat} :
    (memory.setBytes members.buffer
        ((memory.view members).data ++ (memory.bytes members.buffer).drop members.size)).put i
      { members with beginOffset := 0, endOffset := length } =
    memory.changed i members ⟨0, length, (memory.view members).data ++
      (memory.view members).buffer.drop (memory.view members).size⟩ := by
  rw [changed, view_size, view]

theorem handles_resize {i length : Nat} (kept : memory.Kept)
    (present : memory.buffers[i]? = some members) (most : length ≤ members.bufferCapacity) :
    Handles memory (.resize i length) := by
  have owned := kept.owned i members present
  have small := owned.small kept.placed
  have ordered := owned.valid.ordered
  have inside := owned.valid.inside
  have capacity : (memory.view members).capacity = members.bufferCapacity := owned.capacity
  rw [capacity] at inside
  obtain ⟨valid, sized, survives⟩ := IOBuffer.data_resize owned.valid (capacity ▸ most)
  have sum : (members.beginOffset + length) % 2 ^ 64 = members.beginOffset + length := by
    refine Nat.mod_eq_of_lt ?_
    have first : members.beginOffset ≤ members.endOffset := ordered
    have last : members.endOffset ≤ members.bufferCapacity := inside
    omega
  have law : ∀ next : Memory, next.queue i = some ((memory.view members).resize length).data →
      Law memory .nothing next (.resize i length) := by
    intro next after
    refine turns present after ⟨sized, ?_⟩
    rw [owned.valid.data_length]
    exact survives
  by_cases stays : members.beginOffset + length ≤ members.bufferCapacity
  · have value : (memory.view members).resize length =
        ⟨members.beginOffset, members.beginOffset + length, memory.bytes members.buffer⟩ := by
      rw [IOBuffer.resize, capacity]
      exact if_pos stays
    refine handles_changed ((memory.view members).resize length) .nothing kept present valid
      (by rw [value, IOBuffer.capacity]) rfl ?_ (law _)
    have resized : memory.resize members length =
        some ({ members with endOffset := members.beginOffset + length }, memory) := by
      rw [Memory.resize, sum, if_pos stays]
    rw [step, present, Option.bind_eq_bind, Option.bind_some, resized, Option.bind_eq_bind,
      Option.bind_some, value]
    exact congrArg (fun after => some (Reply.nothing, after))
      (put_changed i members members.beginOffset (members.beginOffset + length))
  · have value : (memory.view members).resize length = ⟨0, length, (memory.view members).data ++
        (memory.view members).buffer.drop (memory.view members).size⟩ := by
      rw [IOBuffer.resize, capacity]
      exact if_neg stays
    refine handles_changed ((memory.view members).resize length) .nothing kept present valid
      (by rw [value, owned.front_capacity]) rfl ?_ (law _)
    have resized : memory.resize members length =
        some ({ members with beginOffset := 0, endOffset := length },
          memory.setBytes members.buffer ((memory.view members).data ++
            (memory.bytes members.buffer).drop members.size)) := by
      rw [Memory.resize, sum, if_neg stays, owned.moveToFront, Option.bind_eq_bind, Option.bind_some]
    rw [step, present, Option.bind_eq_bind, Option.bind_some, resized, Option.bind_eq_bind,
      Option.bind_some, value]
    exact congrArg (fun after => some (Reply.nothing, after)) put_front

theorem handles_align {i : Nat} (kept : memory.Kept)
    (present : memory.buffers[i]? = some members) : Handles memory (.align i) := by
  have owned := kept.owned i members present
  obtain ⟨valid, data⟩ := IOBuffer.data_align owned.valid
  have aligned : (memory.view members).align.capacity = (memory.bytes members.buffer).length ∧
      ∃ after next, memory.align members = some (after, next) ∧
        next.put i after = memory.changed i members (memory.view members).align := by
    rw [Memory.align, IOBuffer.align]
    by_cases shifted : members.beginOffset ≠ 0
    · rw [if_pos shifted, if_pos (show (memory.view members).beginOffset ≠ 0 from shifted)]
      by_cases filled : members.beginOffset ≠ members.endOffset
      · rw [if_pos filled, if_pos (show (memory.view members).beginOffset ≠
          (memory.view members).endOffset from filled), owned.moveToFront, Option.bind_eq_bind,
          Option.bind_some]
        refine ⟨owned.front_capacity _, _, _, rfl, ?_⟩
        rw [put_front, view_size]
      · rw [if_neg filled, if_neg (show ¬ (memory.view members).beginOffset ≠
          (memory.view members).endOffset from filled)]
        exact ⟨rfl, _, _, rfl, put_changed i members 0 0⟩
    · rw [if_neg shifted, if_neg (show ¬ (memory.view members).beginOffset ≠ 0 from shifted)]
      exact ⟨rfl, _, _, rfl, put_changed i members members.beginOffset members.endOffset⟩
  obtain ⟨same, after, next, done, put⟩ := aligned
  refine handles_changed (memory.view members).align .nothing kept present valid same rfl ?_
    fun after => turns present after data
  rw [step, present, Option.bind_eq_bind, Option.bind_some, done, Option.bind_eq_bind,
    Option.bind_some, ← put]

/-- What `fill` moves lies before the place it is moved to. -/
theorem not_overlap {i j count : Nat} {other : Members} (kept : memory.Kept)
    (present : memory.buffers[i]? = some members) (beside : memory.buffers[j]? = some other)
    (most : count ≤ other.size) : ¬ Overlap members other count := by
  rintro ⟨same, first, last⟩
  have owned := kept.owned j other beside
  have ordered : other.beginOffset ≤ other.endOffset := owned.valid.ordered
  have inside : other.endOffset ≤ (memory.bytes other.buffer).length := owned.valid.inside
  have size : other.size = other.endOffset - other.beginOffset := by
    rw [← view_size, owned.valid.size_eq, view]
  cases array : other.buffer with
  | none =>
    have nothing : (memory.bytes other.buffer).length = 0 := by
      rw [array]
      rfl
    omega
  | some index =>
    have here : i = j := kept.apart i j members other index present beside (same.trans array) array
    subst here
    cases present.symm.trans beside
    omega

theorem handles_fill {i j : Nat} {other : Members} (kept : memory.Kept)
    (present : memory.buffers[i]? = some members) (beside : memory.buffers[j]? = some other) :
    Handles memory (.fill i j) := by
  have owned := kept.owned i members present
  have given := kept.owned j other beside
  have inside : members.endOffset ≤ (memory.bytes members.buffer).length := owned.valid.inside
  obtain ⟨count, counted⟩ : ∃ count, count = min other.size members.freespace := ⟨_, rfl⟩
  have most : count ≤ other.size := counted ▸ Nat.min_le_left _ _
  have room : count ≤ (memory.view members).freespace := by
    rw [owned.freespace_eq, counted]
    exact Nat.min_le_right _ _
  obtain ⟨bytes, moved⟩ : ∃ bytes, bytes = (memory.view other).data.take count := ⟨_, rfl⟩
  have length : bytes.length = count := by
    rw [moved, List.length_take, given.valid.data_length, view_size, Nat.min_eq_left most]
  obtain ⟨valid, data⟩ := IOBuffer.data_extend owned.valid (length.symm ▸ room)
  have within : members.endOffset + bytes.length ≤ (memory.bytes members.buffer).length := by
    rw [owned.valid.freespace_eq] at room
    have room : count ≤ (memory.bytes members.buffer).length - members.endOffset := room
    omega
  have filled : memory.fill members other = some (count,
      { members with endOffset := (members.endOffset + count) % 2 ^ 64 },
      memory.setBytes members.buffer
        (overwritten (memory.bytes members.buffer) members.endOffset bytes)) := by
    rw [Memory.fill, ← counted, if_neg (not_overlap kept present beside most), given.read most,
      ← moved, Option.bind_eq_bind, Option.bind_some, write, if_pos within, Option.bind_eq_bind,
      Option.bind_some]
  refine handles_changed ((memory.view members).extend bytes) (.filled count) kept present valid ?_
    rfl ?_ fun after => ?_
  · rw [IOBuffer.extend, IOBuffer.capacity]
    exact overwritten_length within
  · rw [step, present, Option.bind_eq_bind, Option.bind_some, beside, Option.bind_eq_bind,
      Option.bind_some, filled, Option.bind_some, changed, IOBuffer.extend, length]
    rfl
  · refine ⟨_, queue_present beside, count, rfl, ⟨members, present, ?_⟩, turns present after ?_⟩
    · rw [given.valid.data_length, view_size]
      exact counted
    · rw [data, moved]

/-- A new array with all its bytes given by a move. -/
theorem ofBytes_some (memory : Memory) {bytes : List UInt8} {fresh : Fresh}
    (placed : fresh.Placed bytes.length) :
    ∃ array after, memory.ofBytes bytes fresh =
        some (⟨0, bytes.length, array, bytes.length⟩, after) ∧
      ∀ beginOffset endOffset, after.push ⟨beginOffset, endOffset, array, bytes.length⟩ =
        memory.added fresh.base ⟨beginOffset, endOffset, bytes⟩ := by
  rw [Memory.ofBytes, newArray]
  by_cases nothing : bytes = []
  · subst nothing
    exact ⟨none, memory, rfl, fun _ _ => rfl⟩
  · have something : ¬ bytes.length = 0 := fun none => nothing (List.eq_nil_of_length_eq_zero none)
    have found := placed.resolve_left something
    obtain ⟨grown, allocated⟩ : ∃ grown : Memory, grown =
      { memory with blocks := memory.blocks ++ [⟨fresh.base, fresh.contents⟩] } := ⟨_, rfl⟩
    have contents : grown.bytes (some memory.blocks.length) = fresh.contents := by
      simp [allocated, Memory.bytes]
    have written : grown.setBytes (some memory.blocks.length) bytes =
        { memory with blocks := memory.blocks ++ [⟨fresh.base, bytes⟩] } := by
      simp only [allocated, setBytes, Memory.mk.injEq, and_true]
      rw [List.modify_eq_take_cons_drop (by simp)]
      simp
    rw [if_neg something, if_pos found, Option.bind_eq_bind, Option.bind_some, ← allocated]
    dsimp only
    rw [write, contents, if_pos (by omega), overwritten_all found.1.symm,
      Option.bind_eq_bind, Option.bind_some, written]
    refine ⟨_, _, rfl, fun beginOffset endOffset => ?_⟩
    rw [added, if_neg nothing]
    rfl

theorem ofCapacity_some (memory : Memory) {capacity : Nat} {fresh : Fresh}
    (placed : fresh.Placed capacity) :
    ∃ bytes : List UInt8, bytes.length = capacity ∧
      ∃ made after, memory.ofCapacity capacity fresh = some (made, after) ∧
        after.push made = memory.added fresh.base (.ofBytes bytes) := by
  rw [Memory.ofCapacity, newArray]
  by_cases nothing : capacity = 0
  · subst nothing
    exact ⟨[], rfl, _, _, rfl, rfl⟩
  · have found := placed.resolve_left nothing
    have something : fresh.contents ≠ [] := by
      intro empty
      rw [empty] at found
      exact nothing found.1.symm
    rw [if_neg nothing, if_pos found, Option.bind_eq_bind, Option.bind_some]
    refine ⟨fresh.contents, found.1, _, _, rfl, ?_⟩
    rw [added, IOBuffer.ofBytes, if_neg something, IOBuffer.capacity, found.1]

theorem Fresh.Placed.range {fresh : Fresh} {bytes : List UInt8}
    (placed : fresh.Placed bytes.length) :
    bytes = [] ∨ 0 < fresh.base ∧ fresh.base + bytes.length ≤ 2 ^ 63 := by
  rcases placed with nothing | found
  · exact .inl (List.eq_nil_of_length_eq_zero nothing)
  · exact .inr found.2

theorem Fresh.Placed.short {fresh : Fresh} {capacity : Nat} (placed : fresh.Placed capacity) :
    capacity < 2 ^ 64 := by
  rcases placed with nothing | found
  · rw [nothing]
    exact Nat.two_pow_pos 64
  · have most := found.2.2
    omega

theorem handles_ofCapacity {capacity : Nat} {fresh : Fresh} (kept : memory.Kept)
    (placed : fresh.Placed capacity) : Handles memory (.ofCapacity capacity fresh) := by
  obtain ⟨bytes, rfl, made, after, done, pushed⟩ := ofCapacity_some memory placed
  refine handles_added kept (IOBuffer.ofBytes_valid placed.short) placed.range ?_
    fun made => ⟨rfl, _, made, ?_⟩
  · rw [step, done, Memory.made, pushed]
  · rw [IOBuffer.data_ofBytes bytes placed.short]

theorem handles_ofBytes {bytes : List UInt8} {fresh : Fresh} (kept : memory.Kept)
    (placed : fresh.Placed bytes.length)
    (makes : memory.step request = memory.made (memory.ofBytes bytes fresh))
    (law : ∀ next, Makes memory (.buffer memory.buffers.length) next (fun made => made = bytes) →
      Law memory (.buffer memory.buffers.length) next request) : Handles memory request := by
  obtain ⟨array, after, done, pushed⟩ := ofBytes_some memory placed
  refine handles_added kept (IOBuffer.ofBytes_valid placed.short) placed.range ?_
    fun made => law _ ⟨rfl, _, made, IOBuffer.data_ofBytes bytes placed.short⟩
  rw [makes, done, Memory.made, pushed]
  rfl

theorem handles_dataBuffer {i : Nat} {fresh : Fresh} (kept : memory.Kept)
    (present : memory.buffers[i]? = some members) (placed : fresh.Placed members.size) :
    Handles memory (.dataBuffer i fresh) := by
  have owned := kept.owned i members present
  have length : (memory.view members).data.length = members.size := by
    rw [owned.valid.data_length, view_size]
  rw [← length] at placed
  refine handles_ofBytes kept placed ?_ fun next made => ?_
  · rw [step, present, Option.bind_eq_bind, Option.bind_some, Memory.dataBuffer,
      owned.read (Nat.le_refl _), Option.bind_eq_bind, Option.bind_some, ← length,
      List.take_length]
  · obtain ⟨same, bytes, found, rfl⟩ := made
    exact ⟨same, _, found, queue_present present⟩

theorem handles_clone {i : Nat} {fresh : Fresh} (kept : memory.Kept)
    (present : memory.buffers[i]? = some members) (placed : fresh.Placed members.bufferCapacity) :
    Handles memory (.clone i fresh) := by
  have owned := kept.owned i members present
  rw [← owned.capacity] at placed
  obtain ⟨array, after, done, pushed⟩ := ofBytes_some memory placed
  have cloned : memory.clone members fresh = some (⟨members.beginOffset, members.endOffset, array,
      (memory.bytes members.buffer).length⟩, after) := by
    rw [Memory.clone, Memory.read, ← owned.capacity, if_pos (by omega), List.drop_zero,
      List.take_length, Option.bind_eq_bind, Option.bind_some, done, Option.bind_eq_bind,
      Option.bind_some]
  refine handles_added kept owned.valid placed.range ?_
    fun made => ⟨rfl, _, made, queue_present present⟩
  rw [step, present, Option.bind_eq_bind, Option.bind_some, cloned, Memory.made, pushed, view]

theorem handles_allowed (kept : memory.Kept) (allowed : request.Allowed memory) :
    Handles memory request := by
  cases request with
  | ofCapacity capacity fresh => exact handles_ofCapacity kept allowed
  | ofString str fresh => exact handles_ofBytes kept allowed rfl fun _ made => made
  | ofBytes bytes fresh => exact handles_ofBytes kept allowed rfl fun _ made => made
  | clone i fresh =>
    obtain ⟨members, present, placed⟩ := allowed
    exact handles_clone kept present placed
  | dataBuffer i fresh =>
    obtain ⟨members, present, placed⟩ := allowed
    exact handles_dataBuffer kept present placed
  | clear i =>
    obtain ⟨members, present, -⟩ := allowed
    exact handles_clear kept present
  | resize i length =>
    obtain ⟨members, present, most⟩ := allowed
    exact handles_resize kept present most
  | fill i j =>
    obtain ⟨members, present, other, beside, -⟩ := allowed
    exact handles_fill kept present beside
  | consume i count =>
    obtain ⟨members, present, held⟩ := allowed
    exact handles_consume kept present held
  | produce i count =>
    obtain ⟨members, present, room⟩ := allowed
    exact handles_produce kept present room
  | align i =>
    obtain ⟨members, present, -⟩ := allowed
    exact handles_align kept present

theorem kept_start : Kept {} where
  owned := fun _ _ found => by cases found
  apart := fun _ _ _ _ _ found => by cases found
  placed := fun _ member => by cases member

/-- In every run the buffers are queues of their own, and in every state it reaches `valid` is
sound for exactly the buffers whose unread bytes begin at the front of their array. -/
theorem queues_right (requests : List Request)
    (allowed : AllSteps step (fun memory request => request.Allowed memory) {} requests) :
    AllTaken step Right {} requests :=
  all_taken_of_steps Kept (fun _ _ kept allowed => handles_allowed kept allowed) kept_start allowed

/-- A buffer is shortened, copied, and the copy aligned and filled from the first. -/
theorem copied_right : AllTaken step Right {} [.ofBytes [1, 2, 3] ⟨16, [0, 0, 0]⟩, .consume 0 1,
    .clone 0 ⟨32, [0, 0, 0]⟩, .align 1, .fill 1 0, .resize 0 3, .dataBuffer 1 ⟨48, [7, 7, 7]⟩] :=
  queues_right _ (by decide)

/-- After a byte is consumed the range of as many bytes as the array has is accepted, the last
of which lies behind the array. -/
theorem past_end_accepted :
    ¬ ∀ requests, AllSteps step (fun memory request => request.Allowed memory) {} requests →
      AllTaken step (fun _ _ _ after => ∀ members ∈ after.buffers, after.Sound members)
        {} requests := by
  intro all
  obtain ⟨_, _, taken, -, rest⟩ := all [.ofBytes [1, 2] ⟨16, [0, 0]⟩, .consume 0 1] (by decide)
  cases taken
  obtain ⟨_, _, taken, sound, -⟩ := rest
  cases taken
  have inside := sound _ List.mem_cons_self 17 2 (by decide)
  exact absurd inside.2 (by decide)

end BeeSdk.IOBufferMemory
