import Mathlib.Algebra.Group.Nat.Defs

/-! `IOBuffer`: a block of memory with two offsets between which the unread bytes
lie. The offsets are of type `size_t` and nothing but assertions keeps the first
behind the second, so a buffer is `Valid` only as long as its users see to it. -/
namespace BeeSdk

structure IOBuffer where
  beginOffset : Nat := 0
  endOffset : Nat := 0
  buffer : List UInt8 := []
  deriving DecidableEq

namespace IOBuffer

/-- `IOBuffer(bytes, bytes_len)`. -/
def ofBytes (bytes : List UInt8) : IOBuffer := ⟨0, bytes.length, bytes⟩

/-- `IOBuffer(capacity)`, the bytes it leaves uninitialised as zeros. -/
def ofCapacity (capacity : Nat) : IOBuffer := ofBytes (List.replicate capacity 0)

def capacity (buf : IOBuffer) : Nat := buf.buffer.length

def empty (buf : IOBuffer) : Bool := buf.beginOffset = buf.endOffset

def size (buf : IOBuffer) : Nat := (buf.endOffset + 2 ^ 64 - buf.beginOffset) % 2 ^ 64

/-- The bytes that `data()` and `size()` delimit. -/
def data (buf : IOBuffer) : List UInt8 := (buf.buffer.drop buf.beginOffset).take buf.size

def clone (buf : IOBuffer) : IOBuffer := ⟨buf.beginOffset, buf.endOffset, buf.buffer⟩

def clear (buf : IOBuffer) : IOBuffer := { buf with beginOffset := 0, endOffset := 0 }

def consume (buf : IOBuffer) (count : Nat) : IOBuffer :=
  let buf := { buf with beginOffset := (buf.beginOffset + count) % 2 ^ 64 }
  if buf.empty then buf.clear else buf

/-- Moves the unread bytes to the front where the new length needs it. -/
def resize (buf : IOBuffer) (length : Nat) : IOBuffer :=
  if buf.beginOffset + length ≤ buf.capacity then { buf with endOffset := buf.beginOffset + length }
  else ⟨0, length, buf.data ++ buf.buffer.drop buf.size⟩

/-- The offsets are in order and inside the block. -/
structure Valid (buf : IOBuffer) : Prop where
  ordered : buf.beginOffset ≤ buf.endOffset
  inside : buf.endOffset ≤ buf.capacity
  addressed : buf.capacity < 2 ^ 64

theorem Valid.size_eq {buf : IOBuffer} (valid : buf.Valid) :
    buf.size = buf.endOffset - buf.beginOffset := by
  have := valid.ordered
  have := valid.inside
  have := valid.addressed
  rw [size, show buf.endOffset + 2 ^ 64 - buf.beginOffset =
    (buf.endOffset - buf.beginOffset) + 2 ^ 64 by omega, Nat.add_mod_right]
  exact Nat.mod_eq_of_lt (by omega)

theorem Valid.data_length {buf : IOBuffer} (valid : buf.Valid) : buf.data.length = buf.size := by
  have ordered := valid.ordered
  have inside := valid.inside
  rw [data, List.length_take, List.length_drop, valid.size_eq]
  rw [capacity] at inside
  omega

theorem Valid.empty_iff {buf : IOBuffer} (valid : buf.Valid) : buf.empty = true ↔ buf.size = 0 := by
  have ordered := valid.ordered
  rw [empty, decide_eq_true_eq, valid.size_eq]
  omega

theorem Valid.data_eq_nil {buf : IOBuffer} (valid : buf.Valid) (empty : buf.empty = true) :
    buf.data = [] := by
  apply List.eq_nil_of_length_eq_zero
  rw [valid.data_length]
  exact valid.empty_iff.mp empty

theorem clone_eq (buf : IOBuffer) : buf.clone = buf := rfl

theorem Valid.clear {buf : IOBuffer} (valid : buf.Valid) : buf.clear.Valid :=
  ⟨Nat.le_refl _, Nat.zero_le _, valid.addressed⟩

theorem valid_nothing : ({} : IOBuffer).Valid :=
  ⟨Nat.le_refl _, Nat.zero_le _, Nat.two_pow_pos 64⟩

theorem ofCapacity_capacity (capacity : Nat) : (ofCapacity capacity).capacity = capacity :=
  List.length_replicate ..

theorem ofBytes_valid (short : bytes.length < 2 ^ 64) : (ofBytes bytes).Valid :=
  ⟨Nat.zero_le _, Nat.le_refl _, short⟩

/-- Consuming no more than the buffer holds keeps it in order. -/
theorem Valid.consume {buf : IOBuffer} (valid : buf.Valid) (held : count ≤ buf.size) :
    (buf.consume count).Valid := by
  have ordered := valid.ordered
  have inside := valid.inside
  have addressed := valid.addressed
  rw [valid.size_eq] at held
  rw [IOBuffer.consume, Nat.mod_eq_of_lt (by omega)]
  split
  · exact ⟨Nat.le_refl _, Nat.zero_le _, addressed⟩
  · exact ⟨by dsimp only; omega, inside, addressed⟩

/-- Consuming all a buffer holds empties it. -/
theorem Valid.consume_all {buf : IOBuffer} (valid : buf.Valid) :
    (buf.consume buf.size).empty = true := by
  have ordered := valid.ordered
  have inside := valid.inside
  have addressed := valid.addressed
  rw [IOBuffer.consume, valid.size_eq, Nat.mod_eq_of_lt (by omega)]
  have reached : buf.beginOffset + (buf.endOffset - buf.beginOffset) = buf.endOffset := by omega
  rw [reached, if_pos (by simp [empty])]
  rfl

end IOBuffer
end BeeSdk
