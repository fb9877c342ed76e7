import BeeSdk.ByteFields
import BeeSdk.IOBuffer

/-! An `IOBuffer` seen as a queue: what each operation makes of the unread bytes. -/
namespace BeeSdk.IOBuffer
open ByteFields

def freespace (buf : IOBuffer) : Nat := (buf.capacity + 2 ^ 64 - buf.endOffset) % 2 ^ 64

/-- `fill` with bytes it has room for. -/
def extend (buf : IOBuffer) (bytes : List UInt8) : IOBuffer :=
  { buf with
    endOffset := (buf.endOffset + bytes.length) % 2 ^ 64
    buffer := overwritten buf.buffer buf.endOffset bytes }

def produce (buf : IOBuffer) (count : Nat) : IOBuffer :=
  { buf with endOffset := (buf.endOffset + count) % 2 ^ 64 }

def align (buf : IOBuffer) : IOBuffer :=
  if buf.beginOffset ≠ 0 then
    if buf.beginOffset ≠ buf.endOffset then ⟨0, buf.size, buf.data ++ buf.buffer.drop buf.size⟩
    else buf.clear
  else buf

variable {buf : IOBuffer}

theorem Valid.data_eq (valid : buf.Valid) :
    buf.data = (buf.buffer.drop buf.beginOffset).take (buf.endOffset - buf.beginOffset) := by
  rw [data, valid.size_eq]

theorem Valid.freespace_eq (valid : buf.Valid) : buf.freespace = buf.capacity - buf.endOffset := by
  have := valid.inside
  have := valid.addressed
  rw [freespace, show buf.capacity + 2 ^ 64 - buf.endOffset =
    (buf.capacity - buf.endOffset) + 2 ^ 64 by omega, Nat.add_mod_right]
  exact Nat.mod_eq_of_lt (by omega)

theorem data_ofBytes (bytes : List UInt8) (short : bytes.length < 2 ^ 64) :
    (ofBytes bytes).data = bytes := by
  rw [(ofBytes_valid short).data_eq]
  simp [ofBytes]

theorem data_clear (valid : buf.Valid) : buf.clear.data = [] :=
  valid.clear.data_eq_nil (by simp [empty, clear])

/-- Consuming drops a prefix. -/
theorem data_consume (valid : buf.Valid) (held : count ≤ buf.size) :
    (buf.consume count).data = buf.data.drop count := by
  have ordered := valid.ordered
  have inside := valid.inside
  have addressed := valid.addressed
  have moved : (buf.beginOffset + count) % 2 ^ 64 = buf.beginOffset + count := by
    rw [valid.size_eq] at held
    exact Nat.mod_eq_of_lt (by omega)
  rw [(valid.consume held).data_eq, valid.data_eq, List.drop_take, List.drop_drop]
  rw [valid.size_eq] at held
  rw [consume, moved]
  split
  · next emptied =>
    have reached : buf.beginOffset + count = buf.endOffset := by simpa [empty] using emptied
    simp [clear, show buf.endOffset - buf.beginOffset - count = 0 by omega]
  · simp only [Nat.sub_sub]

/-- Filling extends the end. -/
theorem data_extend (valid : buf.Valid) (room : bytes.length ≤ buf.freespace) :
    (buf.extend bytes).Valid ∧ (buf.extend bytes).data = buf.data ++ bytes := by
  have ordered := valid.ordered
  have inside := valid.inside
  have addressed := valid.addressed
  rw [valid.freespace_eq] at room
  have moved : (buf.endOffset + bytes.length) % 2 ^ 64 = buf.endOffset + bytes.length :=
    Nat.mod_eq_of_lt (by omega)
  have length : (overwritten buf.buffer buf.endOffset bytes).length = buf.capacity :=
    overwritten_length (by rw [capacity] at room inside; omega)
  have extended : (buf.extend bytes).Valid := by
    constructor
    · rw [extend, moved]
      dsimp only
      omega
    · rw [extend, moved, capacity, length]
      dsimp only
      omega
    · rw [extend, capacity, length]
      exact addressed
  refine ⟨extended, ?_⟩
  rw [extended.data_eq, valid.data_eq, extend, moved, overwritten]
  dsimp only
  rw [List.append_assoc, List.drop_append_of_le_length (by
    rw [List.length_take]; rw [capacity] at inside; omega), List.drop_take]
  have whole : ((buf.buffer.drop buf.beginOffset).take
      (buf.endOffset - buf.beginOffset)).length = buf.endOffset - buf.beginOffset := by
    rw [List.length_take, List.length_drop]
    rw [capacity] at inside
    omega
  rw [show buf.endOffset + bytes.length - buf.beginOffset =
    ((buf.buffer.drop buf.beginOffset).take (buf.endOffset - buf.beginOffset)).length +
      bytes.length by omega, List.take_length_add_append, List.take_left]

/-- Producing extends the end by what the block holds there. -/
theorem data_produce (valid : buf.Valid) (room : count ≤ buf.freespace) :
    (buf.produce count).Valid ∧
      (buf.produce count).data = buf.data ++ (buf.buffer.drop buf.endOffset).take count := by
  have ordered := valid.ordered
  have inside := valid.inside
  have addressed := valid.addressed
  rw [valid.freespace_eq] at room
  have moved : (buf.endOffset + count) % 2 ^ 64 = buf.endOffset + count :=
    Nat.mod_eq_of_lt (by omega)
  have produced : (buf.produce count).Valid := by
    constructor
    · rw [produce, moved]
      dsimp only
      omega
    · rw [produce, moved]
      show _ ≤ buf.capacity
      dsimp only
      omega
    · exact addressed
  refine ⟨produced, ?_⟩
  rw [produced.data_eq, valid.data_eq, produce, moved]
  dsimp only
  rw [show buf.endOffset + count - buf.beginOffset =
    (buf.endOffset - buf.beginOffset) + count by omega, List.take_add, List.drop_drop,
    Nat.add_sub_cancel' ordered]

/-- Bytes moved to the front are followed by whatever was behind them. -/
theorem valid_front (valid : buf.Valid) (most : length ≤ buf.capacity) :
    IOBuffer.Valid ⟨0, length, buf.data ++ buf.buffer.drop buf.size⟩ ∧
      IOBuffer.data ⟨0, length, buf.data ++ buf.buffer.drop buf.size⟩ =
        (buf.data ++ buf.buffer.drop buf.size).take length := by
  have ordered := valid.ordered
  have inside := valid.inside
  have whole : (buf.data ++ buf.buffer.drop buf.size).length = buf.capacity := by
    rw [List.length_append, valid.data_length, List.length_drop, ← capacity, valid.size_eq]
    omega
  have front : IOBuffer.Valid ⟨0, length, buf.data ++ buf.buffer.drop buf.size⟩ := by
    refine ⟨Nat.zero_le _, ?_, ?_⟩
    · rw [capacity, whole]
      exact most
    · rw [capacity, whole]
      exact valid.addressed
  refine ⟨front, ?_⟩
  rw [front.data_eq, Nat.sub_zero, List.drop_zero]

/-- Resizing keeps the bytes that survive. -/
theorem data_resize (valid : buf.Valid) (most : length ≤ buf.capacity) :
    (buf.resize length).Valid ∧ (buf.resize length).data.length = length ∧
      (buf.resize length).data.take buf.size = buf.data.take length := by
  have ordered := valid.ordered
  have inside := valid.inside
  have size := valid.size_eq
  rw [resize]
  split
  · next stays =>
    have resized : IOBuffer.Valid { buf with endOffset := buf.beginOffset + length } :=
      ⟨Nat.le_add_right _ _, stays, valid.addressed⟩
    refine ⟨resized, ?_, ?_⟩
    · rw [resized.data_length, resized.size_eq]
      exact Nat.add_sub_cancel_left _ _
    · rw [resized.data_eq, valid.data_eq, List.take_take, List.take_take, size]
      dsimp only
      rw [Nat.add_sub_cancel_left, Nat.min_comm]
  · next moves =>
    obtain ⟨front, data⟩ := valid_front valid most
    refine ⟨front, ?_, ?_⟩
    · rw [front.data_length, front.size_eq, Nat.sub_zero]
    · have short : buf.data.length ≤ length := by
        rw [valid.data_length]
        omega
      rw [data, List.take_take, ← valid.data_length, Nat.min_eq_left short, List.take_left,
        List.take_of_length_le short]

/-- Aligning keeps the bytes as they are. -/
theorem data_align (valid : buf.Valid) : buf.align.Valid ∧ buf.align.data = buf.data := by
  have inside := valid.inside
  rw [align]
  split
  · split
    · have most : buf.size ≤ buf.capacity := by
        rw [valid.size_eq]
        omega
      obtain ⟨front, data⟩ := valid_front valid most
      refine ⟨front, ?_⟩
      rw [data, ← valid.data_length, List.take_left]
    · next reached =>
      refine ⟨valid.clear, ?_⟩
      rw [data_clear valid, valid.data_eq_nil]
      simpa [empty] using reached
  · exact ⟨valid, rfl⟩

end BeeSdk.IOBuffer
