import BeeSdk.ByteOrder
import Mathlib.Data.List.TakeWhile

/-! Bytes written to places of a block of memory, and what is read at other places of it
afterwards. -/
namespace BeeSdk.ByteFields

/-- What a block holds after bytes have been moved to a place inside it. -/
def overwritten (bytes : List UInt8) (offset : Nat) (data : List UInt8) : List UInt8 :=
  bytes.take offset ++ data ++ bytes.drop (offset + data.length)

/-- The field of `count` bytes at an offset. -/
def slice (bytes : List UInt8) (offset count : Nat) : List UInt8 := (bytes.drop offset).take count

/-- Bytes moved to an offset. Undefined where they leave the block. -/
def store (bytes : List UInt8) (offset : Nat) (data : List UInt8) : Option (List UInt8) :=
  if offset + data.length ≤ bytes.length then some (overwritten bytes offset data) else none

variable {bytes data stored : List UInt8} {offset start count : Nat}

theorem overwritten_length (within : offset + data.length ≤ bytes.length) :
    (overwritten bytes offset data).length = bytes.length := by
  simp only [overwritten, List.length_append, List.length_take, List.length_drop]
  omega

theorem overwritten_front : overwritten bytes 0 data = data ++ bytes.drop data.length := by
  simp [overwritten]

theorem overwritten_all (same : data.length = bytes.length) : overwritten bytes 0 data = data := by
  rw [overwritten_front, same, List.drop_length, List.append_nil]

theorem slice_append (first second : Nat) : slice bytes offset (first + second) =
    slice bytes offset first ++ slice bytes (offset + first) second := by
  rw [slice, slice, slice, List.take_add, List.drop_drop]

theorem slice_zeros (count' : Nat) (within : offset + count ≤ count') :
    slice (List.replicate count' 0) offset count = List.replicate count 0 := by
  rw [slice, List.drop_replicate, List.take_replicate]
  congr 1
  omega

theorem store_some (within : offset + data.length ≤ bytes.length) :
    ∃ stored, store bytes offset data = some stored ∧ stored.length = bytes.length :=
  ⟨_, if_pos within, overwritten_length within⟩

theorem store_inv (taken : store bytes offset data = some stored) :
    offset + data.length ≤ bytes.length ∧ stored = overwritten bytes offset data := by
  unfold store at taken
  split at taken
  · next within => exact ⟨within, (Option.some.inj taken).symm⟩
  · cases taken

/-- A field that ends where the bytes begin is as it was. -/
theorem slice_before (taken : store bytes offset data = some stored)
    (before : start + count ≤ offset) : slice stored start count = slice bytes start count := by
  obtain ⟨within, rfl⟩ := store_inv taken
  have room : start ≤ (bytes.take offset).length := by
    rw [List.length_take]
    omega
  rw [slice, slice, overwritten, List.append_assoc, List.drop_append_of_le_length room,
    List.take_append_of_le_length (by rw [List.length_drop, List.length_take]; omega),
    List.drop_take, List.take_take, Nat.min_eq_left (by omega)]

/-- A field that begins where the bytes end is as it was. -/
theorem slice_after (taken : store bytes offset data = some stored)
    (after : offset + data.length ≤ start) : slice stored start count = slice bytes start count := by
  obtain ⟨within, rfl⟩ := store_inv taken
  have front : (bytes.take offset ++ data).length = offset + data.length := by
    rw [List.length_append, List.length_take]
    omega
  rw [slice, slice, overwritten, List.drop_append, front, List.drop_eq_nil_of_le (by omega),
    List.nil_append, List.drop_drop]
  congr 2
  omega

/-- A field the bytes are the first of. -/
theorem slice_within (taken : store bytes offset data = some stored)
    (most : data.length ≤ count) : slice stored offset count =
      data ++ slice bytes (offset + data.length) (count - data.length) := by
  obtain ⟨within, rfl⟩ := store_inv taken
  have front : (bytes.take offset).length = offset := by
    rw [List.length_take]
    omega
  rw [slice, slice, overwritten, List.append_assoc, List.drop_append, front, Nat.sub_self,
    List.drop_eq_nil_of_le (by omega), List.nil_append, List.drop_zero, List.take_append,
    List.take_of_length_le most]

/-- The field the bytes fill. -/
theorem slice_same (taken : store bytes offset data = some stored) :
    slice stored offset data.length = data := by
  rw [slice_within taken (Nat.le_refl _), Nat.sub_self, slice, List.take_zero, List.append_nil]

/-! ### Texts that end with a zero -/

/-- The text of a field up to its terminating zero, none where the field has no zero. -/
def text (field : List UInt8) : Option (List UInt8) :=
  if 0 ∈ field then some (field.takeWhile (· ≠ 0)) else none

/-- A text is shorter than its field and has no zero. -/
theorem text_inv {field found : List UInt8} (read : text field = some found) :
    0 ∉ found ∧ found.length < field.length := by
  unfold text at read
  split at read
  · next zero =>
    cases read
    constructor
    · intro member
      simpa using List.mem_takeWhile_imp member
    · have split := List.takeWhile_append_dropWhile (p := (· ≠ (0 : UInt8))) (l := field)
      have rest : field.dropWhile (· ≠ 0) ≠ [] := by
        intro none
        rw [none, List.append_nil] at split
        rw [← split] at zero
        simpa using List.mem_takeWhile_imp zero
      have behind := List.length_pos_iff.mpr rest
      have whole := congrArg List.length split
      rw [List.length_append] at whole
      omega
  · cases read

/-- A text with a zero behind it is read again. -/
theorem text_terminated {found : List UInt8} (rest : List UInt8) (clean : 0 ∉ found) :
    text (found ++ 0 :: rest) = some found := by
  have all : ∀ byte ∈ found, decide (byte ≠ 0) = true := by
    intro byte member
    exact decide_eq_true fun zero => clean (zero ▸ member)
  rw [text, if_pos (by simp), List.takeWhile_append_of_pos all, List.takeWhile_cons]
  simp

end BeeSdk.ByteFields
