import BeeSdk.ScanfValues
import BeeSdk.VideoCacheProofs
import Mathlib.Data.List.TakeWhile

/-! Over any source that hands out its bytes in order the loops push one and the
same list, `told`. What is left is to say when that list is the encoded one and
when the ring is such a source. -/
namespace BeeSdk.ScanfValues
open VideoCache VideoCacheProofs DataPromise ByteOrder RingMemory BoundedFifo

/-! ### What is pushed of given bytes -/

def toldElements (field : DataField) : Nat → List UInt8 → List Value
  | 0, _ => []
  | count + 1, bytes =>
    pushed field (convert field (loadLittle (bytes.take (kDataTypeSize field.type)))) ::
      toldElements field count (bytes.drop (kDataTypeSize field.type))

def toldField (field : DataField) (bytes : List UInt8) : List Value :=
  match field.type with
  | .byteArray => [.string (bytes.take field.length)]
  | .string => [.string ((bytes.take field.length).takeWhile (· ≠ 0))]
  | _ => toldElements field field.length bytes

def told : List DataField → List UInt8 → List Value
  | [], _ => []
  | field :: format, bytes => toldField field bytes ++ told format (bytes.drop (fieldSize field))

@[simp] theorem toldElements_length : (toldElements field count bytes).length = count := by
  induction count generalizing bytes with
  | zero => rfl
  | succ count ih => rw [toldElements, List.length_cons, ih]

@[simp] theorem encodedElements_length : (encodedElements field count bytes).length = count := by
  induction count generalizing bytes with
  | zero => rfl
  | succ count ih => rw [encodedElements, List.length_cons, ih]

theorem told_length : (told format bytes).length = valueCount format := by
  induction format generalizing bytes with
  | nil => rfl
  | cons field format ih =>
    rw [told, List.length_append, ih, valueCount, toldField]
    cases field.type <;> simp

theorem encoded_length : (encoded format bytes).length = valueCount format := by
  induction format generalizing bytes with
  | nil => rfl
  | cons field format ih =>
    rw [encoded, List.length_append, ih, valueCount, encodedField]
    cases field.type <;> simp

/-! ### A source that hands out its bytes -/

/-- What holds of a source with given bytes and given reads to come: a read it has
the bytes for takes them off the front. -/
def Serves {σ : Type} (read : σ → UInt32 → Option (List UInt8 × σ))
    (holds : σ → List UInt8 → List UInt32 → Prop) : Prop :=
  ∀ source bytes len reads, holds source bytes (len :: reads) → 0 < len.toNat →
    len.toNat ≤ bytes.length →
      ∃ next, read source len = some (bytes.take len.toNat, next) ∧
        holds next (bytes.drop len.toNat) reads

theorem size_positive (type : DataTypeId) : 0 < kDataTypeSize type := by
  cases type <;> decide

theorem size_counted (type : DataTypeId) :
    (UInt32.ofNat (kDataTypeSize type)).toNat = kDataTypeSize type := by
  cases type <;> rfl

theorem single_size (single : kDataTypeSize field.type = 1) : fieldSize field = field.length := by
  rw [fieldSize, single, Nat.one_mul]

/-- A read as long as the variable leaves nothing of what it held. -/
theorem readInto_full (full : bytes.length = size) : readInto size v bytes = loadLittle bytes := by
  rw [readInto, List.drop_eq_nil_of_le (by rw [storeLittle_length]; omega), List.append_nil]

section Serves
variable {σ : Type} {read : σ → UInt32 → Option (List UInt8 × σ)}
  {holds : σ → List UInt8 → List UInt32 → Prop}

theorem push_elements_told (serves : Serves read holds) (field : DataField)
    (held : holds source bytes
      (List.replicate count (UInt32.ofNat (kDataTypeSize field.type)) ++ reads))
    (enough : kDataTypeSize field.type * count ≤ bytes.length) :
    ∃ next, pushElements read field count v source = some (toldElements field count bytes, next) ∧
      holds next (bytes.drop (kDataTypeSize field.type * count)) reads := by
  induction count generalizing source bytes v with
  | zero => exact ⟨source, rfl, by simpa using held⟩
  | succ count ih =>
    have size := size_counted field.type
    rw [Nat.mul_succ] at enough
    rw [List.replicate_succ, List.cons_append] at held
    obtain ⟨next, one, left⟩ := serves _ _ _ _ held (by rw [size]; exact size_positive _)
      (by rw [size]; omega)
    rw [size] at one left
    obtain ⟨final, others, rest⟩ := ih (v := convert field
      (readInto (kDataTypeSize field.type) v (bytes.take (kDataTypeSize field.type)))) left
      (by rw [List.length_drop]; omega)
    refine ⟨final, ?_, ?_⟩
    · simp only [pushElements, one, Option.bind_eq_bind, Option.bind_some, others, toldElements]
      rw [readInto_full (by rw [List.length_take]; omega)]
      rfl
    · rwa [List.drop_drop, Nat.add_comm, ← Nat.mul_succ] at rest

theorem read_block_told (serves : Serves read holds) (field : DataField)
    (held : holds source bytes (UInt32.ofNat field.length :: reads)) (positive : 0 < field.length)
    (counted : field.length < 2 ^ 32) (enough : field.length ≤ bytes.length) :
    ∃ next, readBlock read field source = some (bytes.take field.length, next) ∧
      holds next (bytes.drop field.length) reads := by
  have length : (UInt32.ofNat field.length).toNat = field.length :=
    UInt32.toNat_ofNat_of_lt' counted
  obtain ⟨next, one, left⟩ := serves _ _ _ _ held (by rwa [length]) (by rwa [length])
  rw [length] at one left
  refine ⟨next, ?_, left⟩
  have full : ¬ (bytes.take field.length).length < field.length := by
    rw [List.length_take]
    omega
  simp only [readBlock, one, Option.bind_eq_bind, Option.bind_some, if_neg full]
  rfl

theorem push_field_told (serves : Serves read holds) (field : DataField)
    (held : holds source bytes (readsOf field ++ reads)) (positive : 0 < field.length)
    (counted : field.length < 2 ^ 32) (enough : fieldSize field ≤ bytes.length) :
    ∃ next, pushField read field source = some (toldField field bytes, next) ∧
      holds next (bytes.drop (fieldSize field)) reads := by
  obtain ⟨type, length, hton⟩ := field
  cases type with
  | byteArray | string =>
    rw [single_size rfl] at enough ⊢
    obtain ⟨next, block, left⟩ := read_block_told serves _ held positive counted enough
    exact ⟨next, by rw [pushField, block]; rfl, left⟩
  | _ => exact push_elements_told serves _ held enough

/-- What the loop over the format pushes and leaves. -/
theorem push_format_told (serves : Serves read holds)
    (held : holds source bytes (format.flatMap readsOf))
    (lengths : ∀ field ∈ format, 0 < field.length) (counted : bytes.length < 2 ^ 32)
    (enough : formatSize format ≤ bytes.length) :
    ∃ next, pushFormat read format source = some (told format bytes, next) ∧
      holds next (bytes.drop (formatSize format)) [] := by
  induction format generalizing source bytes with
  | nil => exact ⟨source, rfl, by simpa [formatSize] using held⟩
  | cons field format ih =>
    rw [formatSize] at enough
    rw [List.flatMap_cons] at held
    have within : field.length ≤ fieldSize field :=
      Nat.le_mul_of_pos_left _ (size_positive field.type)
    obtain ⟨next, first, left⟩ := push_field_told serves field held (lengths field (by simp))
      (by omega) (by omega)
    obtain ⟨final, others, rest⟩ := ih left (fun field member => lengths field (by simp [member]))
      (by rw [List.length_drop]; omega) (by rw [List.length_drop]; omega)
    refine ⟨final, ?_, ?_⟩
    · simp only [pushFormat, first, Option.bind_eq_bind, Option.bind_some, others, told]
      rfl
    · rwa [List.drop_drop, ← formatSize] at rest

theorem scanf_loop_told (serves : Serves read holds)
    (held : holds source bytes (format.flatMap readsOf))
    (lengths : ∀ field ∈ format, 0 < field.length) (counted : bytes.length < 2 ^ 32)
    (enough : formatSize format ≤ bytes.length) (room : valueCount format ≤ slots) :
    ∃ next, scanfLoop read slots format source =
        some (Int32.ofNat format.length, told format bytes, next) ∧
      holds next (bytes.drop (formatSize format)) [] := by
  obtain ⟨next, pushes, left⟩ := push_format_told serves held lengths counted enough
  refine ⟨next, ?_, left⟩
  simp only [scanfLoop, pushes, Option.bind_eq_bind, Option.bind_some]
  rw [told_length, if_neg (Nat.not_lt.mpr room)]
  rfl

end Serves

/-! ### When what is pushed is what is encoded -/

/-- Up to four bytes the conversion gives the number the field says the bytes are. -/
theorem convert_number (full : bytes.length = kDataTypeSize type)
    (short : kDataTypeSize type ≤ 4) :
    convert ⟨type, length, hton⟩ (loadLittle bytes) = numberOf ⟨type, length, hton⟩ bytes := by
  cases hton with
  | false => rfl
  | true =>
    have swapped := swapBytes_load bytes
    cases type with
    | int8 | uint8 | byteArray | string =>
      obtain ⟨byte, rfl⟩ := List.length_eq_one_iff.mp full
      exact (loadBig_eq [byte]).symm
    | int16 | uint16 | int32 | uint32 =>
      rw [full] at swapped
      exact swapped
    | _ => simp [kDataTypeSize] at short

/-- `_ntohll` leaves in the low half, the only one that is pushed, the number of the
first four bytes. -/
theorem low_half_swapped (full : bytes.length = 8) :
    ntohll (loadLittle bytes) % 2 ^ 32 = loadBig (bytes.take 4) := by
  have length : (bytes.take 4).length = 4 := by
    rw [List.length_take]
    omega
  have low : loadLittle bytes % 2 ^ 32 = loadLittle (bytes.take 4) := by
    conv_lhs => rw [← List.take_append_drop 4 bytes]
    have bound := loadLittle_lt (bytes.take 4)
    rw [length] at bound
    rw [loadLittle_append, length]
    omega
  have swapped := swapBytes_load (bytes.take 4)
  have bound := loadBig_lt (bytes.take 4)
  rw [length] at swapped bound
  rw [ntohll, low, ntohl, ntohl, swapped]
  omega

/-- The eight bytes in network order, by their halves. -/
theorem big_halves (full : bytes.length = 8) :
    loadBig bytes = loadBig (bytes.drop 4) + 2 ^ 32 * loadBig (bytes.take 4) ∧
      loadBig (bytes.drop 4) < 2 ^ 32 := by
  have length : (bytes.drop 4).length = 4 := by
    rw [List.length_drop]
    omega
  have bound := loadBig_lt (bytes.drop 4)
  have split := loadBig_append (bytes.take 4) (bytes.drop 4)
  rw [List.take_append_drop, length] at split
  rw [length] at bound
  exact ⟨split, bound⟩

/-- An unsigned number is the signed one where that is not negative. -/
theorem unsigned_right_iff (bound : number < 256 ^ size) :
    Value.integer (number : Nat) = .integer (signed size number) ↔ 2 * number < 256 ^ size := by
  rw [Value.integer.injEq, signed]
  split
  · exact iff_of_true rfl ‹_›
  · have below : (number : Int) < 256 ^ size := by exact_mod_cast bound
    exact iff_of_false (by omega) ‹_›

theorem numberOf_lt (field : DataField) (bytes : List UInt8) :
    numberOf field bytes < 256 ^ bytes.length := by
  rw [numberOf]
  split
  · exact loadBig_lt bytes
  · exact loadLittle_lt bytes

theorem element_right_iff (full : bytes.length = kDataTypeSize field.type)
    (element : field.type ≠ .byteArray ∧ field.type ≠ .string) :
    pushed field (convert field (loadLittle bytes)) = encodedElement field bytes ↔
      PushedRight field bytes := by
  obtain ⟨type, length, hton⟩ := field
  have bound := numberOf_lt ⟨type, length, hton⟩ bytes
  rw [full] at bound
  cases type with
  | byteArray | string => simp at element
  | int8 | int16 | int32 =>
    rw [convert_number full (by simp [kDataTypeSize])]
    exact unsigned_right_iff bound
  | uint8 | uint16 | uint32 =>
    rw [convert_number full (by simp [kDataTypeSize])]
    exact iff_of_true rfl trivial
  | int64 | uint64 =>
    cases hton with
    | false =>
      have fits : loadLittle bytes < 256 ^ 8 := bound
      simp only [pushed, convert, encodedElement, PushedRight, numberOf, signed, kDataTypeSize,
        Bool.false_eq_true, ↓reduceIte, Value.integer.injEq, false_implies, and_true]
      grind
    | true =>
      have fits : loadBig bytes < 256 ^ 8 := bound
      obtain ⟨halves, below⟩ := big_halves full
      simp only [pushed, convert, encodedElement, PushedRight, numberOf, signed, kDataTypeSize,
        ↓reduceIte, Value.integer.injEq, forall_const]
      rw [low_half_swapped full]
      grind
  | double =>
    cases hton with
    | false => exact iff_of_true rfl (by intro wrong; cases wrong)
    | true =>
      simp only [pushed, convert, encodedElement, PushedRight, numberOf, ↓reduceIte,
        Value.number.injEq, forall_const]

/-- A field that stands for one value pushes it as it is encoded where `PushedRight` says. -/
theorem field_right_iff (enough : fieldSize field ≤ bytes.length)
    (single : field.type = .byteArray ∨ field.type = .string ∨ field.length = 1) :
    toldField field bytes = encodedField field bytes ↔
      PushedRight field (bytes.take (fieldSize field)) := by
  obtain ⟨type, length, hton⟩ := field
  by_cases block : type = .byteArray ∨ type = .string
  · rcases block with rfl | rfl
    · exact iff_of_true rfl trivial
    · rw [single_size rfl]
      simp only [toldField, encodedField, PushedRight, List.cons.injEq, Value.string.injEq,
        and_true, List.takeWhile_eq_self_iff]
      grind
  · have one : length = 1 := by
      rcases single with array | string | one
      · exact absurd (.inl array) block
      · exact absurd (.inr string) block
      · exact one
    subst one
    rw [fieldSize, Nat.mul_one] at enough
    have full : (bytes.take (kDataTypeSize type)).length = kDataTypeSize type := by
      rw [List.length_take]
      exact Nat.min_eq_left enough
    rw [fieldSize, Nat.mul_one, ← element_right_iff full (not_or.mp block)]
    have toldOne : toldField ⟨type, 1, hton⟩ bytes =
        [pushed ⟨type, 1, hton⟩ (convert ⟨type, 1, hton⟩
          (loadLittle (bytes.take (kDataTypeSize type))))] := by
      cases type <;> first | rfl | simp at block
    have encodedOne : encodedField ⟨type, 1, hton⟩ bytes =
        [encodedElement ⟨type, 1, hton⟩ (bytes.take (kDataTypeSize type))] := by
      cases type <;> first | rfl | simp at block
    rw [toldOne, encodedOne, List.cons.injEq, and_iff_left rfl]

/-- How many values one field stands for. -/
private theorem valueCount_cons (field : DataField) (format : List DataField) :
    valueCount (field :: format) = (toldField field []).length + valueCount format := by
  rw [valueCount, toldField]
  cases field.type <;> simp

theorem toldField_length (field : DataField) (bytes : List UInt8) :
    (toldField field bytes).length = (encodedField field bytes).length := by
  rw [toldField, encodedField]
  cases field.type <;> simp

/-- A field stands for a value at least, and for one exactly where it is single. -/
theorem field_count (positive : 0 < field.length) : 1 ≤ (toldField field bytes).length ∧
    ((toldField field bytes).length = 1 ↔
      (field.type = .byteArray ∨ field.type = .string ∨ field.length = 1)) := by
  rw [toldField]
  cases field.type <;> simp <;> omega

theorem valueCount_ge (lengths : ∀ field ∈ format, 0 < field.length) :
    format.length ≤ valueCount format := by
  induction format with
  | nil => exact Nat.le_refl 0
  | cons field format ih =>
    have first := (@field_count field [] (lengths field (by simp))).1
    have others := ih fun field member => lengths field (by simp [member])
    rw [valueCount_cons, List.length_cons]
    omega

theorem format_right_iff (lengths : ∀ field ∈ format, 0 < field.length)
    (enough : formatSize format ≤ bytes.length) :
    FormatRight format bytes ↔
      valueCount format = format.length ∧ told format bytes = encoded format bytes := by
  induction format generalizing bytes with
  | nil => exact iff_of_true trivial ⟨rfl, rfl⟩
  | cons field format ih =>
    rw [formatSize] at enough
    have rest : ∀ field ∈ format, 0 < field.length := fun field member =>
      lengths field (by simp [member])
    obtain ⟨one, single⟩ := @field_count field [] (lengths field (by simp))
    have others := valueCount_ge rest
    rw [FormatRight, ih rest (by rw [List.length_drop]; omega), valueCount_cons, List.length_cons,
      told, encoded]
    constructor
    · rintro ⟨alone, right, count, same⟩
      refine ⟨by rw [single.mpr alone, count]; omega, ?_⟩
      rw [(field_right_iff (by omega) alone).mpr right, same]
    · rintro ⟨count, same⟩
      have alone := single.mp (by omega)
      obtain ⟨first, after⟩ := List.append_inj same (toldField_length field bytes)
      exact ⟨alone, (field_right_iff (by omega) alone).mp first, by omega, after⟩

/-! ### The ring and the buffer as sources -/

/-- The ring with the bytes in it and the reads to come. -/
def RingHolds (capacity : Nat) (cache : LuaVideoCache) (bytes : List UInt8)
    (reads : List UInt32) : Prop :=
  FirstInside cache reads ∧ ∃ bounded, Represents cache ⟨capacity, bytes, bounded⟩

/-- Behind its first read the ring is not full, and no read steps out of it. -/
theorem ring_serves (capacity : Nat) :
    Serves VideoCache.LuaVideoCache.readData (RingHolds capacity) := by
  rintro cache bytes len reads ⟨inside, bounded, represents⟩ positive enough
  have fits := represents_fits represents
  have nonzero : cache.size ≠ 0 := by
    intro empty
    rw [empty] at fits
    have none : bytes.length ≤ 0 := fits
    omega
  obtain ⟨next, read, after⟩ := read_represents represents len nonzero (inside len rfl)
  refine ⟨next, read, ?_, _, after⟩
  rintro again _ ⟨full, _⟩
  have count := after.count
  have capacities := represents.capacity.symm.trans after.capacity
  have left : (bytes.drop len.toNat).length = bytes.length - len.toNat := List.length_drop
  rw [full] at count
  have same : next.size.toNat = (bytes.drop len.toNat).length := count
  have fits : bytes.length ≤ cache.size.toNat := fits
  omega

/-- The buffer with what is left of it, which ends where it ended before. -/
def BufferHolds (ends : Nat) (reader : LuaHttpScanfReader) (bytes : List UInt8)
    (_ : List UInt32) : Prop :=
  reader.Holds bytes ∧ reader.readPos + bytes.length = ends

theorem buffer_serves (ends : Nat) : Serves LuaHttpScanfReader.readData (BufferHolds ends) := by
  rintro reader bytes len reads ⟨⟨size, rfl⟩, ends⟩ positive enough
  rw [List.length_drop] at enough ends
  have going : ¬ (reader.size = 0 ∨ len = 0 ∨ reader.size ≤ reader.readPos) := by
    rintro (empty | zero | done)
    · omega
    · rw [zero] at positive
      exact Nat.lt_irrefl 0 positive
    · omega
  have whole : min len.toNat (reader.size - reader.readPos) = len.toNat := by omega
  refine ⟨{ reader with readPos := reader.readPos + len.toNat }, ?_, ⟨size, ?_⟩, ?_⟩
  · simp only [LuaHttpScanfReader.readData, if_neg going, whole, copyOut]
    rw [if_pos (by omega)]
    rfl
  · rw [List.drop_drop]
  · rw [List.length_drop, List.length_drop, ← ends]
    show reader.readPos + len.toNat + _ = _
    omega

/-! ### The decoders -/

section Stuck
variable {σ : Type} {read : σ → UInt32 → Option (List UInt8 × σ)}

/-- Where its first read is undefined a field is. -/
theorem push_field_stuck (positive : 0 < field.length)
    (stuck : ∀ len ∈ (readsOf field ++ reads).head?, read source len = none) :
    pushField read field source = none := by
  obtain ⟨type, length, hton⟩ := field
  obtain ⟨count, rfl⟩ : ∃ count, length = count + 1 := ⟨length - 1, by simp only at positive; omega⟩
  cases type with
  | byteArray | string =>
    have first := stuck _ rfl
    rw [pushField, readBlock, first]
    rfl
  | _ =>
    have first := stuck _ rfl
    rw [pushField, pushElements, first]
    rfl

theorem scanf_loop_stuck (lengths : ∀ field ∈ format, 0 < field.length) (nonempty : format ≠ [])
    (stuck : ∀ len ∈ (format.flatMap readsOf).head?, read source len = none) :
    scanfLoop read slots format source = none := by
  cases format with
  | nil => exact absurd rfl nonempty
  | cons field format =>
    rw [List.flatMap_cons] at stuck
    rw [scanfLoop, pushFormat, push_field_stuck (lengths field (by simp)) stuck]
    rfl

/-- What the loop returns has the slots it needs. -/
theorem scanf_loop_room (ran : scanfLoop read slots format source = some (ret, values, next)) :
    ret = Int32.ofNat format.length ∧ values.length ≤ slots ∧
      pushFormat read format source = some (values, next) := by
  rw [scanfLoop] at ran
  cases pushes : pushFormat read format source with
  | none =>
    rw [pushes] at ran
    cases ran
  | some pushed =>
    obtain ⟨values, source⟩ := pushed
    simp only [pushes, Option.bind_eq_bind, Option.bind_some] at ran
    split at ran
    · cases ran
    · cases ran
      exact ⟨rfl, by omega, rfl⟩

end Stuck

/-- What `Scanf` does on a ring that holds the bytes and steps out of nothing. -/
theorem cache_scanf_told (represents : Represents cache queue) (nonempty : format ≠ [])
    (lengths : ∀ field ∈ format, 0 < field.length)
    (enough : formatSize format ≤ queue.contents.length) (room : valueCount format ≤ slots)
    (inside : FirstInside cache (format.flatMap readsOf)) :
    ∃ next, LuaVideoCache.scanf cache (some slots) format =
        some (Int32.ofNat format.length, told format queue.contents, next) ∧
      Represents next (queue.drop (formatSize format)) := by
  have counted : queue.contents.length < 2 ^ 32 := by
    have fits := represents_fits represents
    have bound := cache.size.toNat_lt
    omega
  have held : RingHolds queue.capacity cache queue.contents (format.flatMap readsOf) :=
    ⟨inside, queue.bounded, represents⟩
  obtain ⟨next, ran, _, _, left⟩ :=
    scanf_loop_told (ring_serves queue.capacity) held lengths counted enough room
  exact ⟨next, by rw [LuaVideoCache.scanf]; exact (if_neg nonempty).trans ran, left⟩

/-- A result of `Scanf` was read inside the ring and had room on the stack. -/
theorem cache_scanf_defined (represents : Represents cache queue) (nonempty : format ≠ [])
    (lengths : ∀ field ∈ format, 0 < field.length)
    (enough : formatSize format ≤ queue.contents.length)
    (ran : LuaVideoCache.scanf cache (some slots) format = some (ret, values, next)) :
    FirstInside cache (format.flatMap readsOf) ∧ valueCount format ≤ slots := by
  rw [LuaVideoCache.scanf] at ran
  have looped := (if_neg nonempty).symm.trans ran
  have nonzero : cache.size ≠ 0 := by
    intro empty
    have fits := represents_fits represents
    rw [empty] at fits
    have none : queue.contents.length ≤ 0 := fits
    cases format with
    | nil => exact nonempty rfl
    | cons field format =>
      have first : 0 < fieldSize field :=
        Nat.mul_pos (size_positive _) (lengths field (by simp))
      rw [formatSize] at enough
      omega
  have inside : FirstInside cache (format.flatMap readsOf) := by
    apply Classical.byContradiction
    intro outside
    have stuck : ∀ len ∈ (format.flatMap readsOf).head?,
        VideoCache.LuaVideoCache.readData cache len = none := by
      intro len first
      apply read_past_end_undefined represents len nonzero
      apply Classical.byContradiction
      intro within
      apply outside
      intro other again
      rw [first] at again
      cases again
      exact within
    rw [scanf_loop_stuck lengths nonempty stuck] at looped
    cases looped
  refine ⟨inside, ?_⟩
  obtain ⟨_, room, pushes⟩ := scanf_loop_room looped
  have counted : queue.contents.length < 2 ^ 32 := by
    have fits := represents_fits represents
    have bound := cache.size.toNat_lt
    omega
  have held : RingHolds queue.capacity cache queue.contents (format.flatMap readsOf) :=
    ⟨inside, queue.bounded, represents⟩
  obtain ⟨_, again, _⟩ := push_format_told (ring_serves queue.capacity) held lengths counted enough
  rw [again] at pushes
  cases pushes
  rwa [told_length] at room

/-- The buffer decodes the same bytes the same way. -/
theorem reader_scanf_told {reader : LuaHttpScanfReader} (buffer : reader.Holds bytes)
    (nonempty : format ≠ []) (lengths : ∀ field ∈ format, 0 < field.length)
    (counted : bytes.length < 2 ^ 32) (enough : formatSize format ≤ bytes.length)
    (room : valueCount format ≤ slots) :
    ∃ after, reader.scanf (some slots) format =
        some (Int32.ofNat format.length, told format bytes, after) ∧
      after.readPos = reader.readPos + formatSize format := by
  obtain ⟨after, ran, _, ends⟩ :=
    scanf_loop_told (buffer_serves (reader.readPos + bytes.length)) ⟨buffer, rfl⟩ lengths counted
      enough room
  rw [List.length_drop] at ends
  exact ⟨after, by rw [LuaHttpScanfReader.scanf]; exact (if_neg nonempty).trans ran, by omega⟩

/-- `Scanf` hands back what the bytes hold exactly where every field stands for one
value that survives its conversion, there are so few fields that `ret` can count
them and the stack has a slot for each, and the first read stays inside the ring. -/
theorem scanf_returned_iff (represents : Represents cache queue)
    (lengths : ∀ field ∈ format, 0 < field.length)
    (enough : formatSize format ≤ queue.contents.length) :
    Returned slots cache format queue.contents ↔
      format ≠ [] ∧ format.length < 2 ^ 31 ∧ format.length ≤ slots ∧
        FirstInside cache (format.flatMap readsOf) ∧ FormatRight format queue.contents := by
  rw [format_right_iff lengths enough]
  constructor
  · rintro ⟨ret, next, ran, reported⟩
    have nonempty : format ≠ [] := by
      rintro rfl
      cases ran
      cases reported
    obtain ⟨inside, room⟩ := cache_scanf_defined represents nonempty lengths enough ran
    obtain ⟨_, again, _⟩ := cache_scanf_told represents nonempty lengths enough room inside
    have same := again.symm.trans ran
    simp only [Option.some.injEq, Prod.mk.injEq] at same
    obtain ⟨rfl, values, rfl⟩ := same
    have fields := valueCount_ge lengths
    have small := Int32.toInt_lt (Int32.ofNat format.length)
    rw [encoded_length] at reported
    have few : format.length < 2 ^ 31 := by omega
    rw [Int32.toInt_ofNat_of_lt few] at reported
    exact ⟨nonempty, few, by omega, inside, by omega, values⟩
  · rintro ⟨nonempty, few, room, inside, count, values⟩
    obtain ⟨next, ran, _⟩ := cache_scanf_told represents nonempty lengths enough
      (count.trans_le room) inside
    refine ⟨_, next, by rw [ran, values], ?_⟩
    rw [Int32.toInt_ofNat_of_lt few, encoded_length, count]

/-- A ring of eight bytes that a script asked for and filled at its front. -/
def filled (bytes : List UInt8) : LuaVideoCache :=
  ⟨bytes ++ List.replicate (8 - bytes.length) 0, 0, UInt32.ofNat bytes.length, 8⟩

theorem filled_represents (bytes : List UInt8) (fits : bytes.length ≤ 8) :
    Represents (filled bytes) ⟨8, bytes, fits⟩ := by
  have counted : (UInt32.ofNat bytes.length).toNat = bytes.length :=
    UInt32.toNat_ofNat_of_lt' (by simp only [UInt32.size]; omega)
  refine ⟨?_, rfl, ?_, .inr ?_, holds_front _ _⟩
  · show (bytes ++ List.replicate (8 - bytes.length) 0).length = 8
    rw [List.length_append, List.length_replicate]
    omega
  · show (UInt32.ofNat bytes.length - 0).toNat = bytes.length
    rw [UInt32.sub_zero, counted]
  · show 0 + bytes.length = (UInt32.ofNat bytes.length).toNat
    rw [counted, Nat.zero_add]

theorem port_returned :
    Returned 20 (filled [0x1F, 0x90, 7]) [⟨.uint16, 1, true⟩, ⟨.uint8, 1, false⟩] [0x1F, 0x90, 7] :=
  (scanf_returned_iff (filled_represents [0x1F, 0x90, 7] (by decide)) (by decide) (by decide)).mpr
    ⟨by decide, by decide, by decide, by
      rintro _ _ ⟨full, _⟩
      exact absurd full (by decide), by
      simp [FormatRight, PushedRight]⟩

/-- Two signed numbers in network order: one result is reported, two are pushed, and
the first has lost its sign. -/
theorem pair_not_returned :
    Represents (filled [0xFF, 0xFF, 0xFF, 0xFE, 0, 0, 0, 1])
        ⟨8, [0xFF, 0xFF, 0xFF, 0xFE, 0, 0, 0, 1], by decide⟩ ∧
      LuaVideoCache.scanf (filled [0xFF, 0xFF, 0xFF, 0xFE, 0, 0, 0, 1]) (some 20)
          [⟨.int32, 2, true⟩] =
        some (1, [.integer 4294967294, .integer 1],
          { filled [0xFF, 0xFF, 0xFF, 0xFE, 0, 0, 0, 1] with use := 8 }) ∧
      encoded [⟨.int32, 2, true⟩] [0xFF, 0xFF, 0xFF, 0xFE, 0, 0, 0, 1] =
        [.integer (-2), .integer 1] ∧
      ¬ Returned 20 (filled [0xFF, 0xFF, 0xFF, 0xFE, 0, 0, 0, 1]) [⟨.int32, 2, true⟩]
        [0xFF, 0xFF, 0xFF, 0xFE, 0, 0, 0, 1] := by
  have ran : LuaVideoCache.scanf (filled [0xFF, 0xFF, 0xFF, 0xFE, 0, 0, 0, 1]) (some 20)
      [⟨.int32, 2, true⟩] = some (1, [.integer 4294967294, .integer 1],
        { filled [0xFF, 0xFF, 0xFF, 0xFE, 0, 0, 0, 1] with use := 8 }) := by rfl
  have meant : encoded [⟨.int32, 2, true⟩] [0xFF, 0xFF, 0xFF, 0xFE, 0, 0, 0, 1] =
      [.integer (-2), .integer 1] := by rfl
  refine ⟨filled_represents _ (by decide), ran, meant, ?_⟩
  rintro ⟨ret, next, returned, _⟩
  rw [ran, meant] at returned
  simp at returned

/-! ### Both decoders -/

/-- The decoders agree exactly where there is a field, both stacks have the slots, and
the first read stays inside the ring. -/
theorem decoders_agree_iff {reader : LuaHttpScanfReader} (represents : Represents cache queue)
    (buffer : reader.Holds queue.contents) (lengths : ∀ field ∈ format, 0 < field.length)
    (enough : formatSize format ≤ queue.contents.length) :
    Agree l co cache reader format queue ↔
      format ≠ [] ∧ valueCount format ≤ l ∧ valueCount format ≤ co ∧
        FirstInside cache (format.flatMap readsOf) := by
  have counted : queue.contents.length < 2 ^ 32 := by
    have fits := represents_fits represents
    have bound := cache.size.toNat_lt
    omega
  constructor
  · rintro ⟨ret, values, next, after, fromCache, fromReader, _⟩
    have nonempty : format ≠ [] := by
      rintro rfl
      cases fromCache
      cases fromReader
    obtain ⟨inside, room⟩ := cache_scanf_defined represents nonempty lengths enough fromCache
    obtain ⟨_, again, _⟩ := cache_scanf_told represents nonempty lengths enough room inside
    have same := again.symm.trans fromCache
    simp only [Option.some.injEq, Prod.mk.injEq] at same
    obtain ⟨rfl, rfl, rfl⟩ := same
    have looped := (if_neg nonempty).symm.trans fromReader
    have other := (scanf_loop_room looped).2.1
    rw [told_length] at other
    exact ⟨nonempty, room, other, inside⟩
  · rintro ⟨nonempty, room, other, inside⟩
    obtain ⟨next, fromCache, left⟩ :=
      cache_scanf_told represents nonempty lengths enough room inside
    obtain ⟨after, fromReader, took⟩ :=
      reader_scanf_told buffer nonempty lengths counted enough other
    exact ⟨_, _, next, after, fromCache, fromReader, left, took⟩

theorem port_agrees :
    Agree 20 20 (filled [0x1F, 0x90, 7]) ⟨[0, 0x1F, 0x90, 7], 4, 1⟩
      [⟨.uint16, 1, true⟩, ⟨.uint8, 1, false⟩] ⟨8, [0x1F, 0x90, 7], by decide⟩ :=
  (decoders_agree_iff (filled_represents [0x1F, 0x90, 7] (by decide)) ⟨rfl, rfl⟩ (by decide)
    (by decide)).mpr
    ⟨by decide, by decide, by decide, by
      rintro _ _ ⟨full, _⟩
      exact absurd full (by decide)⟩

/-- A full ring whose first byte is its last cell: `Scanf` reads past the block where the
buffer gives the number. -/
theorem full_ring_disagrees :
    Represents ⟨[0x90, 0x1F], 1, 3, 2⟩ ⟨2, [0x1F, 0x90], by decide⟩ ∧
      LuaVideoCache.scanf ⟨[0x90, 0x1F], 1, 3, 2⟩ (some 20) [⟨.uint16, 1, true⟩] = none ∧
      LuaHttpScanfReader.scanf ⟨[0x1F, 0x90], 2, 0⟩ (some 20) [⟨.uint16, 1, true⟩] =
        some (1, [.integer 8080], ⟨[0x1F, 0x90], 2, 2⟩) ∧
      ¬ Agree 20 20 ⟨[0x90, 0x1F], 1, 3, 2⟩ ⟨[0x1F, 0x90], 2, 0⟩ [⟨.uint16, 1, true⟩]
        ⟨2, [0x1F, 0x90], by decide⟩ := by
  have undefined : LuaVideoCache.scanf ⟨[0x90, 0x1F], 1, 3, 2⟩ (some 20) [⟨.uint16, 1, true⟩] =
      none := by rfl
  refine ⟨⟨rfl, rfl, rfl, .inl (by decide), ?_⟩, undefined, by rfl, ?_⟩
  · unfold Holds
    decide
  · rintro ⟨_, _, _, _, ran, _⟩
    rw [undefined] at ran
    cases ran

end BeeSdk.ScanfValues
