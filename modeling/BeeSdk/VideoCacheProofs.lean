import BeeSdk.VideoCache

/-! The ring refines a bounded queue wherever its calls are defined. The index
arithmetic is settled once, on natural numbers; each call then has one lemma
saying what it returns and that the ring still holds the queue. -/
namespace BeeSdk.VideoCacheProofs
open RingMemory BoundedFifo VideoCache LuaVideoCache

variable {cache : LuaVideoCache} {queue : Fifo UInt8}

/-! ### Counters and indices -/

private theorem toNat_count (count : Nat) (small : count < 2 ^ 32) :
    (UInt32.ofNat count).toNat = count := by
  rw [UInt32.toNat_ofNat']
  exact Nat.mod_eq_of_lt small

private theorem toNat_limited (len bound : UInt32) :
    (if len > bound then bound else len).toNat = min len.toNat bound.toNat := by
  split
  · rename_i above
    have := UInt32.lt_iff_toNat_lt.mp above
    omega
  · rename_i within
    have : ¬ bound.toNat < len.toNat := fun less => within (UInt32.lt_iff_toNat_lt.mpr less)
    omega

private theorem toNat_sub_le (a b : UInt32) (le : b.toNat ≤ a.toNat) :
    (a - b).toNat = a.toNat - b.toNat := by
  have := a.toNat_lt
  have := b.toNat_lt
  rw [UInt32.toNat_sub]
  omega

private theorem modulo_some {a b : UInt32} (nonzero : b ≠ 0) : modulo a b = some (a % b) :=
  if_neg nonzero

private theorem positive_of_ne_zero {a : UInt32} (nonzero : a ≠ 0) : 0 < a.toNat := by
  apply Nat.pos_of_ne_zero
  intro zero
  exact nonzero (UInt32.toNat_inj.mp zero)

theorem represents_fits (holds : Represents cache queue) :
    queue.contents.length ≤ cache.size.toNat := by
  have := queue.bounded
  have := holds.capacity
  omega

/-- The counters differ by the number of stored bytes, once around 2^32 at
most. -/
private theorem represents_counters (holds : Represents cache queue) :
    cache.use.toNat + queue.contents.length = cache.tail.toNat ∨
      (cache.use.toNat + queue.contents.length = cache.tail.toNat + 2 ^ 32 ∧
        cache.size.toNat ∣ 2 ^ 32) := by
  have count := holds.count
  have := cache.use.toNat_lt
  have := cache.tail.toNat_lt
  rw [UInt32.toNat_sub] at count
  rcases holds.aligned with divides | straight
  · by_cases same : cache.use.toNat + queue.contents.length = cache.tail.toNat
    · exact .inl same
    · exact .inr ⟨by omega, divides⟩
  · exact .inl straight

/-- `tail_` reduces to the cell behind the last stored byte, also after the
counters have passed 2^32. -/
private theorem represents_tail_index (holds : Represents cache queue) :
    (cache.tail % cache.size).toNat =
      (cache.use.toNat + queue.contents.length) % cache.size.toNat := by
  rw [UInt32.toNat_mod]
  rcases (represents_counters holds) with straight | ⟨around, divides⟩
  · rw [straight]
  · obtain ⟨turns, size⟩ := divides
    rw [around, size, Nat.add_mul_mod_self_left]

/-- Where the cell behind the last byte lies: before the first byte when the
stored bytes wrap or fill the ring up to its start, behind it otherwise. -/
private theorem tail_index_cases (use : Nat) {held size : Nat} (positive : 0 < size) (fits : held ≤ size) :
    ((use + held) % size = use % size + held ∧ use % size + held < size) ∨
      ((use + held) % size + size = use % size + held ∧ size ≤ use % size + held) := by
  have inside := Nat.mod_lt use positive
  rw [← Nat.mod_add_mod]
  by_cases before : use % size + held < size
  · exact .inl ⟨Nat.mod_eq_of_lt before, before⟩
  · refine .inr ⟨?_, by omega⟩
    rw [Nat.mod_eq_sub_mod (by omega), Nat.mod_eq_of_lt (by omega)]
    omega

theorem represents_data_size (holds : Represents cache queue) :
    cache.getDataSize.toNat = queue.contents.length := holds.count

theorem represents_space (holds : Represents cache queue) :
    (cache.size - (cache.tail - cache.use)).toNat = queue.room := by
  have := (represents_fits holds)
  rw [toNat_sub_le _ _ (by rw [holds.count]; exact (represents_fits holds)), holds.count, Fifo.room,
    holds.capacity]

theorem represents_space_size (holds : Represents cache queue) (expectSize : UInt32) :
    (cache.getSpaceSize expectSize).toNat = min expectSize.toNat queue.room := by
  rw [getSpaceSize, toNat_limited, (represents_space holds)]

private theorem represents_all_space (holds : Represents cache queue) :
    (cache.getSpaceSize (-1)).toNat = queue.room := by
  have := cache.size.toNat_lt
  have := holds.capacity
  rw [(represents_space_size holds), Fifo.room]
  have : (-1 : UInt32).toNat = 2 ^ 32 - 1 := by decide
  omega

/-! ### Each call -/

/-- The written bytes lie behind the stored ones however many copies the write
takes: the ring it leaves holds both. -/
private theorem write_ring {block bytes : List UInt8} {use tail len size : Nat}
    (items : List UInt8) (positive : 0 < size) (length : block.length = size)
    (held : Holds block use items) (index : tail = (use + items.length) % size)
    (count : bytes.length = len) (fits : items.length + len ≤ size) :
    (tail < use % size ∨ len ≤ size - tail →
      ∃ after, copyIn block tail bytes = some after ∧ after.length = size ∧
        Holds after use (items ++ bytes)) ∧
    (size - tail < len →
      ∃ middle after, copyIn block tail (bytes.take (size - tail)) = some middle ∧
        copyIn middle 0 (bytes.drop (size - tail)) = some after ∧ after.length = size ∧
        Holds after use (items ++ bytes)) := by
  subst length
  have inside : tail < block.length := index ▸ Nat.mod_lt _ positive
  constructor
  · intro straight
    have room : tail + bytes.length ≤ block.length := by
      have := Nat.mod_lt use positive
      rcases tail_index_cases use positive (show items.length ≤ block.length by omega)
        with ⟨same, _⟩ | ⟨same, _⟩ <;> omega
    obtain ⟨after, copied, wrote⟩ := copyIn_wrote block tail bytes room
    refine ⟨after, copied, wrote.size, Wrote.extends ?_ held (by omega)⟩
    exact Wrote.of_mod (index ▸ wrote)
  · intro wraps
    obtain ⟨middle, first, wroteFirst⟩ := copyIn_wrote block tail
      (bytes.take (block.length - tail)) (by simp; omega)
    obtain ⟨after, second, wroteSecond⟩ := copyIn_wrote middle 0
      (bytes.drop (block.length - tail)) (by rw [wroteFirst.size]; simp; omega)
    have atStart : (use + items.length + (bytes.take (block.length - tail)).length) %
        middle.length = 0 := by
      rw [wroteFirst.size, List.length_take, Nat.min_eq_left (by omega), ← Nat.mod_add_mod,
        ← index, Nat.add_sub_cancel' (by omega), Nat.mod_self]
    have behind : Wrote block (use + items.length) (bytes.take (block.length - tail)) middle :=
      Wrote.of_mod (by rwa [← index])
    have whole := behind.append (Wrote.of_mod (by rwa [atStart])) (by simp; omega)
    rw [List.take_append_drop] at whole
    exact ⟨middle, after, first, second, whole.size, whole.extends held (by omega)⟩

/-- `WriteData` accepts the first bytes that fit and stores them behind the
others. -/
theorem write_represents (holds : Represents cache queue) (buf : Source) (nonzero : cache.size ≠ 0)
    (turns : cache.size.toNat ∣ 2 ^ 32 ∨
      cache.tail.toNat + min buf.bytes.length (cache.getSpaceSize (-1)).toNat < 2 ^ 32) :
    ∃ buffer, cache.writeData buf = some (UInt32.ofNat (buf.bytes.take queue.room).length,
        { cache with tail := cache.tail + UInt32.ofNat (buf.bytes.take queue.room).length,
                     buffer }) ∧
      Represents { cache with tail := cache.tail + UInt32.ofNat (buf.bytes.take queue.room).length,
                              buffer } (queue.write buf.bytes) := by
  have positive := positive_of_ne_zero nonzero
  have fits := (represents_fits holds)
  have small := cache.size.toNat_lt
  rw [represents_all_space holds] at turns
  -- The length the source works with is the number of bytes the queue accepts.
  have length : (if buf.len > cache.getSpaceSize (-1) then cache.getSpaceSize (-1) else buf.len) =
      UInt32.ofNat (buf.bytes.take queue.room).length := by
    apply UInt32.toNat_inj.mp
    rw [toNat_limited, (represents_all_space holds), Source.len, toNat_count _ buf.counted, List.length_take,
      toNat_count _ (by have := buf.counted; omega), Nat.min_comm]
  have room : queue.room = cache.size.toNat - queue.contents.length := by
    rw [Fifo.room, holds.capacity]
  have lenNat : (UInt32.ofNat (buf.bytes.take queue.room).length).toNat =
      (buf.bytes.take queue.room).length := toNat_count _ (by simp; omega)
  have accepted : buf.bytes.take (buf.bytes.take queue.room).length =
      buf.bytes.take queue.room := by
    rw [List.length_take, ← List.take_eq_take_min]
  have index := (represents_tail_index holds)
  have tailInside : (cache.tail % cache.size).toNat < cache.size.toNat := by
    rw [index]
    exact Nat.mod_lt _ positive
  have left : (cache.size - cache.tail % cache.size).toNat =
      cache.size.toNat - (cache.tail % cache.size).toNat := toNat_sub_le _ _ (by omega)
  have lengthBound : queue.contents.length + (buf.bytes.take queue.room).length ≤
      cache.size.toNat := by
    simp only [List.length_take]
    omega
  obtain ⟨straight, wrapped⟩ := write_ring queue.contents positive holds.block holds.holds index
    rfl lengthBound
  -- What remains is the same for all three copies: the counters of the next state.
  have settle : ∀ after, after.length = cache.size.toNat →
      Holds after cache.use.toNat (queue.contents ++ buf.bytes.take queue.room) →
      Represents { cache with
        tail := cache.tail + UInt32.ofNat (buf.bytes.take queue.room).length,
        buffer := after } (queue.write buf.bytes) := by
    intro after size held
    have total : cache.tail + UInt32.ofNat (buf.bytes.take queue.room).length - cache.use =
        (cache.tail - cache.use) + UInt32.ofNat (buf.bytes.take queue.room).length := by
      grind
    refine ⟨size, holds.capacity, ?_, ?_, held⟩
    · rw [total, UInt32.toNat_add, holds.count, lenNat, Nat.mod_eq_of_lt (by omega)]
      simp [Fifo.write]
    · rcases turns with divides | below
      · exact .inl divides
      · rcases holds.aligned with divides | ahead
        · exact .inl divides
        · right
          rw [UInt32.toNat_add, lenNat, List.length_take, Nat.min_comm, Nat.mod_eq_of_lt below]
          simp only [Fifo.write, List.length_append, List.length_take]
          omega
  simp only [writeData, modulo_some nonzero, Option.bind_eq_bind, Option.bind_some, length]
  rw [lenNat, accepted, left]
  split
  · rename_i above
    obtain ⟨after, copied, size, held⟩ := straight (.inl (by
      rw [← UInt32.toNat_mod]
      exact UInt32.lt_iff_toNat_lt.mp above))
    exact ⟨_, by rw [copied]; rfl, settle after size held⟩
  · split
    · rename_i within
      have := UInt32.le_iff_toNat_le.mp within
      obtain ⟨after, copied, size, held⟩ := straight (.inr (by omega))
      exact ⟨_, by rw [copied]; rfl, settle after size held⟩
    · rename_i beyond
      have : ¬ (buf.bytes.take queue.room).length ≤
          cache.size.toNat - (cache.tail % cache.size).toNat := by
        intro within
        exact beyond (UInt32.le_iff_toNat_le.mpr (by omega))
      obtain ⟨middle, after, first, second, size, held⟩ := wrapped (by omega)
      have shorter : cache.size.toNat - (cache.tail % cache.size).toNat ≤ queue.room := by
        simp only [List.length_take] at this
        omega
      rw [List.take_take, Nat.min_eq_left shorter] at first
      exact ⟨_, by rw [first, Option.bind_some, second]; rfl, settle after size held⟩

/-- Moving `use_` on by the bytes that leave drops exactly them. -/
private theorem advance_represents (holds : Represents cache queue) {count : Nat} {len : UInt32}
    (leaving : len.toNat = min count queue.contents.length) :
    Represents { cache with use := cache.use + len } (queue.drop count) := by
  have dropped : queue.contents.drop count = queue.contents.drop len.toNat := by
    rw [leaving, List.drop_eq_drop_min]
  have within : len.toNat ≤ queue.contents.length := by omega
  have left : (cache.tail - (cache.use + len)).toNat = queue.contents.length - len.toNat := by
    have apart : cache.tail - (cache.use + len) = (cache.tail - cache.use) - len := by grind
    rw [apart, toNat_sub_le _ _ (by rw [holds.count]; exact within), holds.count]
  have moved : (cache.use.toNat + len.toNat) % cache.size.toNat =
      (cache.use + len).toNat % cache.size.toNat := by
    rw [UInt32.toNat_add]
    rcases holds.aligned with divides | straight
    · rw [Nat.mod_mod_of_dvd _ divides]
    · have small : cache.use.toNat + len.toNat < 2 ^ 32 := by
        have := cache.tail.toNat_lt
        omega
      rw [Nat.mod_eq_of_lt small]
  refine ⟨holds.block, holds.capacity, ?_, ?_, ?_⟩
  · simp only [Fifo.drop, dropped, List.length_drop]
    exact left
  · rcases holds.aligned with divides | straight
    · exact .inl divides
    · right
      have := cache.tail.toNat_lt
      simp only [Fifo.drop, dropped, List.length_drop, UInt32.toNat_add]
      omega
  · have held := holds_drop holds.holds within
    rw [← holds_mod, holds.block, moved, ← holds.block, holds_mod] at held
    simpa only [Fifo.drop, dropped] using held

/-- `ReadData` returns the oldest bytes unless it is asked to wrap out of a
full ring. -/
theorem read_represents (holds : Represents cache queue) (len : UInt32) (nonzero : cache.size ≠ 0)
    (inside : ¬ ReadsPastEnd cache len) :
    ∃ next, cache.readData len = some (queue.contents.take len.toNat, next) ∧
      Represents next (queue.drop len.toNat) := by
  have positive := positive_of_ne_zero nonzero
  have fits := represents_fits holds
  have limited : (if len > cache.tail - cache.use then cache.tail - cache.use else len).toNat =
      (queue.contents.take len.toNat).length := by
    rw [toNat_limited, holds.count, List.length_take]
  have useIndex : (cache.use % cache.size).toNat = cache.use.toNat % cache.size.toNat :=
    UInt32.toNat_mod ..
  have useInside := Nat.mod_lt cache.use.toNat positive
  have held : Holds cache.buffer (cache.use.toNat % cache.size.toNat)
      (queue.contents.take len.toNat) := by
    rw [← holds.block, holds_mod]
    exact holds_take holds.holds _
  have advanced := advance_represents holds (limited.trans (List.length_take ..))
  have length := List.length_take (i := len.toNat) (l := queue.contents)
  simp only [readData, modulo_some nonzero, Option.bind_eq_bind, Option.bind_some]
  generalize (if len > cache.tail - cache.use then cache.tail - cache.use else len) = count
    at limited advanced ⊢
  have straight : cache.use.toNat % cache.size.toNat + (queue.contents.take len.toNat).length ≤
      cache.size.toNat → copyOut cache.buffer (cache.use % cache.size).toNat count.toNat =
        some (queue.contents.take len.toNat) := by
    intro fitsHere
    rw [limited, useIndex]
    exact copyOut_holds held (by rw [holds.block]; exact fitsHere)
  have left : (cache.size - cache.use % cache.size).toNat =
      cache.size.toNat - cache.use.toNat % cache.size.toNat := by
    rw [toNat_sub_le _ _ (by omega), useIndex]
  split
  · split
    · rename_i within
      have := UInt32.le_iff_toNat_le.mp within
      exact ⟨_, by rw [straight (by omega)]; rfl, advanced⟩
    · rename_i beyond
      have long : ¬ count.toNat ≤ cache.size.toNat - cache.use.toNat % cache.size.toNat := by
        intro within
        exact beyond (UInt32.le_iff_toNat_le.mpr (by omega))
      -- The bytes up to the end of the block, then the rest from its start.
      obtain ⟨upper, lower, shape, upperLength⟩ : ∃ upper lower,
          queue.contents.take len.toNat = upper ++ lower ∧
            upper.length = cache.size.toNat - cache.use.toNat % cache.size.toNat :=
        ⟨_, _, (List.take_append_drop (cache.size.toNat - cache.use.toNat % cache.size.toNat)
          _).symm, by simp only [List.length_take] at *; omega⟩
      rw [shape, holds_append] at held
      rw [shape, List.length_append] at limited length
      have first := copyOut_holds held.1 (by rw [holds.block]; omega)
      have second : Holds cache.buffer 0 lower := by
        have wrapped := held.2
        rw [upperLength, Nat.add_sub_cancel' (by omega), ← holds.block, ← holds_mod,
          Nat.mod_self] at wrapped
        exact wrapped
      have rest : (count - (cache.size - cache.use % cache.size)).toNat = lower.length := by
        rw [toNat_sub_le _ _ (by omega)]
        omega
      have copied := copyOut_holds second (by rw [holds.block]; omega)
      rw [useIndex, left, ← upperLength, first, Option.bind_some, rest, copied, Option.bind_some,
        ← shape]
      exact ⟨_, rfl, advanced⟩
  · rename_i notAbove
    have order : (cache.use % cache.size).toNat ≤ (cache.tail % cache.size).toNat := by
      have : ¬ (cache.tail % cache.size).toNat < (cache.use % cache.size).toNat :=
        fun less => notAbove (UInt32.lt_iff_toNat_lt.mpr less)
      omega
    rw [represents_tail_index holds] at order
    have fitsHere : cache.use.toNat % cache.size.toNat +
        (queue.contents.take len.toNat).length ≤ cache.size.toNat := by
      rcases tail_index_cases cache.use.toNat positive fits with ⟨_, below⟩ | ⟨turn, _⟩
      · omega
      · -- Both positions reduce to one index: the ring is full.
        have full : cache.tail - cache.use = cache.size := by
          apply UInt32.toNat_inj.mp
          rw [holds.count]
          omega
        have stays : ¬ cache.size.toNat < (cache.use % cache.size).toNat +
            min len.toNat cache.size.toNat := fun past => inside ⟨full, past⟩
        omega
    exact ⟨_, by rw [straight fitsHere]; rfl, advanced⟩

/-- The read that `ReadsPastEnd` describes copies from outside the block. -/
theorem read_past_end_undefined (holds : Represents cache queue) (len : UInt32)
    (nonzero : cache.size ≠ 0) (past : ReadsPastEnd cache len) : cache.readData len = none := by
  obtain ⟨full, beyond⟩ := past
  have stored : queue.contents.length = cache.size.toNat := by
    rw [← holds.count, full]
  have index : cache.tail % cache.size = cache.use % cache.size := by
    apply UInt32.toNat_inj.mp
    rw [represents_tail_index holds, stored, Nat.add_mod_right, UInt32.toNat_mod]
  simp only [readData, modulo_some nonzero, Option.bind_eq_bind, Option.bind_some, index, full,
    gt_iff_lt, UInt32.lt_irrefl, ↓reduceIte]
  rw [copyOut_outside]
  · rfl
  · rw [holds.block, toNat_limited]
    exact beyond

theorem clear_represents (holds : Represents cache queue) :
    Represents cache.clearData (Fifo.empty queue.capacity) :=
  ⟨holds.block, holds.capacity, by simp [clearData, Fifo.empty], .inr rfl, holds_nil _ _⟩

/-- `SkipData` drops the oldest bytes and says how many there were. -/
theorem skip_represents (holds : Represents cache queue) (size : UInt32) :
    (cache.skipData size).1 = UInt32.ofNat (queue.contents.take size.toNat).length ∧
      Represents (cache.skipData size).2 (queue.drop size.toNat) := by
  have small : (queue.contents.take size.toNat).length < 2 ^ 32 := by
    have := size.toNat_lt
    simp only [List.length_take]
    omega
  rw [← UInt32.toNat_inj, toNat_count _ small, List.length_take]
  simp only [skipData]
  split
  · rename_i more
    have := UInt32.lt_iff_toNat_lt.mp more
    rw [holds.count] at this
    refine ⟨?_, advance_represents holds (by omega)⟩
    dsimp only
    omega
  · rename_i all
    have : ¬ size.toNat < (cache.tail - cache.use).toNat :=
      fun less => all (UInt32.lt_iff_toNat_lt.mpr less)
    rw [holds.count] at this
    have gone : queue.drop size.toNat = ⟨queue.capacity, [], Nat.zero_le _⟩ := by
      simp only [Fifo.drop, Fifo.mk.injEq, true_and]
      exact List.drop_eq_nil_of_le (by omega)
    refine ⟨by rw [holds.count]; omega, ?_⟩
    rw [gone]
    exact clear_represents holds

/-- `ResetSize` keeps the oldest bytes the new block has room for, whatever the
new block was allocated with. -/
theorem reset_represents (holds : Represents cache queue) (size : UInt32)
    (tmp : Vector UInt8 size.toNat) (nonzero : cache.size ≠ 0)
    (inside : ¬ ReadsPastEnd cache size) :
    ∃ next, cache.resetSize size tmp = some next ∧ Represents next (queue.resize size.toNat) := by
  obtain ⟨_, read, _⟩ := read_represents holds size nonzero inside
  have small : (queue.contents.take size.toNat).length < 2 ^ 32 := by
    have := size.toNat_lt
    simp only [List.length_take]
    omega
  have length := List.length_take (i := size.toNat) (l := queue.contents)
  refine ⟨_, by rw [resetSize, read]; rfl, ?_, rfl, ?_, ?_, holds_front _ _⟩
  · simp
  · simp only [UInt32.sub_zero]
    exact toNat_count _ small
  · right
    simp only [UInt32.toNat_zero, Nat.zero_add]
    exact (toNat_count _ small).symm

/-! ### Whole runs -/

/-- One defined call shows its caller what the queue shows and leaves the ring
holding the queue. -/
theorem step_represents (holds : Represents cache queue) (call : Call)
    (met : StaysDefined cache call) :
    ∃ next, step cache call = some (shown (specStep queue call).1, next) ∧
      Represents next (specStep queue call).2 := by
  cases call with
  | writeData buf =>
    obtain ⟨buffer, wrote, represents⟩ := write_represents holds buf met.1 met.2
    exact ⟨_, by rw [step, wrote]; rfl, represents⟩
  | readData len =>
    obtain ⟨next, read, represents⟩ := read_represents holds len met.1 met.2
    exact ⟨next, by simp [step, read, shown, specStep, Call.request, Fifo.step], represents⟩
  | clearData => exact ⟨cache.clearData, rfl, clear_represents holds⟩
  | skipData size =>
    obtain ⟨skipped, represents⟩ := skip_represents holds size
    exact ⟨_, by rw [step, skipped]; rfl, represents⟩
  | resetSize size tmp =>
    obtain ⟨next, reset, represents⟩ := reset_represents holds size tmp met.1 met.2
    exact ⟨next, by simp [step, reset, shown, specStep, Call.request, Fifo.step], represents⟩

private theorem constructed_size : (2097152 : UInt32).toNat = 2097152 := by simp

private theorem constructed_size_divides : (2097152 : UInt32).toNat ∣ 2 ^ 32 := by
  rw [constructed_size]
  exact ⟨2048, by decide⟩

theorem construct_represents (memory : Vector UInt8 2097152) :
    Represents (construct memory) (Fifo.empty 2097152) where
  block := by simp [construct]
  capacity := constructed_size.symm
  count := by simp [construct, Fifo.empty]
  aligned := .inl constructed_size_divides
  holds := holds_nil _ _

/-- The queue after the calls, with what every one of them moved. -/
def spec (calls : List Call) : List (Moved UInt8) × Fifo UInt8 :=
  Runs.trace specStep (Fifo.empty 2097152) calls

/-- The calls run to the end, every one of them returns what the queue returns,
and the ring then holds the queue. -/
def ServesAsFifo (memory : Vector UInt8 2097152) (calls : List Call) : Prop :=
  ∃ final, Runs.run step (construct memory) calls = some ((spec calls).1.map shown, final) ∧
    Represents final (spec calls).2

/-- The bytes that left in front, in order, are a prefix of the bytes that were
accepted. -/
def RemovesPrefix (calls : List Call) : Prop :=
  (spec calls).1.flatMap Moved.removed <+: (spec calls).1.flatMap Moved.accepted

theorem defined_run_serves (memory : Vector UInt8 2097152) (calls : List Call)
    (met : Runs.AllSteps step StaysDefined (construct memory) calls) :
    ServesAsFifo memory calls :=
  Runs.run_simulates Represents (fun _ _ call holds => step_represents holds call)
    (construct_represents memory) met

private theorem trace_request (queue : Fifo UInt8) (calls : List Call) :
    Runs.trace specStep queue calls = Runs.trace Fifo.step queue (calls.map Call.request) := by
  induction calls generalizing queue with
  | nil => rfl
  | cons call rest ih => simp [Runs.trace, specStep, ih]

theorem removes_prefix (calls : List Call)
    (keeps : ∀ call ∈ calls, call.request.KeepsCapacity) : RemovesPrefix calls := by
  rw [RemovesPrefix, spec, trace_request]
  apply run_removes_prefix
  intro request member
  obtain ⟨call, held, rfl⟩ := List.mem_map.mp member
  exact keeps call held

/-- While no call changes the size, the ring holds some queue of the size the
constructor gave it. -/
private def Original (cache : LuaVideoCache) : Prop :=
  ∃ queue, Represents cache queue ∧ queue.capacity = 2097152

private theorem original_size (original : Original cache) : cache.size = 2097152 := by
  obtain ⟨queue, holds, capacity⟩ := original
  apply UInt32.toNat_inj.mp
  rw [← holds.capacity, capacity, constructed_size]

private theorem original_stays_defined (original : Original cache) {call : Call}
    (keeps : call.request.KeepsCapacity) (inside : ReadsInside cache call) :
    StaysDefined cache call := by
  have size := original_size original
  have nonzero : cache.size ≠ 0 := by
    rw [size]
    decide
  cases call with
  | writeData buf => exact ⟨nonzero, .inl (size ▸ constructed_size_divides)⟩
  | readData len => exact ⟨nonzero, inside⟩
  | clearData => trivial
  | skipData size => trivial
  | resetSize size tmp => exact keeps.elim

private theorem original_preserved (original : Original cache) {call : Call} {result : Result}
    {next : LuaVideoCache} (keeps : call.request.KeepsCapacity) (inside : ReadsInside cache call)
    (taken : step cache call = some (result, next)) : Original next := by
  have met := original_stays_defined original keeps inside
  obtain ⟨queue, holds, capacity⟩ := original
  obtain ⟨next', taken', represents⟩ := step_represents holds call met
  rw [taken] at taken'
  cases taken'
  refine ⟨_, represents, ?_⟩
  cases call <;> first | exact capacity | exact keeps.elim

private theorem original_undefined (original : Original cache) {call : Call}
    (outside : ¬ ReadsInside cache call) : step cache call = none := by
  have size := original_size original
  obtain ⟨queue, holds, _⟩ := original
  cases call with
  | readData len =>
    have past : ReadsPastEnd cache len := Classical.not_not.mp outside
    have nonzero : cache.size ≠ 0 := by
      rw [size]
      decide
    simp [step, read_past_end_undefined holds len nonzero past]
  | writeData buf => exact absurd trivial outside
  | clearData => exact absurd trivial outside
  | skipData size => exact absurd trivial outside
  | resetSize size tmp => exact absurd trivial outside

private theorem construct_original (memory : Vector UInt8 2097152) :
    Original (construct memory) := ⟨_, construct_represents memory, rfl⟩

/-- Without a change of size the ring is a bounded queue of bytes exactly as
long as no read of the full ring has to wrap. -/
theorem fixed_size_serves_iff (memory : Vector UInt8 2097152) (calls : List Call)
    (keeps : ∀ call ∈ calls, call.request.KeepsCapacity) :
    ServesAsFifo memory calls ∧ RemovesPrefix calls ↔
      Runs.AllSteps step ReadsInside (construct memory) calls := by
  constructor
  · rintro ⟨⟨final, ran, _⟩, _⟩
    exact Runs.all_steps_of_defined Original (fun call => call.request.KeepsCapacity)
      (fun _ _ _ _ original keep inside taken => original_preserved original keep inside taken)
      (fun _ _ original _ outside => original_undefined original outside)
      keeps (construct_original memory) ran
  · intro inside
    refine ⟨defined_run_serves memory calls ?_, removes_prefix calls keeps⟩
    exact Runs.AllSteps.imp Original (fun call => call.request.KeepsCapacity)
      (fun _ _ _ _ original keep inside taken => original_preserved original keep inside taken)
      (fun _ _ original keep inside => original_stays_defined original keep inside)
      keeps (construct_original memory) inside

/-- A ring filled from its second cell on, then read whole. -/
def fullRingRead : List Call :=
  [.writeData ⟨[0, 0], by decide⟩, .skipData 1,
   .writeData ⟨List.replicate 2097151 0, by rw [List.length_replicate]; decide⟩,
   .readData 2097152]

/-- The last read copies one byte from behind the block. -/
theorem full_ring_read_not_served :
    ¬ (ServesAsFifo (Vector.replicate 2097152 0) fullRingRead ∧ RemovesPrefix fullRingRead) := by
  rintro ⟨⟨final, ran, _⟩, _⟩
  have nonzero : (2097152 : UInt32) ≠ 0 := by decide
  obtain ⟨first, wrote, holds⟩ := write_represents
    (construct_represents (Vector.replicate 2097152 0)) ⟨[0, 0], by decide⟩ nonzero
    (.inl constructed_size_divides)
  have two : UInt32.ofNat (([0, 0] : List UInt8).take (Fifo.empty (α := UInt8) 2097152).room).length
      = 2 := rfl
  rw [two] at wrote holds
  have skip : skipData ⟨first, 0, 0 + 2, 2097152⟩ 1 = (1, ⟨first, 1, 2, 2097152⟩) := by
    simp [skipData]
  have skipped := (skip_represents holds 1).2
  rw [construct, skip] at skipped
  have stored : ((Fifo.empty (α := UInt8) 2097152).write [0, 0]).drop 1 =
      ⟨2097152, [0], by decide⟩ := rfl
  rw [show (1 : UInt32).toNat = 1 from rfl, stored] at skipped
  obtain ⟨second, filled, full⟩ := write_represents skipped
    ⟨List.replicate 2097151 0, by rw [List.length_replicate]; decide⟩ nonzero
    (.inl constructed_size_divides)
  have rest : ((List.replicate 2097151 (0 : UInt8)).take
      (Fifo.room ⟨2097152, [(0 : UInt8)], by decide⟩)).length = 2097151 := by
    rw [List.length_take, List.length_replicate]
    rfl
  simp only [rest] at filled full
  have past := read_past_end_undefined full 2097152 nonzero
    ⟨by dsimp only; decide, by dsimp only; decide⟩
  rw [fullRingRead, Runs.run_cons (by rw [step, wrote]; rfl),
    Runs.run_cons (by rw [step, construct, skip]), Runs.run_cons (by rw [step, filled]; rfl),
    Runs.run_cons_none (by rw [step, past]; rfl)] at ran
  cases ran

/-- As many bytes as the ring holds, written and read back. -/
def fillThenRead : List Call :=
  [.writeData ⟨List.replicate 2097152 7, by rw [List.length_replicate]; decide⟩, .readData 2097152]

theorem fill_reads_inside (memory : Vector UInt8 2097152) :
    Runs.AllSteps step ReadsInside (construct memory) fillThenRead := by
  refine ⟨trivial, fun reply next taken => ⟨?_, fun _ _ _ => trivial⟩⟩
  obtain ⟨buffer, wrote, -⟩ := write_represents (construct_represents memory)
    ⟨List.replicate 2097152 7, by rw [List.length_replicate]; decide⟩
    (by decide : (2097152 : UInt32) ≠ 0) (.inl constructed_size_divides)
  rw [step, wrote] at taken
  cases taken
  exact fun past => absurd past.2 (by decide : ¬ 2097152 < (0 : UInt32).toNat + min 2097152 2097152)

theorem fixed_size_serves_filled : ServesAsFifo (Vector.replicate 2097152 0) fillThenRead ∧
    RemovesPrefix fillThenRead :=
  (fixed_size_serves_iff _ fillThenRead (by rintro _ (_ | ⟨_, _ | ⟨_, ⟨⟩⟩⟩) <;> trivial)).mpr
    (fill_reads_inside _)

/-! ### Changing the size -/

/-- With changes of size among the calls, every state of a run whose steps
stay defined holds the queue whose capacity follows `ResetSize`: no modulus is
zero, the counters are never further apart than the size, the sizes the cache
reports are the queue's and `ResetSize` keeps the oldest bytes that fit. -/
theorem resized_ring_serves (memory : Vector UInt8 2097152) (calls : List Call)
    (met : Runs.AllSteps step StaysDefined (construct memory) calls) :
    ∀ made, made <+: calls → ∃ cache, Runs.run step (construct memory) made =
        some ((spec made).1.map shown, cache) ∧
      Represents cache (spec made).2 ∧
      cache.tail - cache.use ≤ cache.size ∧
      cache.getDataSize.toNat = (spec made).2.contents.length ∧
      ∀ expectSize, (cache.getSpaceSize expectSize).toNat =
        min expectSize.toNat (spec made).2.room := by
  intro made first
  obtain ⟨cache, ran, holds⟩ := defined_run_serves memory made (met.of_prefix first)
  refine ⟨cache, ran, holds, ?_, represents_data_size holds, represents_space_size holds⟩
  rw [UInt32.le_iff_toNat_le, holds.count]
  exact represents_fits holds

/-- A ring of four bytes is filled across its end, cut to three and read. -/
def cutAndRead : List Call :=
  [.resetSize 4 #v[0, 0, 0, 0], .writeData ⟨[1, 2, 3], by decide⟩, .readData 1,
    .writeData ⟨[4, 5], by decide⟩, .resetSize 3 #v[0, 0, 0], .readData 3]

theorem cut_and_read_defined (memory : Vector UInt8 2097152) :
    Runs.AllSteps step StaysDefined (construct memory) cutAndRead := by
  have outset : StaysDefined (construct memory) (.resetSize 4 #v[0, 0, 0, 0]) :=
    ⟨(by decide : (2097152 : UInt32) ≠ 0),
      fun past => absurd past.1 (by decide : ¬ (0 : UInt32) - 0 = 2097152)⟩
  refine ⟨outset, fun _ _ taken => ?_⟩
  obtain ⟨_, read, _⟩ := read_represents (construct_represents memory) 4 outset.1 outset.2
  rw [step, resetSize, read] at taken
  cases taken
  refine ⟨⟨by decide, .inr (by decide)⟩, fun _ _ taken => ?_⟩
  cases taken
  refine ⟨⟨by decide, by unfold ReadsPastEnd; decide⟩, fun _ _ taken => ?_⟩
  cases taken
  refine ⟨⟨by decide, .inr (by decide)⟩, fun _ _ taken => ?_⟩
  cases taken
  refine ⟨⟨by decide, by unfold ReadsPastEnd; decide⟩, fun _ _ taken => ?_⟩
  cases taken
  exact ⟨⟨by decide, by unfold ReadsPastEnd; decide⟩, fun _ _ _ => trivial⟩

theorem resized_ring_serves_cut : ∃ cache,
    Runs.run step (construct (Vector.replicate 2097152 0)) cutAndRead =
      some ([.nothing, .wrote 3, .read [1], .wrote 2, .nothing, .read [2, 3, 4]], cache) ∧
    Represents cache (spec cutAndRead).2 ∧
    cache.tail - cache.use ≤ cache.size ∧
    cache.getDataSize.toNat = (spec cutAndRead).2.contents.length ∧
    ∀ expectSize, (cache.getSpaceSize expectSize).toNat =
      min expectSize.toNat (spec cutAndRead).2.room :=
  resized_ring_serves _ cutAndRead (cut_and_read_defined _) _ (List.prefix_refl _)

/-- One write and one read that fill and empty a ring of three bytes. -/
def lap : List Call := [.writeData ⟨[0, 0, 0], by decide⟩, .readData 3]

/-- A ring of three bytes that is filled and emptied some times before two
bytes are written and read back one at a time. -/
def lapsThenRead (laps : Nat) : List Call :=
  .resetSize 3 #v[0, 0, 0] :: ((List.replicate laps lap).flatten ++
    [.writeData ⟨[1, 2], by decide⟩, .readData 1, .readData 1])

private theorem lap_run (use : UInt32) (aligned : use % 3 = 0) :
    Runs.run step ⟨[0, 0, 0], use, use, 3⟩ lap =
      some ([.wrote 3, .read [0, 0, 0]], ⟨[0, 0, 0], use + 3, use + 3, 3⟩) := by
  have wrote : writeData ⟨[0, 0, 0], use, use, 3⟩ ⟨[0, 0, 0], by decide⟩ =
      some (3, ⟨[0, 0, 0], use, use + 3, 3⟩) := by
    simp only [writeData, modulo, getSpaceSize, aligned, UInt32.sub_self]
    rfl
  have read : readData ⟨[0, 0, 0], use, use + 3, 3⟩ 3 =
      some ([0, 0, 0], ⟨[0, 0, 0], use + 3, use + 3, 3⟩) := by
    have held : use + 3 - use = 3 := by grind
    simp only [readData, modulo, aligned, held]
    rfl
  rw [lap, Runs.run_cons (by rw [step, wrote]; rfl), Runs.run_cons (by rw [step, read]; rfl)]
  rfl

/-- Each lap advances both counters by three and leaves the ring empty. -/
private theorem laps_run (laps : Nat) (below : 3 * laps < 2 ^ 32) :
    Runs.run step ⟨[0, 0, 0], 0, 0, 3⟩ (List.replicate laps lap).flatten =
      some ((List.replicate laps [.wrote 3, .read [0, 0, 0]]).flatten,
        ⟨[0, 0, 0], UInt32.ofNat (3 * laps), UInt32.ofNat (3 * laps), 3⟩) := by
  induction laps with
  | zero => rfl
  | succ laps ih =>
    have aligned : UInt32.ofNat (3 * laps) % 3 = 0 := by
      apply UInt32.toNat_inj.mp
      rw [UInt32.toNat_mod, toNat_count _ (by omega)]
      exact Nat.mul_mod_right 3 laps
    have advanced : UInt32.ofNat (3 * laps) + 3 = UInt32.ofNat (3 * (laps + 1)) := by
      rw [Nat.mul_succ, UInt32.ofNat_add]
      rfl
    have last := lap_run _ aligned
    rw [advanced] at last
    simp only [List.replicate_succ', List.flatten_append, List.flatten_singleton]
    exact Runs.run_append (ih (by omega)) last

private theorem laps_spec (laps : Nat) :
    Runs.trace specStep ⟨3, [], Nat.zero_le _⟩ (List.replicate laps lap).flatten =
      ((List.replicate laps [.wrote [0, 0, 0], .took [0, 0, 0]]).flatten,
        ⟨3, [], Nat.zero_le _⟩) := by
  induction laps with
  | zero => rfl
  | succ laps ih =>
    simp only [List.replicate_succ, List.flatten_cons, Runs.trace_append]
    rw [show Runs.trace specStep ⟨3, [], Nat.zero_le _⟩ lap =
      ([.wrote [0, 0, 0], .took [0, 0, 0]], ⟨3, [], Nat.zero_le _⟩) from rfl, ih]

/-- At the last value before the wrap the ring is written at its first cell,
and after the wrap it is read there a second time. -/
private theorem wrapped_read_repeats :
    Runs.run step ⟨[0, 0, 0], 4294967295, 4294967295, 3⟩
        [.writeData ⟨[1, 2], by decide⟩, .readData 1, .readData 1] =
      some ([.wrote 2, .read [1], .read [1]], ⟨[1, 2, 0], 1, 1, 3⟩) := by
  rfl

/-- Under a modulus of three the second byte is lost when `use_` wraps: the
first one is read twice. -/
private theorem counter_wrap_not_served (memory : Vector UInt8 2097152) (laps : Nat)
    (last : 3 * laps = 2 ^ 32 - 1) : ¬ ServesAsFifo memory (lapsThenRead laps) := by
  rintro ⟨final, ran, _⟩
  have reset : step (construct memory) (.resetSize 3 #v[0, 0, 0]) =
      some (.nothing, ⟨[0, 0, 0], 0, 0, 3⟩) := by
    obtain ⟨_, read, _⟩ := read_represents (construct_represents memory) 3
      (by decide : (2097152 : UInt32) ≠ 0)
      fun past => absurd past.1 (by decide : ¬ (0 : UInt32) - 0 = 2097152)
    rw [step, resetSize, read]
    rfl
  have before := laps_run laps (by omega)
  rw [last] at before
  have ended := Runs.run_cons_some reset (Runs.run_append before wrapped_read_repeats)
  rw [lapsThenRead, ended, Option.some.injEq, Prod.mk.injEq] at ran
  have queue : (specStep (Fifo.empty 2097152) (.resetSize 3 #v[0, 0, 0])) =
      (.resized [], ⟨3, [], Nat.zero_le _⟩) := rfl
  have same := ran.1
  simp only [spec, Runs.trace, queue, Runs.trace_append, laps_spec] at same
  simp only [List.map_cons, List.map_append, List.map_flatten, List.map_replicate] at same
  have read := List.append_cancel_left (List.cons.inj same).2
  simp [specStep, shown, Call.request, Fifo.step, Fifo.write, Fifo.drop, Fifo.room] at read

/-- Both ways a change of size breaks the queue: a zero modulus leaves the next
write undefined, a modulus of three does not survive the wrap. -/
theorem resized_ring_not_served :
    ¬ ServesAsFifo (Vector.replicate 2097152 0)
        [.resetSize 0 #v[], .writeData ⟨[0], by decide⟩] ∧
      ¬ ServesAsFifo (Vector.replicate 2097152 0) (lapsThenRead 1431655765) := by
  refine ⟨?_, counter_wrap_not_served _ _ (by decide)⟩
  rintro ⟨final, ran, _⟩
  obtain ⟨next, reset, holds⟩ := reset_represents
    (construct_represents (Vector.replicate 2097152 0)) 0 #v[]
    (by decide : (2097152 : UInt32) ≠ 0)
    fun past => absurd past.1 (by decide : ¬ (0 : UInt32) - 0 = 2097152)
  have zero : next.size = 0 := UInt32.toNat_inj.mp holds.capacity.symm
  have wrote : step next (.writeData ⟨[0], by decide⟩) = none := by
    simp [step, writeData, modulo, zero]
  rw [Runs.run_cons (by rw [step, reset]; rfl), Runs.run_cons_none wrote] at ran
  cases ran

end BeeSdk.VideoCacheProofs
