import Mathlib.Data.Nat.ModEq

/-! A block of memory used as a ring. Copies into and out of a block are
undefined when the region leaves it, as `memcpy` is. `Holds` describes where
consecutive items lie, `Wrote` what one circular write did to the block; how
many contiguous copies a program needs for it is left to the program. -/
namespace BeeSdk.RingMemory

variable {α : Type}

/-- Copies `count` cells out of the block, starting at `offset`. -/
def copyOut (block : List α) (offset count : Nat) : Option (List α) :=
  if offset + count ≤ block.length then some ((block.drop offset).take count) else none

/-- Overwrites the cells from `offset` on. -/
def copyIn (block : List α) (offset : Nat) (items : List α) : Option (List α) :=
  if offset + items.length ≤ block.length then
    some (block.take offset ++ items ++ block.drop (offset + items.length))
  else none

/-- The items lie in consecutive cells of the ring, the first at `start`. -/
def Holds (block : List α) (start : Nat) (items : List α) : Prop :=
  ∀ i (inside : i < items.length), block[(start + i) % block.length]? = some (items[i])

/-- The block after a circular write: the items lie from `start` on and every
other cell is as it was. -/
structure Wrote (block : List α) (start : Nat) (items after : List α) : Prop where
  size : after.length = block.length
  holds : Holds after start items
  others : ∀ cell, (∀ i < items.length, (start + i) % block.length ≠ cell) →
    after[cell]? = block[cell]?

/-- Offsets inside one turn of the ring name different cells. -/
theorem offset_injective {start size i j : Nat} (hi : i < size) (hj : j < size)
    (same : (start + i) % size = (start + j) % size) : i = j :=
  (Nat.ModEq.add_left_cancel' start same).eq_of_lt_of_lt hi hj

theorem holds_nil (block : List α) (start : Nat) : Holds block start [] :=
  fun _ inside => absurd inside (Nat.not_lt_zero _)

theorem holds_mod (block items : List α) (start : Nat) :
    Holds block (start % block.length) items ↔ Holds block start items := by
  simp only [Holds, Nat.mod_add_mod]

theorem holds_append {block first second : List α} {start : Nat} :
    Holds block start (first ++ second) ↔
      Holds block start first ∧ Holds block (start + first.length) second := by
  constructor
  · intro whole
    refine ⟨fun i inside => ?_, fun i inside => ?_⟩
    · have cell := whole i (by simp; omega)
      rwa [List.getElem_append_left inside] at cell
    · have cell := whole (first.length + i) (by simp; omega)
      rw [List.getElem_append_right (by omega)] at cell
      simpa [Nat.add_assoc] using cell
  · rintro ⟨left, right⟩ i inside
    by_cases before : i < first.length
    · rw [List.getElem_append_left before]
      exact left i before
    · have within : i - first.length < second.length := by
        simp only [List.length_append] at inside
        omega
      rw [List.getElem_append_right (by omega)]
      have cell := right (i - first.length) within
      rwa [show start + first.length + (i - first.length) = start + i by omega] at cell

/-- The oldest items of a held run are held where the run is. -/
theorem holds_take {block items : List α} {start : Nat} (held : Holds block start items)
    (count : Nat) : Holds block start (items.take count) := by
  rw [← List.take_append_drop count items, holds_append] at held
  exact held.1

/-- Leaving out the oldest items moves the start of the run. -/
theorem holds_drop {block items : List α} {start count : Nat} (held : Holds block start items)
    (within : count ≤ items.length) : Holds block (start + count) (items.drop count) := by
  rw [← List.take_append_drop count items, holds_append] at held
  simpa [List.length_take, Nat.min_eq_left within] using held.2

/-- A run that starts the block is held where the block starts. -/
theorem holds_front (items rest : List α) : Holds (items ++ rest) 0 items := by
  intro i inside
  rw [Nat.zero_add, Nat.mod_eq_of_lt (by simp; omega), List.getElem?_append_left inside,
    List.getElem?_eq_getElem inside]

/-- A run that does not pass the end of the block is read by one copy. -/
theorem copyOut_holds {block items : List α} {offset : Nat} (held : Holds block offset items)
    (fits : offset + items.length ≤ block.length) :
    copyOut block offset items.length = some items := by
  rw [copyOut, if_pos fits, Option.some.injEq]
  apply List.ext_getElem?
  intro i
  by_cases inside : i < items.length
  · have cell := held i inside
    rw [Nat.mod_eq_of_lt (by omega)] at cell
    rw [List.getElem?_take_of_lt inside, List.getElem?_drop, cell, List.getElem?_eq_getElem inside]
  · have left : items[i]? = none := List.getElem?_eq_none (by omega)
    rw [left]
    exact List.getElem?_eq_none (by simp; omega)

theorem copyOut_outside {block : List α} {offset count : Nat}
    (outside : block.length < offset + count) : copyOut block offset count = none :=
  if_neg (by omega)

/-- One copy that stays inside the block is a circular write. -/
theorem copyIn_wrote (block : List α) (offset : Nat) (items : List α)
    (fits : offset + items.length ≤ block.length) :
    ∃ after, copyIn block offset items = some after ∧ Wrote block offset items after := by
  refine ⟨block.take offset ++ items ++ block.drop (offset + items.length), if_pos fits, ?_⟩
  have size : (block.take offset ++ items ++ block.drop (offset + items.length)).length =
      block.length := by
    simp
    omega
  refine ⟨size, fun i inside => ?_, fun cell outside => ?_⟩
  · rw [size, Nat.mod_eq_of_lt (by omega), List.append_assoc,
      List.getElem?_append_right (by simp), List.length_take, Nat.min_eq_left (by omega),
      Nat.add_sub_cancel_left, List.getElem?_append_left inside, List.getElem?_eq_getElem inside]
  · by_cases before : cell < offset
    · rw [List.append_assoc, List.getElem?_append_left (by simp; omega),
        List.getElem?_take_of_lt before]
    · have after : offset + items.length ≤ cell := by
        by_contra inside
        have named := outside (cell - offset) (by omega)
        rw [Nat.mod_eq_of_lt (by omega)] at named
        omega
      rw [List.getElem?_append_right (by simp; omega), List.getElem?_drop]
      congr 1
      simp
      omega

/-- A copy that is defined stays inside the block and leaves it as long as it was. -/
theorem copyIn_inside {block items after : List α} {offset : Nat}
    (copied : copyIn block offset items = some after) :
    offset + items.length ≤ block.length ∧ after.length = block.length := by
  have fits : offset + items.length ≤ block.length := by
    by_contra outside
    rw [copyIn, if_neg outside] at copied
    cases copied
  obtain ⟨written, same, wrote⟩ := copyIn_wrote block offset items fits
  rw [copied] at same
  cases same
  exact ⟨fits, wrote.size⟩

/-- Writing one run and then the next where the first ended is one write. -/
theorem Wrote.append {block middle after first second : List α} {start : Nat}
    (left : Wrote block start first middle)
    (right : Wrote middle (start + first.length) second after)
    (fits : first.length + second.length ≤ block.length) :
    Wrote block start (first ++ second) after := by
  refine ⟨right.size.trans left.size, ?_, fun cell outside => ?_⟩
  · rw [holds_append]
    refine ⟨fun i inside => ?_, right.holds⟩
    rw [right.size, right.others]
    · exact left.holds i inside
    · intro j within same
      rw [left.size, Nat.add_assoc] at same
      have := offset_injective (by omega) (by omega) same
      omega
  · rw [right.others, left.others]
    · intro i inside
      exact outside i (by simp; omega)
    · intro i inside
      rw [left.size, Nat.add_assoc]
      exact outside (first.length + i) (by simp; omega)

/-- A write behind the items already held keeps them and extends the run. -/
theorem Wrote.extends {block after items more : List α} {start : Nat}
    (wrote : Wrote block (start + items.length) more after) (held : Holds block start items)
    (fits : items.length + more.length ≤ block.length) :
    Holds after start (items ++ more) := by
  rw [holds_append]
  refine ⟨fun i inside => ?_, wrote.holds⟩
  rw [wrote.size, wrote.others]
  · exact held i inside
  · intro j within same
    rw [Nat.add_assoc] at same
    have := offset_injective (by omega) (by omega) same
    omega

/-- A write is known by the cell it starts at. -/
theorem Wrote.of_mod {block after items : List α} {start : Nat}
    (wrote : Wrote block (start % block.length) items after) : Wrote block start items after := by
  refine ⟨wrote.size, ?_, fun cell outside => wrote.others cell fun i inside => ?_⟩
  · rw [← holds_mod, wrote.size]
    exact wrote.holds
  · rw [Nat.mod_add_mod]
    exact outside i inside

end BeeSdk.RingMemory
