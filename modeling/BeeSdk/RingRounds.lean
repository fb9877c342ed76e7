import Mathlib.Data.List.GetD

/-! Cells in a ring that are changed one after the other, each by what its neighbours
hold at that moment. A cell that a number was added to is no neighbour of its own, so
the number is found again and subtracted; a whole round is taken back by going round the
other way. Cells may be of any type in which subtraction takes back addition. -/
namespace BeeSdk.RingRounds

variable {α : Type}

/-- The cell in front, which for the first is the last. -/
def left (blank : α) (cells : List α) (position : Nat) : α :=
  cells.getD (if position = 0 then cells.length - 1 else position - 1) blank

/-- The cell behind, which for the last is the first. -/
def right (blank : α) (cells : List α) (position : Nat) : α :=
  cells.getD (if position + 1 = cells.length then 0 else position + 1) blank

/-- One cell takes what its neighbours make of its position. -/
def turn [Add α] (blank : α) (change : Nat → α → α → α) (cells : List α) (position : Nat) : List α :=
  cells.set position (cells.getD position blank +
    change position (left blank cells position) (right blank cells position))

/-- One cell gives back what its neighbours make of its position. -/
def turnBack [Sub α] (blank : α) (change : Nat → α → α → α) (cells : List α) (position : Nat) : List α :=
  cells.set position (cells.getD position blank -
    change position (left blank cells position) (right blank cells position))

/-- Once round. -/
def round [Add α] (blank : α) (change : Nat → α → α → α) (cells : List α) : List α :=
  (List.range cells.length).foldl (turn blank change) cells

/-- Once round the other way. -/
def roundBack [Sub α] (blank : α) (change : Nat → α → α → α) (cells : List α) : List α :=
  (List.range cells.length).reverse.foldl (turnBack blank change) cells

variable {blank : α} {change : Nat → α → α → α} {cells : List α} {position : Nat}

@[simp] theorem left_succ (cells : List α) (position : Nat) :
    left blank cells (position + 1) = cells.getD position blank := by
  simp [left]

theorem left_zero (length : cells.length = position + 1) :
    left blank cells 0 = cells.getD position blank := by
  simp [left, length]

theorem right_of_lt (inside : position + 1 < cells.length) :
    right blank cells position = cells.getD (position + 1) blank := by
  rw [right, if_neg (by omega)]

theorem right_last (length : cells.length = position + 1) :
    right blank cells position = cells.getD 0 blank := by
  rw [right, if_pos length.symm]

@[simp] theorem turn_length [Add α] : (turn blank change cells position).length = cells.length :=
  List.length_set

@[simp] theorem turnBack_length [Sub α] :
    (turnBack blank change cells position).length = cells.length :=
  List.length_set

private theorem getD_set_ne {index : Nat} {value : α} (other : index ≠ position) :
    (cells.set position value).getD index blank = cells.getD index blank := by
  simp [List.getD_eq_getElem?_getD, Ne.symm other]

private theorem left_set (two : 2 ≤ cells.length) (value : α) :
    left blank (cells.set position value) position = left blank cells position := by
  rw [left, left, List.length_set]
  apply getD_set_ne
  split <;> omega

private theorem right_set (two : 2 ≤ cells.length) (value : α) :
    right blank (cells.set position value) position = right blank cells position := by
  rw [right, right, List.length_set]
  apply getD_set_ne
  split <;> omega

private theorem getD_set_self (inside : position < cells.length) (value : α) :
    (cells.set position value).getD position blank = value := by
  simp [List.getD_eq_getElem?_getD, inside]

theorem getD_turn [Add α] (inside : position < cells.length) :
    (turn blank change cells position).getD position blank = cells.getD position blank +
      change position (left blank cells position) (right blank cells position) :=
  getD_set_self inside _

theorem getD_turnBack [Sub α] (inside : position < cells.length) :
    (turnBack blank change cells position).getD position blank = cells.getD position blank -
      change position (left blank cells position) (right blank cells position) :=
  getD_set_self inside _

/-- In a ring of two cells or more a turn is taken back. -/
theorem turnBack_turn [Add α] [Sub α] (cancels : ∀ a b : α, a + b - b = a)
    (two : 2 ≤ cells.length) (inside : position < cells.length) :
    turnBack blank change (turn blank change cells position) position = cells := by
  rw [turnBack, turn, left_set two, right_set two, getD_set_self inside, cancels,
    List.set_set, List.getD_eq_getElem _ _ inside, List.set_getElem_self]

theorem turnsBack_length [Sub α] (positions : List Nat) (cells : List α) :
    (positions.foldl (turnBack blank change) cells).length = cells.length := by
  induction positions generalizing cells with
  | nil => rfl
  | cons position rest ih => rw [List.foldl_cons, ih, turnBack_length]

theorem turns_length [Add α] (positions : List Nat) (cells : List α) :
    (positions.foldl (turn blank change) cells).length = cells.length := by
  induction positions generalizing cells with
  | nil => rfl
  | cons position rest ih => rw [List.foldl_cons, ih, turn_length]

/-- Turns are taken back in the opposite order. -/
theorem turnsBack_turns [Add α] [Sub α] (cancels : ∀ a b : α, a + b - b = a)
    (two : 2 ≤ cells.length) {positions : List Nat} (inside : ∀ position ∈ positions, position < cells.length) :
    positions.reverse.foldl (turnBack blank change) (positions.foldl (turn blank change) cells) =
      cells := by
  induction positions generalizing cells with
  | nil => rfl
  | cons position rest ih =>
    have here := inside position (by simp)
    rw [List.foldl_cons, List.reverse_cons, List.foldl_append,
      ih (by simpa using two) (by simpa using fun other member => inside other (by simp [member]))]
    exact turnBack_turn cancels two here

@[simp] theorem round_length [Add α] : (round blank change cells).length = cells.length :=
  turns_length _ _

/-- In a ring of two cells or more a round is taken back. -/
theorem roundBack_round [Add α] [Sub α] (cancels : ∀ a b : α, a + b - b = a)
    (two : 2 ≤ cells.length) :
    roundBack blank change (round blank change cells) = cells := by
  rw [roundBack, round_length]
  exact turnsBack_turns cancels two fun _ member => List.mem_range.mp member

end BeeSdk.RingRounds
