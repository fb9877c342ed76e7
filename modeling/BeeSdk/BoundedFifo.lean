import BeeSdk.Runs

/-! A bounded first-in first-out queue: what a byte cache with a fixed capacity
is for. A write takes only what fits, a read and a skip take from the front,
and a change of capacity keeps the oldest items that still fit. The bound is a
field, so no operation can return an overfull queue. -/
namespace BeeSdk.BoundedFifo

/-- A queue that never holds more than its capacity. -/
structure Fifo (α : Type) where
  capacity : Nat
  contents : List α
  bounded : contents.length ≤ capacity

/-- What a client of the queue can ask for. -/
inductive Request (α : Type) where
  | write (items : List α)
  | read (count : Nat)
  | skip (count : Nat)
  | clear
  | resize (capacity : Nat)

/-- What an operation moved: the items that entered behind the others, the
items that left from the front, or the items cut off at the back. -/
inductive Moved (α : Type) where
  | wrote (items : List α)
  | took (items : List α)
  | skipped (items : List α)
  | cleared (items : List α)
  | resized (cut : List α)

namespace Fifo

variable {α : Type}

/-- The number of items the queue can still take. -/
def room (queue : Fifo α) : Nat := queue.capacity - queue.contents.length

def empty (capacity : Nat) : Fifo α := ⟨capacity, [], Nat.zero_le _⟩

/-- Appends the first items that fit. -/
def write (queue : Fifo α) (items : List α) : Fifo α :=
  ⟨queue.capacity, queue.contents ++ items.take queue.room, by
    have := queue.bounded
    simp only [List.length_append, List.length_take, room]
    omega⟩

/-- Removes up to `count` of the oldest items. -/
def drop (queue : Fifo α) (count : Nat) : Fifo α :=
  ⟨queue.capacity, queue.contents.drop count, by
    have := queue.bounded
    simp only [List.length_drop]
    omega⟩

/-- Keeps the oldest items that fit the new capacity. -/
def resize (queue : Fifo α) (capacity : Nat) : Fifo α :=
  ⟨capacity, queue.contents.take capacity, by
    simp only [List.length_take]
    omega⟩

/-- One request, with the items it moved. -/
def step (queue : Fifo α) : Request α → Moved α × Fifo α
  | .write items => (.wrote (items.take queue.room), queue.write items)
  | .read count => (.took (queue.contents.take count), queue.drop count)
  | .skip count => (.skipped (queue.contents.take count), queue.drop count)
  | .clear => (.cleared queue.contents, empty queue.capacity)
  | .resize capacity => (.resized (queue.contents.drop capacity), queue.resize capacity)

end Fifo

namespace Moved

variable {α : Type}

/-- The items that entered the queue. -/
def accepted : Moved α → List α
  | .wrote items => items
  | _ => []

/-- The items that left the queue at the front. -/
def removed : Moved α → List α
  | .took items | .skipped items | .cleared items => items
  | _ => []

end Moved

variable {α : Type}

/-- A request that leaves the capacity alone cuts nothing off at the back. -/
def Request.KeepsCapacity : Request α → Prop
  | .resize _ => False
  | _ => True

/-- Everything held before, followed by what entered, is what left followed by
everything held afterwards. -/
theorem step_conserves (queue : Fifo α) (request : Request α)
    (keeps : request.KeepsCapacity) :
    queue.contents ++ (queue.step request).1.accepted =
      (queue.step request).1.removed ++ (queue.step request).2.contents := by
  cases request with
  | write items => simp [Fifo.step, Moved.accepted, Moved.removed, Fifo.write]
  | read count => simp [Fifo.step, Moved.accepted, Moved.removed, Fifo.drop]
  | skip count => simp [Fifo.step, Moved.accepted, Moved.removed, Fifo.drop]
  | clear => simp [Fifo.step, Moved.accepted, Moved.removed, Fifo.empty]
  | resize capacity => exact keeps.elim

/-- Over a whole run nothing is lost, repeated or reordered. -/
theorem run_conserves (queue : Fifo α) (requests : List (Request α))
    (keeps : ∀ request ∈ requests, request.KeepsCapacity) :
    queue.contents ++ (Runs.trace Fifo.step queue requests).1.flatMap Moved.accepted =
      (Runs.trace Fifo.step queue requests).1.flatMap Moved.removed ++
        (Runs.trace Fifo.step queue requests).2.contents := by
  induction requests generalizing queue with
  | nil => simp [Runs.trace]
  | cons request rest ih =>
    have first := step_conserves queue request (keeps request (by simp))
    have later := ih (queue.step request).2 (fun r member => keeps r (by simp [member]))
    simp only [Runs.trace, List.flatMap_cons]
    calc
      _ = (queue.contents ++ (queue.step request).1.accepted) ++
            (Runs.trace Fifo.step (queue.step request).2 rest).1.flatMap Moved.accepted := by simp
      _ = (queue.step request).1.removed ++ ((queue.step request).2.contents ++
            (Runs.trace Fifo.step (queue.step request).2 rest).1.flatMap Moved.accepted) := by
          rw [first, List.append_assoc]
      _ = _ := by rw [later, List.append_assoc]

/-- From an empty queue, what left is a prefix of what entered. -/
theorem run_removes_prefix (capacity : Nat) (requests : List (Request α))
    (keeps : ∀ request ∈ requests, request.KeepsCapacity) :
    (Runs.trace Fifo.step (Fifo.empty capacity) requests).1.flatMap Moved.removed <+:
      (Runs.trace Fifo.step (Fifo.empty capacity) requests).1.flatMap Moved.accepted := by
  have conserved := run_conserves (Fifo.empty capacity) requests keeps
  exact ⟨_, by simpa [Fifo.empty] using conserved.symm⟩

end BeeSdk.BoundedFifo
