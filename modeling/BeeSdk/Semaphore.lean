/-! The counting semaphore of `Semaphore.h`, as the containers of `comLib` use it on the
three systems it is written for. -/
namespace BeeSdk

/-- The systems `Semaphore.h` tells apart by `WIN32` and `IOS`. -/
inductive Platform where
  | win32
  | ios
  | posix
  deriving DecidableEq, Repr

/-- `SEM_VALUE_MAX`, which is `INT_MAX` also where `Semaphore.h` has to define it. -/
def semValueMax : Nat := 2147483647

/-- A semaphore and the count `Post` does not get past. One the system has refused to
create has a maximum of zero. -/
structure Semaphore where
  count : Nat
  maximum : Nat
  bounded : count ≤ maximum
  deriving DecidableEq

namespace Semaphore

/-- `CreateSemaphore` wants a positive maximum and counts up to it; the other systems
are not told the maximum. -/
def create (platform : Platform) (initCount maxCount : Nat) : Semaphore :=
  let maximum := if platform = .win32 then maxCount else semValueMax
  if within : initCount ≤ maximum then ⟨initCount, maximum, within⟩ else ⟨0, 0, Nat.le_refl 0⟩

def post (semaphore : Semaphore) : Semaphore :=
  if below : semaphore.count < semaphore.maximum then
    { semaphore with count := semaphore.count + 1, bounded := below }
  else semaphore

/-- `Wait()`: undefined while it does not come back. Waiting for a semaphore that was
never created fails at once. -/
def wait (semaphore : Semaphore) : Option (Bool × Semaphore) :=
  if semaphore.maximum = 0 then some (false, semaphore)
  else if semaphore.count = 0 then none
  else some (true, { semaphore with
    count := semaphore.count - 1, bounded := Nat.le_trans (Nat.sub_le _ _) semaphore.bounded })

/-- `Wait(nTimeout)` called by the only thread there is. On Windows a timeout of -1 is
`INFINITE`; every other timeout runs out. -/
def waitFor (platform : Platform) (nTimeout : Int) (semaphore : Semaphore) :
    Option (Bool × Semaphore) :=
  match semaphore.wait with
  | some waited => some waited
  | none => if platform = .win32 ∧ nTimeout = -1 then none else some (false, semaphore)

variable {semaphore : Semaphore}

/-- A semaphore with a maximum every system can count up to starts as it is asked to,
and counts up to that maximum. -/
theorem create_spec (platform : Platform) {initCount maxCount : Nat}
    (within : initCount ≤ maxCount) (fits : maxCount ≤ semValueMax) :
    (create platform initCount maxCount).count = initCount ∧
      maxCount ≤ (create platform initCount maxCount).maximum := by
  by_cases windows : platform = .win32
  · simp [create, windows, within]
  · simp [create, windows, Nat.le_trans within fits, fits]

theorem post_count (below : semaphore.count < semaphore.maximum) :
    semaphore.post.count = semaphore.count + 1 := by
  simp [post, below]

@[simp] theorem post_maximum : semaphore.post.maximum = semaphore.maximum := by
  unfold post
  split <;> rfl

/-- Waiting for a semaphore with something in it takes one out. -/
theorem wait_of_pos (positive : 0 < semaphore.count) :
    ∃ taken : Semaphore, semaphore.wait = some (true, taken) ∧
      taken.count + 1 = semaphore.count ∧ taken.maximum = semaphore.maximum := by
  have created : semaphore.maximum ≠ 0 := by
    have := semaphore.bounded
    omega
  have fits : semaphore.count - 1 ≤ semaphore.maximum :=
    Nat.le_trans (Nat.sub_le _ _) semaphore.bounded
  refine ⟨⟨semaphore.count - 1, semaphore.maximum, fits⟩, ?_, Nat.sub_add_cancel positive, rfl⟩
  rw [wait, if_neg created, if_neg (by omega)]

/-- A wait that succeeds has taken one out, a wait that fails has met a semaphore that
was never created. -/
theorem wait_cases {waited : Bool × Semaphore} (came : semaphore.wait = some waited) :
    (waited.1 = true ∧ waited.2.count + 1 = semaphore.count ∧
      waited.2.maximum = semaphore.maximum) ∨
    (semaphore.maximum = 0 ∧ waited = (false, semaphore)) := by
  rw [wait] at came
  split at came
  · rename_i missing
    cases came
    exact .inr ⟨missing, rfl⟩
  · split at came
    · cases came
    · cases came
      refine .inl ⟨rfl, ?_, rfl⟩
      show semaphore.count - 1 + 1 = semaphore.count
      omega

end Semaphore
end BeeSdk
