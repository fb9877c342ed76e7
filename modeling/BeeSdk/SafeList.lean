import BeeSdk.Runs
import BeeSdk.Semaphore

/-! `SafeList`: a list beside a semaphore that is meant to count its elements. One
thread calls the operations one after the other; the lock is one it may take again, so
that the function given to `Enum` may call them as well. -/
namespace BeeSdk

structure SafeList (Element : Type) where
  list : List Element
  maxCount : Nat
  emptySemaphore : Semaphore
  /-- For every `Enum` that is under way, the innermost first, the turns its loop has left. -/
  enums : List Nat

namespace SafeList
variable {Element : Type}

/-- `MAX_LIST_COUNT`. -/
def maxListCount : Nat := 4000 * 1024

/-- The constructor. The semaphore starts at zero. -/
def construct (platform : Platform) (maxSize : Nat) : SafeList Element :=
  let most := if platform = .win32 then maxListCount else semValueMax
  let maxCount := if maxSize > most then most else maxSize
  { list := [], maxCount := maxCount
    emptySemaphore := Semaphore.create platform 0 maxCount, enums := [] }

inductive Operation (Element : Type) where
  | push (value : Element)
  | pushBack (value : Element)
  | pushFront (value : Element)
  | pop (timeout : Int)
  | popBack
  | popFront
  | erase (key : Element)
  | clear
  /-- `Enum` is called: it takes the lock and reads the size. -/
  | enum
  /-- The innermost `Enum` goes on to its next turn; what its function calls comes as
  operations of their own. -/
  | turn

inductive Reply (Element : Type) where
  | nothing
  | returned (success : Bool)
  /-- `Pop` has returned true and this value. -/
  | popped (value : Element)
  /-- `Pop` was called without a time limit and still waits. -/
  | waits
  /-- The function given to `Enum` is called with this value. -/
  | visits (value : Element)
  deriving DecidableEq

/-- `Wait()` while the lock is held; what it returns is looked at nowhere. -/
def waitHeld (list : SafeList Element) : Option (SafeList Element) :=
  list.emptySemaphore.wait.map fun waited => { list with emptySemaphore := waited.2 }

def post (list : SafeList Element) : SafeList Element :=
  { list with emptySemaphore := list.emptySemaphore.post }

/-- `Push`. To take the front off an empty list is undefined. -/
def push (value : Element) (list : SafeList Element) : Option (SafeList Element) :=
  let append (list : SafeList Element) : SafeList Element :=
    { list with list := list.list ++ [value] }.post
  if list.list.length ≥ list.maxCount then
    match list.list with
    | [] => none
    | _ :: rest => ({ list with list := rest }.waitHeld).map append
  else some (append list)

def pushBack (value : Element) (list : SafeList Element) : Bool × SafeList Element :=
  if list.list.length ≥ list.maxCount then (false, list)
  else (true, { list with list := list.list ++ [value] }.post)

def pushFront (value : Element) (list : SafeList Element) : Bool × SafeList Element :=
  if list.list.length ≥ list.maxCount then (false, list)
  else (true, { list with list := value :: list.list }.post)

/-- `Pop`: the list is not asked whether it has a front. -/
def pop (platform : Platform) (timeout : Int) (list : SafeList Element) :
    Option (Reply Element × SafeList Element) :=
  match list.emptySemaphore.waitFor platform timeout with
  | none => some (.waits, list)
  | some (false, _) => some (.returned false, list)
  | some (true, taken) =>
    match list.list with
    | [] => none
    | front :: rest => some (.popped front, { list with list := rest, emptySemaphore := taken })

def popBack (list : SafeList Element) : Option (Bool × SafeList Element) :=
  if list.list = [] then some (false, list)
  else list.waitHeld.map fun waited => (true, { waited with list := list.list.dropLast })

def popFront (list : SafeList Element) : Option (Bool × SafeList Element) :=
  if list.list = [] then some (false, list)
  else list.waitHeld.map fun waited => (true, { waited with list := list.list.tail })

/-- `Erase`: all elements equal to the key, and the semaphore is not waited for. -/
def erase [BEq Element] (key : Element) (list : SafeList Element) : SafeList Element :=
  { list with list := list.list.filter fun element => !(element == key) }

/-- The loop of `Clear` over the elements that are left. -/
def clearFrom (list : SafeList Element) : List Element → Option (SafeList Element)
  | [] => some { list with list := [] }
  | _ :: rest => ({ list with list := rest }.waitHeld).bind fun waited => clearFrom waited rest

def clear (list : SafeList Element) : Option (SafeList Element) :=
  list.clearFrom list.list

/-- `Enum` up to its loop. -/
def enum (list : SafeList Element) : SafeList Element :=
  { list with enums := list.list.length :: list.enums }

/-- One turn of the innermost loop of `Enum`: nothing is done where the list has become
empty, and with no turn left `Enum` returns. -/
def turn (list : SafeList Element) : Option (Reply Element × SafeList Element) :=
  match list.enums with
  | [] => some (.nothing, list)
  | 0 :: outer => some (.nothing, { list with enums := outer })
  | (turns + 1) :: outer =>
    let next : SafeList Element := { list with enums := turns :: outer }
    match list.list with
    | [] => some (.nothing, next)
    | front :: _ => next.popFront.map fun (_, popped) => (.visits front, popped)

/-- One call. Undefined is a call that reads or takes the front of an empty list, and
one that waits for the semaphore while it holds the lock and is never woken. -/
def step [BEq Element] (platform : Platform) (list : SafeList Element) :
    Operation Element → Option (Reply Element × SafeList Element)
  | .push value => (list.push value).map fun list => (.nothing, list)
  | .pushBack value =>
    let (success, list) := list.pushBack value
    some (.returned success, list)
  | .pushFront value =>
    let (success, list) := list.pushFront value
    some (.returned success, list)
  | .pop timeout => list.pop platform timeout
  | .popBack => list.popBack.map fun (success, list) => (.returned success, list)
  | .popFront => list.popFront.map fun (success, list) => (.returned success, list)
  | .erase key => some (.nothing, list.erase key)
  | .clear => list.clear.map fun list => (.nothing, list)
  | .enum => some (.nothing, list.enum)
  | .turn => list.turn

/-! ### What the semaphore counts -/

/-- The semaphore counts the elements, which are no more than are allowed. -/
structure Counted (list : SafeList Element) : Prop where
  count : list.emptySemaphore.count = list.list.length
  fits : list.list.length ≤ list.maxCount
  room : list.maxCount ≤ list.emptySemaphore.maximum

/-- What is promised of an operation: the semaphore counts the elements behind it, and
`Pop` returns true exactly when there is an element, and returns the first. -/
structure Keeps (list : SafeList Element) (operation : Operation Element)
    (reply : Reply Element) (next : SafeList Element) : Prop where
  count : next.emptySemaphore.count = next.list.length
  pops : ∀ timeout value, operation = .pop timeout →
    (reply = .popped value ↔ list.list.head? = some value)

/-- When an operation keeps it: `Push` if the list may have elements at all, `Erase` if
there is nothing to erase, and every other one. -/
def Counts [BEq Element] (list : SafeList Element) : Operation Element → Prop
  | .push _ => 0 < list.maxCount
  | .erase key => ∀ element ∈ list.list, (element == key) = false
  | _ => True

variable {list : SafeList Element}

theorem construct_counted (platform : Platform) (maxSize : Nat) :
    (construct platform maxSize : SafeList Element).Counted := by
  have fits : (construct platform maxSize : SafeList Element).maxCount ≤ semValueMax := by
    cases platform <;> simp [construct, maxListCount, semValueMax] <;> split <;> omega
  obtain ⟨count, room⟩ := Semaphore.create_spec platform (Nat.zero_le _) fits
  exact ⟨count, Nat.zero_le _, room⟩

/-- With an element there the wait under the lock comes back, and the list with one
element less is counted by what is left of the semaphore. -/
private theorem wait_of_element (counted : list.Counted) (nonempty : list.list ≠ []) :
    ∃ semaphore : Semaphore, list.emptySemaphore.wait = some (true, semaphore) ∧
      ∀ rest enums, rest.length + 1 = list.list.length →
        (⟨rest, list.maxCount, semaphore, enums⟩ : SafeList Element).Counted := by
  have positive : 0 < list.emptySemaphore.count := by
    rw [counted.count]
    exact List.length_pos_iff.mpr nonempty
  obtain ⟨taken, waited, count, maximum⟩ := Semaphore.wait_of_pos positive
  refine ⟨taken, waited, fun rest enums shorter => ⟨?_, ?_, ?_⟩⟩
  · have := counted.count
    show taken.count = rest.length
    omega
  · have := counted.fits
    show rest.length ≤ list.maxCount
    omega
  · show list.maxCount ≤ taken.maximum
    rw [maximum]
    exact counted.room

/-- One element more is counted where there is room for it. -/
private theorem post_counted (counted : list.Counted) (below : list.list.length < list.maxCount)
    (longer : items.length = list.list.length + 1) :
    ({ list with list := items } : SafeList Element).post.Counted := by
  have room : list.emptySemaphore.count < list.emptySemaphore.maximum := by
    rw [counted.count]
    exact Nat.lt_of_lt_of_le below counted.room
  refine ⟨?_, ?_, ?_⟩
  · show list.emptySemaphore.post.count = items.length
    rw [Semaphore.post_count room, counted.count, longer]
  · show items.length ≤ list.maxCount
    omega
  · show list.maxCount ≤ list.emptySemaphore.post.maximum
    rw [Semaphore.post_maximum]
    exact counted.room

private theorem push_counted (counted : list.Counted) (positive : 0 < list.maxCount)
    (value : Element) : ∃ next, list.push value = some next ∧ next.Counted := by
  unfold push
  by_cases full : list.list.length ≥ list.maxCount
  · rw [if_pos full]
    cases items : list.list with
    | nil =>
      rw [items, List.length_nil] at full
      omega
    | cons front rest =>
      obtain ⟨semaphore, waited, shorter⟩ :=
        wait_of_element counted (by rw [items]; exact List.cons_ne_nil front rest)
      have popped := shorter rest list.enums (by rw [items]; rfl)
      have fits := counted.fits
      rw [items, List.length_cons] at fits
      refine ⟨_, by simp only [waitHeld, waited]; rfl, ?_⟩
      exact post_counted popped fits (by simp)
  · rw [if_neg full]
    exact ⟨_, rfl, post_counted counted (by omega) (by simp)⟩

private theorem pushBack_counted (counted : list.Counted) (value : Element) :
    (list.pushBack value).2.Counted := by
  unfold pushBack
  by_cases full : list.list.length ≥ list.maxCount
  · rw [if_pos full]
    exact counted
  · rw [if_neg full]
    exact post_counted counted (by omega) (by simp)

private theorem pushFront_counted (counted : list.Counted) (value : Element) :
    (list.pushFront value).2.Counted := by
  unfold pushFront
  by_cases full : list.list.length ≥ list.maxCount
  · rw [if_pos full]
    exact counted
  · rw [if_neg full]
    exact post_counted counted (by omega) (by simp)

/-- `PopBack` and `PopFront` leave one element less, where there is one. -/
private theorem popped_counted (counted : list.Counted) {rest : List Element}
    (shorter : rest.length = list.list.length - 1) :
    ∃ success next, (if list.list = [] then some (false, list)
      else list.waitHeld.map fun waited => (true, { waited with list := rest })) =
        some (success, next) ∧ next.Counted := by
  by_cases empty : list.list = []
  · rw [if_pos empty]
    exact ⟨false, list, rfl, counted⟩
  · rw [if_neg empty]
    obtain ⟨semaphore, waited, leaves⟩ := wait_of_element counted empty
    have := List.length_pos_iff.mpr empty
    exact ⟨true, _, by rw [waitHeld, waited]; rfl, leaves _ _ (by omega)⟩

/-- `Pop` tells and takes the first element, and nothing where there is none. -/
private theorem pop_counted (counted : list.Counted) (platform : Platform) (timeout : Int) :
    ∃ reply next, list.pop platform timeout = some (reply, next) ∧ next.Counted ∧
      ∀ value, reply = .popped value ↔ list.list.head? = some value := by
  unfold pop
  cases items : list.list with
  | nil =>
    have none_there : list.emptySemaphore.count = 0 := by rw [counted.count, items, List.length_nil]
    unfold Semaphore.waitFor
    cases waited : list.emptySemaphore.wait with
    | none =>
      by_cases endless : platform = .win32 ∧ timeout = -1
      · rw [if_pos endless]
        exact ⟨.waits, list, rfl, counted, by simp⟩
      · rw [if_neg endless]
        exact ⟨.returned false, list, rfl, counted, by simp⟩
    | some result =>
      rcases Semaphore.wait_cases waited with ⟨_, count, _⟩ | ⟨_, rfl⟩
      · omega
      · exact ⟨.returned false, list, rfl, counted, by simp⟩
  | cons front rest =>
    obtain ⟨semaphore, waited, shorter⟩ :=
      wait_of_element counted (by rw [items]; exact List.cons_ne_nil front rest)
    rw [Semaphore.waitFor, waited]
    exact ⟨.popped front, _, rfl, shorter rest list.enums (by rw [items]; rfl), by simp⟩

/-- The loop of `Clear` takes out of the semaphore what it takes out of the list. -/
private theorem clearFrom_counted (items : List Element) (same : list.list = items)
    (counted : list.Counted) : ∃ next, list.clearFrom items = some next ∧ next.Counted := by
  induction items generalizing list with
  | nil => exact ⟨_, rfl, same ▸ counted⟩
  | cons front rest ih =>
    obtain ⟨semaphore, waited, shorter⟩ :=
      wait_of_element counted (by rw [same]; exact List.cons_ne_nil front rest)
    obtain ⟨next, cleared, result⟩ := ih rfl (shorter rest list.enums (by rw [same]; rfl))
    refine ⟨next, ?_, result⟩
    simp only [clearFrom, waitHeld, waited]
    exact cleared

private theorem enums_counted (counted : list.Counted) (enums : List Nat) :
    ({ list with enums := enums } : SafeList Element).Counted :=
  ⟨counted.count, counted.fits, counted.room⟩

private theorem turn_counted (counted : list.Counted) :
    ∃ reply next, list.turn = some (reply, next) ∧ next.Counted := by
  unfold turn
  cases list.enums with
  | nil => exact ⟨.nothing, list, rfl, counted⟩
  | cons turns outer =>
    cases turns with
    | zero => exact ⟨.nothing, _, rfl, enums_counted counted outer⟩
    | succ turns =>
      have begun := enums_counted counted (turns :: outer)
      cases items : list.list with
      | nil =>
        rw [items] at begun
        exact ⟨.nothing, _, rfl, begun⟩
      | cons front rest =>
        rw [items] at begun
        obtain ⟨success, next, popped, result⟩ : ∃ success next, popFront _ = some (success, next) ∧
          next.Counted := popped_counted begun List.length_tail
        exact ⟨.visits front, next, by simp only [popped]; rfl, result⟩

/-- A list that may have no element is empty, and `Push` takes the front off it. -/
private theorem push_zero (counted : list.Counted) (zero : ¬ 0 < list.maxCount)
    (value : Element) : list.push value = none := by
  have fits := counted.fits
  have empty : list.list = [] := List.eq_nil_of_length_eq_zero (by omega)
  rw [push, if_pos (by omega), empty]

/-- What every other operation owes, once it is seen that it leaves the list counted. -/
private theorem keeps_of_counted {operation : Operation Element} {reply : Reply Element}
    {next : SafeList Element} (counted : next.Counted)
    (other : ∀ timeout, operation ≠ .pop timeout) : Keeps list operation reply next where
  count := counted.count
  pops timeout _ same := absurd same (other timeout)

variable [BEq Element]

/-- A call that meets the condition keeps the promise and leaves the list counted. -/
private theorem step_counted (platform : Platform) (counted : list.Counted)
    (operation : Operation Element) (counts : list.Counts operation) :
    ∃ reply next, list.step platform operation = some (reply, next) ∧
      Keeps list operation reply next ∧ next.Counted := by
  cases operation with
  | push value =>
    obtain ⟨next, pushed, result⟩ := push_counted counted counts value
    exact ⟨.nothing, next, by rw [step, pushed]; rfl, keeps_of_counted result (by simp), result⟩
  | pushBack value =>
    have result := pushBack_counted counted value
    exact ⟨_, _, rfl, keeps_of_counted result (by simp), result⟩
  | pushFront value =>
    have result := pushFront_counted counted value
    exact ⟨_, _, rfl, keeps_of_counted result (by simp), result⟩
  | pop timeout =>
    obtain ⟨reply, next, popped, result, told⟩ := pop_counted counted platform timeout
    exact ⟨reply, next, popped, ⟨result.count, fun _ value _ => told value⟩, result⟩
  | popBack =>
    obtain ⟨success, next, popped, result⟩ := popped_counted counted List.length_dropLast
    exact ⟨.returned success, next, by rw [step, popBack, popped]; rfl, keeps_of_counted result (by simp), result⟩
  | popFront =>
    obtain ⟨success, next, popped, result⟩ := popped_counted counted List.length_tail
    exact ⟨.returned success, next, by rw [step, popFront, popped]; rfl, keeps_of_counted result (by simp), result⟩
  | erase key =>
    have same : list.erase key = list := by
      have all : list.list.filter (fun element => !(element == key)) = list.list :=
        List.filter_eq_self.mpr fun element member => by rw [counts element member]; rfl
      rw [erase, all]
    have result : (list.erase key).Counted := by
      rw [same]
      exact counted
    exact ⟨.nothing, _, rfl, keeps_of_counted result (by simp), result⟩
  | clear =>
    obtain ⟨next, cleared, result⟩ := clearFrom_counted list.list rfl counted
    exact ⟨.nothing, next, by rw [step, clear, cleared]; rfl, keeps_of_counted result (by simp), result⟩
  | enum =>
    have result := enums_counted counted (list.list.length :: list.enums)
    exact ⟨.nothing, _, rfl, keeps_of_counted result (by simp), result⟩
  | turn =>
    obtain ⟨reply, next, turned, result⟩ := turn_counted counted
    exact ⟨reply, next, turned, keeps_of_counted result (by simp), result⟩

/-- What `Erase` takes out of the list stays in the semaphore. -/
private theorem erase_uncounted (counted : list.Counted) (key : Element)
    (count : (list.erase key).emptySemaphore.count = (list.erase key).list.length) :
    ∀ element ∈ list.list, (element == key) = false := by
  have same : (list.list.filter fun element => !(element == key)).length = list.list.length :=
    count.symm.trans counted.count
  intro element member
  simpa using List.length_filter_eq_length_iff.mp same element member

/-- The semaphore counts the elements behind every operation, and `Pop` goes by the
elements, exactly as long as no operation erases an element and none pushes to a list
made for no element. -/
theorem semaphore_counts_iff (platform : Platform) (maxSize : Nat)
    (operations : List (Operation Element)) :
    Runs.AllTaken (step platform) Keeps (construct platform maxSize) operations ↔
      Runs.AllSteps (step platform) Counts (construct platform maxSize) operations := by
  apply Runs.all_taken_iff Counted _ _ (construct_counted platform maxSize)
  · intro list operation counted
    constructor
    · rintro ⟨reply, next, taken, keeps⟩
      cases operation with
      | push value =>
        apply Classical.byContradiction
        intro zero
        rw [step, push_zero counted zero] at taken
        cases taken
      | erase key =>
        cases taken
        exact erase_uncounted counted key keeps.count
      | _ => trivial
    · intro counts
      obtain ⟨reply, next, taken, keeps, _⟩ := step_counted platform counted operation counts
      exact ⟨reply, next, taken, keeps⟩
  · intro list operation reply next counted counts taken
    obtain ⟨reply', next', taken', _, result⟩ := step_counted platform counted operation counts
    rw [taken] at taken'
    cases taken'
    exact result

/-- An element is pushed and erased: the semaphore still counts it, and the next `Pop`
reads the front of an empty list. A list made for no element has its front taken by the
first `Push`. -/
theorem erased_still_counted :
    ¬ Runs.AllTaken (step .posix) Keeps (construct .posix 16 : SafeList Nat)
      [.push 7, .erase 7, .pop 0] ∧
    Runs.run (step .posix) (construct .posix 16 : SafeList Nat) [.push 7, .erase 7, .pop 0] = none ∧
    Runs.run (step .posix) (construct .posix 0 : SafeList Nat) [.push 7] = none := by
  refine ⟨?_, rfl, rfl⟩
  rintro ⟨_, _, pushed, _, _, _, erased, keeps, _⟩
  cases pushed
  cases erased
  exact absurd keeps.count (by decide)

end SafeList
end BeeSdk
