import BeeSdk.Runs
import BeeSdk.Semaphore

/-! `SafeQueue` under any number of threads: what each of them does to the lock, to the
two semaphores and to the queue is a step of its own, and the steps of different
threads come in any order. -/
namespace BeeSdk

/-- Where a thread stands in an operation: what it does next. -/
inductive Stage (Element : Type) where
  | idle
  | pushLocks (value : Element)
  | pushChecks (value : Element)
  | pushWaitsFull (value : Element)
  | pushPostsEmpty (value : Element)
  | pushWaitsEmpty (value : Element)
  | blockPushWaitsEmpty (value : Element)
  | blockPushLocks (value : Element)
  /-- `m_Queue.push` and `m_FullSemaphore.Post`, in `Push` and in `BlockPush`. -/
  | appends (value : Element)
  | postsFull
  /-- `BlockPop`, or `Pop` where the wait has a time limit. -/
  | popWaitsFull (timed : Bool)
  | popLocks
  | popTakes
  | popPostsEmpty
  | clearLocks
  | clearChecks
  | clearWaitsFull
  | clearPostsEmpty
  | dupLocks
  /-- `v = m_Queue` and the swap with an empty queue. -/
  | dupSwaps
  /-- The end of every operation but a `Pop` whose time has run out. -/
  | unlocks
  deriving DecidableEq

inductive QueueCall (Element : Type) where
  | push (value : Element)
  | blockPush (value : Element)
  | blockPop
  | pop
  | clear
  | dupAndClear

/-- The first thing the operation does. -/
def QueueCall.enters : QueueCall Element → Stage Element
  | .push value => .pushLocks value
  | .blockPush value => .blockPushWaitsEmpty value
  | .blockPop => .popWaitsFull false
  | .pop => .popWaitsFull true
  | .clear => .clearLocks
  | .dupAndClear => .dupLocks

structure SafeQueue (Element : Type) where
  queue : List Element
  queueSize : Nat
  emptySemaphore : Semaphore
  fullSemaphore : Semaphore
  /-- `m_Lock` is held by some thread. -/
  locked : Bool
  threads : List (Stage Element)
  /-- The elements the queue has ever taken in, and those that have left it, in order. -/
  pushed : List Element
  left : List Element
  /-- The front of an empty queue has been read or taken. -/
  broken : Bool

namespace SafeQueue
variable {Element : Type}

/-- `MAX_QUEUE_SIZE`. -/
def maxQueueSize : Nat := 4000 * 1024

/-- The constructor, before any of the threads has called. -/
def construct (platform : Platform) (size threads : Nat) : SafeQueue Element :=
  let most := if platform = .win32 then maxQueueSize else semValueMax
  let queueSize := if size > most then most else size
  { queue := [], queueSize := queueSize
    emptySemaphore := Semaphore.create platform queueSize queueSize
    fullSemaphore := Semaphore.create platform 0 queueSize
    locked := false, threads := List.replicate threads .idle
    pushed := [], left := [], broken := false }

/-! ### Single actions -/

/-- The thread goes over to another stage. -/
def moved (state : SafeQueue Element) (thread : Nat) (stage : Stage Element) : SafeQueue Element :=
  { state with threads := state.threads.set thread stage }

def acquire (state : SafeQueue Element) (thread : Nat) (stage : Stage Element) :
    Option (SafeQueue Element) :=
  if state.locked then none else some { state.moved thread stage with locked := true }

def release (state : SafeQueue Element) (thread : Nat) : SafeQueue Element :=
  { state.moved thread .idle with locked := false }

/-- `m_FullSemaphore.Wait()`; what it returns is looked at nowhere. -/
def waitFull (state : SafeQueue Element) (thread : Nat) (stage : Stage Element) :
    Option (SafeQueue Element) :=
  state.fullSemaphore.wait.map fun waited =>
    { state.moved thread stage with fullSemaphore := waited.2 }

def waitEmpty (state : SafeQueue Element) (thread : Nat) (stage : Stage Element) :
    Option (SafeQueue Element) :=
  state.emptySemaphore.wait.map fun waited =>
    { state.moved thread stage with emptySemaphore := waited.2 }

def postFull (state : SafeQueue Element) (thread : Nat) (stage : Stage Element) :
    SafeQueue Element :=
  { state.moved thread stage with fullSemaphore := state.fullSemaphore.post }

def postEmpty (state : SafeQueue Element) (thread : Nat) (stage : Stage Element) :
    SafeQueue Element :=
  { state.moved thread stage with emptySemaphore := state.emptySemaphore.post }

/-- `m_Queue.pop`, nothing asked about whether there is anything. -/
def takeFront (state : SafeQueue Element) (thread : Nat) (stage : Stage Element) :
    SafeQueue Element :=
  match state.queue with
  | [] => { state with broken := true }
  | front :: rest =>
    { state.moved thread stage with queue := rest, left := state.left ++ [front] }

def append (state : SafeQueue Element) (thread : Nat) (value : Element) (stage : Stage Element) :
    SafeQueue Element :=
  { state.moved thread stage with
    queue := state.queue ++ [value], pushed := state.pushed ++ [value] }

/-! ### The operations -/

/-- The next action of a thread at a stage, if nothing keeps it waiting. -/
def advance (state : SafeQueue Element) (thread : Nat) : Stage Element → Option (SafeQueue Element)
  | .idle => none
  | .pushLocks value => state.acquire thread (.pushChecks value)
  | .pushChecks value =>
    if state.queue.length ≥ state.queueSize then
      some (state.takeFront thread (.pushWaitsFull value))
    else some (state.moved thread (.pushWaitsEmpty value))
  | .pushWaitsFull value => state.waitFull thread (.pushPostsEmpty value)
  | .pushPostsEmpty value => some (state.postEmpty thread (.pushWaitsEmpty value))
  | .pushWaitsEmpty value => state.waitEmpty thread (.appends value)
  | .blockPushWaitsEmpty value => state.waitEmpty thread (.blockPushLocks value)
  | .blockPushLocks value => state.acquire thread (.appends value)
  | .appends value => some (state.append thread value .postsFull)
  | .postsFull => some (state.postFull thread .unlocks)
  | .popWaitsFull timed =>
    match state.fullSemaphore.wait with
    | some (false, _) => some (state.moved thread (if timed then .idle else .popLocks))
    | _ => state.waitFull thread .popLocks
  | .popLocks => state.acquire thread .popTakes
  | .popTakes => some (state.takeFront thread .popPostsEmpty)
  | .popPostsEmpty => some (state.postEmpty thread .unlocks)
  | .clearLocks => state.acquire thread .clearChecks
  | .clearChecks =>
    if state.queue = [] then some (state.moved thread .unlocks)
    else some (state.takeFront thread .clearWaitsFull)
  | .clearWaitsFull => state.waitFull thread .clearPostsEmpty
  | .clearPostsEmpty => some (state.postEmpty thread .clearChecks)
  | .dupLocks => state.acquire thread .dupSwaps
  | .dupSwaps =>
    some { state.moved thread .unlocks with queue := [], left := state.left ++ state.queue }
  | .unlocks => some (state.release thread)

inductive Move (Element : Type) where
  | calls (thread : Nat) (call : QueueCall Element)
  | goesOn (thread : Nat)
  /-- The time of a `Pop` runs out. -/
  | timesOut (thread : Nat)

/-- One step of one thread; undefined where the thread cannot take it now. -/
def step (state : SafeQueue Element) : Move Element → Option (Unit × SafeQueue Element)
  | .calls thread call =>
    match state.threads[thread]? with
    | some .idle => some ((), state.moved thread call.enters)
    | _ => none
  | .goesOn thread =>
    (state.threads[thread]?.bind (state.advance thread)).map ((), ·)
  | .timesOut thread =>
    match state.threads[thread]? with
    | some (.popWaitsFull true) => some ((), state.moved thread .idle)
    | _ => none

/-! ### What is promised -/

def Quiescent (state : SafeQueue Element) : Prop :=
  ∀ stage ∈ state.threads, stage = .idle

/-- The thread holds the lock and waits for a semaphore at zero. Whoever could post it
has to take the lock first. -/
def StuckAt (state : SafeQueue Element) : Stage Element → Prop
  | .pushWaitsFull _ | .clearWaitsFull => state.fullSemaphore.wait = none
  | .pushWaitsEmpty _ => state.emptySemaphore.wait = none
  | _ => False

/-- What holds of the queue whatever the threads are doing. -/
structure Sound (state : SafeQueue Element) : Prop where
  counted : state.Quiescent → state.fullSemaphore.count = state.queue.length ∧
    state.emptySemaphore.count + state.queue.length = state.queueSize
  unbroken : state.broken = false
  ordered : state.pushed = state.left ++ state.queue
  free : ∀ stage ∈ state.threads, ¬ state.StuckAt stage

end SafeQueue
end BeeSdk
