import BeeSdk.Runs
import BeeSdk.Semaphore

/-! `comLib::Thread`: a flag, two queues of tokens, and a lock that those hold who start or stop
synchronously. Every call of `SynStart` makes another thread of the system, which runs through
`ThreadFunc` on its own; all of them share the one object. -/
namespace BeeSdk.ComThread

/-- How far a thread is in `ThreadFunc`. -/
inductive Progress where
  | created
  /-- `m_bRunning` is set. -/
  | marked
  /-- The token of the start is pushed, and `run` called. -/
  | begun
  | returned
  | unmarked
  | flagged
  /-- The token of the stop is pushed. -/
  | ended
  deriving DecidableEq

namespace Progress

def hasBegun : Progress → Bool
  | .created | .marked => false
  | _ => true

def hasReturned : Progress → Bool
  | .created | .marked | .begun => false
  | _ => true

end Progress

/-- A thread of the system, and whether a stop was requested since it was created. -/
structure Body where
  progress : Progress := .created
  asked : Bool := false
  deriving DecidableEq

/-- Where the thread is that holds `m_mutex`, with the time it is going to wait. -/
inductive Caller where
  | free
  | starting (waitTime : Int)
  | startLowered (waitTime : Int)
  | startCleared (waitTime : Int)
  /-- `own` is the thread it has made, if the system has made one. -/
  | startWaits (own : Option Nat) (waitTime : Int)
  | stopping (waitTime : Int)
  | stopCleared (waitTime : Int)
  | stopWaits (waitTime : Int)
  deriving DecidableEq

/-- All tokens are alike, so that a queue is their number. -/
structure Thread where
  running : Bool := false
  hasEnd : Bool := false
  startTokens : Nat := 0
  stopTokens : Nat := 0
  bodies : List Body := []
  caller : Caller := .free
  deriving DecidableEq

inductive Request where
  | synStart (waitTime : Int)
  | synStop (waitTime : Int)
  /-- `Stop`. -/
  | stop
  | lowers
  | clears
  | creates (made : Bool)
  | pops
  | timesOut
  | marks (body : Nat)
  | begins (body : Nat)
  | returns (body : Nat)
  | unmarks (body : Nat)
  | flags (body : Nat)
  | ends (body : Nat)
  deriving DecidableEq

/-- `MAX_DEFAULT_SIZE`. A token pushed into a full queue drives another one out. -/
def maxDefaultSize : Nat := 16 * 1024

def push (tokens : Nat) : Nat := min (tokens + 1) maxDefaultSize

/-- Only Windows takes -1 for a wait without end; elsewhere that time has run out before. -/
def forever (platform : Platform) (waitTime : Int) : Bool := platform = .win32 ∧ waitTime = -1

namespace Thread

/-- The stop is requested of every thread that has been created. -/
def requested (thread : Thread) : Thread :=
  { thread with
    running := false
    bodies := thread.bodies.map fun body => { body with asked := true } }

/-- A thread of the system goes on from one place to another. -/
def goes (thread : Thread) (body : Nat) (source target : Progress) : Option Thread :=
  thread.bodies[body]?.bind fun held =>
    if held.progress ≠ source then none
    else some { thread with bodies := thread.bodies.set body { held with progress := target } }

/-- One step of any thread, and what `SynStart` or `SynStop` returns there. -/
def step (platform : Platform) (thread : Thread) : Request → Option (Option Bool × Thread)
  | .synStart waitTime =>
    if thread.caller ≠ .free then none
    else some (none, { thread with caller := .starting waitTime })
  | .synStop waitTime =>
    if thread.caller ≠ .free then none
    else some (none, { thread with caller := .stopping waitTime })
  | .stop => some (none, thread.requested)
  | .lowers => match thread.caller with
    | .starting waitTime =>
      some (none, { thread with running := false, caller := .startLowered waitTime })
    | .stopCleared waitTime => some (none, { thread.requested with caller := .stopWaits waitTime })
    | _ => none
  | .clears => match thread.caller with
    | .startLowered waitTime =>
      some (none, { thread with startTokens := 0, caller := .startCleared waitTime })
    | .stopping waitTime =>
      some (none, { thread with stopTokens := 0, caller := .stopCleared waitTime })
    | _ => none
  | .creates made => match thread.caller with
    | .startCleared waitTime => some (none, if made then
        { thread with
          bodies := thread.bodies ++ [{}]
          caller := .startWaits (some thread.bodies.length) waitTime }
      else { thread with caller := .startWaits none waitTime })
    | _ => none
  | .pops => match thread.caller with
    | .startWaits _ _ =>
      if thread.startTokens = 0 then none
      else some (some true, { thread with
        startTokens := thread.startTokens - 1, caller := .free })
    | .stopWaits _ =>
      if thread.stopTokens = 0 then none
      else some (some true, { thread with stopTokens := thread.stopTokens - 1, caller := .free })
    | _ => none
  | .timesOut => match thread.caller with
    | .startWaits _ waitTime =>
      if thread.startTokens ≠ 0 ∨ forever platform waitTime then none
      else some (some false, { thread with caller := .free })
    | .stopWaits waitTime =>
      if thread.stopTokens ≠ 0 ∨ forever platform waitTime then none
      else some (some true, { thread with caller := .free })
    | _ => none
  | .marks body => (thread.goes body .created .marked).map fun thread =>
      (none, { thread with running := true })
  | .begins body => (thread.goes body .marked .begun).map fun thread =>
      (none, { thread with startTokens := push thread.startTokens })
  | .returns body => (thread.goes body .begun .returned).map fun thread => (none, thread)
  | .unmarks body => (thread.goes body .returned .unmarked).map fun thread =>
      (none, { thread with running := false })
  | .flags body => (thread.goes body .unmarked .flagged).map fun thread =>
      (none, { thread with hasEnd := true })
  | .ends body => (thread.goes body .flagged .ended).map fun thread =>
      (none, { thread with stopTokens := push thread.stopTokens })

/-- The thread a `SynStart` has made has begun. -/
def ownBegun (thread : Thread) (own : Option Nat) : Bool :=
  own.any fun body => thread.bodies[body]?.any fun held => held.progress.hasBegun

def allReturned (thread : Thread) : Bool := thread.bodies.all fun body => body.progress.hasReturned

/-- All threads have ended, and there are some. -/
def spent (thread : Thread) : Bool :=
  thread.bodies ≠ [] ∧ thread.bodies.all fun body => body.progress = .ended

end Thread

/-- What a step owes to those who start and stop. -/
structure Handshake (before : Thread) (request : Request) (reply : Option Bool) (after : Thread) :
    Prop where
  begun : ∀ own waitTime ret, before.caller = .startWaits own waitTime → reply = some ret →
    (ret = true ↔ after.ownBegun own = true)
  returned : ∀ waitTime, before.caller = .stopWaits waitTime → reply = some true →
    after.allReturned = true
  kept : ∀ body, request = .marks body → ∀ held ∈ before.bodies, held.asked = true →
    held.progress.hasReturned = true
  waits : ∀ waitTime, after.caller = .stopWaits waitTime → after.stopTokens = 0 → after.spent = false

/-- No token comes from another thread than the one waited for, no wait for the end runs out
before the end, no stop is asked of a thread that is yet to set its flag nor a flag set beside a
thread asked to stop, and `SynStop` clears its queue before the token is in it. -/
def Orderly (thread : Thread) : Request → Prop
  | .begins body => match thread.caller with
    | .startCleared _ => False
    | .startWaits own _ => own = some body ∨ thread.ownBegun own = true
    | _ => True
  | .ends _ => match thread.caller with
    | .stopCleared _ | .stopWaits _ => thread.allReturned = true
    | _ => True
  | .timesOut => match thread.caller with
    | .stopWaits _ => thread.allReturned = true
    | _ => True
  | .stop => ∀ held ∈ thread.bodies, held.progress ≠ .created
  | .lowers => match thread.caller with
    | .stopCleared _ => ∀ held ∈ thread.bodies, held.progress ≠ .created
    | _ => True
  | .marks _ => ∀ held ∈ thread.bodies, held.asked = true → held.progress ≠ .created →
    held.progress.hasReturned = true
  | .clears => match thread.caller with
    | .stopping _ => thread.spent = false
    | _ => True
  | _ => True

instance (thread : Thread) : ∀ request, Decidable (Orderly thread request)
  | .begins _ => by
    unfold Orderly
    dsimp only
    split <;> infer_instance
  | .ends _ => by
    unfold Orderly
    dsimp only
    split <;> infer_instance
  | .timesOut => by
    unfold Orderly
    dsimp only
    split <;> infer_instance
  | .lowers => by
    unfold Orderly
    dsimp only
    split <;> infer_instance
  | .clears => by
    unfold Orderly
    dsimp only
    split <;> infer_instance
  | .stop => inferInstanceAs (Decidable (∀ held ∈ thread.bodies, _ ≠ _))
  | .marks _ => inferInstanceAs (Decidable (∀ held ∈ thread.bodies, _ = _ → _ ≠ _ → _ = _))
  | .synStart _ => isTrue trivial
  | .synStop _ => isTrue trivial
  | .creates _ => isTrue trivial
  | .pops => isTrue trivial
  | .returns _ => isTrue trivial
  | .unmarks _ => isTrue trivial
  | .flags _ => isTrue trivial

end BeeSdk.ComThread
