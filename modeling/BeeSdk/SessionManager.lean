import Mathlib.Algebra.Group.Nat.Defs
import Mathlib.Data.List.AList
import BeeSdk.BeeSession

/-! `SessionManager`: the sessions it makes, filed under their ids in a table of the
idle and a table of the busy ones. A pointer to a session is its place among the
sessions made so far. -/
namespace BeeSdk
open StateMachine

def kDefaultSessionCount : Nat := 16

/-- The `int32_t` a `size_t` is converted to. -/
@[irreducible] def toInt32 (n : Nat) : Int := Int.bmod n (2 ^ 32)

abbrev SessionTable := AList fun _ : Int => Nat

structure SessionManager where
  sessions : List BeeSession := []
  allSessions : List Nat := []
  idleSessions : SessionTable := ∅
  busySessions : SessionTable := ∅
  initialized : Bool := false
  count : Nat := 0

namespace SessionManager

/-- One turn of the loop in `init`, which finds `all_sessions_` empty and fills it
from the front. -/
def initSession (manager : SessionManager) (i : Nat) : SessionManager :=
  let session := (BeeSession.constructed (toInt32 i)).initStateMachine
  let pointer := manager.sessions.length
  { manager with
    sessions := manager.sessions ++ [session]
    allSessions := manager.allSessions ++ [pointer]
    idleSessions := manager.idleSessions.insert (toInt32 i) pointer }

def init (manager : SessionManager) (count : Nat) : SessionManager :=
  if manager.initialized then manager
  else
    let count := if count = 0 then kDefaultSessionCount else count
    let manager := (List.range count).foldl initSession { manager with count }
    { manager with initialized := true }

/-- Closes the sessions of these entries. -/
def closeAll (entries : List (Sigma fun _ : Int => Nat)) (sessions : List BeeSession) :
    Option (List BeeSession) :=
  entries.foldlM (fun sessions entry =>
    match sessions[entry.2]? with
    | none => some sessions
    | some session => session.close.map fun (_, session) => sessions.set entry.2 session) sessions

def uninit (manager : SessionManager) : Option SessionManager :=
  if ¬ manager.initialized then some manager
  else (closeAll manager.busySessions.entries manager.sessions).map fun sessions =>
    { manager with
      sessions, allSessions := [], idleSessions := ∅, busySessions := ∅, initialized := false }

/-- What `open_idle_session` returns and sets. -/
structure Opened where
  sessionId : Int
  ec : BeeErrorCode
  liveSessionId : String := ""
  deriving DecidableEq

/-- `first` says which entry `begin()` finds; the order of the table is not
specified. -/
def openIdleSession (manager : SessionManager) (first : Nat) (opening : Opening) :
    Option (Opened × SessionManager) :=
  match manager.idleSessions.entries[first % manager.idleSessions.entries.length]? with
  | none => some (⟨-1, .insufficientSession, ""⟩, manager)
  | some ⟨key, pointer⟩ =>
    match manager.sessions[pointer]? with
    | none => some (⟨-1, .nullPointer, ""⟩, manager)
    | some session => (session.openSession opening).map fun (ec, session) =>
      let manager := { manager with sessions := manager.sessions.set pointer session }
      if ec ≠ .success then (⟨-1, ec, ""⟩, manager)
      else
        let busySessions := manager.busySessions.insert session.sessionId pointer
        let idleSessions := manager.idleSessions.erase key
        (⟨session.sessionId, ec, session.liveSessionId⟩, { manager with busySessions, idleSessions })

def closeBusySession (manager : SessionManager) (sessionId : Int) :
    Option (Bool × SessionManager) :=
  match manager.busySessions.lookup sessionId with
  | none => some (false, manager)
  | some pointer =>
    match manager.sessions[pointer]? with
    | none => some (false, manager)
    | some session => session.close.map fun (ec, session) =>
      let manager := { manager with sessions := manager.sessions.set pointer session }
      if ec ≠ .success then (false, manager)
      else
        let idleSessions := manager.idleSessions.insert sessionId pointer
        let busySessions := manager.busySessions.erase sessionId
        (true, { manager with idleSessions, busySessions })

inductive Request where
  | init (count : Nat)
  | uninit
  | openIdleSession (first : Nat) (opening : Opening)
  | closeBusySession (sessionId : Int)

inductive Reply where
  | returned (ret : Bool)
  | opened (opened : Opened)
  deriving DecidableEq

def step (manager : SessionManager) : Request → Option (Reply × SessionManager)
  | .init count => some (.returned true, manager.init count)
  | .uninit => manager.uninit.map fun next => (.returned true, next)
  | .openIdleSession first opening =>
    (manager.openIdleSession first opening).map fun (opened, next) => (.opened opened, next)
  | .closeBusySession sessionId =>
    (manager.closeBusySession sessionId).map fun (ret, next) => (.returned ret, next)

/-- The call reports a failure. -/
def Reply.failed : Reply → Prop
  | .returned ret => ret = false
  | .opened result => result.ec ≠ .success

/-! ### Tables that agree with the sessions -/

/-- Together the tables file exactly the ids the sessions were made with. -/
def FilesIds (manager : SessionManager) : Prop :=
  ∀ id, (id ∈ manager.idleSessions ∨ id ∈ manager.busySessions) ↔
    ∃ i, i < manager.count ∧ toInt32 i = id

/-- The tables are disjoint, each id is filed with the session of that id, idle
sessions are Idle and busy ones Ready. While the manager is initialized all its ids
are filed, and all its sessions as long as no two of them share an id; otherwise the
tables are empty. -/
structure Consistent (manager : SessionManager) : Prop where
  disjoint : ∀ id, id ∈ manager.idleSessions → id ∉ manager.busySessions
  idle : ∀ id pointer, manager.idleSessions.lookup id = some pointer → ∃ session,
    manager.sessions[pointer]? = some session ∧ session.sessionId = id ∧
      session.currentState = kBeeSessionState_Idle
  busy : ∀ id pointer, manager.busySessions.lookup id = some pointer → ∃ session,
    manager.sessions[pointer]? = some session ∧ session.sessionId = id ∧
      session.currentState = kBeeSessionState_Ready
  filed : manager.initialized = true → manager.FilesIds
  states : manager.count ≤ 2 ^ 32 → ∀ pointer ∈ manager.allSessions, ∀ session,
    manager.sessions[pointer]? = some session →
      (manager.busySessions.lookup session.sessionId = some pointer ↔
        session.currentState = kBeeSessionState_Ready) ∧
      (manager.idleSessions.lookup session.sessionId = some pointer ↔
        session.currentState = kBeeSessionState_Idle)
  cleared : manager.initialized = false → manager.idleSessions = ∅ ∧ manager.busySessions = ∅

/-- A call leaves the tables consistent, and unchanged when it fails. -/
structure Keeps (manager : SessionManager) (_ : Request) (reply : Reply) (next : SessionManager) :
    Prop where
  consistent : Consistent next
  failed : reply.failed → next.idleSessions = manager.idleSessions ∧
    next.busySessions = manager.busySessions

end SessionManager
end BeeSdk
