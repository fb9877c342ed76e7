import BeeSdk.EntranceStarts
import BeeSdk.SessionManagerProofs

/-! Opening and closing sessions through the service: the manager's tables, the service's
machine, the live session id it remembers and what it tells the status client meet in
`do_open_session` and `do_close_session`. -/
namespace BeeSdk
open StateMachine Runs

/-- The manager is there while the service says so. `sids` holds the calls of `set_sid` on
the status client, in their order. -/
structure EntranceSessions where
  entrance : BeeEntrance := BeeEntrance.constructed
  sessionMgr : Option SessionManager := none
  currentLiveSessionId : String := ""
  sids : List (String × Bool) := []

namespace EntranceSessions

inductive Request where
  /-- A step of the service that opens and closes no session. -/
  | goes (request : EntranceRequest)
  | openSession (first : Nat) (opening : Opening)
  | closeSession (handle : Int)

/-- `set_sid` of the status client, where there is one. -/
def setSid (state : EntranceSessions) (sid : String) (sync : Bool) : EntranceSessions :=
  if state.entrance.statusdClient then { state with sids := state.sids ++ [(sid, sync)] } else state

/-- A manager made by `start` is initialized at once; one that is let go of is gone. -/
def follow (state : EntranceSessions) (entrance : BeeEntrance) : EntranceSessions :=
  { state with
    entrance
    sessionMgr := entrance.sessionMgr.map fun count =>
      state.sessionMgr.getD (SessionManager.init {} count) }

/-- An event of the service's machine on the io service's thread, and what follows it. -/
def executes (state : EntranceSessions)
    (next : EntranceSessions → SessionManager → Option (BeeErrorCode × EntranceSessions)) :
    Option (BeeErrorCode × EntranceSessions) :=
  (state.entrance.switchState kBeeSvcInput_Execute).bind fun (taken, entrance) =>
  let state := { state with entrance }
  if ¬ taken then some (.invalidState, state)
  else match state.sessionMgr with
    | none => some (.nullPointer, state)
    | some manager => next state manager

def doOpenSession (state : EntranceSessions) (first : Nat) (opening : Opening) :
    Option (BeeErrorCode × EntranceSessions) :=
  state.executes fun state manager =>
  (manager.openIdleSession first opening).map fun (opened, manager) =>
  let state := { state with sessionMgr := some manager }
  if opened.sessionId = -1 then (opened.ec, state)
  else (opened.ec, { state with currentLiveSessionId := opened.liveSessionId }.setSid
    opened.liveSessionId true)

/-- Whatever `close_busy_session` returns. -/
def doCloseSession (state : EntranceSessions) (handle : Int) :
    Option (BeeErrorCode × EntranceSessions) :=
  state.executes fun state manager =>
  (manager.closeBusySession handle).map fun (_, manager) =>
  (.success, { state with sessionMgr := some manager, currentLiveSessionId := "" }.setSid "" false)

/-- A call that needs the io service. -/
def calls (state : EntranceSessions)
    (posted : EntranceSessions → Option (BeeErrorCode × EntranceSessions)) :
    Option (Option BeeErrorCode × EntranceSessions) :=
  if ¬ state.entrance.ioService then some (some .serviceNotStarted, state)
  else (posted state).map fun (code, next) => (some code, next)

def step (state : EntranceSessions) : Request → Option (Option BeeErrorCode × EntranceSessions)
  | .goes request => (state.entrance.step request).map fun (reply, entrance) =>
    (reply, state.follow entrance)
  | .openSession first opening => state.calls (·.doOpenSession first opening)
  | .closeSession handle => state.calls (·.doCloseSession handle)

/-! ### What a close owes -/

/-- The session of a handle, where the handle is that of an open one. -/
def sessionOf (state : EntranceSessions) (handle : Int) : Option BeeSession :=
  state.sessionMgr.bind fun manager => (manager.busySessions.lookup handle).bind (manager.sessions[·]?)

def IsOpen (state : EntranceSessions) (handle : Int) : Prop := (state.sessionOf handle).isSome

/-- The service is there to be asked, and has its sessions. -/
def Serves (state : EntranceSessions) : Prop :=
  state.entrance.ioService = true ∧ state.entrance.currentState = kBeeSvcState_Ready ∧
    state.sessionMgr.isSome

instance (state : EntranceSessions) (handle : Int) : Decidable (state.IsOpen handle) :=
  inferInstanceAs (Decidable (_ = true))

instance (state : EntranceSessions) : Decidable state.Serves :=
  inferInstanceAs (Decidable (_ ∧ _ ∧ _))

/-- Success is for the handle of an open session, which is then closed while the others stay
as they are; any other handle changes nothing that is remembered of a session. -/
structure Closes (state : EntranceSessions) (handle : Int) (code : BeeErrorCode)
    (next : EntranceSessions) : Prop where
  success : code = .success ↔ state.IsOpen handle
  closed : state.IsOpen handle → ¬ next.IsOpen handle ∧
    ∀ other ≠ handle, next.sessionOf other = state.sessionOf other
  unchanged : ¬ state.IsOpen handle → next.sessionMgr = state.sessionMgr ∧
    next.currentLiveSessionId = state.currentLiveSessionId ∧ next.sids = state.sids

variable {state next : EntranceSessions} {handle : Int}

/-! ### Every run -/

/-- What holds between two calls. -/
structure Books (state : EntranceSessions) : Prop where
  machine : SavingEntrance.Filled state.entrance.machine
  kept : ∀ manager ∈ state.sessionMgr, SessionManagerProofs.Kept manager

theorem setSid_books (books : Books state) (sid : String) (sync : Bool) :
    Books (state.setSid sid sync) := by
  unfold setSid
  split
  · exact ⟨books.machine, books.kept⟩
  · exact books

theorem executes_books {code : BeeErrorCode}
    {goes : EntranceSessions → SessionManager → Option (BeeErrorCode × EntranceSessions)}
    (books : Books state)
    (keeps : ∀ state manager code next, Books state → SessionManagerProofs.Kept manager →
      goes state manager = some (code, next) → Books next)
    (ran : state.executes goes = some (code, next)) : Books next := by
  obtain ⟨⟨taken, entrance⟩, switched, ran⟩ := Option.bind_eq_some_iff.mp ran
  have here : Books { state with entrance } :=
    ⟨SavingEntrance.filled_switched books.machine switched, books.kept⟩
  dsimp only at ran
  split at ran
  · cases ran
    exact here
  · split at ran
    · cases ran
      exact here
    · rename_i manager there
      exact keeps _ _ _ _ here (books.kept manager there) ran

theorem doOpenSession_books {code : BeeErrorCode} {first : Nat} {opening : Opening}
    (books : Books state) (ran : state.doOpenSession first opening = some (code, next)) :
    Books next := by
  refine executes_books books (fun state manager code next books kept ran => ?_) ran
  obtain ⟨⟨opened, after⟩, opens, shape⟩ := Option.map_eq_some_iff.mp ran
  obtain ⟨_, _, same, keeps, _⟩ := SessionManagerProofs.open_kept kept first opening
  rw [opens] at same
  cases same
  have here : Books { state with sessionMgr := some after } := by
    refine ⟨books.machine, ?_⟩
    rintro _ ⟨⟩
    exact keeps
  dsimp only at shape
  split at shape
  · cases shape
    exact here
  · cases shape
    have told : Books { state with
        sessionMgr := some after, currentLiveSessionId := opened.liveSessionId } :=
      ⟨here.machine, here.kept⟩
    exact setSid_books told _ _

theorem doCloseSession_books {code : BeeErrorCode} (books : Books state)
    (ran : state.doCloseSession handle = some (code, next)) : Books next := by
  refine executes_books books (fun state manager code next books kept ran => ?_) ran
  obtain ⟨⟨closed, after⟩, closes, shape⟩ := Option.map_eq_some_iff.mp ran
  obtain ⟨_, _, same, keeps, _⟩ := SessionManagerProofs.close_kept kept handle
  rw [closes] at same
  cases same
  cases shape
  apply setSid_books
  refine ⟨books.machine, ?_⟩
  rintro _ ⟨⟩
  exact keeps

theorem init_books (count : Nat) : SessionManagerProofs.Kept (SessionManager.init {} count) :=
  SessionManagerProofs.init_kept (.cleared rfl rfl rfl rfl) count

theorem step_books {request : Request} {reply : Option BeeErrorCode} (books : Books state)
    (ran : state.step request = some (reply, next)) : Books next := by
  have called : ∀ {posted : EntranceSessions → Option (BeeErrorCode × EntranceSessions)},
      (∀ code next, posted state = some (code, next) → Books next) →
      state.calls posted = some (reply, next) → Books next := by
    intro posted keeps ran
    unfold calls at ran
    split at ran
    · cases ran
      exact books
    · obtain ⟨⟨code, after⟩, answers, shape⟩ := Option.map_eq_some_iff.mp ran
      cases shape
      exact keeps _ _ answers
  cases request with
  | goes request =>
    obtain ⟨⟨code, entrance⟩, taken, shape⟩ := Option.map_eq_some_iff.mp ran
    cases shape
    refine ⟨SavingEntrance.filled_step books.machine taken, ?_⟩
    intro manager there
    obtain ⟨count, _, rfl⟩ := Option.map_eq_some_iff.mp there
    cases held : state.sessionMgr with
    | none => exact init_books count
    | some manager => exact books.kept manager held
  | openSession first opening => exact @called (·.doOpenSession first opening) (fun _ _ => doOpenSession_books books) ran
  | closeSession handle => exact @called (·.doCloseSession handle) (fun _ _ => doCloseSession_books books) ran

theorem books_start : Books {} := by
  refine ⟨⟨kBeeSvcState_Idle, List.mem_cons_self, 0, rfl⟩, ?_⟩
  rintro _ ⟨⟩

/-! ### Closing -/

/-- Execute is taken in Ready, where it stays, and nowhere else. -/
theorem execute_switched {entrance : BeeEntrance} (filled : SavingEntrance.Filled entrance.machine) :
    ∃ machine, entrance.switchState kBeeSvcInput_Execute =
      some (decide (entrance.currentState = kBeeSvcState_Ready), { entrance with machine }) := by
  obtain ⟨state, listed, last, machine⟩ := filled
  have current : entrance.currentState = state := by rw [BeeEntrance.currentState, machine]; rfl
  rw [current, BeeEntrance.switchState, machine]
  simp only [SavingEntrance.listed, List.mem_cons, List.not_mem_nil, or_false] at listed
  rcases listed with rfl | rfl | rfl | rfl | rfl | rfl <;> exact ⟨_, rfl⟩

/-- Closing the session of a busy handle moves it, and it alone, to the idle ones. -/
theorem closeBusySession_busy {manager : SessionManager} {pointer : Nat}
    (kept : SessionManagerProofs.Kept manager)
    (filed : manager.busySessions.lookup handle = some pointer) :
    ∃ next, manager.closeBusySession handle = some (true, next) ∧
      next.busySessions = manager.busySessions.erase handle ∧
      ∀ other place, other ≠ handle → manager.busySessions.lookup other = some place →
        next.sessions[place]? = manager.sessions[place]? := by
  cases kept with
  | cleared closed idle busy none =>
    rw [busy, AList.lookup_empty] at filed
    cases filed
  | split initialized split =>
    obtain ⟨_, session, found, own, rests, state⟩ := split.inRight handle pointer filed
    have machine := rests.machine
    rw [state] at machine
    rw [SessionManager.closeBusySession, filed]
    simp only [found, BeeSessionProofs.close_ready machine, Option.map_some, ne_eq,
      not_true_eq_false, if_false]
    refine ⟨_, rfl, rfl, fun other place apart lies => ?_⟩
    obtain ⟨_, current, held, mine, _⟩ := split.inRight other place lies
    refine List.getElem?_set_ne fun same => apart ?_
    rw [← same, found] at held
    cases held
    exact mine.symm.trans own

/-- A handle is filed as busy exactly when it is that of an open session. -/
theorem isOpen_iff {manager : SessionManager} (books : Books state)
    (there : state.sessionMgr = some manager) :
    state.IsOpen handle ↔ ∃ pointer, manager.busySessions.lookup handle = some pointer := by
  rw [IsOpen, sessionOf, there, Option.bind_some]
  cases filed : manager.busySessions.lookup handle with
  | none => simp
  | some pointer =>
    obtain ⟨session, held, _⟩ := (books.kept manager there).consistent.busy handle pointer filed
    simp [held]

theorem setSid_sessionMgr (sid : String) (sync : Bool) :
    (state.setSid sid sync).sessionMgr = state.sessionMgr := by
  unfold setSid
  split <;> rfl

/-- Where the service does not serve, the call fails and leaves everything. -/
theorem close_refused (books : Books state) (refuses : ¬ state.Serves) :
    ∃ code next, state.step (.closeSession handle) = some (some code, next) ∧ code ≠ .success ∧
      next.sessionMgr = state.sessionMgr ∧
      next.currentLiveSessionId = state.currentLiveSessionId ∧ next.sids = state.sids := by
  obtain ⟨machine, switched⟩ := execute_switched books.machine
  rw [step, calls]
  by_cases there : state.entrance.ioService = true
  · rw [if_neg (by simp [there]), doCloseSession, executes, switched, Option.bind_some]
    by_cases ready : state.entrance.currentState = kBeeSvcState_Ready
    · have absent : state.sessionMgr = none := by
        rw [← Option.not_isSome_iff_eq_none]
        exact fun some => refuses ⟨there, ready, some⟩
      simp only [ready, decide_true, not_true_eq_false, if_false, absent]
      exact ⟨_, _, rfl, (fun failed => by cases failed), rfl, rfl, rfl⟩
    · simp only [ready, decide_false, Bool.false_eq_true, not_false_eq_true, if_true]
      exact ⟨_, _, rfl, (fun failed => by cases failed), rfl, rfl, rfl⟩
  · rw [if_pos there]
    exact ⟨_, _, rfl, (fun failed => by cases failed), rfl, rfl, rfl⟩

/-- Where it serves, the call succeeds for every handle. -/
theorem close_served (books : Books state) (serves : state.Serves) :
    ∃ manager closed after next, state.sessionMgr = some manager ∧
      manager.closeBusySession handle = some (closed, after) ∧
      state.step (.closeSession handle) = some (some .success, next) ∧
      next.sessionMgr = some after := by
  obtain ⟨there, ready, held⟩ := serves
  obtain ⟨manager, mgr⟩ := Option.isSome_iff_exists.mp held
  obtain ⟨machine, switched⟩ := execute_switched books.machine
  obtain ⟨closed, after, closes, _⟩ :=
    SessionManagerProofs.close_kept (books.kept manager mgr) handle
  refine ⟨manager, closed, after, ({ state with
    entrance := { state.entrance with machine }, sessionMgr := some after
    currentLiveSessionId := "" } : EntranceSessions).setSid "" false, mgr, closes, ?_, ?_⟩
  · rw [step, calls, if_neg (by simp [there]), doCloseSession, executes, switched, Option.bind_some]
    simp only [ready, decide_true, not_true_eq_false, if_false, mgr, closes, Option.map_some]
  · rw [setSid_sessionMgr]

/-- In whatever state a run leaves the service, a close does what it owes exactly where the
service serves if and only if the handle is that of an open session. -/
theorem close_session_iff {requests : List Request} {replies : List (Option BeeErrorCode)}
    (ran : run step {} requests = some (replies, state)) (handle : Int) :
    (∃ code next, state.step (.closeSession handle) = some (some code, next) ∧
      Closes state handle code next) ↔ (state.Serves ↔ state.IsOpen handle) := by
  have books : Books state :=
    run_preserves Books (fun _ _ _ _ books taken => step_books books taken) books_start ran
  by_cases serves : state.Serves
  · obtain ⟨manager, closed, after, next, there, closes, taken, left⟩ := @close_served _ handle books serves
    have busy := @isOpen_iff _ handle _ books there
    constructor
    · rintro ⟨code, next', taken', closes'⟩
      rw [taken] at taken'
      cases taken'
      exact iff_of_true serves (closes'.success.mp rfl)
    · intro same
      have opened := same.mp serves
      obtain ⟨pointer, filed⟩ := busy.mp opened
      obtain ⟨after', closes', erased, others⟩ := closeBusySession_busy (books.kept manager there) filed
      rw [closes] at closes'
      cases closes'
      refine ⟨_, _, taken, iff_of_true rfl opened, fun _ => ⟨?_, ?_⟩, fun shut => absurd opened shut⟩
      · rw [IsOpen, sessionOf, left, Option.bind_some, erased, AList.lookup_erase]
        simp
      · intro other apart
        rw [sessionOf, sessionOf, left, there, Option.bind_some, Option.bind_some, erased,
          AList.lookup_erase_ne apart]
        cases lies : manager.busySessions.lookup other with
        | none => rfl
        | some place => exact others other place apart lies
  · obtain ⟨code, next, taken, failed, mgr, id, sids⟩ := @close_refused _ handle books serves
    constructor
    · rintro ⟨code', next', taken', closes⟩
      rw [taken] at taken'
      cases taken'
      exact iff_of_false serves fun opened => failed (closes.success.mpr opened)
    · intro same
      have shut : ¬ state.IsOpen handle := fun opened => serves (same.mpr opened)
      exact ⟨code, next, taken, iff_of_false failed shut, fun opened => absurd opened shut,
        fun _ => ⟨mgr, id, sids⟩⟩

/-- A service of two sessions with its status client, and one session opened. -/
def oneOpened : List Request :=
  [.goes (.start ⟨2, true⟩ 10), .goes .allocates, .goes .initDone, .goes (.loads (some ['x'])),
    .goes .getCore, .goes .gotCore, .goes (.statusdTimeout false),
    .openSession 0 ⟨7, "live", 9, .success, []⟩]

theorem oneOpened_ran : ∃ replies state, run step {} oneOpened = some (replies, state) ∧
    state.Serves ∧ state.IsOpen 1 ∧ ¬ state.IsOpen 5 ∧ state.currentLiveSessionId = "live" ∧
    state.sids = [("live", true)] := by
  have computed : (run step {} oneOpened).map (fun ran => decide (ran.2.Serves ∧ ran.2.IsOpen 1 ∧
      ¬ ran.2.IsOpen 5 ∧ ran.2.currentLiveSessionId = "live" ∧ ran.2.sids = [("live", true)])) =
      some true := by decide +kernel
  obtain ⟨⟨replies, state⟩, ran, holds⟩ := Option.map_eq_some_iff.mp computed
  exact ⟨replies, state, ran, of_decide_eq_true holds⟩

theorem opened_closes : ∃ replies state code next, run step {} oneOpened = some (replies, state) ∧
    state.step (.closeSession 1) = some (some code, next) ∧ Closes state 1 code next := by
  obtain ⟨replies, state, ran, serves, opened, _⟩ := oneOpened_ran
  obtain ⟨code, next, closes⟩ := (close_session_iff ran 1).mpr (iff_of_true serves opened)
  exact ⟨replies, state, code, next, ran, closes⟩

/-- A handle of no session is closed with success, and the live session id of the one that
stays open is forgotten and taken from the status client. -/
theorem stranger_closed : ∃ replies state next, run step {} oneOpened = some (replies, state) ∧
    ¬ state.IsOpen 5 ∧ state.step (.closeSession 5) = some (some .success, next) ∧
    next.IsOpen 1 ∧ next.currentLiveSessionId = "" ∧ next.sids = [("live", true), ("", false)] := by
  have computed : ((run step {} oneOpened).bind fun ran => (step ran.2 (.closeSession 5)).map
      fun closed => decide (¬ ran.2.IsOpen 5 ∧ closed.1 = some .success ∧ closed.2.IsOpen 1 ∧
        closed.2.currentLiveSessionId = "" ∧ closed.2.sids = [("live", true), ("", false)])) =
      some true := by decide +kernel
  obtain ⟨⟨replies, state⟩, ran, stepped⟩ := Option.bind_eq_some_iff.mp computed
  obtain ⟨⟨code, next⟩, closed, holds⟩ := Option.map_eq_some_iff.mp stepped
  obtain ⟨shut, rfl, rest⟩ := of_decide_eq_true holds
  exact ⟨replies, state, next, ran, shut, closed, rest⟩

end EntranceSessions
end BeeSdk
