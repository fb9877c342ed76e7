import BeeSdk.BeeSession

/-! Between two calls a session is Idle or Ready. The table marks the other pairs
with a value `switch_state` does not know: it takes the event and leaves a state
outside the table. -/
namespace BeeSdk.BeeSessionProofs
open Runs StateMachine BeeSession

/-- The table `init_state_machine` fills. -/
def table : List (List Int) :=
  [[1, 5, 5, 5, 5], [5, 2, 5, 3, 5], [5, 5, 2, 3, 5], [5, 5, 5, 5, 0]]

/-- The machine of a session in this state. -/
def inState (state last : Int) : SimpleStateMachine := ⟨table, 4, 5, state, last⟩

theorem constructed_machine (sessionId : Int) :
    (constructed sessionId).initStateMachine.machine = inState kBeeSessionState_Idle 0 := rfl

/-! ### Single events -/

theorem listed_open_iff (state : Int) :
    Listed state kBeeSessionInput_Open ↔ state = kBeeSessionState_Idle := by
  simp [Listed, transitions, kBeeSessionInput_Open, kBeeSessionInput_Opened,
    kBeeSessionInput_Execute, kBeeSessionInput_Close, kBeeSessionInput_Closed]

theorem listed_close_iff (state : Int) :
    Listed state kBeeSessionInput_Close ↔
      state = kBeeSessionState_Opening ∨ state = kBeeSessionState_Ready := by
  simp [Listed, transitions, kBeeSessionInput_Open, kBeeSessionInput_Opened,
    kBeeSessionInput_Execute, kBeeSessionInput_Close, kBeeSessionInput_Closed, ← or_and_right]

theorem listed_execute_iff (state : Int) :
    Listed state kBeeSessionInput_Execute ↔ state = kBeeSessionState_Ready := by
  simp [Listed, transitions, kBeeSessionInput_Open, kBeeSessionInput_Opened,
    kBeeSessionInput_Execute, kBeeSessionInput_Close, kBeeSessionInput_Closed]

/-- What a session is between two calls. -/
structure Rests (session : BeeSession) : Prop where
  machine : session.machine = inState session.currentState session.machine.lastState
  state : (session.currentState = kBeeSessionState_Idle ∧ session.services = [] ∧
      session.capabilities = []) ∨ session.currentState = kBeeSessionState_Ready

/-- An event of the table for a state of the table is always taken. -/
theorem switch_from {session : BeeSession} {state last : Int}
    (machine : session.machine = inState state last) (ev next : Int)
    (taken : (inState state last).switchState ev = some (true, inState next state)) :
    session.switchState ev = some (true, { session with machine := inState next state }) := by
  rw [switchState, machine, taken]
  rfl

/-! ### Calls from Idle -/

theorem open_idle {session : BeeSession}
    (machine : session.machine = inState kBeeSessionState_Idle last) (opening : Opening) :
    session.openSession opening = some (if opening.opened = .success then
      (.success, { session with
        machine := inState kBeeSessionState_Ready kBeeSessionState_Opening, ios := some opening.ios
        luaEngine := some opening.engine, liveSessionId := opening.liveSessionId
        capabilities := opening.capability })
      else (opening.opened, { session with
        machine := inState kBeeSessionState_Idle 0
        luaEngine := some opening.engine, liveSessionId := opening.liveSessionId })) := by
  have opens := switch_from machine kBeeSessionInput_Open kBeeSessionState_Opening rfl
  rw [openSession, opens]
  by_cases ok : opening.opened = .success
  · rw [if_pos ok]
    simp only [Option.bind_some, ok, ne_eq, not_true_eq_false, if_false]
    rfl
  · rw [if_neg ok]
    simp only [Option.bind_some, ok, ne_eq, not_true_eq_false, not_false_eq_true, if_true, if_false,
      finishOpen]
    rfl

/-- Closed while Idle, it indexes outside the table. -/
theorem close_idle {session : BeeSession}
    (machine : session.machine = inState kBeeSessionState_Idle last) : session.close = none := by
  have closes := switch_from machine kBeeSessionInput_Close kBeeSessionState_Invalid rfl
  rw [close, closes]
  rfl

/-! ### Calls from Ready -/

/-- Opened once more, it leaves Ready or indexes outside the table. -/
theorem open_ready {session : BeeSession}
    (machine : session.machine = inState kBeeSessionState_Ready last) (opening : Opening) :
    session.openSession opening = if opening.opened = .success then none
      else some (opening.opened, { session with
        machine := inState kBeeSessionState_Idle 0
        luaEngine := some opening.engine, liveSessionId := opening.liveSessionId }) := by
  have opens := switch_from machine kBeeSessionInput_Open kBeeSessionState_Invalid rfl
  rw [openSession, opens]
  by_cases ok : opening.opened = .success
  · rw [if_pos ok]
    simp only [Option.bind_some, ok, ne_eq, not_true_eq_false, if_false]
    rfl
  · rw [if_neg ok]
    simp only [Option.bind_some, ok, ne_eq, not_true_eq_false, not_false_eq_true, if_true, if_false,
      finishOpen]
    rfl

theorem close_ready {session : BeeSession}
    (machine : session.machine = inState kBeeSessionState_Ready last) :
    session.close = some (.success, { session with
      machine := inState kBeeSessionState_Idle kBeeSessionState_Closing, ios := none
      luaEngine := none, liveSessionId := "", services := [], capabilities := [] }) := by
  have closes := switch_from machine kBeeSessionInput_Close kBeeSessionState_Closing rfl
  rw [close, closes]
  rfl

theorem execute_ready {session : BeeSession}
    (machine : session.machine = inState kBeeSessionState_Ready last) (svcCode : Int)
    (answer : BeeErrorCode) :
    ∃ code, session.execute svcCode answer = some (code, session) ∨
      session.execute svcCode answer = some (code, { session with
        machine := inState kBeeSessionState_Ready kBeeSessionState_Ready }) := by
  have executes := switch_from machine kBeeSessionInput_Execute kBeeSessionState_Ready rfl
  rw [execute]
  by_cases opened : session.luaEngine = none
  · exact ⟨.sessionNotOpened, .inl (by rw [if_pos opened])⟩
  · rw [if_neg opened]
    by_cases registered : (session.services.lookup svcCode).isNone
    · exact ⟨.serviceNotRegistered, .inl (by rw [if_pos registered])⟩
    · rw [if_neg registered, executes]
      exact ⟨answer, .inr rfl⟩

/-- Without services the engine is never reached. -/
theorem execute_idle {session : BeeSession} (none : session.services = []) (svcCode : Int)
    (answer : BeeErrorCode) : ∃ code, session.execute svcCode answer = some (code, session) := by
  rw [execute]
  by_cases opened : session.luaEngine = Option.none
  · exact ⟨.sessionNotOpened, by rw [if_pos opened]⟩
  · exact ⟨.serviceNotRegistered, by rw [if_neg opened, none]; rfl⟩

/-! ### Every run -/

theorem regSvc_machine (session : BeeSession) (svc : Option (Int × Nat)) :
    (session.regSvc svc).2.machine = session.machine ∧
      (session.regSvc svc).2.capabilities = session.capabilities ∧
      (session.capabilities = [] → (session.regSvc svc).2.services = session.services) := by
  cases svc with
  | none => exact ⟨rfl, rfl, fun _ => rfl⟩
  | some svc =>
    simp only [regSvc]
    split
    · exact ⟨rfl, rfl, fun _ => rfl⟩
    · split
      · exact ⟨rfl, rfl, fun _ => rfl⟩
      · rename_i supported
        have capable : session.capabilities ≠ [] := by
          intro none
          rw [none] at supported
          exact supported (by simp)
        split
        · exact ⟨rfl, rfl, fun _ => rfl⟩
        · exact ⟨rfl, rfl, fun none => absurd none capable⟩

theorem unregSvc_machine (session : BeeSession) (svc : Option (Int × Nat)) :
    (session.unregSvc svc).2.machine = session.machine ∧
      (session.unregSvc svc).2.capabilities = session.capabilities ∧
      (session.services = [] → (session.unregSvc svc).2.services = []) := by
  cases svc with
  | none => exact ⟨rfl, rfl, fun none => none⟩
  | some svc =>
    simp only [unregSvc]
    split
    · exact ⟨rfl, rfl, fun none => none⟩
    · split
      · exact ⟨rfl, rfl, fun none => none⟩
      · refine ⟨rfl, rfl, fun none => ?_⟩
        rw [none]
        rfl

theorem constructed_rests (sessionId : Int) : Rests (constructed sessionId).initStateMachine :=
  ⟨constructed_machine sessionId, .inl ⟨rfl, rfl, rfl⟩⟩

theorem rests_idle {session : BeeSession} (machine : session.machine = inState kBeeSessionState_Idle last)
    (none : session.services = []) (incapable : session.capabilities = []) : Rests session := by
  refine ⟨?_, .inl ⟨?_, none, incapable⟩⟩
  · rw [currentState, machine]
    rfl
  · rw [currentState, machine]
    rfl

theorem rests_ready {session : BeeSession}
    (machine : session.machine = inState kBeeSessionState_Ready last) : Rests session := by
  refine ⟨?_, .inr ?_⟩
  · rw [currentState, machine]
    rfl
  · rw [currentState, machine]
    rfl

/-- A call whose first event is listed is defined and leaves the session at rest. -/
theorem listed_step {session : BeeSession} {request : Request} (rests : Rests session)
    (listed : FirstListed session request) :
    ∃ code next, step session request = some (code, next) ∧ Rests next := by
  obtain ⟨machine, ⟨idle, none, incapable⟩ | ready⟩ := rests
  · rw [idle] at machine
    cases request with
    | open_ opening =>
      have opened := open_idle machine opening
      split at opened
      · exact ⟨_, _, opened, rests_ready rfl⟩
      · exact ⟨_, _, opened, rests_idle rfl none incapable⟩
    | close =>
      have wrong := (listed_close_iff _).mp (listed _ rfl)
      rw [idle] at wrong
      exact absurd wrong (by decide)
    | execute svcCode answer =>
      obtain ⟨code, taken⟩ := execute_idle none svcCode answer
      exact ⟨code, session, taken, rests_idle machine none incapable⟩
    | regSvc svc =>
      obtain ⟨same, capabilities, services⟩ := regSvc_machine session svc
      exact ⟨_, _, rfl, rests_idle (same.trans machine) ((services incapable).trans none)
        (capabilities.trans incapable)⟩
    | unregSvc svc =>
      obtain ⟨same, capabilities, services⟩ := unregSvc_machine session svc
      exact ⟨_, _, rfl, rests_idle (same.trans machine) (services none)
        (capabilities.trans incapable)⟩
  · rw [ready] at machine
    cases request with
    | open_ opening =>
      have wrong := (listed_open_iff _).mp (listed _ rfl)
      rw [ready] at wrong
      exact absurd wrong (by decide)
    | close => exact ⟨_, _, close_ready machine, rests_idle rfl rfl rfl⟩
    | execute svcCode answer =>
      obtain ⟨code, taken | taken⟩ := execute_ready machine svcCode answer
      · exact ⟨code, _, taken, rests_ready machine⟩
      · exact ⟨code, _, taken, rests_ready rfl⟩
    | regSvc svc =>
      exact ⟨_, _, rfl, rests_ready ((regSvc_machine session svc).1.trans machine)⟩
    | unregSvc svc =>
      exact ⟨_, _, rfl, rests_ready ((unregSvc_machine session svc).1.trans machine)⟩

theorem rests_declared {session : BeeSession} (rests : Rests session) :
    Declared session.currentState := by
  rcases rests.state with ⟨idle, _⟩ | ready
  · rw [idle]
    exact ⟨by decide, by decide⟩
  · rw [ready]
    exact ⟨by decide, by decide⟩

/-- A call whose first event is not listed is not rejected as it should be. -/
theorem unlisted_not_rejected {session : BeeSession} {request : Request} (rests : Rests session)
    (unlisted : ¬ FirstListed session request) (taken : step session request = some (code, next)) :
    ¬ Rejects session request code next := by
  intro rejects
  obtain ⟨_, kept, _⟩ := rejects.rejected unlisted
  obtain ⟨machine, ⟨idle, none, incapable⟩ | ready⟩ := rests
  · rw [idle] at machine
    cases request with
    | open_ opening =>
      apply unlisted
      intro ev raised
      cases raised
      exact (listed_open_iff _).mpr idle
    | close =>
      rw [step, close_idle machine] at taken
      cases taken
    | execute svcCode answer =>
      apply unlisted
      intro ev raised
      simp [firstEvent, none] at raised
    | regSvc svc => exact unlisted fun _ raised => by cases raised
    | unregSvc svc => exact unlisted fun _ raised => by cases raised
  · rw [ready] at machine
    cases request with
    | open_ opening =>
      rw [step, open_ready machine] at taken
      split at taken
      · cases taken
      · cases taken
        have same : kBeeSessionState_Idle = kBeeSessionState_Ready := kept.trans ready
        exact absurd same (by decide)
    | close =>
      apply unlisted
      intro ev raised
      cases raised
      exact (listed_close_iff _).mpr (.inr ready)
    | execute svcCode answer =>
      apply unlisted
      intro ev raised
      simp only [firstEvent] at raised
      split at raised
      · cases raised
      · cases raised
        exact (listed_execute_iff _).mpr ready
    | regSvc svc => exact unlisted fun _ raised => by cases raised
    | unregSvc svc => exact unlisted fun _ raised => by cases raised

/-- Along a run of calls the states stay declared, the table is never left and what
is not listed is rejected, exactly when every call begins with a listed event. -/
theorem rejects_unlisted_iff (sessionId : Int) (requests : List Request) :
    AllTaken step Rejects (constructed sessionId).initStateMachine requests ↔
      AllSteps step FirstListed (constructed sessionId).initStateMachine requests := by
  apply all_taken_iff Rests
  · intro session request rests
    constructor
    · rintro ⟨code, next, taken, rejects⟩
      apply Classical.byContradiction
      intro unlisted
      exact unlisted_not_rejected rests unlisted taken rejects
    · intro listed
      obtain ⟨code, next, taken, after⟩ := listed_step rests listed
      exact ⟨code, next, taken, rests_declared after, fun unlisted => absurd listed unlisted⟩
  · intro session request code next rests listed taken
    obtain ⟨code', next', taken', after⟩ := listed_step rests listed
    rw [taken] at taken'
    cases taken'
    exact after
  · exact constructed_rests sessionId

/-- A session that was never opened is closed: the table is left. -/
theorem closed_while_idle :
    step (constructed 0).initStateMachine .close = none ∧
      ¬ AllTaken step Rejects (constructed 0).initStateMachine [.close] := by
  have undefined : step (constructed 0).initStateMachine .close = none := rfl
  refine ⟨undefined, ?_⟩
  rintro ⟨code, next, taken, _⟩
  rw [undefined] at taken
  cases taken

end BeeSdk.BeeSessionProofs
