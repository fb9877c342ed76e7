import BeeSdk.ConnectAttempts

/-! What one completion or tick can do is said once, as the outcome of each
handler; the reports and the abandoned attempts of whole runs follow from it. -/
namespace BeeSdk.ConnectAttemptsProofs
open StateMachine TcpConnect ConnectAttempts

variable {Endpoint Machine : Type} {wiring : Wiring Machine}

/-! ### The outcomes of a handler -/

/-- The outcome of trying again: the next index while a try is left, the same
one otherwise. -/
def retried (state : TcpConnectState Endpoint) : Outcome Endpoint :=
  if state.triedCount < state.totalCount then { state with index := state.index + 1 }.connectNext
  else state.connectNext

/-- The outcome of a connect or a handshake that has succeeded. -/
def succeeded (state : TcpConnectState Endpoint) (ec : ErrorCode) : Outcome Endpoint :=
  let (state, cancel) := { state with outputEvent := state.connectedTo }.cancelCheckTimer
  (state, .setConnected :: cancel ++ [.done .success ec])

theorem handleConnect_stale {state : TcpConnectState Endpoint} (isTls : Bool) (ec2 : ErrorCode)
    {index : Nat} (other : index ≠ state.index) :
    state.handleConnect isTls ec2 index = (state, []) := by
  unfold TcpConnectState.handleConnect
  rw [if_pos other]

theorem handleConnect_retries (state : TcpConnectState Endpoint) (isTls : Bool) {ec2 : ErrorCode}
    (error : ec2.isError = true)
    (left : state.triedCount < state.totalCount ∨ ec2 = .timedOut) :
    state.handleConnect isTls ec2 state.index = retried state := by
  unfold TcpConnectState.handleConnect retried
  rw [if_neg (fun differs => differs rfl), if_pos error]
  by_cases more : state.triedCount < state.totalCount
  · rw [if_pos more, if_pos more]
  · rcases left with some | rfl
    · exact absurd some more
    · rw [if_neg more, if_neg more, if_neg (fun differs => differs rfl)]

theorem handleConnect_fails (state : TcpConnectState Endpoint) (isTls : Bool) {ec2 : ErrorCode}
    (error : ec2.isError = true) (none : state.totalCount ≤ state.triedCount)
    (other : ec2 ≠ .timedOut) :
    state.handleConnect isTls ec2 state.index = (state, [.done .connectFail ec2]) := by
  unfold TcpConnectState.handleConnect
  rw [if_neg (fun differs => differs rfl), if_pos error, if_neg (Nat.not_lt.mpr none), if_pos other]

theorem handleConnect_shakes (state : TcpConnectState Endpoint) {ec2 : ErrorCode}
    (fine : ec2.isError = false) :
    state.handleConnect true ec2 state.index = (state, [.asyncHandshake]) := by
  unfold TcpConnectState.handleConnect
  simp [fine]

theorem handleConnect_succeeds (state : TcpConnectState Endpoint) {ec2 : ErrorCode}
    (fine : ec2.isError = false) :
    state.handleConnect false ec2 state.index = succeeded state ec2 := by
  unfold TcpConnectState.handleConnect succeeded
  simp [fine]

/-- What a connect completion can do. -/
theorem handleConnect_cases (state : TcpConnectState Endpoint) (isTls : Bool) (ec2 : ErrorCode)
    (index : Nat) :
    (index ≠ state.index ∧ state.handleConnect isTls ec2 index = (state, [])) ∨
    (index = state.index ∧ ec2.isError = true ∧
      (state.triedCount < state.totalCount ∨ ec2 = .timedOut) ∧
      state.handleConnect isTls ec2 index = retried state) ∨
    (index = state.index ∧ ec2.isError = true ∧ state.totalCount ≤ state.triedCount ∧
      ec2 ≠ .timedOut ∧
      state.handleConnect isTls ec2 index = (state, [.done .connectFail ec2])) ∨
    (index = state.index ∧ ec2.isError = false ∧ isTls = true ∧
      state.handleConnect isTls ec2 index = (state, [.asyncHandshake])) ∨
    (index = state.index ∧ ec2.isError = false ∧ isTls = false ∧
      state.handleConnect isTls ec2 index = succeeded state ec2) := by
  by_cases same : index = state.index
  · subst same
    cases error : ec2.isError with
    | true =>
      by_cases left : state.triedCount < state.totalCount ∨ ec2 = .timedOut
      · exact .inr (.inl ⟨rfl, rfl, left, handleConnect_retries state isTls error left⟩)
      · have none : state.totalCount ≤ state.triedCount :=
          Nat.not_lt.mp fun more => left (.inl more)
        have other : ec2 ≠ .timedOut := fun timedOut => left (.inr timedOut)
        exact .inr (.inr (.inl ⟨rfl, rfl, none, other,
          handleConnect_fails state isTls error none other⟩))
    | false =>
      cases isTls with
      | true => exact .inr (.inr (.inr (.inl ⟨rfl, rfl, rfl, handleConnect_shakes state error⟩)))
      | false =>
        exact .inr (.inr (.inr (.inr ⟨rfl, rfl, rfl, handleConnect_succeeds state error⟩)))
  · exact .inl ⟨same, handleConnect_stale isTls ec2 same⟩

/-- The state once a tick has been counted. -/
def ticked (state : TcpConnectState Endpoint) : TcpConnectState Endpoint :=
  { state with
    currentSpentTime := state.currentSpentTime + kTcpCheckConnectPeriod
    currentEndpointSpentTime := state.currentEndpointSpentTime + kTcpCheckConnectPeriod }

/-- What a tick can do. -/
theorem handlePeriodTimeout_cases (state : TcpConnectState Endpoint) (isTls : Bool) :
    (state.totalTimeout ≤ state.currentSpentTime + kTcpCheckConnectPeriod ∧
      state.handlePeriodTimeout isTls = state.checkTimer.map fun timer =>
        ({ ticked state with checkTimer := none },
          [.cancelTimer timer, .done .timeout .none])) ∨
    (state.currentSpentTime + kTcpCheckConnectPeriod < state.totalTimeout ∧
      state.endpointTimeout ≤ state.currentEndpointSpentTime + kTcpCheckConnectPeriod ∧
      state.handlePeriodTimeout isTls = some (retried (ticked state))) ∨
    (state.currentSpentTime + kTcpCheckConnectPeriod < state.totalTimeout ∧
      state.currentEndpointSpentTime + kTcpCheckConnectPeriod < state.endpointTimeout ∧
      state.handlePeriodTimeout isTls = some (ticked state, [])) := by
  unfold TcpConnectState.handlePeriodTimeout
  by_cases elapsed : state.totalTimeout ≤ state.currentSpentTime + kTcpCheckConnectPeriod
  · refine .inl ⟨elapsed, ?_⟩
    simp only [ge_iff_le, if_pos elapsed]
    rfl
  · by_cases tried : state.endpointTimeout ≤
        state.currentEndpointSpentTime + kTcpCheckConnectPeriod
    · refine .inr (.inl ⟨Int.not_le.mp elapsed, tried, ?_⟩)
      simp only [ge_iff_le, if_neg elapsed, if_pos tried]
      exact congrArg some (handleConnect_retries (ticked state) isTls rfl (.inr rfl))
    · refine .inr (.inr ⟨Int.not_le.mp elapsed, Int.not_le.mp tried, ?_⟩)
      simp only [ge_iff_le, if_neg elapsed, if_neg tried]
      rfl

theorem handleHandshake_fails (state : TcpConnectState Endpoint) {ec : ErrorCode}
    (error : ec.isError = true) :
    state.handleHandshake ec =
      ({ state with outputEvent := { state.outputEvent with index := state.targetIndex } },
        [.done .tlsShakehandFail ec]) := by
  unfold TcpConnectState.handleHandshake
  simp [error]

theorem handleHandshake_succeeds (state : TcpConnectState Endpoint) {ec : ErrorCode}
    (fine : ec.isError = false) :
    state.handleHandshake ec = succeeded state ec := by
  unfold TcpConnectState.handleHandshake succeeded
  simp [fine, TcpConnectState.connectedTo, TcpConnectState.targetEndpoint,
    TcpConnectState.targetIndex]

/-- The input lets `execute` start. -/
def Ready (state : TcpConnectState Endpoint) : Prop :=
  state.inputEvent.setup = true ∧ state.inputEvent.endpoints ≠ []

/-- The state a successful `execute` leaves. What it does not assign is what an
earlier execution has left. -/
def started (state : TcpConnectState Endpoint) (timer : Nat) : TcpConnectState Endpoint :=
  { state with
    totalCount := state.inputEvent.endpoints.length
    index := if state.inputEvent.startIndex ≥ 0 ∧
        state.inputEvent.startIndex < (state.inputEvent.endpoints.length : Int) then
      state.inputEvent.startIndex.toNat else state.index
    triedCount := state.triedCount + 1
    totalTimeout := state.inputEvent.connectTimeout
    checkTimer := some timer }

theorem execute_starts {state : TcpConnectState Endpoint} (ready : Ready state) (timer : Nat) :
    state.execute timer = (.success, started state timer,
      [.asyncConnect (started state timer).targetEndpoint (started state timer).index,
        .startTimer timer]) := by
  unfold TcpConnectState.execute TcpConnectState.checkEvent
  rw [if_neg (fun unset => unset ready.1), if_neg ready.2]
  rfl

theorem execute_refuses {state : TcpConnectState Endpoint} (unready : ¬ Ready state) (timer : Nat) :
    state.execute timer = (.invalidParam, state, []) := by
  unfold TcpConnectState.execute TcpConnectState.checkEvent
  by_cases setup : state.inputEvent.setup = true
  · have empty : state.inputEvent.endpoints = [] := by
      apply Classical.byContradiction
      intro some
      exact unready ⟨setup, some⟩
    rw [if_neg (fun unset => unset setup), if_pos empty]
  · rw [if_pos setup]

/-! ### What performing an outcome does -/

variable (wiring : Wiring Machine) (world : Connecting Endpoint Machine)

/-- A retry opens the next socket and starts one connect on it. -/
theorem after_retried (state : TcpConnectState Endpoint) :
    world.after wiring (retried state) = { world with
      state := (retried state).1
      socket := world.socket + 1
      connects := world.connects ++ [⟨(retried state).1.index, world.socket + 1⟩] } := by
  unfold retried
  split <;> rfl

/-- The socket stays open: no attempt is made, none but the completed one is
gone, and a handshake that has been started uses the open socket. -/
structure Kept (before : Connecting Endpoint Machine) (event : Event)
    (after : Connecting Endpoint Machine) : Prop where
  socket : after.socket = before.socket
  index : after.state.index = before.state.index
  connects : after.connects = outstanding before event
  handshakes : ∀ socket ∈ after.handshakes, socket ∈ before.handshakes ∨ socket = before.socket

/-- The socket has been closed and one attempt made on the next one. -/
structure Renewed (before : Connecting Endpoint Machine) (event : Event)
    (after : Connecting Endpoint Machine) : Prop where
  socket : after.socket = before.socket + 1
  index : after.state.index = if before.state.triedCount < before.state.totalCount then
    before.state.index + 1 else before.state.index
  connects : after.connects = outstanding before event ++ [⟨after.state.index, before.socket + 1⟩]
  handshakes : after.handshakes = before.handshakes

/-- A report leaves the socket and what is outstanding alone. -/
structure Reported (before after : Connecting Endpoint Machine) : Prop where
  report : ∃ report, after.reports = before.reports ++ [report]
  socket : after.socket = before.socket
  connects : after.connects = before.connects
  handshakes : after.handshakes = before.handshakes

private theorem after_done {state : TcpConnectState Endpoint} (ec1 : BeeErrorCode)
    (ec2 : ErrorCode) :
    Reported world (world.after wiring (state, [.done ec1 ec2])) ∧
      (world.after wiring (state, [.done ec1 ec2])).state.index = state.index :=
  ⟨⟨⟨_, rfl⟩, rfl, rfl, rfl⟩, rfl⟩

private theorem after_succeeded (state : TcpConnectState Endpoint) (ec : ErrorCode) :
    Reported world (world.after wiring (succeeded state ec)) ∧
      (world.after wiring (succeeded state ec)).state.index = state.index := by
  unfold succeeded TcpConnectState.cancelCheckTimer
  cases timer : state.checkTimer with
  | none => exact ⟨⟨⟨_, rfl⟩, rfl, rfl, rfl⟩, rfl⟩
  | some timer' => exact ⟨⟨⟨_, rfl⟩, rfl, rfl, rfl⟩, rfl⟩

private theorem after_timeout (state : TcpConnectState Endpoint) (timer : Nat) :
    Reported world (world.after wiring (state, [.cancelTimer timer, .done .timeout .none])) ∧
      (world.after wiring (state, [.cancelTimer timer, .done .timeout .none])).state.index =
        state.index :=
  ⟨⟨⟨_, rfl⟩, rfl, rfl, rfl⟩, rfl⟩

private theorem retried_index (state : TcpConnectState Endpoint) :
    (retried state).1.index =
      if state.triedCount < state.totalCount then state.index + 1 else state.index := by
  unfold retried
  split <;> rfl

private theorem retries_iff {before : Connecting Endpoint Machine} {attempt : Attempt}
    (held : before.connects[position]? = some attempt) (ec2 : ErrorCode) :
    Retries before (.connects position ec2) ↔ attempt.index = before.state.index ∧
      ec2.isError = true ∧
      (before.state.triedCount < before.state.totalCount ∨ ec2 = .timedOut) := by
  simp only [Retries, held, Option.some.injEq, exists_eq_left']

private theorem silent_iff {before : Connecting Endpoint Machine} {attempt : Attempt}
    (held : before.connects[position]? = some attempt) (ec2 : ErrorCode) :
    Silent before (.connects position ec2) ↔ attempt.index ≠ before.state.index ∨
      (ec2.isError = true ∧
        (before.state.triedCount < before.state.totalCount ∨ ec2 = .timedOut)) ∨
      (ec2.isError = false ∧ before.isTls = true) := by
  simp only [Silent, held, Option.some.injEq, forall_eq']

/-- What one step can do: nothing the machine sees, with the socket kept or
renewed, or one report. -/
inductive Stepped (before : Connecting Endpoint Machine) (event : Event)
    (after : Connecting Endpoint Machine) : Prop where
  | quiet (silent : Silent before event) (quiet : Quiet before after)
      (keeps : ¬ Retries before event) (kept : Kept before event after)
  | renewed (silent : Silent before event) (quiet : Quiet before after)
      (retries : Retries before event) (renewed : Renewed before event after)
  | reported (loud : ¬ Silent before event)
      (report : ∃ report, after.reports = before.reports ++ [report])
      (keeps : ¬ Retries before event) (kept : Kept before event after)

private theorem Reported.kept {before rest after : Connecting Endpoint Machine} {event : Event}
    (reported : Reported rest after) (socket : rest.socket = before.socket)
    (index : after.state.index = before.state.index)
    (connects : rest.connects = outstanding before event)
    (handshakes : ∀ socket ∈ rest.handshakes, socket ∈ before.handshakes) :
    Kept before event after where
  socket := reported.socket.trans socket
  index := index
  connects := reported.connects.trans connects
  handshakes := fun _ member => .inl (handshakes _ (reported.handshakes ▸ member))

private theorem connects_stepped {before : Connecting Endpoint Machine} {attempt : Attempt}
    (held : before.connects[position]? = some attempt) (ec2 : ErrorCode) :
    Stepped before (.connects position ec2)
      (Connecting.after wiring { before with connects := before.connects.eraseIdx position }
        (before.state.handleConnect before.isTls ec2 attempt.index)) := by
  have silent := silent_iff held ec2
  have retries := retries_iff held ec2
  rcases handleConnect_cases before.state before.isTls ec2 attempt.index with
    ⟨other, outcome⟩ | ⟨same, error, left, outcome⟩ | ⟨same, error, none, other, outcome⟩ |
    ⟨same, fine, tls, outcome⟩ | ⟨same, fine, plain, outcome⟩
  · rw [outcome]
    exact .quiet (silent.mpr (.inl other)) ⟨rfl, rfl, rfl⟩
      (fun again => other (retries.mp again).1) ⟨rfl, rfl, rfl, fun _ member => .inl member⟩
  · rw [outcome, after_retried]
    exact .renewed (silent.mpr (.inr (.inl ⟨error, left⟩))) ⟨rfl, rfl, rfl⟩
      (retries.mpr ⟨same, error, left⟩) ⟨rfl, retried_index _, rfl, rfl⟩
  · have given : ¬ (before.state.triedCount < before.state.totalCount ∨ ec2 = .timedOut) := by
      rintro (some | timedOut)
      · exact Nat.not_lt.mpr none some
      · exact other timedOut
    obtain ⟨reported, index⟩ := after_done wiring
      { before with connects := before.connects.eraseIdx position } BeeErrorCode.connectFail ec2
    rw [outcome]
    refine .reported (fun quiet => ?_) reported.report
      (fun again => given (retries.mp again).2.2)
      (reported.kept rfl index rfl fun _ member => member)
    rcases silent.mp quiet with differs | ⟨_, left⟩ | ⟨fine, _⟩
    · exact differs same
    · exact given left
    · rw [error] at fine
      cases fine
  · rw [outcome]
    refine .quiet (silent.mpr (.inr (.inr ⟨fine, tls⟩))) ⟨rfl, rfl, rfl⟩ (fun again => ?_)
      ⟨rfl, rfl, rfl, fun socket member => ?_⟩
    · rw [fine] at retries
      cases (retries.mp again).2.1
    · rcases List.mem_append.mp member with old | new
      · exact .inl old
      · exact .inr (List.mem_singleton.mp new)
  · obtain ⟨reported, index⟩ := after_succeeded wiring
      { before with connects := before.connects.eraseIdx position } before.state ec2
    rw [outcome]
    refine .reported (fun quiet => ?_) reported.report (fun again => ?_)
      (reported.kept rfl index rfl fun _ member => member)
    · rcases silent.mp quiet with differs | ⟨error, _⟩ | ⟨_, tls⟩
      · exact differs same
      · rw [fine] at error
        cases error
      · rw [plain] at tls
        cases tls
    · rw [fine] at retries
      cases (retries.mp again).2.1

private theorem handshakes_stepped (before : Connecting Endpoint Machine) (position : Nat)
    (ec : ErrorCode) :
    Stepped before (.handshakes position ec)
      (Connecting.after wiring { before with handshakes := before.handshakes.eraseIdx position }
        (before.state.handleHandshake ec)) := by
  cases error : ec.isError with
  | true =>
    obtain ⟨reported, index⟩ := after_done wiring
      { before with handshakes := before.handshakes.eraseIdx position }
      BeeErrorCode.tlsShakehandFail ec
    rw [handleHandshake_fails _ error]
    exact .reported id reported.report id
      (reported.kept rfl index rfl fun _ member => List.mem_of_mem_eraseIdx member)
  | false =>
    obtain ⟨reported, index⟩ := after_succeeded wiring
      { before with handshakes := before.handshakes.eraseIdx position } before.state ec
    rw [handleHandshake_succeeds _ error]
    exact .reported id reported.report id
      (reported.kept rfl index rfl fun _ member => List.mem_of_mem_eraseIdx member)

private theorem ticks_stepped {before : Connecting Endpoint Machine} (runs : timer ∈ before.timers)
    (ran : before.state.handlePeriodTimeout before.isTls = some outcome) :
    Stepped before (.ticks timer) (before.after wiring outcome) := by
  rcases handlePeriodTimeout_cases before.state before.isTls with
    ⟨elapsed, shape⟩ | ⟨within, tried, shape⟩ | ⟨within, fresh, shape⟩
  · rw [shape] at ran
    obtain ⟨timer', _, rfl⟩ := Option.map_eq_some_iff.mp ran
    obtain ⟨reported, index⟩ := after_timeout wiring before
      { ticked before.state with checkTimer := none } timer'
    exact .reported (Int.not_lt.mpr elapsed) reported.report
      (fun again => Int.not_lt.mpr elapsed again.2.1)
      (reported.kept rfl index rfl fun _ member => member)
  · rw [shape] at ran
    cases ran
    rw [after_retried]
    exact .renewed within ⟨rfl, rfl, rfl⟩ ⟨runs, within, tried⟩ ⟨rfl, retried_index _, rfl, rfl⟩
  · rw [shape] at ran
    cases ran
    exact .quiet within ⟨rfl, rfl, rfl⟩ (fun again => Int.not_lt.mpr again.2.2 fresh)
      ⟨rfl, rfl, rfl, fun _ member => .inl member⟩

theorem step_stepped {before after : Connecting Endpoint Machine}
    (taken : before.step wiring event = some (calls, after)) : Stepped before event after := by
  cases event with
  | connects position ec2 =>
    simp only [Connecting.step, Option.map_eq_some_iff, Prod.mk.injEq] at taken
    obtain ⟨attempt, held, _, rfl⟩ := taken
    exact connects_stepped wiring held ec2
  | handshakes position ec =>
    simp only [Connecting.step, Option.map_eq_some_iff, Prod.mk.injEq] at taken
    obtain ⟨_, _, _, rfl⟩ := taken
    exact handshakes_stepped wiring before position ec
  | ticks timer =>
    simp only [Connecting.step] at taken
    split at taken
    · rename_i runs
      simp only [Option.map_eq_some_iff, Prod.mk.injEq] at taken
      obtain ⟨outcome, ran, _, rfl⟩ := taken
      exact ticks_stepped wiring runs ran
    · cases taken

/-! ### At most one report -/

/-- While every step after a report is silent there is at most one report. -/
private theorem silent_reports_once {start final : Connecting Endpoint Machine}
    (atMost : start.reports.length ≤ 1)
    (met : Runs.AllSteps (Connecting.step wiring) SilentAfterReport start events)
    (ran : Runs.run (Connecting.step wiring) start events = some (calls, final)) :
    final.reports.length ≤ 1 := by
  refine Runs.run_invariant (fun world => world.reports.length ≤ 1) ?_ atMost met ran
  intro before event made after once silent taken
  cases step_stepped wiring taken with
  | quiet _ quiet =>
    rw [quiet.reports]
    exact once
  | renewed _ quiet =>
    rw [quiet.reports]
    exact once
  | reported loud report =>
    obtain ⟨report, added⟩ := report
    have none : before.reports = [] := by
      apply Classical.byContradiction
      intro some
      exact loud (silent some)
    rw [added, none]
    exact Nat.le_refl 1

/-- A machine whose state has started: one connect on the open socket, and one
more timer. -/
theorem execute_started {before : Connecting Endpoint Machine} (ready : Ready before.state) :
    before.execute wiring = (.success, { before with
      state := started before.state before.nextTimer
      connects := before.connects ++
        [⟨(started before.state before.nextTimer).index, before.socket⟩]
      timers := before.nextTimer :: before.timers
      nextTimer := before.nextTimer + 1 }) := by
  unfold Connecting.execute
  rw [execute_starts ready before.nextTimer]
  rfl

theorem execute_refused {before : Connecting Endpoint Machine} (unready : ¬ Ready before.state) :
    before.execute wiring =
      (.invalidParam, { before with nextTimer := before.nextTimer + 1 }) := by
  unfold Connecting.execute
  rw [execute_refuses unready before.nextTimer]
  rfl

private theorem execute_reports (before : Connecting Endpoint Machine) :
    (before.execute wiring).2.reports = before.reports := by
  by_cases ready : Ready before.state
  · rw [execute_started wiring ready]
  · rw [execute_refused wiring ready]

/-- The state reports at most once, and nothing comes of what happens after
that, exactly when every step after a report is a silent one. -/
theorem reports_once_iff (before : Connecting Endpoint Machine) (unreported : before.reports = [])
    (ran : Runs.run (Connecting.step wiring) (before.execute wiring).2 events =
      some (calls, final)) :
    ReportsOnce wiring (before.execute wiring).2 events ↔
      Runs.AllSteps (Connecting.step wiring) SilentAfterReport (before.execute wiring).2 events := by
  constructor
  · rintro ⟨_, quiet⟩
    refine Runs.AllSteps.imp_of_defined ?_ ran quiet
    intro world event made after taken stays some
    cases step_stepped wiring taken with
    | quiet silent => exact silent
    | renewed silent => exact silent
    | reported _ report =>
      obtain ⟨report, added⟩ := report
      have same := (stays some made after taken).reports
      rw [added] at same
      exact absurd same (by simp)
  · intro silent
    refine ⟨?_, ?_⟩
    · intro made first calls reached ran
      refine silent_reports_once wiring ?_ (silent.of_prefix first) ran
      rw [execute_reports, unreported]
      exact Nat.zero_le 1
    · refine Runs.AllSteps.imp_of_defined ?_ ran silent
      intro world event _ _ _ met some calls after taken
      cases step_stepped wiring taken with
      | quiet _ quiet => exact quiet
      | renewed _ quiet => exact quiet
      | reported loud => exact absurd (met some) loud

/-- A machine that has a next state for a success. -/
def oneNext : Wiring Unit where
  router := some fun event machine =>
    (if event.ec1 = .success then 1 else kInvalidState, event, machine)
  transform := fun _ => some fun event machine => (true, event, machine)
  output := fun _ machine => machine

/-- One endpoint and the default timeouts. -/
def oneEndpoint : Connecting Nat Unit :=
  Connecting.constructed { setup := true, endpoints := [7] } false ()

/-- Two endpoints, and time enough to try both. -/
def twoEndpoints : Connecting Nat Unit :=
  Connecting.constructed { setup := true, endpoints := [7, 8], connectTimeout := 20000 } false ()

/-- The first endpoint times out, the second is connected, and the first connect is aborted. -/
def takenOver : List Event := List.replicate 50 (.ticks 0) ++ [.connects 1 .none, .connects 0 (.other 125)]

private theorem taken_over_once :
    (Runs.run (Connecting.step oneNext) (twoEndpoints.execute oneNext).2 takenOver).map
      (fun result => result.2.reports) = some [⟨.success, .none, true⟩] := by
  decide

instance (before : Connecting Endpoint Machine) : ∀ event, Decidable (Silent before event)
  | .connects position _ => inferInstanceAs (Decidable (∀ attempt ∈ before.connects[position]?, _))
  | .handshakes _ _ => .isFalse id
  | .ticks _ => inferInstanceAs (Decidable (_ < _))

theorem taken_over_reported : ReportsOnce oneNext (twoEndpoints.execute oneNext).2 takenOver := by
  obtain ⟨_, ran, _⟩ := Option.map_eq_some_iff.mp taken_over_once
  exact (reports_once_iff oneNext twoEndpoints rfl ran).mpr
    (by unfold SilentAfterReport; decide +kernel)

/-- The connect succeeds after the total timeout has been reported. -/
def lateSuccess : List Event := List.replicate 50 (.ticks 0) ++ [.connects 0 .none]

private theorem late_success_reports :
    (Runs.run (Connecting.step oneNext) (oneEndpoint.execute oneNext).2 lateSuccess).map
      (fun result => result.2.reports) =
        some [⟨.timeout, .none, false⟩, ⟨.success, .none, true⟩] := by
  decide

theorem late_success_reported_twice :
    ¬ ReportsOnce oneNext (oneEndpoint.execute oneNext).2 lateSuccess := by
  rintro ⟨once, _⟩
  obtain ⟨⟨calls, reached⟩, ran, reports⟩ := Option.map_eq_some_iff.mp late_success_reports
  have length := once lateSuccess (List.prefix_refl _) calls reached ran
  rw [reports] at length
  exact absurd length (by decide)

/-! ### Abandoned attempts -/

/-- Every attempt that is not the open socket's is told apart by its index, and
no handshake is left of another socket. -/
structure Apart (world : Connecting Endpoint Machine) : Prop where
  connects : ∀ attempt ∈ world.connects, attempt.socket ≠ world.socket →
    attempt.index ≠ world.state.index
  handshakes : ∀ socket ∈ world.handshakes, socket = world.socket

private theorem succeeded_calls (state : TcpConnectState Endpoint) (ec : ErrorCode) :
    (succeeded state ec).2 ≠ [] := by
  unfold succeeded
  simp

/-- What completes of an abandoned attempt is ignored exactly when the index
tells it apart: nothing else does. -/
theorem stale_ignored_iff (world : Connecting Endpoint Machine) :
    StaleIgnored wiring world ↔ Apart world := by
  constructor
  · intro ignored
    refine ⟨fun attempt member stale same => ?_, fun socket member => ?_⟩
    · obtain ⟨position, held⟩ := List.getElem?_of_mem member
      have taken := ignored (.connects position .none) _ _ ⟨attempt, held, stale⟩
        (by simp only [Connecting.step, held]; rfl)
      rw [same] at taken
      cases tls : world.isTls with
      | true =>
        rw [tls, handleConnect_shakes _ rfl] at taken
        cases taken.1
      | false =>
        rw [tls, handleConnect_succeeds _ rfl] at taken
        exact succeeded_calls _ _ taken.1
    · apply Classical.byContradiction
      intro stale
      obtain ⟨position, held⟩ := List.getElem?_of_mem member
      have taken := ignored (.handshakes position .none) _ _ ⟨socket, held, stale⟩
        (by simp only [Connecting.step, held]; rfl)
      rw [handleHandshake_succeeds _ rfl] at taken
      exact succeeded_calls _ _ taken.1
  · intro apart event calls after stale taken
    cases event with
    | connects position ec2 =>
      obtain ⟨attempt, held, stale⟩ := stale
      have other := apart.connects attempt (List.mem_of_getElem? held) stale
      simp only [Connecting.step, held, Option.map_some, Option.some.injEq, Prod.mk.injEq,
        handleConnect_stale _ _ other] at taken
      obtain ⟨rfl, rfl⟩ := taken
      exact ⟨rfl, rfl⟩
    | handshakes position ec =>
      obtain ⟨socket, held, stale⟩ := stale
      exact absurd (apart.handshakes socket (List.mem_of_getElem? held)) stale
    | ticks timer => exact stale.elim

/-- Sockets and indices only grow. -/
structure Numbered (world : Connecting Endpoint Machine) : Prop where
  connects : ∀ attempt ∈ world.connects,
    attempt.socket ≤ world.socket ∧ attempt.index ≤ world.state.index
  handshakes : ∀ socket ∈ world.handshakes, socket ≤ world.socket

private theorem outstanding_subset (before : Connecting Endpoint Machine) (event : Event) :
    ∀ attempt ∈ outstanding before event, attempt ∈ before.connects := by
  intro attempt member
  cases event with
  | connects position ec2 => exact List.mem_of_mem_eraseIdx member
  | handshakes position ec => exact member
  | ticks timer => exact member

private theorem kept_numbered {before after : Connecting Endpoint Machine}
    (numbered : Numbered before) (kept : Kept before event after) : Numbered after := by
  refine ⟨fun attempt member => ?_, fun socket member => ?_⟩
  · rw [kept.connects] at member
    rw [kept.socket, kept.index]
    exact numbered.connects attempt (outstanding_subset before event attempt member)
  · rw [kept.socket]
    rcases kept.handshakes socket member with old | rfl
    · exact numbered.handshakes socket old
    · exact Nat.le_refl _

private theorem renewed_numbered {before after : Connecting Endpoint Machine}
    (numbered : Numbered before) (renewed : Renewed before event after) : Numbered after := by
  have grows : before.state.index ≤ after.state.index := by
    rw [renewed.index]
    split <;> omega
  refine ⟨fun attempt member => ?_, fun socket member => ?_⟩
  · rw [renewed.connects] at member
    rw [renewed.socket]
    rcases List.mem_append.mp member with old | new
    · obtain ⟨socket, index⟩ := numbered.connects attempt
        (outstanding_subset before event attempt old)
      exact ⟨Nat.le_succ_of_le socket, Nat.le_trans index grows⟩
    · rw [List.mem_singleton.mp new]
      exact ⟨Nat.le_refl _, Nat.le_refl _⟩
  · rw [renewed.handshakes] at member
    rw [renewed.socket]
    exact Nat.le_succ_of_le (numbered.handshakes socket member)

theorem step_numbered {before after : Connecting Endpoint Machine} (numbered : Numbered before)
    (taken : before.step wiring event = some (calls, after)) : Numbered after := by
  cases step_stepped wiring taken with
  | quiet _ _ _ kept => exact kept_numbered numbered kept
  | renewed _ _ _ renewed => exact renewed_numbered numbered renewed
  | reported _ _ _ kept => exact kept_numbered numbered kept

private theorem kept_apart {before after : Connecting Endpoint Machine}
    (apart : Apart before) (kept : Kept before event after) : Apart after := by
  refine ⟨fun attempt member stale => ?_, fun socket member => ?_⟩
  · rw [kept.connects] at member
    rw [kept.socket] at stale
    rw [kept.index]
    exact apart.connects attempt (outstanding_subset before event attempt member) stale
  · rw [kept.socket]
    rcases kept.handshakes socket member with old | same
    · exact apart.handshakes socket old
    · exact same

private theorem renewed_apart {before after : Connecting Endpoint Machine}
    (numbered : Numbered before) (retries : Retries before event)
    (leaves : LeavesApart before event) (renewed : Renewed before event after) : Apart after := by
  obtain ⟨none, told⟩ := leaves retries
  refine ⟨fun attempt member stale => ?_, fun socket member => ?_⟩
  · rw [renewed.connects] at member
    rcases List.mem_append.mp member with old | new
    · rw [renewed.index]
      split
      · have := (numbered.connects attempt (outstanding_subset before event attempt old)).2
        omega
      · rename_i given
        rcases told with left | others
        · exact absurd left given
        · exact others attempt old
    · rw [List.mem_singleton.mp new, renewed.socket] at stale
      exact absurd rfl stale
  · rw [renewed.handshakes, none] at member
    cases member

theorem step_apart {before after : Connecting Endpoint Machine} (numbered : Numbered before)
    (apart : Apart before) (leaves : LeavesApart before event)
    (taken : before.step wiring event = some (calls, after)) : Apart after := by
  cases step_stepped wiring taken with
  | quiet _ _ _ kept => exact kept_apart apart kept
  | renewed _ _ retries renewed => exact renewed_apart numbered retries leaves renewed
  | reported _ _ _ kept => exact kept_apart apart kept

/-- A step that does not leave its attempts apart leaves one behind that the
index does not tell. -/
theorem step_not_apart {before after : Connecting Endpoint Machine} (numbered : Numbered before)
    (mixed : ¬ LeavesApart before event)
    (taken : before.step wiring event = some (calls, after)) : ¬ Apart after := by
  intro apart
  apply mixed
  intro retries
  cases step_stepped wiring taken with
  | quiet _ _ keeps => exact absurd retries keeps
  | reported _ _ keeps => exact absurd retries keeps
  | renewed _ _ _ renewed =>
    refine ⟨?_, ?_⟩
    · cases shaking : before.handshakes with
      | nil => rfl
      | cons socket rest =>
        have member : socket ∈ before.handshakes := by simp [shaking]
        have old := numbered.handshakes socket member
        have open' := apart.handshakes socket (renewed.handshakes ▸ member)
        rw [renewed.socket] at open'
        omega
    · by_cases left : before.state.triedCount < before.state.totalCount
      · exact .inl left
      · refine .inr fun attempt member same => ?_
        have old := (numbered.connects attempt (outstanding_subset before event attempt member)).1
        have index := renewed.index
        rw [if_neg left] at index
        refine apart.connects attempt ?_ ?_ (same.trans index.symm)
        · rw [renewed.connects]
          exact List.mem_append_left _ member
        · rw [renewed.socket]
          omega

private theorem execute_numbered {before : Connecting Endpoint Machine}
    (connects : before.connects = []) (handshakes : before.handshakes = []) :
    Numbered (before.execute wiring).2 := by
  by_cases ready : Ready before.state
  · rw [execute_started wiring ready]
    refine ⟨fun attempt member => ?_, fun socket member => ?_⟩
    · simp only [connects, List.nil_append, List.mem_singleton] at member
      subst member
      exact ⟨Nat.le_refl _, Nat.le_refl _⟩
    · simp only [handshakes, List.not_mem_nil] at member
  · rw [execute_refused wiring ready]
    refine ⟨fun attempt member => ?_, fun socket member => ?_⟩
    · simp only [connects, List.not_mem_nil] at member
    · simp only [handshakes, List.not_mem_nil] at member

private theorem execute_apart {before : Connecting Endpoint Machine}
    (connects : before.connects = []) (handshakes : before.handshakes = []) :
    Apart (before.execute wiring).2 := by
  by_cases ready : Ready before.state
  · rw [execute_started wiring ready]
    refine ⟨fun attempt member stale => ?_, fun socket member => ?_⟩
    · simp only [connects, List.nil_append, List.mem_singleton] at member
      subst member
      exact absurd rfl stale
    · simp only [handshakes, List.not_mem_nil] at member
  · rw [execute_refused wiring ready]
    refine ⟨fun attempt member => ?_, fun socket member => ?_⟩
    · simp only [connects, List.not_mem_nil] at member
    · simp only [handshakes, List.not_mem_nil] at member

/-- In every state along the run the completions of abandoned attempts are
ignored, exactly when every step leaves them apart. -/
theorem abandoned_ignored_iff (before : Connecting Endpoint Machine)
    (connects : before.connects = []) (handshakes : before.handshakes = [])
    (ran : Runs.run (Connecting.step wiring) (before.execute wiring).2 events =
      some (calls, final)) :
    (∀ made, made <+: events → ∀ calls reached,
      Runs.run (Connecting.step wiring) (before.execute wiring).2 made = some (calls, reached) →
        StaleIgnored wiring reached) ↔
      Runs.AllSteps (Connecting.step wiring) LeavesApart (before.execute wiring).2 events := by
  refine Runs.all_reached_iff (fun world => Numbered world ∧ Apart world) (StaleIgnored wiring)
    (fun _ => True) ?_ ?_ ?_ (fun _ _ => trivial)
    ⟨execute_numbered wiring connects handshakes, execute_apart wiring connects handshakes⟩ ran
  · rintro world event made after ⟨numbered, apart⟩ _ leaves taken
    exact ⟨step_numbered wiring numbered taken, step_apart wiring numbered apart leaves taken⟩
  · rintro world event made after ⟨numbered, _⟩ _ taken ignored
    apply Classical.byContradiction
    intro mixed
    exact step_not_apart wiring numbered mixed taken ((stale_ignored_iff wiring after).mp ignored)
  · rintro world ⟨_, apart⟩
    exact (stale_ignored_iff wiring world).mpr apart

instance (before : Connecting Endpoint Machine) : ∀ event, Decidable (Retries before event)
  | .connects position _ => inferInstanceAs (Decidable (∃ attempt ∈ before.connects[position]?, _))
  | .handshakes _ _ => .isFalse id
  | .ticks _ => inferInstanceAs (Decidable (_ ∧ _))

theorem taken_over_ignored : ∃ result,
    Runs.run (Connecting.step oneNext) (twoEndpoints.execute oneNext).2 takenOver = some result ∧
      ∀ made, made <+: takenOver → ∀ calls reached,
        Runs.run (Connecting.step oneNext) (twoEndpoints.execute oneNext).2 made =
          some (calls, reached) → StaleIgnored oneNext reached := by
  obtain ⟨result, ran, _⟩ := Option.map_eq_some_iff.mp taken_over_once
  exact ⟨result, ran, (abandoned_ignored_iff oneNext twoEndpoints rfl rfl ran).mpr
    (by unfold LeavesApart; decide +kernel)⟩

/-- One endpoint, which may take longer than the endpoint timeout. -/
def patient : Connecting Nat Unit :=
  Connecting.constructed { setup := true, endpoints := [7], connectTimeout := 20000 } false ()

/-- The endpoint times out and is tried again. -/
def tiredOnce : List Event := List.replicate 50 (.ticks 0)

private theorem tired_once_left :
    (Runs.run (Connecting.step oneNext) (patient.execute oneNext).2 tiredOnce).map
      (fun result => (result.2.connects, result.2.socket, result.2.state.index)) =
        some ([⟨0, 0⟩, ⟨0, 1⟩], 1, 0) := by
  decide

/-- The aborted connect of the closed socket is taken for the one in progress. -/
theorem aborted_attempt_not_ignored :
    ¬ ∀ made, made <+: tiredOnce → ∀ calls reached,
      Runs.run (Connecting.step oneNext) (patient.execute oneNext).2 made = some (calls, reached) →
        StaleIgnored oneNext reached := by
  intro ignored
  obtain ⟨⟨calls, reached⟩, ran, left⟩ := Option.map_eq_some_iff.mp tired_once_left
  simp only [Prod.mk.injEq] at left
  obtain ⟨connects, socket, index⟩ := left
  have apart := (stale_ignored_iff oneNext reached).mp
    (ignored tiredOnce (List.prefix_refl _) calls reached ran)
  refine apart.connects ⟨0, 0⟩ ?_ ?_ index.symm
  · rw [connects]
    simp
  · rw [socket]
    decide

end BeeSdk.ConnectAttemptsProofs
