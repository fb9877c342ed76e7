import BeeSdk.ConnectAttemptsProofs

/-! `execute` on a connect state that has been executed before, as a redirect
does it. It assigns the endpoint count, the index and the total timeout; the
tries and the time spent go on from where the earlier execution left them. -/
namespace BeeSdk.ConnectAgain
open StateMachine TcpConnect ConnectAttempts ConnectAttemptsProofs

variable {Endpoint Machine : Type}

/-- Worlds whose state has been executed: what happens to it from then on, and
every further execution, on a machine that may have moved on. -/
inductive Used (wiring : Wiring Machine) : Connecting Endpoint Machine → Prop where
  | first (inputEvent : TcpConnectInputEvent Endpoint) (isTls : Bool) (machine : Machine)
      (starts : (Connecting.constructed inputEvent isTls machine).execute wiring =
        (.success, world)) : Used wiring world
  | happens (used : Used wiring before) (taken : before.step wiring event = some (calls, after)) :
      Used wiring after
  | again {world : Connecting Endpoint Machine} (used : Used wiring before)
      (given : world.state = { before.state with inputEvent := world.state.inputEvent }) :
      Used wiring (world.execute wiring).2

/-- The state is about to be executed again, with the input event it has been
given. -/
def Lapped (wiring : Wiring Machine) (world : Connecting Endpoint Machine) : Prop :=
  ∃ before, Used wiring before ∧
    world.state = { before.state with inputEvent := world.state.inputEvent }

/-- A newly constructed state in the place of the one there is, with the same
input event and the same index to start from. -/
def afresh (world : Connecting Endpoint Machine) : Connecting Endpoint Machine :=
  { world with state := { inputEvent := world.state.inputEvent, index := world.state.index } }

/-- `execute` returns the code and makes the calls it does on a fresh state, and
once it has started, the same calls are made whatever happens. -/
structure BehavesAsFresh (wiring : Wiring Machine) (world : Connecting Endpoint Machine) :
    Prop where
  code : (world.execute wiring).1 = ((afresh world).execute wiring).1
  calls : (world.state.execute world.nextTimer).2.2 =
    ((afresh world).state.execute world.nextTimer).2.2
  alike : (world.execute wiring).1 = .success →
    Runs.Alike (Connecting.step wiring) (world.execute wiring).2 ((afresh world).execute wiring).2

/-- What is carried elapsed does not matter: there is one endpoint to try, and
either no time has been spent or the first tick ends the connect anyhow. -/
def CarriesNothing (state : TcpConnectState Endpoint) : Prop :=
  Ready state → state.inputEvent.endpoints.length ≤ 1 ∧
    (state.currentSpentTime = 0 ∨ state.inputEvent.connectTimeout ≤ kTcpCheckConnectPeriod)

/-! ### What an execution has counted -/

/-- A try has been counted, and the time spent in periods. -/
structure Counted (state : TcpConnectState Endpoint) : Prop where
  tried : 1 ≤ state.triedCount
  periods : ∃ count : Nat, state.currentSpentTime = kTcpCheckConnectPeriod * count
  spent : 0 ≤ state.currentEndpointSpentTime
  within : state.currentEndpointSpentTime ≤ state.currentSpentTime
  endpointTimeout : state.endpointTimeout = kDefaultTcpConnectTimeout

variable (wiring : Wiring Machine)

/-- Performing calls leaves the state as its handler left it, but for what
`done` notes in the output event. -/
theorem after_state (world : Connecting Endpoint Machine) (outcome : Outcome Endpoint) :
    ∃ event, (world.after wiring outcome).state =
      { outcome.1 with outputEvent := { outcome.1.outputEvent with event } } := by
  obtain ⟨state, calls⟩ := outcome
  unfold Connecting.after
  suffices kept : ∀ world : Connecting Endpoint Machine, ∃ event,
      (calls.foldl (Connecting.perform wiring) world).state =
        { world.state with outputEvent := { world.state.outputEvent with event } } from
    kept { world with state := state }
  induction calls with
  | nil => exact fun world => ⟨_, rfl⟩
  | cons call rest ih =>
    intro world
    obtain ⟨event, kept⟩ := ih (world.perform wiring call)
    refine ⟨event, ?_⟩
    rw [List.foldl_cons, kept]
    cases call <;> rfl

theorem Counted.noted {state : TcpConnectState Endpoint} (counted : Counted state)
    (outputEvent : TcpConnectOutputEvent Endpoint) : Counted { state with outputEvent } :=
  ⟨counted.tried, counted.periods, counted.spent, counted.within, counted.endpointTimeout⟩

theorem Counted.retried {state : TcpConnectState Endpoint} (counted : Counted state) :
    Counted (retried state).1 := by
  have spent := counted.spent
  have within := counted.within
  unfold ConnectAttemptsProofs.retried
  split
  · exact ⟨by simp [TcpConnectState.connectNext], counted.periods, Int.le_refl _,
      Int.le_trans spent within, counted.endpointTimeout⟩
  · exact ⟨by simp [TcpConnectState.connectNext], counted.periods, Int.le_refl _,
      Int.le_trans spent within, counted.endpointTimeout⟩

theorem Counted.succeeded {state : TcpConnectState Endpoint} (counted : Counted state)
    (ec : ErrorCode) : Counted (succeeded state ec).1 :=
  ⟨counted.tried, counted.periods, counted.spent, counted.within, counted.endpointTimeout⟩

theorem Counted.ticked {state : TcpConnectState Endpoint} (counted : Counted state) :
    Counted (ticked state) := by
  obtain ⟨count, periods⟩ := counted.periods
  refine ⟨counted.tried, ⟨count + 1, ?_⟩, ?_, ?_, counted.endpointTimeout⟩
  · simp only [ConnectAttemptsProofs.ticked, periods, kTcpCheckConnectPeriod]
    omega
  · have := counted.spent
    simp only [ConnectAttemptsProofs.ticked, kTcpCheckConnectPeriod]
    omega
  · have := counted.within
    simp only [ConnectAttemptsProofs.ticked, kTcpCheckConnectPeriod]
    omega

theorem Counted.handleConnect {state : TcpConnectState Endpoint} (counted : Counted state)
    (isTls : Bool) (ec2 : ErrorCode) (index : Nat) :
    Counted (state.handleConnect isTls ec2 index).1 := by
  rcases handleConnect_cases state isTls ec2 index with
    ⟨_, outcome⟩ | ⟨_, _, _, outcome⟩ | ⟨_, _, _, _, outcome⟩ | ⟨_, _, _, outcome⟩ |
    ⟨_, _, _, outcome⟩
  · rw [outcome]
    exact counted
  · rw [outcome]
    exact counted.retried
  · rw [outcome]
    exact counted
  · rw [outcome]
    exact counted
  · rw [outcome]
    exact counted.succeeded ec2

theorem Counted.handleHandshake {state : TcpConnectState Endpoint} (counted : Counted state)
    (ec : ErrorCode) : Counted (state.handleHandshake ec).1 := by
  cases error : ec.isError with
  | true =>
    rw [handleHandshake_fails state error]
    exact counted.noted _
  | false =>
    rw [handleHandshake_succeeds state error]
    exact counted.succeeded ec

theorem Counted.handlePeriodTimeout {state : TcpConnectState Endpoint} {isTls : Bool}
    {outcome : Outcome Endpoint} (counted : Counted state)
    (ran : state.handlePeriodTimeout isTls = some outcome) : Counted outcome.1 := by
  have ticks := counted.ticked
  rcases handlePeriodTimeout_cases state isTls with
    ⟨_, shape⟩ | ⟨_, _, shape⟩ | ⟨_, _, shape⟩
  · rw [shape] at ran
    obtain ⟨timer, _, rfl⟩ := Option.map_eq_some_iff.mp ran
    exact ⟨ticks.tried, ticks.periods, ticks.spent, ticks.within, ticks.endpointTimeout⟩
  · rw [shape] at ran
    cases ran
    exact ticks.retried
  · rw [shape] at ran
    cases ran
    exact ticks

theorem after_counted {world : Connecting Endpoint Machine} {outcome : Outcome Endpoint}
    (counted : Counted outcome.1) : Counted (world.after wiring outcome).state := by
  obtain ⟨event, kept⟩ := after_state wiring world outcome
  rw [kept]
  exact counted.noted _

theorem step_counted {before after : Connecting Endpoint Machine} (counted : Counted before.state)
    (taken : before.step wiring event = some (calls, after)) : Counted after.state := by
  cases event with
  | connects position ec2 =>
    simp only [Connecting.step, Option.map_eq_some_iff, Prod.mk.injEq] at taken
    obtain ⟨attempt, _, _, rfl⟩ := taken
    exact after_counted wiring (counted.handleConnect _ ec2 attempt.index)
  | handshakes position ec =>
    simp only [Connecting.step, Option.map_eq_some_iff, Prod.mk.injEq] at taken
    obtain ⟨_, _, _, rfl⟩ := taken
    exact after_counted wiring (counted.handleHandshake ec)
  | ticks timer =>
    simp only [Connecting.step] at taken
    split at taken
    · simp only [Option.map_eq_some_iff, Prod.mk.injEq] at taken
      obtain ⟨outcome, ran, _, rfl⟩ := taken
      exact after_counted wiring (counted.handlePeriodTimeout ran)
    · cases taken

private theorem started_counted {state : TcpConnectState Endpoint} (timer : Nat)
    (periods : ∃ count : Nat, state.currentSpentTime = kTcpCheckConnectPeriod * count)
    (spent : 0 ≤ state.currentEndpointSpentTime)
    (within : state.currentEndpointSpentTime ≤ state.currentSpentTime)
    (endpointTimeout : state.endpointTimeout = kDefaultTcpConnectTimeout) :
    Counted (started state timer) :=
  ⟨Nat.le_add_left 1 _, periods, spent, within, endpointTimeout⟩

/-- However a state has been used, it has counted a try and whole periods. -/
theorem used_counted {world : Connecting Endpoint Machine} (used : Used wiring world) :
    Counted world.state := by
  induction used with
  | first inputEvent isTls machine starts =>
    by_cases ready : Ready (Connecting.constructed inputEvent isTls machine).state
    · rw [execute_started wiring ready] at starts
      cases starts
      exact started_counted 0 ⟨0, rfl⟩ (Int.le_refl _) (Int.le_refl _) rfl
    · rw [execute_refused wiring ready] at starts
      cases starts
  | happens _ taken ih => exact step_counted wiring ih taken
  | @again before world _ given ih =>
    have counted : Counted world.state := by
      rw [given]
      exact ⟨ih.tried, ih.periods, ih.spent, ih.within, ih.endpointTimeout⟩
    by_cases ready : Ready world.state
    · rw [execute_started wiring ready]
      exact started_counted _ counted.periods counted.spent counted.within counted.endpointTimeout
    · rw [execute_refused wiring ready]
      exact counted

theorem lapped_counted {world : Connecting Endpoint Machine} (lapped : Lapped wiring world) :
    Counted world.state := by
  obtain ⟨before, used, given⟩ := lapped
  have counted := used_counted wiring used
  rw [given]
  exact ⟨counted.tried, counted.periods, counted.spent, counted.within, counted.endpointTimeout⟩

/-! ### With nothing left to try both states do the same -/

/-- Two states that do the same from now on: neither has a try left, and they
have spent the same time or time out at the next tick. -/
structure InStep (left right : TcpConnectState Endpoint) : Prop where
  index : left.index = right.index
  totalCount : left.totalCount = right.totalCount
  inputEvent : left.inputEvent = right.inputEvent
  checkTimer : left.checkTimer = right.checkTimer
  totalTimeout : left.totalTimeout = right.totalTimeout
  endpointTimeout : left.endpointTimeout = right.endpointTimeout
  leftTried : left.totalCount ≤ left.triedCount
  rightTried : right.totalCount ≤ right.triedCount
  time : (left.currentSpentTime = right.currentSpentTime ∧
      left.currentEndpointSpentTime = right.currentEndpointSpentTime) ∨
    (left.totalTimeout ≤ kTcpCheckConnectPeriod ∧ 0 ≤ left.currentSpentTime ∧
      0 ≤ right.currentSpentTime)

/-- The same outcome but for what the states have counted. -/
def SameOutcome (left right : Outcome Endpoint) : Prop := left.2 = right.2 ∧ InStep left.1 right.1

theorem InStep.noted {left right : TcpConnectState Endpoint} (same : InStep left right)
    (outputEvent outputEvent' : TcpConnectOutputEvent Endpoint) :
    InStep { left with outputEvent } { right with outputEvent := outputEvent' } :=
  ⟨same.index, same.totalCount, same.inputEvent, same.checkTimer, same.totalTimeout,
    same.endpointTimeout, same.leftTried, same.rightTried, same.time⟩

private theorem InStep.targetEndpoint {left right : TcpConnectState Endpoint}
    (same : InStep left right) : left.targetEndpoint = right.targetEndpoint := by
  unfold TcpConnectState.targetEndpoint TcpConnectState.targetIndex
  rw [same.inputEvent, same.index, same.totalCount]

theorem InStep.retried {left right : TcpConnectState Endpoint} (same : InStep left right) :
    SameOutcome (retried left) (retried right) := by
  have endpoint := same.targetEndpoint
  have index := same.index
  unfold ConnectAttemptsProofs.retried
  rw [if_neg (Nat.not_lt.mpr same.leftTried), if_neg (Nat.not_lt.mpr same.rightTried)]
  refine ⟨by simp only [TcpConnectState.connectNext, endpoint, index],
    same.index, same.totalCount, same.inputEvent, same.checkTimer, same.totalTimeout,
    same.endpointTimeout, Nat.le_succ_of_le same.leftTried, Nat.le_succ_of_le same.rightTried, ?_⟩
  rcases same.time with ⟨spent, _⟩ | elapsed
  · exact .inl ⟨spent, rfl⟩
  · exact .inr elapsed

theorem InStep.succeeded {left right : TcpConnectState Endpoint} (same : InStep left right)
    (ec : ErrorCode) : SameOutcome (succeeded left ec) (succeeded right ec) := by
  refine ⟨?_, same.index, same.totalCount, same.inputEvent, rfl, same.totalTimeout,
    same.endpointTimeout, same.leftTried, same.rightTried, same.time⟩
  unfold ConnectAttemptsProofs.succeeded TcpConnectState.cancelCheckTimer
  simp only [same.checkTimer]

theorem InStep.ticked {left right : TcpConnectState Endpoint} (same : InStep left right) :
    InStep (ticked left) (ticked right) := by
  refine ⟨same.index, same.totalCount, same.inputEvent, same.checkTimer, same.totalTimeout,
    same.endpointTimeout, same.leftTried, same.rightTried, ?_⟩
  unfold ConnectAttemptsProofs.ticked
  rcases same.time with ⟨spent, endpoint⟩ | ⟨elapsed, left, right⟩
  · exact .inl ⟨by simp only [spent], by simp only [endpoint]⟩
  · refine .inr ⟨elapsed, ?_, ?_⟩
    · exact Int.add_nonneg left (by decide)
    · exact Int.add_nonneg right (by decide)

theorem InStep.handleConnect {left right : TcpConnectState Endpoint} (same : InStep left right)
    (isTls : Bool) (ec2 : ErrorCode) (index : Nat) :
    SameOutcome (left.handleConnect isTls ec2 index) (right.handleConnect isTls ec2 index) := by
  rcases handleConnect_cases left isTls ec2 index with
    ⟨other, outcome⟩ | ⟨rfl, error, left', outcome⟩ | ⟨rfl, error, _, other, outcome⟩ |
    ⟨rfl, fine, rfl, outcome⟩ | ⟨rfl, fine, rfl, outcome⟩
  · rw [outcome, handleConnect_stale isTls ec2 (same.index ▸ other)]
    exact ⟨rfl, same⟩
  · have timedOut : ec2 = .timedOut := left'.resolve_left (Nat.not_lt.mpr same.leftTried)
    rw [outcome, same.index, handleConnect_retries right isTls error (.inr timedOut)]
    exact same.retried
  · rw [outcome, same.index, handleConnect_fails right isTls error same.rightTried other]
    exact ⟨rfl, same⟩
  · rw [outcome, same.index, handleConnect_shakes right fine]
    exact ⟨rfl, same⟩
  · rw [outcome, same.index, handleConnect_succeeds right fine]
    exact same.succeeded ec2

theorem InStep.handleHandshake {left right : TcpConnectState Endpoint} (same : InStep left right)
    (ec : ErrorCode) : SameOutcome (left.handleHandshake ec) (right.handleHandshake ec) := by
  cases error : ec.isError with
  | true =>
    rw [handleHandshake_fails left error, handleHandshake_fails right error]
    exact ⟨rfl, same.noted _ _⟩
  | false =>
    rw [handleHandshake_succeeds left error, handleHandshake_succeeds right error]
    exact same.succeeded ec

/-- A tick times both out or neither. -/
theorem InStep.handlePeriodTimeout {left right : TcpConnectState Endpoint}
    (same : InStep left right) (isTls : Bool) :
    (left.handlePeriodTimeout isTls = none ∧ right.handlePeriodTimeout isTls = none) ∨
      ∃ outcome other, left.handlePeriodTimeout isTls = some outcome ∧
        right.handlePeriodTimeout isTls = some other ∧ SameOutcome outcome other := by
  have ticks := same.ticked
  have total := same.totalTimeout
  have endpoint := same.endpointTimeout
  have alike : left.totalTimeout ≤ left.currentSpentTime + kTcpCheckConnectPeriod ∧
      right.totalTimeout ≤ right.currentSpentTime + kTcpCheckConnectPeriod ∨
      left.currentSpentTime = right.currentSpentTime ∧
        left.currentEndpointSpentTime = right.currentEndpointSpentTime := by
    rcases same.time with equal | elapsed
    · exact .inr equal
    · exact .inl (by omega)
  rcases handlePeriodTimeout_cases left isTls with
    ⟨elapsed, shape⟩ | ⟨within, tried, shape⟩ | ⟨within, fresh, shape⟩ <;>
  rcases handlePeriodTimeout_cases right isTls with
    ⟨elapsed', shape'⟩ | ⟨within', tried', shape'⟩ | ⟨within', fresh', shape'⟩
  case inl.inl =>
    rw [shape, shape', same.checkTimer]
    cases right.checkTimer with
    | none => exact .inl ⟨rfl, rfl⟩
    | some timer =>
      exact .inr ⟨_, _, rfl, rfl, rfl, ticks.index, ticks.totalCount, ticks.inputEvent, rfl,
        ticks.totalTimeout, ticks.endpointTimeout, ticks.leftTried, ticks.rightTried, ticks.time⟩
  case inr.inl.inr.inl => exact .inr ⟨_, _, shape, shape', ticks.retried⟩
  case inr.inr.inr.inr => exact .inr ⟨_, _, shape, shape', rfl, ticks⟩
  all_goals omega

/-- Two worlds in which the same operations are outstanding, with states that
do the same. -/
structure Together (left right : Connecting Endpoint Machine) : Prop where
  state : InStep left.state right.state
  isTls : left.isTls = right.isTls
  socket : left.socket = right.socket
  connects : left.connects = right.connects
  handshakes : left.handshakes = right.handshakes
  timers : left.timers = right.timers

theorem perform_together {left right : Connecting Endpoint Machine}
    (together : Together left right) (call : Command Endpoint) :
    Together (left.perform wiring call) (right.perform wiring call) := by
  obtain ⟨state, isTls, socket, connects, handshakes, timers⟩ := together
  cases call with
  | asyncConnect endpoint index =>
    exact ⟨state, isTls, socket, by simp only [Connecting.perform, connects, socket],
      handshakes, timers⟩
  | startTimer timer =>
    exact ⟨state, isTls, socket, connects, handshakes, congrArg (timer :: ·) timers⟩
  | cancelTimer timer =>
    exact ⟨state, isTls, socket, connects, handshakes, by simp only [Connecting.perform, timers]⟩
  | resetSocket => exact ⟨state, isTls, congrArg (· + 1) socket, connects, handshakes, timers⟩
  | asyncHandshake =>
    exact ⟨state, isTls, socket, connects,
      by simp only [Connecting.perform, handshakes, socket], timers⟩
  | setConnected => exact ⟨state, isTls, socket, connects, handshakes, timers⟩
  | done ec1 ec2 => exact ⟨state.noted _ _, isTls, socket, connects, handshakes, timers⟩

private theorem calls_together (calls : Calls Endpoint) {left right : Connecting Endpoint Machine}
    (together : Together left right) :
    Together (calls.foldl (Connecting.perform wiring) left)
      (calls.foldl (Connecting.perform wiring) right) := by
  induction calls generalizing left right with
  | nil => exact together
  | cons call rest ih => exact ih (perform_together wiring together call)

theorem after_together {left right : Connecting Endpoint Machine} {outcome other : Outcome Endpoint}
    (together : Together left right) (same : SameOutcome outcome other) :
    Together (left.after wiring outcome) (right.after wiring other) := by
  obtain ⟨calls, states⟩ := same
  unfold Connecting.after
  rw [calls]
  exact calls_together wiring other.2 ⟨states, together.isTls, together.socket,
    together.connects, together.handshakes, together.timers⟩

/-- One completion or tick leads to the same calls in both worlds. -/
theorem step_together {left right : Connecting Endpoint Machine} (event : Event)
    (together : Together left right) :
    (left.step wiring event = none ∧ right.step wiring event = none) ∨
      ∃ calls next other, left.step wiring event = some (calls, next) ∧
        right.step wiring event = some (calls, other) ∧ Together next other := by
  cases event with
  | connects position ec2 =>
    simp only [Connecting.step, together.connects, together.isTls]
    cases right.connects[position]? with
    | none => exact .inl ⟨rfl, rfl⟩
    | some attempt =>
      have same := together.state.handleConnect right.isTls ec2 attempt.index
      refine .inr ⟨_, _, _, rfl, congrArg some (Prod.ext same.1.symm rfl), ?_⟩
      exact after_together wiring ⟨together.state, rfl, together.socket, rfl,
        together.handshakes, together.timers⟩ same
  | handshakes position ec =>
    simp only [Connecting.step, together.handshakes]
    cases right.handshakes[position]? with
    | none => exact .inl ⟨rfl, rfl⟩
    | some socket =>
      have same := together.state.handleHandshake ec
      refine .inr ⟨_, _, _, rfl, congrArg some (Prod.ext same.1.symm rfl), ?_⟩
      exact after_together wiring ⟨together.state, together.isTls, together.socket,
        together.connects, rfl, together.timers⟩ same
  | ticks timer =>
    simp only [Connecting.step, together.timers, together.isTls]
    split
    · rcases together.state.handlePeriodTimeout right.isTls with
        ⟨undefined, undefined'⟩ | ⟨outcome, other, ran, ran', same⟩
      · rw [undefined, undefined']
        exact .inl ⟨rfl, rfl⟩
      · rw [ran, ran']
        exact .inr ⟨_, _, _, rfl, congrArg some (Prod.ext same.1.symm rfl),
          after_together wiring together same⟩
    · exact .inl ⟨rfl, rfl⟩

theorem together_alike {left right : Connecting Endpoint Machine} (together : Together left right) :
    Runs.Alike (Connecting.step wiring) left right :=
  Runs.alike_of_bisimulation Together (fun _ _ event => step_together wiring event) together

/-! ### What is carried over shows -/

/-- The last connect outstanding, at this position, is the one in progress. -/
def WaitsAt (position : Nat) (world : Connecting Endpoint Machine) : Prop :=
  ∃ others socket, others.length = position ∧
    world.connects = others ++ [⟨world.state.index, socket⟩]

/-- One state has counted more tries than the other, which has a try left. -/
structure TriesFewer (position : Nat) (left right : Connecting Endpoint Machine) : Prop where
  totalCount : left.state.totalCount = right.state.totalCount
  more : right.state.triedCount < left.state.triedCount
  given : right.state.triedCount < right.state.totalCount
  leftWaits : WaitsAt position left
  rightWaits : WaitsAt position right

/-- The world after a failure of the connect in progress with a try left. -/
def failedOver (position : Nat) (world : Connecting Endpoint Machine) :
    Connecting Endpoint Machine :=
  Connecting.after wiring { world with connects := world.connects.eraseIdx position }
    (retried world.state)

private theorem retried_counts (state : TcpConnectState Endpoint) :
    (retried state).1.triedCount = state.triedCount + 1 ∧
      (retried state).1.totalCount = state.totalCount := by
  unfold retried
  split <;> exact ⟨rfl, rfl⟩

private theorem failed_over_state (position : Nat) (world : Connecting Endpoint Machine) :
    (failedOver wiring position world).state = (retried world.state).1 := by
  unfold failedOver
  rw [after_retried]

private theorem failed_over_waits {world : Connecting Endpoint Machine}
    (waits : WaitsAt position world) : WaitsAt position (failedOver wiring position world) := by
  obtain ⟨others, socket, rfl, connects⟩ := waits
  unfold failedOver
  rw [after_retried]
  refine ⟨others, world.socket + 1, rfl, ?_⟩
  rw [connects, List.eraseIdx_append_of_length_le (Nat.le_refl _), Nat.sub_self]
  simp

private theorem WaitsAt.held {world : Connecting Endpoint Machine}
    (waits : WaitsAt position world) :
    ∃ socket, world.connects[position]? = some ⟨world.state.index, socket⟩ := by
  obtain ⟨others, socket, rfl, connects⟩ := waits
  exact ⟨socket, by simp [connects]⟩

/-- A failure of the connect in progress. -/
private theorem fails_over {world : Connecting Endpoint Machine} (waits : WaitsAt position world)
    (given : world.state.triedCount < world.state.totalCount) :
    world.step wiring (.connects position .operationAborted) =
      some ((retried world.state).2, failedOver wiring position world) := by
  obtain ⟨socket, held⟩ := waits.held
  have outcome := handleConnect_retries world.state world.isTls
    (rfl : ErrorCode.operationAborted.isError = true) (.inl given)
  simp only [Connecting.step, held, Option.map_some, outcome]
  rfl

private theorem fails {world : Connecting Endpoint Machine} (waits : WaitsAt position world)
    (none : world.state.totalCount ≤ world.state.triedCount) :
    ∃ after, world.step wiring (.connects position .operationAborted) =
      some ([.done .connectFail .operationAborted], after) := by
  obtain ⟨socket, held⟩ := waits.held
  have outcome := handleConnect_fails world.state world.isTls
    (rfl : ErrorCode.operationAborted.isError = true) none (by decide)
  simp only [Connecting.step, held, Option.map_some, outcome]
  exact ⟨_, rfl⟩

/-- Failures one after another tell the two apart: one reports `Connect_Fail`
where the other still has an endpoint to try. -/
theorem tries_fewer_not_alike {left right : Connecting Endpoint Machine}
    (fewer : TriesFewer position left right) :
    ¬ Runs.Alike (Connecting.step wiring) left right := by
  induction tries : left.state.totalCount - left.state.triedCount generalizing left right with
  | zero =>
    intro alike
    obtain ⟨after, taken⟩ := fails wiring fewer.leftWaits (Nat.le_of_sub_eq_zero tries)
    have replies := (alike.after taken (fails_over wiring fewer.rightWaits fewer.given)).1
    unfold retried at replies
    rw [if_pos fewer.given] at replies
    cases replies
  | succ count ih =>
    intro alike
    have left' := retried_counts left.state
    have right' := retried_counts right.state
    have totalCount := fewer.totalCount
    have tried := fewer.more
    have more : left.state.triedCount < left.state.totalCount := by omega
    refine @ih (failedOver wiring position left) _ ?_ ?_
      (alike.after (fails_over wiring fewer.leftWaits more)
        (fails_over wiring fewer.rightWaits fewer.given)).2
    · refine ⟨?_, ?_, ?_, failed_over_waits wiring fewer.leftWaits,
        failed_over_waits wiring fewer.rightWaits⟩
      · rw [failed_over_state, failed_over_state]
        omega
      · rw [failed_over_state, failed_over_state]
        omega
      · rw [failed_over_state]
        omega
    · rw [failed_over_state]
      omega

/-- One state has spent at least a period more than the other, which does not
time out at the next tick. Both have their timer running. -/
structure SpentMore (timer : Nat) (left right : Connecting Endpoint Machine) : Prop where
  totalTimeout : left.state.totalTimeout = right.state.totalTimeout
  more : right.state.currentSpentTime + kTcpCheckConnectPeriod ≤ left.state.currentSpentTime
  within : right.state.currentSpentTime + kTcpCheckConnectPeriod < right.state.totalTimeout
  leftRuns : timer ∈ left.timers ∧ left.state.checkTimer = some timer
  rightRuns : timer ∈ right.timers ∧ right.state.checkTimer = some timer

private theorem times_out {world : Connecting Endpoint Machine}
    (runs : timer ∈ world.timers ∧ world.state.checkTimer = some timer)
    (elapsed : world.state.totalTimeout ≤ world.state.currentSpentTime + kTcpCheckConnectPeriod) :
    ∃ after, world.step wiring (.ticks timer) =
      some ([.cancelTimer timer, .done .timeout .none], after) := by
  rcases handlePeriodTimeout_cases world.state world.isTls with
    ⟨_, shape⟩ | ⟨within, _⟩ | ⟨within, _⟩
  · simp only [Connecting.step, if_pos runs.1, shape, runs.2]
    exact ⟨_, rfl⟩
  · omega
  · omega

private theorem retried_waits (state : TcpConnectState Endpoint) :
    (retried state).1.currentSpentTime = state.currentSpentTime ∧
      (retried state).1.totalTimeout = state.totalTimeout ∧
      (retried state).1.checkTimer = state.checkTimer ∧
      ∀ timer, (retried state).2 ≠ [.cancelTimer timer, .done .timeout .none] := by
  unfold retried
  split <;> exact ⟨rfl, rfl, rfl, fun _ same => by cases same⟩

/-- A tick before the total timeout: the period is counted and the timer kept. -/
private theorem waits_on {world : Connecting Endpoint Machine}
    (runs : timer ∈ world.timers ∧ world.state.checkTimer = some timer)
    (within : world.state.currentSpentTime + kTcpCheckConnectPeriod < world.state.totalTimeout) :
    ∃ calls after, world.step wiring (.ticks timer) = some (calls, after) ∧
      calls ≠ [.cancelTimer timer, .done .timeout .none] ∧
      after.state.currentSpentTime = world.state.currentSpentTime + kTcpCheckConnectPeriod ∧
      after.state.totalTimeout = world.state.totalTimeout ∧
      timer ∈ after.timers ∧ after.state.checkTimer = some timer := by
  rcases handlePeriodTimeout_cases world.state world.isTls with
    ⟨elapsed, _⟩ | ⟨_, _, shape⟩ | ⟨_, _, shape⟩
  · omega
  · obtain ⟨spent, total, check, other⟩ := retried_waits (ticked world.state)
    refine ⟨_, _, by simp only [Connecting.step, if_pos runs.1, shape]; rfl, other timer, ?_⟩
    rw [after_retried]
    exact ⟨spent, total, runs.1, check.trans runs.2⟩
  · refine ⟨_, _, by simp only [Connecting.step, if_pos runs.1, shape]; rfl, by simp, ?_⟩
    exact ⟨rfl, rfl, runs.1, runs.2⟩

/-- Ticks one after another tell the two apart: one reports `Timeout` where the
other still waits. -/
theorem spent_more_not_alike {left right : Connecting Endpoint Machine}
    (spent : SpentMore timer left right) : ¬ Runs.Alike (Connecting.step wiring) left right := by
  induction time : (left.state.totalTimeout - left.state.currentSpentTime).toNat
    using Nat.strongRecOn generalizing left right with
  | ind remaining ih =>
    intro alike
    have totalTimeout := spent.totalTimeout
    have more := spent.more
    have period : kTcpCheckConnectPeriod = 200 := rfl
    obtain ⟨calls', other, taken', differ, spent', total', runs'⟩ :=
      waits_on wiring spent.rightRuns spent.within
    by_cases elapsed : left.state.totalTimeout ≤ left.state.currentSpentTime + kTcpCheckConnectPeriod
    · obtain ⟨after, taken⟩ := times_out wiring spent.leftRuns elapsed
      exact differ (alike.after taken taken').1.symm
    · obtain ⟨calls, next, taken, _, spent'', total'', runs⟩ :=
        waits_on wiring spent.leftRuns (Int.not_le.mp elapsed)
      refine ih _ ?_ ?_ rfl (alike.after taken taken').2
      · omega
      · exact ⟨by omega, by omega, by omega, runs, runs'⟩

/-! ### Executing again -/

private theorem execute_calls (state : TcpConnectState Endpoint) (timer : Nat) :
    (state.execute timer).2.2 =
      (TcpConnectState.execute { inputEvent := state.inputEvent, index := state.index } timer).2.2 := by
  by_cases ready : Ready state
  · unfold TcpConnectState.execute TcpConnectState.checkEvent
    simp only [ready.1, ready.2, not_true_eq_false, if_false]
    rfl
  · have fresh : ¬ Ready { inputEvent := state.inputEvent, index := state.index } := ready
    rw [execute_refuses ready timer, execute_refuses fresh timer]

private theorem execute_code (world : Connecting Endpoint Machine) :
    (world.execute wiring).1 = ((afresh world).execute wiring).1 := by
  by_cases ready : Ready world.state
  · have fresh : Ready (afresh world).state := ready
    rw [execute_started wiring ready, execute_started wiring fresh]
  · have stale : ¬ Ready (afresh world).state := ready
    rw [execute_refused wiring ready, execute_refused wiring stale]

/-- A state that carries nothing elapsed starts in step with a fresh one. -/
private theorem started_together {world : Connecting Endpoint Machine}
    (counted : Counted world.state) (ready : Ready world.state)
    (nothing : CarriesNothing world.state) :
    Together (world.execute wiring).2 ((afresh world).execute wiring).2 := by
  have fresh : Ready (afresh world).state := ready
  obtain ⟨one, time⟩ := nothing ready
  have spent := counted.spent
  have within := counted.within
  rw [execute_started wiring ready, execute_started wiring fresh]
  refine ⟨⟨rfl, rfl, rfl, rfl, rfl, counted.endpointTimeout,
    Nat.le_trans one (Nat.le_add_left 1 _), one, ?_⟩, rfl, rfl, rfl, rfl, rfl⟩
  rcases time with none | short
  · exact .inl ⟨none, Int.le_antisymm (Int.le_trans within (Int.le_of_eq none)) spent⟩
  · exact .inr ⟨short, Int.le_trans spent within, Int.le_refl 0⟩

private theorem tries_fewer {world : Connecting Endpoint Machine} (counted : Counted world.state)
    (ready : Ready world.state) (several : 1 < world.state.inputEvent.endpoints.length) :
    TriesFewer world.connects.length (world.execute wiring).2
      ((afresh world).execute wiring).2 := by
  have fresh : Ready (afresh world).state := ready
  rw [execute_started wiring ready, execute_started wiring fresh]
  exact ⟨rfl, Nat.succ_lt_succ counted.tried, several, ⟨_, _, rfl, rfl⟩, ⟨_, _, rfl, rfl⟩⟩

private theorem spent_more {world : Connecting Endpoint Machine} (counted : Counted world.state)
    (ready : Ready world.state) (some : world.state.currentSpentTime ≠ 0)
    (long : kTcpCheckConnectPeriod < world.state.inputEvent.connectTimeout) :
    SpentMore world.nextTimer (world.execute wiring).2 ((afresh world).execute wiring).2 := by
  have fresh : Ready (afresh world).state := ready
  obtain ⟨count, periods⟩ := counted.periods
  have periods : world.state.currentSpentTime = 200 * count := periods
  have period : kTcpCheckConnectPeriod = 200 := rfl
  rw [execute_started wiring ready, execute_started wiring fresh]
  refine ⟨rfl, ?_, ?_, ⟨List.mem_cons_self, rfl⟩, ⟨List.mem_cons_self, rfl⟩⟩
  · show (0 : Int) + kTcpCheckConnectPeriod ≤ world.state.currentSpentTime
    omega
  · show (0 : Int) + kTcpCheckConnectPeriod < world.state.inputEvent.connectTimeout
    omega

/-- The connect of one endpoint has succeeded, and the state is to try the
endpoints of the next host. -/
def nextHost (endpoints : List Nat) : Connecting Nat Unit :=
  let world := (Connecting.constructed { setup := true, endpoints := [7] } false ()).execute oneNext
  let connected := ((world.2.step oneNext (.connects 0 .none)).map Prod.snd).getD world.2
  { connected with state := { connected.state with inputEvent := { setup := true, endpoints } } }

private theorem next_host_lapped (endpoints : List Nat) : Lapped oneNext (nextHost endpoints) := by
  have started : Used oneNext (oneEndpoint.execute oneNext).2 :=
    .first { setup := true, endpoints := [7] } false () rfl
  have taken : (oneEndpoint.execute oneNext).2.step oneNext (.connects 0 .none) =
    some (_, _) := rfl
  exact ⟨_, started.happens taken, rfl⟩

end BeeSdk.ConnectAgain
