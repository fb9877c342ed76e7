import BeeSdk.ConnectAttemptsProofs

/-! In which order a connect state tries its endpoints. While a try is left the index goes up
by one with every try, so what has been tried is always the same row of endpoints, cut off
where the state stands; a failure is only reported behind the whole row. -/
namespace BeeSdk.EndpointOrder
open StateMachine TcpConnect ConnectAttempts ConnectAttemptsProofs Runs

variable {Endpoint Machine : Type} {wiring : Wiring Machine} {endpoints : List Endpoint}

/-! ### The row of tries -/

/-- The endpoints that calls try to connect to, in their order. -/
def attempted (calls : Calls Endpoint) : List (Option Endpoint) :=
  calls.filterMap fun
    | .asyncConnect endpoint _ => some endpoint
    | _ => none

/-- Where the first try is. -/
def firstIndex (input : TcpConnectInputEvent Endpoint) : Nat :=
  if 0 ≤ input.startIndex ∧ input.startIndex < input.endpoints.length then input.startIndex.toNat
  else 0

/-- The `count` first tries from `start`: one endpoint after the other and around the end of
the list, and the last one again once all have had their turn. -/
def tries (endpoints : List Endpoint) (start count : Nat) : List (Option Endpoint) :=
  (List.range count).map fun i =>
    endpoints[(start + min i (endpoints.length - 1)) % endpoints.length]?

theorem tries_succ (endpoints : List Endpoint) (start count : Nat) :
    tries endpoints start (count + 1) = tries endpoints start count ++
      [endpoints[(start + min count (endpoints.length - 1)) % endpoints.length]?] := by
  rw [tries, List.range_succ, List.map_append]
  rfl

theorem tries_inside (start count : Nat) (filled : endpoints ≠ []) :
    none ∉ tries endpoints start count := by
  intro outside
  obtain ⟨i, _, absent⟩ := List.mem_map.mp outside
  have positive := List.length_pos_iff.mpr filled
  have within := Nat.mod_lt (start + min i (endpoints.length - 1)) positive
  exact absurd within (Nat.not_lt.mpr (List.getElem?_eq_none_iff.mp absent))

/-- The row comes to every place in its turn. -/
theorem turn_of (start : Nat) (inside : position < n) :
    (start + (position + (n - start % n)) % n) % n = position := by
  have whole := Nat.div_add_mod start n
  have offset := Nat.mod_lt start (Nat.zero_lt_of_lt inside)
  have around : start + (position + (n - start % n)) = position + n * (start / n + 1) := by
    rw [Nat.mul_add, Nat.mul_one]
    omega
  rw [Nat.add_mod_mod, around, Nat.add_mul_mod_self_left, Nat.mod_eq_of_lt inside]

/-- As many tries as there are endpoints leave none out. -/
theorem tries_all (start : Nat) (enough : endpoints.length ≤ count) (member : endpoint ∈ endpoints) :
    some endpoint ∈ tries endpoints start count := by
  obtain ⟨position, inside, rfl⟩ := List.getElem_of_mem member
  have turn := Nat.mod_lt (position + (endpoints.length - start % endpoints.length))
    (Nat.zero_lt_of_lt inside)
  refine List.mem_map.mpr ⟨(position + (endpoints.length - start % endpoints.length)) %
    endpoints.length, List.mem_range.mpr (by omega), ?_⟩
  rw [Nat.min_eq_left (by omega), turn_of start inside]
  exact List.getElem?_eq_getElem inside

/-! ### The tries of a run -/

/-- So far the first tries of the row have been made, the state stands at the last of them, and
it has not failed before the end of the row. -/
structure InOrder (input : TcpConnectInputEvent Endpoint)
    (recorded : Connecting Endpoint Machine × Calls Endpoint) : Prop where
  endpoints : recorded.1.state.inputEvent.endpoints = input.endpoints
  totalCount : recorded.1.state.totalCount = input.endpoints.length
  some : 0 < recorded.1.state.triedCount
  index : recorded.1.state.index =
    firstIndex input + min (recorded.1.state.triedCount - 1) (input.endpoints.length - 1)
  order : attempted recorded.2 =
    tries input.endpoints (firstIndex input) recorded.1.state.triedCount
  failed : ∀ report ∈ recorded.1.reports, report.ec1 = .connectFail →
    input.endpoints.length ≤ recorded.1.state.triedCount

variable {input : TcpConnectInputEvent Endpoint}

/-- What moves nothing of the row. -/
theorem InOrder.kept {world after : Connecting Endpoint Machine} {calls more : Calls Endpoint}
    (ordered : InOrder input (world, calls))
    (inputEvent : after.state.inputEvent = world.state.inputEvent)
    (totalCount : after.state.totalCount = world.state.totalCount)
    (triedCount : after.state.triedCount = world.state.triedCount)
    (index : after.state.index = world.state.index) (none : attempted more = [])
    (failed : ∀ report ∈ after.reports, report ∈ world.reports ∨
      (report.ec1 = .connectFail → world.state.totalCount ≤ world.state.triedCount)) :
    InOrder input (after, calls ++ more) := by
  refine ⟨inputEvent ▸ ordered.endpoints, totalCount.trans ordered.totalCount,
    triedCount ▸ ordered.some, ?_, ?_, fun report made fails => ?_⟩
  · rw [index, triedCount]
    exact ordered.index
  · have before := ordered.order
    simp only [attempted] at before none ⊢
    rw [List.filterMap_append, none, List.append_nil, triedCount]
    exact before
  · rw [triedCount]
    rcases failed report made with old | new
    · exact ordered.failed report old fails
    · exact ordered.totalCount ▸ new fails

/-- What a retry does to the row. -/
theorem retried_tries (state : TcpConnectState Endpoint) :
    ∃ index, index = (if state.triedCount < state.totalCount then state.index + 1 else state.index) ∧
      (retried state).1.index = index ∧ (retried state).1.triedCount = state.triedCount + 1 ∧
      (retried state).1.totalCount = state.totalCount ∧
      (retried state).1.inputEvent = state.inputEvent ∧
      attempted (retried state).2 = [state.inputEvent.endpoints[index % state.totalCount]?] := by
  by_cases left : state.triedCount < state.totalCount
  · exact ⟨state.index + 1, (if_pos left).symm, by rw [retried, if_pos left]; exact ⟨rfl, rfl, rfl, rfl, rfl⟩⟩
  · exact ⟨state.index, (if_neg left).symm, by rw [retried, if_neg left]; exact ⟨rfl, rfl, rfl, rfl, rfl⟩⟩

/-- A retry makes the next try of the row. -/
theorem InOrder.retried {world before : Connecting Endpoint Machine} {calls : Calls Endpoint}
    (ordered : InOrder input (world, calls)) (state : TcpConnectState Endpoint)
    (inputEvent : state.inputEvent = world.state.inputEvent)
    (totalCount : state.totalCount = world.state.totalCount)
    (triedCount : state.triedCount = world.state.triedCount)
    (stands : state.index = world.state.index) (reports : before.reports = world.reports) :
    InOrder input (before.after wiring (ConnectAttemptsProofs.retried state),
      calls ++ (ConnectAttemptsProofs.retried state).2) := by
  obtain ⟨index, next, moved, tried, count, sent, attempt⟩ := retried_tries state
  have some := ordered.some
  have place := ordered.index
  have size := ordered.totalCount
  rw [triedCount, totalCount, stands] at next
  simp only at some place size
  have advanced : index = firstIndex input + min world.state.triedCount (input.endpoints.length - 1) := by
    rw [next]
    split <;> omega
  rw [after_retried]
  refine ⟨?_, ?_, ?_, ?_, ?_, fun report made fails => ?_⟩
  · exact sent.trans inputEvent ▸ ordered.endpoints
  · exact count.trans (totalCount.trans size)
  · exact lt_of_lt_of_eq (Nat.succ_pos _) tried.symm
  · simp only [moved, tried, triedCount, advanced]
    rfl
  · have before := ordered.order
    simp only [attempted] at before attempt ⊢
    rw [List.filterMap_append, before, attempt, tried, triedCount, tries_succ, inputEvent,
      ordered.endpoints, totalCount, size, advanced]
  · simp only [tried, triedCount]
    rw [reports] at made
    exact Nat.le_succ_of_le (ordered.failed report made fails)

/-- A report that is added is of another kind, or behind the end of the row. -/
theorem InOrder.reported {world after : Connecting Endpoint Machine} {calls more : Calls Endpoint}
    (ordered : InOrder input (world, calls))
    (inputEvent : after.state.inputEvent = world.state.inputEvent)
    (totalCount : after.state.totalCount = world.state.totalCount)
    (triedCount : after.state.triedCount = world.state.triedCount)
    (index : after.state.index = world.state.index) (none : attempted more = [])
    (reports : after.reports = world.reports ++ [report])
    (tried : report.ec1 = .connectFail → world.state.totalCount ≤ world.state.triedCount) :
    InOrder input (after, calls ++ more) := by
  refine ordered.kept inputEvent totalCount triedCount index none fun other made => ?_
  rw [reports] at made
  rcases List.mem_append.mp made with old | new
  · exact .inl old
  · cases List.mem_singleton.mp new
    exact .inr tried

theorem succeeded_inOrder {world before : Connecting Endpoint Machine} {calls : Calls Endpoint}
    (ordered : InOrder input (world, calls)) (ec : ErrorCode) (reports : before.reports = world.reports) :
    InOrder input (before.after wiring (succeeded world.state ec),
      calls ++ (succeeded world.state ec).2) := by
  unfold succeeded TcpConnectState.cancelCheckTimer
  cases timer : world.state.checkTimer with
  | none =>
    exact ordered.reported rfl rfl rfl rfl rfl (congrArg (· ++ _) reports) fun fails => by cases fails
  | some timer' =>
    exact ordered.reported rfl rfl rfl rfl rfl (congrArg (· ++ _) reports) fun fails => by cases fails

theorem connects_inOrder {world : Connecting Endpoint Machine} {calls : Calls Endpoint}
    (ordered : InOrder input (world, calls)) (position : Nat) (ec2 : ErrorCode) (attempt : Attempt) :
    InOrder input
      (Connecting.after wiring { world with connects := world.connects.eraseIdx position }
        (world.state.handleConnect world.isTls ec2 attempt.index),
      calls ++ (world.state.handleConnect world.isTls ec2 attempt.index).2) := by
  rcases handleConnect_cases world.state world.isTls ec2 attempt.index with
    ⟨_, outcome⟩ | ⟨_, _, _, outcome⟩ | ⟨_, _, tried, _, outcome⟩ | ⟨_, _, _, outcome⟩ | ⟨_, _, _, outcome⟩
  · rw [outcome]
    exact ordered.kept rfl rfl rfl rfl rfl fun report made => .inl made
  · rw [outcome]
    exact ordered.retried world.state rfl rfl rfl rfl rfl
  · rw [outcome]
    exact ordered.reported rfl rfl rfl rfl rfl rfl fun _ => tried
  · rw [outcome]
    exact ordered.kept rfl rfl rfl rfl rfl fun report made => .inl made
  · rw [outcome]
    exact succeeded_inOrder ordered ec2 rfl

theorem handshakes_inOrder {world : Connecting Endpoint Machine} {calls : Calls Endpoint}
    (ordered : InOrder input (world, calls)) (position : Nat) (ec : ErrorCode) :
    InOrder input
      (Connecting.after wiring { world with handshakes := world.handshakes.eraseIdx position }
        (world.state.handleHandshake ec), calls ++ (world.state.handleHandshake ec).2) := by
  cases error : ec.isError with
  | true =>
    rw [handleHandshake_fails world.state error]
    exact ordered.reported rfl rfl rfl rfl rfl rfl fun fails => by cases fails
  | false =>
    rw [handleHandshake_succeeds world.state error]
    exact succeeded_inOrder ordered ec rfl

theorem ticks_inOrder {world : Connecting Endpoint Machine} {calls : Calls Endpoint}
    (ordered : InOrder input (world, calls))
    (ticks : world.state.handlePeriodTimeout world.isTls = some outcome) :
    InOrder input (world.after wiring outcome, calls ++ outcome.2) := by
  rcases handlePeriodTimeout_cases world.state world.isTls with
    ⟨_, ticked⟩ | ⟨_, _, ticked⟩ | ⟨_, _, ticked⟩
  · rw [ticked] at ticks
    obtain ⟨timer, _, rfl⟩ := Option.map_eq_some_iff.mp ticks
    exact ordered.reported rfl rfl rfl rfl rfl rfl fun fails => by cases fails
  · rw [ticked] at ticks
    cases ticks
    exact ordered.retried (ConnectAttemptsProofs.ticked world.state) rfl rfl rfl rfl rfl
  · rw [ticked] at ticks
    cases ticks
    exact ordered.kept rfl rfl rfl rfl rfl fun report made => .inl made

theorem step_inOrder {recorded next : Connecting Endpoint Machine × Calls Endpoint} {reply : Unit}
    (ordered : InOrder input recorded)
    (taken : record (Connecting.step wiring) recorded event = some (reply, next)) :
    InOrder input next := by
  obtain ⟨world, calls⟩ := recorded
  obtain ⟨after, all⟩ := next
  obtain ⟨told, stepped, whole⟩ := record_inv taken
  simp only at stepped whole
  subst whole
  cases event with
  | connects position ec2 =>
    obtain ⟨attempt, _, same⟩ := Option.map_eq_some_iff.mp stepped
    cases same
    exact connects_inOrder ordered position ec2 attempt
  | handshakes position ec =>
    obtain ⟨socket, _, same⟩ := Option.map_eq_some_iff.mp stepped
    cases same
    exact handshakes_inOrder ordered position ec
  | ticks timer =>
    rw [Connecting.step] at stepped
    split at stepped
    · obtain ⟨outcome, ticks, same⟩ := Option.map_eq_some_iff.mp stepped
      cases same
      exact ticks_inOrder ordered ticks
    · cases stepped

/-! ### Every run -/

/-- A fresh state beside the calls its `execute` makes. -/
def started (wiring : Wiring Machine) (input : TcpConnectInputEvent Endpoint) (isTls : Bool)
    (machine : Machine) : Connecting Endpoint Machine × Calls Endpoint :=
  let fresh := Connecting.constructed input isTls machine
  ((fresh.execute wiring).2, (fresh.state.execute fresh.nextTimer).2.2)

theorem started_inOrder {isTls : Bool} {machine : Machine} (setup : input.setup = true)
    (filled : input.endpoints ≠ []) : InOrder input (started wiring input isTls machine) := by
  have positive := List.length_pos_iff.mpr filled
  have ready : Ready (Connecting.constructed input isTls machine).state := ⟨setup, filled⟩
  have executed := execute_starts ready 0
  have index : (ConnectAttemptsProofs.started (Connecting.constructed input isTls machine).state 0).index =
      firstIndex input := rfl
  have target : attempted (started wiring input isTls machine).2 =
      [input.endpoints[firstIndex input % input.endpoints.length]?] := by
    rw [started]
    simp only
    rw [show (Connecting.constructed input isTls machine).nextTimer = 0 from rfl, executed]
    rfl
  have world : (started wiring input isTls machine).1.state =
      ConnectAttemptsProofs.started (Connecting.constructed input isTls machine).state 0 := by
    rw [started]
    simp only [Connecting.execute]
    rw [show (Connecting.constructed input isTls machine).nextTimer = 0 from rfl, executed]
    rfl
  have reports : (started wiring input isTls machine).1.reports = [] := by
    rw [started]
    simp only [Connecting.execute]
    rw [show (Connecting.constructed input isTls machine).nextTimer = 0 from rfl, executed]
    rfl
  refine ⟨?_, ?_, ?_, ?_, ?_, ?_⟩
  · rw [world]
    rfl
  · rw [world]
    rfl
  · rw [world]
    exact Nat.one_pos
  · rw [world, index]
    exact (Nat.add_zero _).symm
  · rw [target, world]
    exact congrArg (fun place => [input.endpoints[place % input.endpoints.length]?])
      (Nat.add_zero (firstIndex input)).symm
  · rw [reports]
    exact fun report made => absurd made List.not_mem_nil

/-- Nothing has been begun, and nothing can happen. -/
structure Idle (recorded : Connecting Endpoint Machine × Calls Endpoint) : Prop where
  connects : recorded.1.connects = []
  handshakes : recorded.1.handshakes = []
  timers : recorded.1.timers = []
  reports : recorded.1.reports = []
  calls : recorded.2 = []

theorem Idle.step {recorded next : Connecting Endpoint Machine × Calls Endpoint} {reply : Unit}
    (idle : Idle recorded) (taken : record (Connecting.step wiring) recorded event = some (reply, next)) :
    Idle next := by
  obtain ⟨told, stepped, _⟩ := record_inv taken
  cases event with
  | connects position ec2 =>
    rw [Connecting.step, idle.connects] at stepped
    cases stepped
  | handshakes position ec =>
    rw [Connecting.step, idle.handshakes] at stepped
    cases stepped
  | ticks timer =>
    rw [Connecting.step, idle.timers, if_neg List.not_mem_nil] at stepped
    cases stepped

theorem started_idle {isTls : Bool} {machine : Machine}
    (unready : ¬ (input.setup = true ∧ input.endpoints ≠ [])) :
    Idle (started wiring input isTls machine) := by
  have executed := @execute_refuses _ (Connecting.constructed input isTls machine).state unready 0
  have world : (started wiring input isTls machine).1 =
      { Connecting.constructed input isTls machine with nextTimer := 1 } := by
    rw [started]
    simp only [Connecting.execute]
    rw [show (Connecting.constructed input isTls machine).nextTimer = 0 from rfl, executed]
    rfl
  have calls : (started wiring input isTls machine).2 = [] := by
    rw [started]
    simp only
    rw [show (Connecting.constructed input isTls machine).nextTimer = 0 from rfl, executed]
  refine ⟨?_, ?_, ?_, ?_, calls⟩
  all_goals rw [world]; rfl

/-- In every run of a fresh state the endpoints are tried one after the other from the start
index on, around the end of the list, the last one again once all were tried; none is looked
for outside the list, and where a failure to connect has been reported all have been tried. -/
theorem endpoints_in_order (wiring : Wiring Machine) (input : TcpConnectInputEvent Endpoint)
    (isTls : Bool) (machine : Machine)
    (ran : run (record (Connecting.step wiring)) (started wiring input isTls machine) events =
      some (replies, (reached, calls))) :
    attempted calls = tries input.endpoints (firstIndex input) (attempted calls).length ∧
      none ∉ attempted calls ∧
      (calls ≠ [] → reached.state.targetIndex < input.endpoints.length) ∧
      ∀ report ∈ reached.reports, report.ec1 = .connectFail →
        ∀ endpoint ∈ input.endpoints, some endpoint ∈ attempted calls := by
  by_cases ready : input.setup = true ∧ input.endpoints ≠ []
  · have ordered : InOrder input (reached, calls) :=
      run_preserves (InOrder input) (fun _ _ _ _ ordered taken => step_inOrder ordered taken)
        (started_inOrder ready.1 ready.2) ran
    have order := ordered.order
    have long : (attempted calls).length = reached.state.triedCount := by
      rw [order, tries, List.length_map, List.length_range]
    refine ⟨by rw [long]; exact order, ?_, fun _ => ?_, fun report made fails endpoint member => ?_⟩
    · rw [order]
      exact tries_inside _ _ ready.2
    · rw [TcpConnectState.targetIndex, ordered.totalCount]
      exact Nat.mod_lt _ (List.length_pos_iff.mpr ready.2)
    · rw [order]
      exact tries_all _ (ordered.failed report made fails) member
  · have idle : Idle (reached, calls) :=
      run_preserves Idle (fun _ _ _ _ idle taken => idle.step taken) (started_idle ready) ran
    have none := idle.calls
    have silent := idle.reports
    simp only at none silent
    rw [none, silent]
    exact ⟨rfl, List.not_mem_nil, fun some => absurd rfl some, fun _ made => absurd made List.not_mem_nil⟩

/-- A machine without routers. -/
def unrouted : Wiring Unit := ⟨none, fun _ => none, fun _ machine => machine⟩

def fromSecond : TcpConnectInputEvent Char := { setup := true, endpoints := ['a', 'b'], startIndex := 1 }

/-- The second endpoint refuses, then the first one. -/
theorem both_refuse : ∃ replies reached calls,
    run (record (Connecting.step unrouted)) (started unrouted fromSecond false ())
      [.connects 0 (.other 61), .connects 0 (.other 61)] = some (replies, (reached, calls)) ∧
    attempted calls = [some 'b', some 'a'] ∧
    ∀ endpoint ∈ fromSecond.endpoints, some endpoint ∈ attempted calls := by
  have ran : run (record (Connecting.step unrouted)) (started unrouted fromSecond false ())
    [.connects 0 (.other 61), .connects 0 (.other 61)] = some (_, (_, _)) := rfl
  exact ⟨_, _, _, ran, rfl, (endpoints_in_order unrouted fromSecond false () ran).2.2.2
    ⟨.connectFail, .other 61, false⟩ (List.mem_cons_self) rfl⟩

/-- What tries would be that went around the list again and again. -/
def around (endpoints : List Endpoint) (start count : Nat) : List (Option Endpoint) :=
  (List.range count).map fun i => endpoints[(start + i) % endpoints.length]?

/-- The first endpoint refuses and the second one times out: it is tried again, and not the
first one. -/
theorem last_tried_again : ¬ ∀ (input : TcpConnectInputEvent Char) (events : List Event)
    (replies : List Unit) (reached : Connecting Char Unit) (calls : Calls Char),
    run (record (Connecting.step unrouted)) (started unrouted input false ()) events =
      some (replies, (reached, calls)) →
    attempted calls = around input.endpoints (firstIndex input) (attempted calls).length := by
  intro always
  have order := always { setup := true, endpoints := ['a', 'b'] }
    [.connects 0 (.other 61), .connects 0 .timedOut] _ _ _ rfl
  exact absurd order (by decide)

end BeeSdk.EndpointOrder
