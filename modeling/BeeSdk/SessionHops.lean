import BeeSdk.BodyCalls
import BeeSdk.ConnectAttemptsProofs
import BeeSdk.HttpReply
import BeeSdk.SessionRouting

/-! Where a session connects while it follows redirects. A session has at most
one operation outstanding, so between a redirect and the answer of the resolver
nothing can connect; what is connected to afterwards is what the resolve state
has collected, on this host and on those before it. -/
namespace BeeSdk.SessionHops
open StateMachine TcpConnect HttpBody Session SessionRouting ConnectAttemptsProofs
open HttpMessage (bytesOf reading)

variable {Endpoint : Type}

/-- The endpoints of the present host: what its resolution has brought, and
nothing from a redirect until then. -/
def track (hop : List Endpoint) : Entry Endpoint → List Endpoint
  | .resolved endpoints => endpoints
  | .redirected _ _ => []
  | _ => hop

/-- A connect goes to one of these endpoints. -/
def Reaches (hop : List Endpoint) : Entry Endpoint → Prop
  | .connecting endpoint => ∃ known ∈ hop, endpoint = some known
  | _ => True

/-- Every connect goes to an endpoint of the present host. -/
def StaysOnHop : List Endpoint → List (Entry Endpoint) → Prop
  | _, [] => True
  | hop, entry :: rest => Reaches hop entry ∧ StaysOnHop (track hop entry) rest

instance [DecidableEq Endpoint] (hop : List Endpoint) (entry : Entry Endpoint) :
    Decidable (Reaches hop entry) :=
  match entry with
  | .connecting endpoint => inferInstanceAs (Decidable (∃ known ∈ hop, endpoint = some known))
  | .resolving _ _ | .resolved _ | .redirected _ _ | .rcvBody _ | .stopped _ | .output _ =>
    isTrue trivial

instance decidableStaysOnHop [DecidableEq Endpoint] :
    ∀ (hop : List Endpoint) (entries : List (Entry Endpoint)), Decidable (StaysOnHop hop entries)
  | _, [] => isTrue trivial
  | hop, entry :: rest =>
    have := decidableStaysOnHop (track hop entry) rest
    inferInstanceAs (Decidable (Reaches hop entry ∧ StaysOnHop (track hop entry) rest))

/-- The endpoints a completion brings, when it is one that resolves. -/
def resolution (surroundings : Surroundings Endpoint) (session : HttpSession Endpoint) :
    Operation → Completion Endpoint → Option (List Endpoint)
  | .resolve, .resolved _ endpoints => some endpoints
  | .execute state, .executed =>
    if state = eHttpState_Resolve ∧ session.resolveSetup = true then
      (surroundings.literal session.resolveHost session.resolveService).map fun found => [found]
    else none
  | _, _ => none

/-- What is resolved in the step includes everything collected before it. -/
def ResolvesAfresh (surroundings : Surroundings Endpoint) (session : HttpSession Endpoint) :
    Event Endpoint → Prop
  | .completes position completion _ => ∀ operation ∈ session.pending[position]?,
    ∀ endpoints ∈ resolution surroundings session operation completion,
      ∀ endpoint ∈ session.resolvedEndpoints, endpoint ∈ endpoints
  | .ticks _ _ => True

instance [DecidableEq Endpoint] (surroundings : Surroundings Endpoint)
    (session : HttpSession Endpoint) (event : Event Endpoint) :
    Decidable (ResolvesAfresh surroundings session event) :=
  match event with
  | .completes position completion _ => inferInstanceAs (Decidable
      (∀ operation ∈ session.pending[position]?,
        ∀ endpoints ∈ resolution surroundings session operation completion,
          ∀ endpoint ∈ session.resolvedEndpoints, endpoint ∈ endpoints))
  | .ticks _ _ => isTrue trivial

/-! ### Entries -/

def hopAfter (hop : List Endpoint) (entries : List (Entry Endpoint)) : List Endpoint :=
  entries.foldl track hop

theorem stays_append (hop : List Endpoint) (first second : List (Entry Endpoint)) :
    StaysOnHop hop (first ++ second) ↔
      StaysOnHop hop first ∧ StaysOnHop (hopAfter hop first) second := by
  induction first generalizing hop with
  | nil => simp [StaysOnHop, hopAfter]
  | cons entry rest ih =>
    rw [List.cons_append, StaysOnHop, StaysOnHop, ih, and_assoc]
    rfl

theorem hop_append (hop : List Endpoint) (first second : List (Entry Endpoint)) :
    hopAfter hop (first ++ second) = hopAfter (hopAfter hop first) second :=
  List.foldl_append

/-- An entry that neither connects nor changes the host. -/
def Idle (entry : Entry Endpoint) : Prop :=
  ∀ hop, Reaches hop entry ∧ track hop entry = hop

theorem idle_stays {entries : List (Entry Endpoint)} (idle : ∀ entry ∈ entries, Idle entry)
    (hop : List Endpoint) : StaysOnHop hop entries ∧ hopAfter hop entries = hop := by
  induction entries with
  | nil => exact ⟨trivial, rfl⟩
  | cons entry rest ih =>
    obtain ⟨stays, same⟩ := ih fun other member => idle other (by simp [member])
    obtain ⟨reaches, keeps⟩ := idle entry (by simp) hop
    refine ⟨⟨reaches, ?_⟩, ?_⟩
    · rw [keeps]
      exact stays
    · rw [hopAfter, List.foldl_cons, keeps]
      exact same

/-! ### What holds of a session on its way -/

/-- The time spent on an endpoint never exceeds the total, and both time out at
the same time: so an endpoint never times out alone. -/
structure Timed (state : TcpConnectState Endpoint) : Prop where
  spent : 0 ≤ state.currentSpentTime
  within : state.currentEndpointSpentTime ≤ state.currentSpentTime
  endpointTimeout : state.endpointTimeout = kDefaultTcpConnectTimeout
  totalTimeout : state.totalTimeout = kDefaultTcpConnectTimeout
  connectTimeout : state.inputEvent.connectTimeout = kDefaultTcpConnectTimeout

/-- The endpoints given to the connect state are those of the present host. -/
def Given (hop : List Endpoint) (state : TcpConnectState Endpoint) : Prop :=
  ∀ endpoint ∈ state.inputEvent.endpoints, endpoint ∈ hop

/-- The connect state is at work on them. -/
structure Trying (hop : List Endpoint) (state : TcpConnectState Endpoint) : Prop where
  given : Given hop state
  filled : state.inputEvent.endpoints ≠ []
  totalCount : state.totalCount = state.inputEvent.endpoints.length

/-- What an outstanding operation asks of the session. -/
def Awaits (hop : List Endpoint) (session : HttpSession Endpoint) : Operation → Prop
  | .execute state => state = eHttpState_Connect → Given hop session.connect
  | .connect _ => Trying hop session.connect
  | _ => True

structure OnHop (hop : List Endpoint) (session : HttpSession Endpoint) : Prop where
  single : session.pending.length ≤ 1
  timed : Timed session.connect
  awaits : ∀ operation ∈ session.pending, Awaits hop session operation

/-- From one session to the next, every connect noted stays on the hop, and the
session is on the hop it has come to. -/
def Moves (hop : List Endpoint) (before after : HttpSession Endpoint) : Prop :=
  ∃ entries, after.log = before.log ++ entries ∧ StaysOnHop hop entries ∧
    OnHop (hopAfter hop entries) after

/-! ### Moving -/

variable {hop : List Endpoint} {before middle after : HttpSession Endpoint}

/-- Only idle entries are noted. -/
def Idles (before after : HttpSession Endpoint) : Prop :=
  ∃ entries, after.log = before.log ++ entries ∧ ∀ entry ∈ entries, Idle entry

theorem Idles.of_log (same : after.log = before.log) : Idles before after :=
  ⟨[], by rw [same, List.append_nil], fun _ member => by cases member⟩

theorem Idles.moves (idles : Idles before after) (on : OnHop hop after) : Moves hop before after := by
  obtain ⟨entries, log, idle⟩ := idles
  obtain ⟨stays, same⟩ := idle_stays idle hop
  exact ⟨entries, log, stays, same.symm ▸ on⟩

/-- One entry is noted that does not connect elsewhere, and the session moves on. -/
theorem Moves.behind (entry : Entry Endpoint) (log : middle.log = before.log ++ [entry])
    (reaches : Reaches hop entry)
    (moves : Moves (track hop entry) middle after) : Moves hop before after := by
  obtain ⟨entries, log', stays, on⟩ := moves
  refine ⟨entry :: entries, ?_, ⟨reaches, stays⟩, on⟩
  rw [log', log, List.append_assoc]
  rfl

theorem Moves.of_log (same : middle.log = before.log) (moves : Moves hop middle after) :
    Moves hop before after := by
  obtain ⟨entries, log, stays, on⟩ := moves
  exact ⟨entries, by rw [log, same], stays, on⟩

/-- The connect state but for its output event. -/
def SameConnect (before after : HttpSession Endpoint) : Prop :=
  ∃ outputEvent, after.connect = { before.connect with outputEvent }

/-- The hop depends on the endpoints given, their count and what is outstanding. -/
theorem OnHop.carried (on : OnHop hop before) (pending : after.pending = before.pending)
    (timed : Timed after.connect)
    (inputEvent : after.connect.inputEvent = before.connect.inputEvent)
    (totalCount : after.connect.totalCount = before.connect.totalCount) : OnHop hop after := by
  refine ⟨pending ▸ on.single, timed, fun operation member => ?_⟩
  have awaits := on.awaits operation (pending ▸ member)
  cases operation with
  | execute state =>
    intro connects endpoint member
    rw [inputEvent] at member
    exact awaits connects endpoint member
  | connect index =>
    refine ⟨fun endpoint member => ?_, ?_, ?_⟩
    · rw [inputEvent] at member
      exact awaits.given endpoint member
    · rw [inputEvent]
      exact awaits.filled
    · rw [totalCount, inputEvent]
      exact awaits.totalCount
  | _ => trivial

theorem Timed.noted {state : TcpConnectState Endpoint} (timed : Timed state)
    (outputEvent : TcpConnectOutputEvent Endpoint) : Timed { state with outputEvent } :=
  ⟨timed.spent, timed.within, timed.endpointTimeout, timed.totalTimeout, timed.connectTimeout⟩

theorem OnHop.frame (on : OnHop hop before) (pending : after.pending = before.pending)
    (connect : SameConnect before after) : OnHop hop after := by
  obtain ⟨outputEvent, connect⟩ := connect
  exact on.carried pending (connect ▸ on.timed.noted outputEvent) (by rw [connect]) (by rw [connect])

theorem OnHop.of_none (nothing : after.pending = []) (timed : Timed after.connect) :
    OnHop hop after :=
  ⟨by rw [nothing]; exact Nat.zero_le 1, timed, fun _ member => by rw [nothing] at member; cases member⟩

theorem OnHop.of_one (one : after.pending = [operation]) (timed : Timed after.connect)
    (awaits : Awaits hop after operation) : OnHop hop after := by
  refine ⟨by rw [one]; exact Nat.le_refl 1, timed, fun other member => ?_⟩
  rw [one, List.mem_singleton] at member
  subst member
  exact awaits

theorem Moves.then_idles (moves : Moves hop before middle) (idles : Idles middle after)
    (pending : after.pending = middle.pending) (connect : SameConnect middle after) :
    Moves hop before after := by
  obtain ⟨entries, log, stays, on⟩ := moves
  obtain ⟨entries', log', idle⟩ := idles
  obtain ⟨stays', same⟩ := idle_stays idle (hopAfter hop entries)
  refine ⟨entries ++ entries', ?_, (stays_append _ _ _).mpr ⟨stays, stays'⟩, ?_⟩
  · rw [log', log, List.append_assoc]
  · rw [hop_append, same]
    exact on.frame pending connect

/-! ### `done` -/

variable (session : HttpSession Endpoint) (answers : Answers)

theorem setOutputEvent_frame (state : Int) (event : StateEvent) :
    (session.setOutputEvent state event).log = session.log ∧
      (session.setOutputEvent state event).pending = session.pending ∧
      (session.setOutputEvent state event).resolvedEndpoints = session.resolvedEndpoints ∧
      SameConnect session (session.setOutputEvent state event) := by
  unfold HttpSession.setOutputEvent
  split
  · exact ⟨rfl, rfl, rfl, _, rfl⟩
  · split
    · exact ⟨rfl, rfl, rfl, _, rfl⟩
    · split
      · exact ⟨rfl, rfl, rfl, _, rfl⟩
      · split <;> exact ⟨rfl, rfl, rfl, _, rfl⟩

/-- What a stop notes is idle. -/
private theorem stop_idles (event : StateEvent) (code : BeeErrorCode)
    (log : after.log = before.log ++ [.output event, .stopped code]) : Idles before after := by
  refine ⟨_, log, fun entry member => ?_⟩
  simp only [List.mem_cons, List.not_mem_nil, or_false] at member
  rcases member with rfl | rfl
  · exact fun _ => ⟨trivial, rfl⟩
  · exact fun _ => ⟨trivial, rfl⟩

/-- To conclude is to note idle entries only. -/
private theorem conclude_moves {state : Int} {result : Bool × StateEvent × HttpSession Endpoint}
    (moves : Moves hop session result.2.2) : Moves hop session (conclude state result) := by
  obtain ⟨advanced, event, next⟩ := result
  cases advanced with
  | true =>
    obtain ⟨log, pending, _, connect⟩ := setOutputEvent_frame next state event
    exact moves.then_idles (Idles.of_log log) pending connect
  | false =>
    obtain ⟨log, pending, _, connect⟩ :=
      setOutputEvent_frame (HttpSession.output event next) state event
    refine moves.then_idles (stop_idles event event.ec1 ?_) pending connect
    show ((HttpSession.output event next).setOutputEvent state event).log ++ _ = _
    rw [log]
    simp [HttpSession.note, HttpSession.output]

/-- `done` with nothing outstanding moves on; only the resolve state hands its
endpoints to the connect state. -/
theorem doneSetUp_moves (known : Known state) (nothing : session.pending = [])
    (timed : Timed session.connect)
    (collected : state = eHttpState_Resolve →
      ∀ endpoint ∈ session.resolvedEndpoints, endpoint ∈ hop) :
    Moves hop session (session.doneSetUp answers state) := by
  obtain ⟨result, routed, outcome⟩ := doneSetUp_routed answers session known
  rw [outcome]
  apply conclude_moves
  have stays : Moves hop session session :=
    (Idles.of_log rfl).moves (OnHop.of_none nothing timed)
  cases routed with
  | unset => exact stays
  | refused => exact stays
  | finished =>
    refine stays.then_idles ⟨[.rcvBody _], rfl, fun entry member => ?_⟩ rfl ⟨_, rfl⟩
    rw [List.mem_singleton.mp member]
    exact fun _ => ⟨trivial, rfl⟩
  | connects =>
    refine (Idles.of_log rfl).moves (OnHop.of_one (congrArg (· ++ _) nothing) ?_ ?_)
    · exact ⟨timed.spent, timed.within, timed.endpointTimeout, timed.totalTimeout,
        timed.connectTimeout⟩
    · exact fun _ => collected rfl
  | requests =>
    exact (Idles.of_log rfl).moves (OnHop.of_one (congrArg (· ++ _) nothing) timed
      fun connects => (by cases connects))
  | receives =>
    exact (Idles.of_log rfl).moves (OnHop.of_one (congrArg (· ++ _) nothing) timed
      fun connects => (by cases connects))
  | redirects _ _ _ _ _ host service =>
    refine Moves.behind (.redirected host service) rfl trivial
      ((Idles.of_log rfl).moves (OnHop.of_one (congrArg (· ++ _) nothing) timed
        fun connects => (by cases connects)))
  | embodies =>
    exact (Idles.of_log rfl).moves (OnHop.of_one (congrArg (· ++ _) nothing) timed
      fun connects => (by cases connects))
  | nowhere => exact (Idles.of_log rfl).moves (OnHop.of_none nothing timed)

private theorem Timed.of_same {before after : HttpSession Endpoint} (timed : Timed before.connect)
    (connect : SameConnect before after) : Timed after.connect := by
  obtain ⟨outputEvent, connect⟩ := connect
  exact connect ▸ timed.noted outputEvent

theorem done_moves (known : Known state) (nothing : session.pending = [])
    (timed : Timed session.connect)
    (collected : state = eHttpState_Resolve →
      ∀ endpoint ∈ session.resolvedEndpoints, endpoint ∈ hop)
    (ec1 : BeeErrorCode) (ec2 : ErrorCode) :
    Moves hop session (session.done answers state ec1 ec2) := by
  obtain ⟨log, pending, resolved, connect⟩ := setOutputEvent_frame session state
    { session.outputEvent state with ec1, ec2 }
  refine Moves.of_log log (doneSetUp_moves _ answers known ?_ (timed.of_same connect) ?_)
  · rw [pending, nothing]
  · rw [resolved]
    exact collected

theorem failed_connect_stays {state : Int} {event : StateEvent}
    {result : Bool × StateEvent × HttpSession Endpoint} (connects : state = eHttpState_Connect)
    (fails : event.ec1 ≠ .success) (routed : Routed answers session event state result) :
    result.2.2 = session := by
  cases routed with
  | unset => rfl
  | refused => rfl
  | finished => cases connects
  | connects => cases connects
  | requests _ fine => exact absurd fine fails
  | receives => cases connects
  | redirects => cases connects
  | embodies => cases connects
  | nowhere => cases connects

/-- A connect state that fails stops the machine, whatever is outstanding. -/
theorem done_fails (on : OnHop hop session) {ec1 : BeeErrorCode} (ec2 : ErrorCode)
    (fails : ec1 ≠ .success) :
    Moves hop session (session.done answers eHttpState_Connect ec1 ec2) := by
  obtain ⟨log, pending, _, connect⟩ := setOutputEvent_frame session eHttpState_Connect
    { session.outputEvent eHttpState_Connect with ec1, ec2 }
  obtain ⟨result, routed, outcome⟩ := doneSetUp_routed answers
    (session.setOutputEvent eHttpState_Connect
      { session.outputEvent eHttpState_Connect with ec1, ec2 }) .connect
  unfold HttpSession.done
  rw [outcome]
  refine Moves.of_log log (conclude_moves _ ?_)
  rw [failed_connect_stays _ answers rfl fails routed]
  exact (Idles.of_log rfl).moves (on.frame pending connect)

/-! ### Resolving -/

theorem handleResolve_moves (nothing : session.pending = []) (timed : Timed session.connect)
    (ec2 : ErrorCode) {endpoints : List Endpoint}
    (afresh : ∀ endpoint ∈ session.resolvedEndpoints, endpoint ∈ endpoints) :
    Moves hop session (session.handleResolve answers ec2 endpoints) := by
  unfold HttpSession.handleResolve
  refine Moves.behind (.resolved endpoints) ?_ trivial
    (done_moves _ answers .resolve ?_ ?_ (fun _ endpoint member => ?_) _ ec2)
  · rfl
  · exact nothing
  · exact timed
  · rcases List.mem_append.mp member with old | new
    · exact afresh endpoint old
    · exact new

theorem executeResolve_moves (surroundings : Surroundings Endpoint) (nothing : session.pending = [])
    (timed : Timed session.connect)
    (afresh : session.resolveSetup = true → ∀ found,
      surroundings.literal session.resolveHost session.resolveService = some found →
        ∀ endpoint ∈ session.resolvedEndpoints, endpoint = found) :
    Moves hop session (session.executeResolve surroundings answers).2 := by
  unfold HttpSession.executeResolve
  by_cases setup : session.resolveSetup = true
  · rw [if_neg (fun unset => unset setup)]
    simp only
    split
    · rename_i found literal
      refine Moves.behind (.resolving session.resolveHost session.resolveService) rfl
        trivial (Moves.behind (.resolved [found]) rfl
          trivial
          (doneSetUp_moves _ answers .resolve nothing timed fun _ endpoint member => ?_))
      rcases List.mem_append.mp member with old | new
      · exact List.mem_singleton.mpr (afresh setup found literal endpoint old)
      · exact new
    · refine Moves.behind (.resolving session.resolveHost session.resolveService) rfl
        trivial ((Idles.of_log rfl).moves
          (OnHop.of_one (congrArg (· ++ _) nothing) timed trivial))
  · rw [if_pos setup]
    exact (Idles.of_log rfl).moves (OnHop.of_none nothing timed)

/-! ### Connecting -/

/-- A connect state at work aims at an endpoint of the present host. -/
theorem Trying.target {state : TcpConnectState Endpoint} (trying : Trying hop state) :
    ∃ known ∈ hop, state.targetEndpoint = some known := by
  have filled := List.length_pos_iff.mpr trying.filled
  have within : state.targetIndex < state.inputEvent.endpoints.length := by
    unfold TcpConnectState.targetIndex
    rw [trying.totalCount]
    exact Nat.mod_lt _ filled
  refine ⟨state.inputEvent.endpoints[state.targetIndex], ?_, List.getElem?_eq_getElem within⟩
  exact trying.given _ (List.getElem_mem within)

theorem Timed.retried {state : TcpConnectState Endpoint} (timed : Timed state) :
    Timed (retried state).1 := by
  unfold ConnectAttemptsProofs.retried
  split
  · exact ⟨timed.spent, timed.spent, timed.endpointTimeout, timed.totalTimeout, timed.connectTimeout⟩
  · exact ⟨timed.spent, timed.spent, timed.endpointTimeout, timed.totalTimeout, timed.connectTimeout⟩

private theorem Trying.retried {state : TcpConnectState Endpoint} (trying : Trying hop state) :
    Trying hop (retried state).1 := by
  unfold ConnectAttemptsProofs.retried
  split
  · exact ⟨trying.given, trying.filled, trying.totalCount⟩
  · exact ⟨trying.given, trying.filled, trying.totalCount⟩

theorem retried_calls (state : TcpConnectState Endpoint) :
    (retried state).2 = [.resetSocket,
      .asyncConnect (retried state).1.targetEndpoint (retried state).1.index] := by
  unfold retried
  split <;> rfl

/-- A connect started with nothing else outstanding goes to the present host. -/
private theorem connecting_moves {state : TcpConnectState Endpoint} {index : Nat}
    (log : after.log = before.log ++ [.connecting state.targetEndpoint])
    (pending : after.pending = [.connect index]) (connect : after.connect = state)
    (timed : Timed state) (trying : Trying hop state) : Moves hop before after := by
  refine Moves.behind (.connecting state.targetEndpoint) log trying.target
    ((Idles.of_log rfl).moves (OnHop.of_one pending (connect ▸ timed) ?_))
  show Trying hop after.connect
  exact connect ▸ trying

theorem executeConnect_moves (nothing : session.pending = []) (timed : Timed session.connect)
    (given : Given hop session.connect) :
    Moves hop session (session.executeConnect answers).2 := by
  unfold HttpSession.executeConnect
  by_cases ready : Ready session.connect
  · rw [execute_starts ready session.nextTimer]
    refine connecting_moves rfl (congrArg (· ++ _) nothing) rfl ?_ ?_
    · exact ⟨timed.spent, timed.within, timed.endpointTimeout, timed.connectTimeout,
        timed.connectTimeout⟩
    · exact ⟨given, ready.2, rfl⟩
  · rw [execute_refuses ready]
    exact (Idles.of_log rfl).moves (OnHop.of_none nothing timed)

private theorem retried_moves {state : TcpConnectState Endpoint} (nothing : session.pending = [])
    (timed : Timed state) (trying : Trying hop state) :
    Moves hop session (session.afterConnect answers (retried state)) := by
  unfold HttpSession.afterConnect
  rw [retried_calls]
  exact connecting_moves rfl (congrArg (· ++ _) nothing) rfl timed.retried trying.retried

private theorem reported_moves {state : TcpConnectState Endpoint} (nothing : session.pending = [])
    (timed : Timed state) (ec1 : BeeErrorCode) (ec2 : ErrorCode) :
    Moves hop session (session.afterConnect answers (state, [.done ec1 ec2])) := by
  unfold HttpSession.afterConnect
  simp only [List.foldl_cons, List.foldl_nil, HttpSession.performConnect]
  exact Moves.of_log rfl (done_moves { session with connect := state } answers .connect nothing timed
    (fun resolve => (by cases resolve)) ec1 ec2)

/-- A success cancels the timer that is set and calls `done`. -/
private theorem succeeded_moves {state : TcpConnectState Endpoint} (nothing : session.pending = [])
    (timed : Timed state) (ec : ErrorCode) :
    Moves hop session (session.afterConnect answers (succeeded state ec)) := by
  have calls : (succeeded state ec).2 =
    .setConnected :: (state.checkTimer.map .cancelTimer).toList ++ [.done .success ec] := rfl
  have timed' : Timed (succeeded state ec).1 :=
    ⟨timed.spent, timed.within, timed.endpointTimeout, timed.totalTimeout, timed.connectTimeout⟩
  unfold HttpSession.afterConnect
  rw [calls]
  generalize (succeeded state ec).1 = connect at timed'
  cases state.checkTimer with
  | none =>
    simp only [Option.map_none, Option.toList_none, List.cons_append, List.nil_append,
      List.foldl_cons, List.foldl_nil, HttpSession.performConnect]
    exact Moves.of_log rfl (done_moves { session with connect, connected := true } answers .connect
      nothing timed' (fun resolve => (by cases resolve)) .success ec)
  | some timer =>
    simp only [Option.map_some, Option.toList_some, List.cons_append, List.nil_append,
      List.foldl_cons, List.foldl_nil, HttpSession.performConnect]
    exact Moves.of_log rfl (done_moves
      { session with connect, connected := true, timers := session.timers.filter (· ≠ timer) }
      answers .connect nothing timed' (fun resolve => (by cases resolve)) .success ec)

theorem handleConnect_moves (nothing : session.pending = []) (timed : Timed session.connect)
    (trying : Trying hop session.connect) (ec2 : ErrorCode) (index : Nat) :
    Moves hop session (session.afterConnect answers
      (session.connect.handleConnect session.isTls ec2 index)) := by
  rcases handleConnect_cases session.connect session.isTls ec2 index with
    ⟨_, outcome⟩ | ⟨_, _, _, outcome⟩ | ⟨_, _, _, _, outcome⟩ | ⟨_, _, _, outcome⟩ |
    ⟨_, _, _, outcome⟩
  · rw [outcome]
    exact (Idles.of_log rfl).moves (OnHop.of_none nothing timed)
  · rw [outcome]
    exact retried_moves session answers nothing timed trying
  · rw [outcome]
    exact reported_moves session answers nothing timed _ ec2
  · rw [outcome]
    exact (Idles.of_log rfl).moves (OnHop.of_one (congrArg (· ++ _) nothing) timed trivial)
  · rw [outcome]
    exact succeeded_moves session answers nothing timed ec2

theorem handleHandshake_moves (nothing : session.pending = []) (timed : Timed session.connect)
    (ec : ErrorCode) :
    Moves hop session (session.afterConnect answers (session.connect.handleHandshake ec)) := by
  cases error : ec.isError with
  | true =>
    rw [handleHandshake_fails session.connect error]
    exact reported_moves session answers nothing (timed.noted _) _ ec
  | false =>
    rw [handleHandshake_succeeds session.connect error]
    exact succeeded_moves session answers nothing timed ec

theorem Timed.ticked {state : TcpConnectState Endpoint} (timed : Timed state) : Timed (ticked state) := by
  have period : kTcpCheckConnectPeriod = 200 := rfl
  have spent := timed.spent
  have within := timed.within
  refine ⟨?_, ?_, timed.endpointTimeout, timed.totalTimeout, timed.connectTimeout⟩
  · simp only [ConnectAttemptsProofs.ticked]
    omega
  · simp only [ConnectAttemptsProofs.ticked]
    omega

/-- No endpoint times out before the whole. -/
theorem Timed.endpoint_waits {state : TcpConnectState Endpoint} (timed : Timed state)
    (waits : state.currentSpentTime + kTcpCheckConnectPeriod < state.totalTimeout) :
    ¬ state.endpointTimeout ≤ state.currentEndpointSpentTime + kTcpCheckConnectPeriod := by
  have within := timed.within
  have endpoint := timed.endpointTimeout
  have total := timed.totalTimeout
  omega

/-- A tick never connects. -/
theorem handlePeriodTimeout_moves (on : OnHop hop session) {outcome : TcpConnect.Outcome Endpoint}
    (ran : session.connect.handlePeriodTimeout session.isTls = some outcome) :
    Moves hop session (session.afterConnect answers outcome) := by
  have ticks := on.timed.ticked
  rcases handlePeriodTimeout_cases session.connect session.isTls with
    ⟨_, shape⟩ | ⟨waits, tired, _⟩ | ⟨_, _, shape⟩
  · rw [shape] at ran
    obtain ⟨timer, _, rfl⟩ := Option.map_eq_some_iff.mp ran
    refine Moves.of_log ?_ (done_fails
      { session with
        connect := { ticked session.connect with checkTimer := none }
        timers := session.timers.filter (· ≠ timer) } answers (on.carried rfl ?_ rfl rfl) .none ?_)
    · rfl
    · exact ⟨ticks.spent, ticks.within, ticks.endpointTimeout, ticks.totalTimeout,
        ticks.connectTimeout⟩
    · simp
  · exact absurd tired (on.timed.endpoint_waits waits)
  · rw [shape] at ran
    cases ran
    exact (Idles.of_log rfl).moves (on.carried rfl ticks rfl rfl)

/-! ### Sending and receiving -/

theorem executeRequest_moves (nothing : session.pending = []) (timed : Timed session.connect) :
    Moves hop session session.executeRequest.2 := by
  unfold HttpSession.executeRequest
  split
  · exact (Idles.of_log rfl).moves (OnHop.of_none nothing timed)
  · split
    · exact (Idles.of_log rfl).moves (OnHop.of_none nothing timed)
    · exact (Idles.of_log rfl).moves (OnHop.of_one (congrArg (· ++ _) nothing) timed trivial)

theorem executeRcvHeader_moves (nothing : session.pending = []) (timed : Timed session.connect) :
    Moves hop session session.executeRcvHeader.2 := by
  unfold HttpSession.executeRcvHeader
  split
  · exact (Idles.of_log rfl).moves (OnHop.of_none nothing timed)
  · split
    · exact (Idles.of_log rfl).moves (OnHop.of_none nothing timed)
    · exact (Idles.of_log rfl).moves (OnHop.of_one (congrArg (· ++ _) nothing) timed trivial)

theorem handleWrite_moves (nothing : session.pending = []) (timed : Timed session.connect)
    (ec2 : ErrorCode) (transBytes : Nat) :
    Moves hop session (session.handleWrite answers ec2 transBytes) := by
  unfold HttpSession.handleWrite
  split
  · exact done_moves session answers .request nothing timed (fun resolve => (by cases resolve)) _ ec2
  · refine Moves.of_log ?_ (done_moves _ answers .request ?_ ?_ (fun resolve => (by cases resolve))
      _ ec2)
    · rfl
    · exact nothing
    · exact timed

theorem handleReadHeader_moves (surroundings : Surroundings Endpoint)
    (nothing : session.pending = []) (timed : Timed session.connect) (ec2 : ErrorCode) :
    Moves hop session (session.handleReadHeader surroundings answers ec2) := by
  unfold HttpSession.handleReadHeader
  split
  · exact done_moves session answers .rcvHeader nothing timed (fun resolve => (by cases resolve)) _ ec2
  · simp only
    split
    · refine Moves.of_log ?_ (done_moves _ answers .rcvHeader ?_ ?_
        (fun resolve => (by cases resolve)) _ ec2)
      · rfl
      · exact nothing
      · exact timed
    · refine Moves.of_log ?_ (done_moves _ answers .rcvHeader ?_ ?_
        (fun resolve => (by cases resolve)) _ ec2)
      · rfl
      · exact nothing
      · exact timed

/-! ### The body -/

private theorem reads_moves {command : HttpBody.Command} (read : BodyCalls.Reads command)
    (nothing : session.pending = []) (timed : Timed session.connect) :
    Moves hop session (session.performBody answers command) := by
  cases read <;>
    exact (Idles.of_log rfl).moves (OnHop.of_one (congrArg (· ++ _) nothing) timed trivial)

theorem afterBody_moves {silent : Prop} {outcome : HttpBody.Outcome}
    (calls : BodyCalls.Calls silent outcome) (nothing : session.pending = [])
    (timed : Timed session.connect) : Moves hop session (session.afterBody answers outcome) := by
  unfold HttpSession.afterBody
  cases calls with
  | reads _ read calls =>
    rw [calls]
    exact Moves.of_log rfl (reads_moves
      { session with body := outcome.state, rcvStreambuf := outcome.rcvStreambuf } answers read
      nothing timed)
  | @streams command event _ read calls =>
    rw [calls]
    refine Moves.behind (.output event) rfl trivial (reads_moves
      (HttpSession.output event
        { session with body := outcome.state, rcvStreambuf := outcome.rcvStreambuf })
      answers read nothing timed)
  | @ends ec1 ec2 _ calls =>
    rw [calls]
    exact Moves.of_log rfl (done_moves
      { session with body := outcome.state, rcvStreambuf := outcome.rcvStreambuf } answers .rcvBody
      nothing timed (fun resolve => (by cases resolve)) ec1 ec2)

private theorem executeBody_moves (nothing : session.pending = [])
    (timed : Timed session.connect) :
    Moves hop session (session.afterBody answers (session.body.execute session.fsm)) := by
  have starts := BodyCalls.execute_starts session.body session.fsm
  revert starts
  generalize session.body.execute session.fsm = outcome
  intro starts
  unfold HttpSession.afterBody
  cases starts with
  | fails _ calls =>
    rw [calls]
    exact (Idles.of_log rfl).moves (OnHop.of_none nothing timed)
  | reads _ read calls =>
    rw [calls]
    exact Moves.of_log rfl (reads_moves
      { session with body := outcome.state, rcvStreambuf := outcome.rcvStreambuf } answers read
      nothing timed)
  | sets _ _ calls =>
    rw [calls]
    exact Moves.of_log rfl (doneSetUp_moves
      { session with body := outcome.state, rcvStreambuf := outcome.rcvStreambuf } answers .rcvBody
      nothing timed (fun resolve => (by cases resolve)))

/-! ### Steps -/

theorem executeState_moves (surroundings : Surroundings Endpoint) (state : Int)
    (nothing : session.pending = []) (timed : Timed session.connect)
    (given : state = eHttpState_Connect → Given hop session.connect)
    (afresh : state = eHttpState_Resolve → session.resolveSetup = true → ∀ found,
      surroundings.literal session.resolveHost session.resolveService = some found →
        ∀ endpoint ∈ session.resolvedEndpoints, endpoint = found) :
    Moves hop session (session.executeState surroundings answers state) := by
  obtain ⟨result, executed, step⟩ := executeState_executed answers session surroundings state
  rw [step]
  have moves : Moves hop session result.2 := by
    cases executed with
    | resolve =>
      exact executeResolve_moves session answers surroundings nothing timed (afresh rfl)
    | connect => exact executeConnect_moves session answers nothing timed (given rfl)
    | request => exact executeRequest_moves session nothing timed
    | rcvHeader => exact executeRcvHeader_moves session nothing timed
    | rcvBody => exact executeBody_moves session answers nothing timed
  obtain ⟨code, next⟩ := result
  by_cases fine : code = .success
  · simp only [if_neg (fun fails : code ≠ .success => fails fine)]
    exact moves
  · have fails : code ≠ .success := fine
    simp only [if_pos fails]
    obtain ⟨log, pending, _, connect⟩ := setOutputEvent_frame next state
      { next.outputEvent state with ec1 := code }
    refine moves.then_idles (stop_idles { next.outputEvent state with ec1 := code } code ?_) pending
      connect
    simp [HttpSession.note, HttpSession.output, log]

/-- What the completion of the one operation outstanding comes to. -/
theorem complete_moves (surroundings : Surroundings Endpoint) {operation : Operation}
    {completion : Completion Endpoint} (nothing : session.pending = [])
    (timed : Timed session.connect) (awaits : Awaits hop session operation)
    (afresh : ∀ endpoints ∈ resolution surroundings session operation completion,
      ∀ endpoint ∈ session.resolvedEndpoints, endpoint ∈ endpoints)
    (completes : session.complete surroundings answers operation completion = some after) :
    Moves hop session after := by
  cases operation with
  | execute state =>
    cases completion with
    | executed =>
      cases completes
      refine executeState_moves session answers surroundings state nothing timed awaits ?_
      intro resolve setup found literal endpoint member
      refine List.mem_singleton.mp (afresh [found] ?_ endpoint member)
      simp [resolution, resolve, setup, literal]
    | _ => cases completes
  | resolve =>
    cases completion with
    | resolved ec2 endpoints =>
      cases completes
      exact handleResolve_moves session answers nothing timed ec2 (afresh endpoints rfl)
    | _ => cases completes
  | connect index =>
    cases completion with
    | ended ec2 =>
      cases completes
      exact handleConnect_moves session answers nothing timed awaits ec2 index
    | _ => cases completes
  | handshake =>
    cases completion with
    | ended ec2 =>
      cases completes
      exact handleHandshake_moves session answers nothing timed ec2
    | _ => cases completes
  | write =>
    cases completion with
    | written ec2 bytes =>
      cases completes
      exact handleWrite_moves session answers nothing timed ec2 bytes
    | _ => cases completes
  | readHeader =>
    cases completion with
    | received ec2 bytes =>
      cases completes
      exact Moves.of_log rfl (handleReadHeader_moves
        { session with rcvStreambuf := session.rcvStreambuf ++ bytes } answers surroundings nothing
        timed ec2)
    | _ => cases completes
  | readChunkSizeLine delim =>
    cases completion with
    | received ec2 bytes =>
      cases completes
      exact Moves.of_log rfl (afterBody_moves
        { session with rcvStreambuf := session.rcvStreambuf ++ bytes } answers
        (BodyCalls.handleReadChunkSize_calls _ _ ec2) nothing timed)
    | _ => cases completes
  | readChunkBody atLeast =>
    cases completion with
    | received ec2 bytes =>
      cases completes
      exact Moves.of_log rfl (afterBody_moves
        { session with rcvStreambuf := session.rcvStreambuf ++ bytes } answers
        (BodyCalls.handleReadChunkBody_calls _ _ ec2) nothing timed)
    | _ => cases completes
  | postChunkBody =>
    cases completion with
    | executed =>
      cases completes
      exact afterBody_moves session answers (BodyCalls.handleReadChunkBody_calls _ _ .none) nothing
        timed
    | _ => cases completes
  | readContent atLeast needLen =>
    cases completion with
    | received ec2 bytes =>
      cases completes
      exact Moves.of_log rfl (afterBody_moves
        { session with rcvStreambuf := session.rcvStreambuf ++ bytes } answers
        (BodyCalls.handleReadContent_calls _ _ ec2 needLen) nothing timed)
    | _ => cases completes

/-- What is left once the one operation outstanding has completed. -/
theorem alone {pending : List Operation} {operation : Operation} {position : Nat}
    (single : pending.length ≤ 1) (held : pending[position]? = some operation) :
    pending.eraseIdx position = [] := by
  obtain ⟨within, _⟩ := List.getElem?_eq_some_iff.mp held
  apply List.length_eq_zero_iff.mp
  rw [List.length_eraseIdx_of_lt within]
  omega

private theorem Moves.flushed (moves : Moves hop before after) (fresh : before.log = []) :
    StaysOnHop hop after.flush.1 ∧ OnHop (hopAfter hop after.flush.1) after.flush.2 := by
  obtain ⟨entries, log, stays, on⟩ := moves
  rw [fresh, List.nil_append] at log
  unfold HttpSession.flush
  rw [log]
  exact ⟨stays, on.carried rfl on.timed rfl rfl⟩

/-- One step of a session on a hop connects there and leaves it on a hop. -/
theorem step_moves (surroundings : Surroundings Endpoint) {event : Event Endpoint}
    (on : OnHop hop session) (afresh : ResolvesAfresh surroundings session event)
    (taken : HttpSession.step surroundings session event = some (entries, after)) :
    StaysOnHop hop entries ∧ OnHop (hopAfter hop entries) after := by
  cases event with
  | ticks timer answers =>
    simp only [HttpSession.step] at taken
    split at taken
    · obtain ⟨outcome, ran, shape⟩ := Option.map_eq_some_iff.mp taken
      cases shape
      exact (handlePeriodTimeout_moves { session with log := [] } answers
        (on.carried rfl on.timed rfl rfl) ran).flushed rfl
    · cases taken
  | completes position completion answers =>
    obtain ⟨operation, held, rest⟩ := Option.bind_eq_some_iff.mp taken
    obtain ⟨completed, completes, shape⟩ := Option.map_eq_some_iff.mp rest
    cases shape
    have awaits := on.awaits operation (List.mem_of_getElem? held)
    have afresh := afresh operation held
    refine (complete_moves { session with log := [], pending := session.pending.eraseIdx position }
      answers surroundings (alone on.single held) on.timed ?_ ?_ completes).flushed rfl
    · cases operation <;> exact awaits
    · cases operation <;> cases completion <;> exact afresh

/-! ### Runs -/

/-- A session on a hop stays on it, from redirect to redirect, while every
resolution includes what was collected before it. -/
theorem run_stays (surroundings : Surroundings Endpoint) {final : HttpSession Endpoint}
    (on : OnHop hop session)
    (afresh : Runs.AllSteps (HttpSession.step surroundings) (ResolvesAfresh surroundings) session events)
    (ran : Runs.run (HttpSession.step surroundings) session events = some (replies, final)) :
    StaysOnHop hop replies.flatten := by
  induction events generalizing session hop replies with
  | nil =>
    cases ran
    trivial
  | cons event events ih =>
    obtain ⟨entries, next, rest, taken, remainder, rfl⟩ := Runs.run_cons_inv ran
    obtain ⟨stays, on⟩ := step_moves session surroundings on afresh.1 taken
    rw [List.flatten_cons, stays_append]
    exact ⟨stays, ih next on (afresh.2 entries next taken) remainder⟩

private theorem requested_on_hop {request : HttpRequest} {waitContentComplete : Bool}
    (starts : HttpSession.requested request waitContentComplete = some session) :
    OnHop hop session := by
  unfold HttpSession.requested at starts
  simp only at starts
  split at starts
  · cases starts
  · cases starts
    refine OnHop.of_one rfl ⟨?_, ?_, rfl, rfl, rfl⟩ fun connects => (by cases connects)
    · exact Int.le_refl 0
    · exact Int.le_refl 0

/-- In every run of a session that is requested, while every resolution includes
what was collected before it, each connect goes to an endpoint that the present
host resolved to. -/
theorem redirects_stay_on_hop (surroundings : Surroundings Endpoint) {request : HttpRequest}
    {waitContentComplete : Bool} {final : HttpSession Endpoint}
    (starts : HttpSession.requested request waitContentComplete = some session)
    (afresh : Runs.AllSteps (HttpSession.step surroundings) (ResolvesAfresh surroundings) session events)
    (ran : Runs.run (HttpSession.step surroundings) session events = some (replies, final)) :
    StaysOnHop [] replies.flatten :=
  run_stays session surroundings (requested_on_hop session starts) afresh ran

def foundPath : List UInt8 := bytesOf "HTTP/1.1 302 Found\r\nLocation: /new\r\n\r\n"

def foundHost : List UInt8 := bytesOf "HTTP/1.1 302 Found\r\nLocation: http://10.0.0.2/\r\n\r\n"

/-- Two addresses. -/
def twoHosts : Surroundings Nat := reading (fun host _ =>
  if host = "10.0.0.1".toList then some 1
  else if host = "10.0.0.2".toList then some 2
  else none) 0

/-- `GET` of the first address. -/
def firstRequest : HttpRequest where
  isHttps := false
  host := "10.0.0.1"
  path := "/"
  proxyHost := ""
  proxyPort := 0

/-- A connect and a request that succeed, a header that redirects, and the first
attempt to connect behind it. -/
def redirectedBy (header : List UInt8) : List (Event Nat) :=
  [.completes 0 .executed {}, .completes 0 .executed {}, .completes 0 (.ended .none) {},
    .completes 0 .executed {}, .completes 0 (.written .none 18) {}, .completes 0 .executed {},
    .completes 0 (.received .none header) {}, .completes 0 .executed {}, .completes 0 .executed {}]

private theorem path_redirect_afresh :
    ((HttpSession.requested firstRequest true).bind fun session =>
      (Runs.run (HttpSession.step twoHosts) session (redirectedBy foundPath)).map fun _ =>
        decide (Runs.AllSteps (HttpSession.step twoHosts) (ResolvesAfresh twoHosts) session
          (redirectedBy foundPath))) = some true := by
  decide +kernel

/-- The same host is resolved to the same address again. -/
theorem redirects_stay_on_hop_same_host : ∃ session replies final,
    HttpSession.requested firstRequest true = some session ∧
    Runs.run (HttpSession.step twoHosts) session (redirectedBy foundPath) = some (replies, final) ∧
    StaysOnHop [] replies.flatten := by
  obtain ⟨session, starts, rest⟩ := Option.bind_eq_some_iff.mp path_redirect_afresh
  obtain ⟨⟨replies, final⟩, ran, afresh⟩ := Option.map_eq_some_iff.mp rest
  exact ⟨session, replies, final, starts, ran,
    redirects_stay_on_hop session twoHosts starts (of_decide_eq_true afresh) ran⟩

private theorem redirect_strays :
    ((HttpSession.requested firstRequest true).bind fun session =>
      (Runs.run (HttpSession.step twoHosts) session (redirectedBy foundHost)).map
        fun result => decide (StaysOnHop [] result.1.flatten)) = some false := by
  decide +kernel

/-- Behind a redirect to the second address the first is connected to. -/
theorem redirect_connects_to_former_host : ∃ session replies final,
    HttpSession.requested firstRequest true = some session ∧
    Runs.run (HttpSession.step twoHosts) session (redirectedBy foundHost) = some (replies, final) ∧
    ¬ StaysOnHop [] replies.flatten := by
  obtain ⟨session, starts, rest⟩ := Option.bind_eq_some_iff.mp redirect_strays
  obtain ⟨⟨replies, final⟩, ran, strays⟩ := Option.map_eq_some_iff.mp rest
  exact ⟨session, replies, final, starts, ran, of_decide_eq_false strays⟩

end BeeSdk.SessionHops
