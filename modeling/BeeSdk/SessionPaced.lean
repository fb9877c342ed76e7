import BeeSdk.SessionHops

/-! What a step hands over and outputs, and what it leaves outstanding. A session
that waits for the whole body outputs only when nothing is outstanding any more;
the one exception is the timer that watches a connect, which outputs under it. -/
namespace BeeSdk.SessionPaced
open StateMachine TcpConnect HttpBody Session SessionRouting SessionHops ConnectAttemptsProofs

variable {Endpoint : Type}

/-! ### What is heard of a step -/

/-- An entry that the user of a session hears of. -/
def voiced : Entry Endpoint → Bool
  | .rcvBody _ => true
  | .output _ => true
  | _ => false

/-- Neither code of the event is an error. -/
def Fine (event : StateEvent) : Prop := event.ec1 = .success ∧ event.ec2.isError = false

/-- The state is none of those before the body. -/
structure AtBody (state : Int) : Prop where
  resolved : state ≠ eHttpState_Resolve
  connected : state ≠ eHttpState_Connect
  requested : state ≠ eHttpState_Request
  headed : state ≠ eHttpState_RcvHeader

/-- What can be heard of a step at a state: an event that is output, or at the
body a content and the event that is output behind it, which says `Finished`
where everyone agrees to the content. -/
inductive Voices (verdict : Verdict) (stage : Int) : List (Entry Endpoint) → Prop where
  | none : Voices verdict stage []
  | output (event : StateEvent) : Voices verdict stage [.output event]
  | content (body : AtBody stage)
      (finishes : Fine event → verdict.Agrees → other.ec1 = .stateMachineFinished) :
      Voices verdict stage [.rcvBody event, .output other]

/-! ### What is outstanding -/

/-- An operation that a timer watches. -/
def Connects : Operation → Prop
  | .connect _ => True
  | .handshake => True
  | _ => False

/-- What holds of a session whatever is outstanding: it waits for whole bodies,
and a timer that runs is the one of its connect state. -/
structure Steady (session : HttpSession Endpoint) : Prop where
  timed : Timed session.connect
  waits : session.waitContentComplete = true
  bodyWaits : session.body.waitComplete = true
  checked : ∀ timer ∈ session.timers, session.connect.checkTimer = some timer

/-- At most one operation is outstanding, and while a timer runs it is one that
connects. -/
structure Paced (session : HttpSession Endpoint) : Prop where
  steady : Steady session
  single : session.pending.length ≤ 1
  connecting : session.timers ≠ [] → ∀ operation ∈ session.pending, Connects operation

/-- Nothing is outstanding, but the timer of a connect may still run. -/
structure Idle (session : HttpSession Endpoint) : Prop where
  steady : Steady session
  nothing : session.pending = []

/-- Nothing is outstanding and no timer runs. -/
structure Resting (session : HttpSession Endpoint) : Prop where
  steady : Steady session
  nothing : session.pending = []
  untimed : session.timers = []

/-- From one session to the next, what is heard leaves nothing outstanding. -/
def Leads (verdict : Verdict) (stage : Int) (before after : HttpSession Endpoint) : Prop :=
  ∃ entries, after.log = before.log ++ entries ∧ Voices verdict stage (entries.filter voiced) ∧
    (entries.filter voiced ≠ [] → after.pending = []) ∧ Paced after

variable {before middle after session : HttpSession Endpoint} {verdict : Verdict} {stage : Int}

theorem Paced.of_none (steady : Steady session) (nothing : session.pending = []) : Paced session :=
  ⟨steady, by rw [nothing]; exact Nat.zero_le 1, fun _ _ member => by rw [nothing] at member; cases member⟩

theorem Paced.of_one (operation : Operation) (steady : Steady session) (one : session.pending = [operation])
    (connecting : session.timers ≠ [] → Connects operation) : Paced session := by
  refine ⟨steady, by rw [one]; exact Nat.le_refl 1, fun timed other member => ?_⟩
  rw [one, List.mem_singleton] at member
  exact member ▸ connecting timed

/-- The fields a session at rest depends on. -/
theorem Resting.frame (rests : Resting before) (connect : after.connect = before.connect)
    (pending : after.pending = before.pending) (timers : after.timers = before.timers)
    (waits : after.waitContentComplete = before.waitContentComplete)
    (bodyWaits : after.body.waitComplete = before.body.waitComplete) : Resting after := by
  refine ⟨⟨?_, waits.trans rests.steady.waits, bodyWaits.trans rests.steady.bodyWaits, ?_⟩,
    pending.trans rests.nothing, timers.trans rests.untimed⟩
  · rw [connect]
    exact rests.steady.timed
  · rw [timers, connect]
    exact rests.steady.checked

/-- One operation is started in a session at rest. -/
theorem Resting.awaits (rests : Resting session) (operation : Operation) :
    Paced (session.await operation) := by
  refine .of_one operation ?_ ?_ fun timed => absurd rests.untimed timed
  · exact ⟨rests.steady.timed, rests.steady.waits, rests.steady.bodyWaits, rests.steady.checked⟩
  · show session.pending ++ [operation] = [operation]
    rw [rests.nothing, List.nil_append]

theorem Leads.silent (log : after.log = before.log) (paced : Paced after) :
    Leads verdict stage before after :=
  ⟨[], by rw [log, List.append_nil], .none, fun heard => absurd rfl heard, paced⟩

theorem Leads.of_log (log : middle.log = before.log) (leads : Leads verdict stage middle after) :
    Leads verdict stage before after := by
  obtain ⟨entries, log', voices⟩ := leads
  exact ⟨entries, by rw [log', log], voices⟩

/-- An entry that nobody hears of changes nothing. -/
theorem Leads.behind (entry : Entry Endpoint) (log : middle.log = before.log ++ [entry])
    (unvoiced : voiced entry = false) (leads : Leads verdict stage middle after) :
    Leads verdict stage before after := by
  obtain ⟨entries, log', voices, nothing, paced⟩ := leads
  have heard : (entry :: entries).filter voiced = entries.filter voiced :=
    List.filter_cons_of_neg (by simp [unvoiced])
  refine ⟨entry :: entries, ?_, ?_, ?_, paced⟩
  · rw [log', log, List.append_assoc]
    rfl
  · rw [heard]
    exact voices
  · rw [heard]
    exact nothing

/-- What `execute` comes to: it fails before anything is noted or started, or it
goes on. -/
inductive Executes (verdict : Verdict) (stage : Int) (before : HttpSession Endpoint)
    (result : BeeErrorCode × HttpSession Endpoint) : Prop where
  | fails (log : result.2.log = before.log) (idle : Idle result.2)
  | goes (fine : result.1 = .success) (leads : Leads verdict stage before result.2)

/-! ### `done` -/

theorem setOutputEvent_timers (session : HttpSession Endpoint) (state : Int) (event : StateEvent) :
    (session.setOutputEvent state event).timers = session.timers ∧
      (session.setOutputEvent state event).waitContentComplete = session.waitContentComplete ∧
      (session.setOutputEvent state event).body.waitComplete = session.body.waitComplete := by
  unfold HttpSession.setOutputEvent
  split
  · exact ⟨rfl, rfl, rfl⟩
  · split
    · exact ⟨rfl, rfl, rfl⟩
    · split
      · exact ⟨rfl, rfl, rfl⟩
      · split <;> exact ⟨rfl, rfl, rfl⟩

theorem Steady.setOutputEvent (steady : Steady session) (state : Int) (event : StateEvent) :
    Steady (session.setOutputEvent state event) := by
  obtain ⟨_, _, _, outputEvent, connect⟩ := setOutputEvent_frame session state event
  obtain ⟨timers, waits, bodyWaits⟩ := setOutputEvent_timers session state event
  refine ⟨?_, waits.trans steady.waits, bodyWaits.trans steady.bodyWaits, ?_⟩
  · rw [connect]
    exact steady.timed.noted outputEvent
  · rw [timers, connect]
    exact steady.checked

theorem Paced.setOutputEvent (paced : Paced session) (state : Int) (event : StateEvent) :
    Paced (session.setOutputEvent state event) := by
  obtain ⟨_, pending, _⟩ := setOutputEvent_frame session state event
  obtain ⟨timers, _⟩ := setOutputEvent_timers session state event
  refine ⟨paced.steady.setOutputEvent state event, pending ▸ paced.single, ?_⟩
  rw [timers, pending]
  exact paced.connecting

theorem Resting.setOutputEvent (rests : Resting session) (state : Int) (event : StateEvent) :
    Resting (session.setOutputEvent state event) := by
  obtain ⟨_, pending, _⟩ := setOutputEvent_frame session state event
  obtain ⟨timers, _⟩ := setOutputEvent_timers session state event
  exact ⟨rests.steady.setOutputEvent state event, pending.trans rests.nothing,
    timers.trans rests.untimed⟩

/-- A state that has switched changes its own output event only. -/
private theorem advanced_leads {state : Int} {event : StateEvent}
    (leads : Leads verdict stage before middle) :
    Leads verdict stage before (conclude state (true, event, middle)) := by
  obtain ⟨entries, log, voices, nothing, paced⟩ := leads
  obtain ⟨log', pending, _⟩ := setOutputEvent_frame middle state event
  exact ⟨entries, log'.trans log, voices, fun heard => pending.trans (nothing heard),
    paced.setOutputEvent state event⟩

/-- What is noted once a state has output an event. -/
private theorem stopped_log (state : Int) (event : StateEvent) (next : HttpSession Endpoint) :
    (conclude state (false, event, next)).log = next.log ++ [.output event, .stopped event.ec1] := by
  show ((HttpSession.output event next).setOutputEvent state event).log ++ _ = _
  rw [(setOutputEvent_frame (HttpSession.output event next) state event).1]
  simp [HttpSession.note, HttpSession.output]

private theorem stopped_frame (state : Int) (event : StateEvent) (next : HttpSession Endpoint) :
    (conclude state (false, event, next)).pending = next.pending ∧
      (conclude state (false, event, next)).timers = next.timers :=
  ⟨(setOutputEvent_frame (HttpSession.output event next) state event).2.1,
    (setOutputEvent_timers (HttpSession.output event next) state event).1⟩

private theorem Steady.stopped (steady : Steady session) (state : Int) (event : StateEvent) :
    Steady (conclude state (false, event, session)) := by
  have outputs : Steady (HttpSession.output event session) :=
    ⟨steady.timed, steady.waits, steady.bodyWaits, steady.checked⟩
  have noted := outputs.setOutputEvent state event
  exact ⟨noted.timed, noted.waits, noted.bodyWaits, noted.checked⟩

/-- A state that outputs leaves what was outstanding as it was. -/
private theorem stopped_leads {state : Int} {event : StateEvent} (steady : Steady session)
    (nothing : session.pending = []) :
    Leads verdict stage session (conclude state (false, event, session)) := by
  have nothing' := (stopped_frame state event session).1.trans nothing
  exact ⟨[.output event, .stopped event.ec1], stopped_log state event session, .output event,
    fun _ => nothing', .of_none (steady.stopped state event) nothing'⟩

/-! ### Routing -/

/-- No transform makes the body state stop waiting. -/
private theorem transform_waits {answers : Answers} {state target : Int} {other : HttpSession Endpoint}
    {transform : StateEvent → HttpSession Endpoint → Bool × StateEvent × HttpSession Endpoint}
    (found : (session.wiring answers state).transform target = some transform)
    (waits : other.waitContentComplete = true) (bodyWaits : other.body.waitComplete = true)
    (event : StateEvent) : (transform event other).2.2.body.waitComplete = true := by
  simp only [HttpSession.wiring] at found
  split at found
  · cases found
    unfold HttpSession.transformResolveToConnect
    split <;> exact bodyWaits
  split at found
  · cases found
    exact bodyWaits
  split at found
  · cases found
    exact bodyWaits
  split at found
  · cases found
    unfold HttpSession.transformRcvHeaderToRedirection HttpSession.redirect
    dsimp only
    repeat' split
    all_goals exact bodyWaits
  split at found
  · cases found
    exact waits
  · cases found

private theorem route_waits (answers : Answers) (event : StateEvent) (known : Known state)
    (waits : session.waitContentComplete = true) (bodyWaits : session.body.waitComplete = true) :
    (route (session.wiring answers state) event session).2.2.body.waitComplete = true := by
  by_cases header : state = eHttpState_RcvHeader
  · subst header
    cases setup : event.setup with
    | false =>
      rw [route_unset setup]
      exact bodyWaits
    | true =>
      rw [route_set setup rfl rfl]
      split
      · exact bodyWaits
      split
      · exact bodyWaits
      split
      · exact bodyWaits
      · rename_i found
        exact transform_waits found waits bodyWaits _
  · have routed := route_routed answers session event known
    generalize route (session.wiring answers state) event session = result at routed
    cases routed with
    | embodies => exact absurd rfl header
    | redirects => exact absurd rfl header
    | _ => exact bodyWaits

/-- What an untimed session that has posted one operation is like. -/
private theorem posted_paced {operation : Operation} (timed : Timed session.connect)
    (waits : session.waitContentComplete = true) (bodyWaits : session.body.waitComplete = true)
    (untimed : session.timers = []) (one : session.pending = [operation]) : Paced session :=
  .of_one operation ⟨timed, waits, bodyWaits, fun _ member => by rw [untimed] at member; cases member⟩ one
    fun timers => absurd untimed timers

variable (answers : Answers)

/-- Any state but the one of the body goes on or outputs. -/
private theorem doneSetUp_goes (known : Known state) (other : state ≠ eHttpState_RcvBody)
    (rests : Resting session) : Leads verdict stage session (session.doneSetUp answers state) := by
  have steady := rests.steady
  have posted : ∀ target, session.pending ++ [Operation.execute target] = [.execute target] :=
    fun target => by rw [rests.nothing, List.nil_append]
  rw [doneSetUp_concludes]
  have bodyWaits := route_waits answers (session.outputEvent state) known steady.waits steady.bodyWaits
  have routed := route_routed answers session (session.outputEvent state) known
  generalize route (session.wiring answers state) (session.outputEvent state) session = result
    at routed bodyWaits
  cases routed with
  | unset => exact stopped_leads steady rests.nothing
  | refused => exact stopped_leads steady rests.nothing
  | finished => exact absurd rfl other
  | connects =>
    have timed := steady.timed
    refine advanced_leads (.silent rfl (posted_paced ?_ steady.waits bodyWaits rests.untimed (posted _)))
    exact ⟨timed.spent, timed.within, timed.endpointTimeout, timed.totalTimeout, timed.connectTimeout⟩
  | requests =>
    exact advanced_leads
      (.silent rfl (posted_paced steady.timed steady.waits bodyWaits rests.untimed (posted _)))
  | receives =>
    exact advanced_leads
      (.silent rfl (posted_paced steady.timed steady.waits bodyWaits rests.untimed (posted _)))
  | redirects =>
    exact advanced_leads (.behind (.redirected _ _) rfl rfl
      (.silent rfl (posted_paced steady.timed steady.waits bodyWaits rests.untimed (posted _))))
  | embodies =>
    exact advanced_leads
      (.silent rfl (posted_paced steady.timed steady.waits bodyWaits rests.untimed (posted _)))
  | nowhere =>
    exact Leads.of_log rfl (stopped_leads
      ⟨steady.timed, steady.waits, bodyWaits, steady.checked⟩ rests.nothing)

/-- The router of the body has heard of the content before its event is output. -/
private theorem handed_leads {event other : StateEvent} (body : AtBody stage)
    (rests : Resting session)
    (finishes : Fine event → verdict.Agrees → other.ec1 = .stateMachineFinished) :
    Leads verdict stage session
      (conclude eHttpState_RcvBody (false, other, session.note (.rcvBody event))) := by
  have steady := rests.steady
  have noted : Steady (session.note (.rcvBody event)) :=
    ⟨steady.timed, steady.waits, steady.bodyWaits, steady.checked⟩
  have nothing := (stopped_frame eHttpState_RcvBody other (session.note (.rcvBody event))).1.trans
    rests.nothing
  refine ⟨[.rcvBody event, .output other, .stopped other.ec1], ?_, .content body finishes,
    fun _ => nothing, .of_none (noted.stopped eHttpState_RcvBody other) nothing⟩
  rw [stopped_log]
  simp [HttpSession.note]

private theorem doneSetUp_hands (body : AtBody stage) (rests : Resting session) :
    Leads answers.verdict stage session (session.doneSetUp answers eHttpState_RcvBody) := by
  rw [doneSetUp_concludes]
  generalize session.outputEvent eHttpState_RcvBody = event
  cases setup : event.setup with
  | false =>
    rw [route_unset setup]
    exact stopped_leads rests.steady rests.nothing
  | true =>
    have held : (session.wiring answers eHttpState_RcvBody).router =
      some fun event session => ((onRcvBody answers.verdict event).1,
        (onRcvBody answers.verdict event).2, session.note (.rcvBody event)) := rfl
    rw [route_set setup held rfl]
    rcases consult_cases answers.verdict event fun event => (kFinishedState, event) with
      ⟨other, refuses, differ⟩ | ⟨_, agrees⟩
    · have refuses : onRcvBody answers.verdict event = (kInvalidState, other) := refuses
      rw [refuses, if_pos rfl]
      exact handed_leads body rests fun fine agree => absurd ⟨fine.1, fine.2, agree⟩ differ
    · have agrees : onRcvBody answers.verdict event = (kFinishedState, event) := agrees
      rw [agrees, if_neg (show kFinishedState ≠ kInvalidState by decide), if_pos rfl]
      exact handed_leads body rests fun _ _ => rfl

theorem doneSetUp_leads (known : Known state) (body : state = eHttpState_RcvBody → AtBody stage)
    (rests : Resting session) :
    Leads answers.verdict stage session (session.doneSetUp answers state) := by
  by_cases last : state = eHttpState_RcvBody
  · rw [last]
    exact doneSetUp_hands answers (body last) rests
  · exact doneSetUp_goes answers known last rests

theorem done_leads (known : Known state) (body : state = eHttpState_RcvBody → AtBody stage)
    (rests : Resting session) (ec1 : BeeErrorCode) (ec2 : ErrorCode) :
    Leads answers.verdict stage session (session.done answers state ec1 ec2) :=
  Leads.of_log (setOutputEvent_frame session state _).1
    (doneSetUp_leads answers known body (rests.setOutputEvent state _))

/-- A connect state that fails outputs, and leaves everything outstanding as it
was. -/
theorem done_fails (session : HttpSession Endpoint) {ec1 : BeeErrorCode} (ec2 : ErrorCode)
    (fails : ec1 ≠ .success) (steady : Steady session) : ∃ event : StateEvent,
    (session.done answers eHttpState_Connect ec1 ec2).log =
      session.log ++ [.output event, .stopped event.ec1] ∧
    (session.done answers eHttpState_Connect ec1 ec2).pending = session.pending ∧
    (session.done answers eHttpState_Connect ec1 ec2).timers = session.timers ∧
    Steady (session.done answers eHttpState_Connect ec1 ec2) := by
  unfold HttpSession.done
  generalize failed : session.setOutputEvent eHttpState_Connect
    { session.outputEvent eHttpState_Connect with ec1, ec2 } = noted
  obtain ⟨log, pending, _⟩ := setOutputEvent_frame session eHttpState_Connect
    { session.outputEvent eHttpState_Connect with ec1, ec2 }
  obtain ⟨timers, _⟩ := setOutputEvent_timers session eHttpState_Connect
    { session.outputEvent eHttpState_Connect with ec1, ec2 }
  have steady := steady.setOutputEvent eHttpState_Connect
    { session.outputEvent eHttpState_Connect with ec1, ec2 }
  have reads : (noted.outputEvent eHttpState_Connect).ec1 = ec1 := by rw [← failed]; rfl
  rw [failed] at log pending timers steady
  rw [doneSetUp_concludes]
  generalize noted.outputEvent eHttpState_Connect = event at reads
  have routed := route_routed answers noted event .connect
  generalize route (noted.wiring answers eHttpState_Connect) event noted = result at routed
  have stays := failed_connect_stays noted answers rfl (reads ▸ fails) routed
  have stopped : result.1 = false := by
    cases routed with
    | unset => rfl
    | refused => rfl
    | requests _ fine => exact absurd fine (reads ▸ fails)
  obtain ⟨advanced, other, next⟩ := result
  cases stays
  cases stopped
  obtain ⟨pending', timers'⟩ := stopped_frame eHttpState_Connect other next
  refine ⟨other, ?_, pending'.trans pending, timers'.trans timers, steady.stopped _ other⟩
  rw [stopped_log, log]

/-! ### Connecting -/

theorem Resting.idle (rests : Resting session) : Idle session := ⟨rests.steady, rests.nothing⟩

/-- A connect state that goes on, and what it leaves outstanding. -/
private theorem Steady.tries (steady : Steady session) {state : TcpConnectState Endpoint}
    (timed : Timed state) (checked : state.checkTimer = session.connect.checkTimer) :
    Steady { session with connect := state } :=
  ⟨timed, steady.waits, steady.bodyWaits, fun timer member => checked.trans (steady.checked timer member)⟩

/-- To cancel the timer that is set leaves none running. -/
private theorem Steady.cancels (steady : Steady session) {timer : Nat}
    (running : session.connect.checkTimer = some timer) : session.timers.filter (· ≠ timer) = [] := by
  refine List.filter_eq_nil_iff.mpr fun other member => ?_
  have same := steady.checked other member
  rw [running] at same
  cases same
  simp

private theorem retried_checked (state : TcpConnectState Endpoint) :
    (retried state).1.checkTimer = state.checkTimer := by
  unfold retried
  split <;> rfl

theorem retried_leads (idle : Idle session) :
    Leads verdict stage session (session.afterConnect answers (retried session.connect)) := by
  have steady := idle.steady.tries idle.steady.timed.retried (retried_checked session.connect)
  unfold HttpSession.afterConnect
  rw [retried_calls]
  refine Leads.behind (.connecting (retried session.connect).1.targetEndpoint) rfl rfl
    (.silent rfl (.of_one (.connect (retried session.connect).1.index) ?_ ?_ ?_))
  · exact ⟨steady.timed, steady.waits, steady.bodyWaits, steady.checked⟩
  · exact congrArg (· ++ [Operation.connect (retried session.connect).1.index]) idle.nothing
  · exact fun _ => trivial

theorem reported_leads (idle : Idle session) {state : TcpConnectState Endpoint} (timed : Timed state)
    (checked : state.checkTimer = session.connect.checkTimer) {ec1 : BeeErrorCode} (ec2 : ErrorCode)
    (fails : ec1 ≠ .success) :
    Leads verdict stage session (session.afterConnect answers (state, [.done ec1 ec2])) := by
  obtain ⟨event, log, pending, _, steady⟩ := done_fails answers { session with connect := state }
    ec2 fails (idle.steady.tries timed checked)
  have nothing := pending.trans idle.nothing
  exact ⟨_, log, .output event, fun _ => nothing, .of_none steady nothing⟩

/-- A connect that has succeeded goes on once its timer is gone. -/
private theorem connected_leads (idle : Idle session) {connect : TcpConnectState Endpoint}
    {timers : List Nat} (timed : Timed connect) (untimed : timers = []) (ec : ErrorCode) :
    Leads answers.verdict stage session
      ({ session with connect, timers, connected := true }.done answers eHttpState_Connect
        .success ec) := by
  have steady := idle.steady
  have rests : Resting { session with connect, timers, connected := true } :=
    ⟨⟨timed, steady.waits, steady.bodyWaits, fun timer member => by
      rw [untimed] at member
      cases member⟩, idle.nothing, untimed⟩
  exact Leads.of_log rfl (done_leads answers .connect (fun body => absurd body (by decide)) rests .success ec)

/-- Success cancels the timer that watches the connect. -/
theorem succeeded_leads (idle : Idle session) (ec : ErrorCode) :
    Leads answers.verdict stage session
      (session.afterConnect answers (succeeded session.connect ec)) := by
  have timed := idle.steady.timed
  have calls : (succeeded session.connect ec).2 = .setConnected ::
    (session.connect.checkTimer.map .cancelTimer).toList ++ [.done .success ec] := rfl
  have timed' : Timed (succeeded session.connect ec).1 :=
    ⟨timed.spent, timed.within, timed.endpointTimeout, timed.totalTimeout, timed.connectTimeout⟩
  unfold HttpSession.afterConnect
  rw [calls]
  generalize (succeeded session.connect ec).1 = connect at timed'
  cases running : session.connect.checkTimer with
  | none =>
    have untimed : session.timers = [] := List.eq_nil_iff_forall_not_mem.mpr fun timer member => by
      have set := idle.steady.checked timer member
      rw [running] at set
      cases set
    simp only [Option.map_none, Option.toList_none, List.cons_append, List.nil_append,
      List.foldl_cons, List.foldl_nil, HttpSession.performConnect]
    exact connected_leads answers idle timed' untimed ec
  | some timer =>
    have untimed := idle.steady.cancels running
    simp only [Option.map_some, Option.toList_some, List.cons_append, List.nil_append,
      List.foldl_cons, List.foldl_nil, HttpSession.performConnect]
    exact connected_leads answers idle timed' untimed ec

theorem handleConnect_leads (idle : Idle session) (ec2 : ErrorCode) (index : Nat) :
    Leads answers.verdict stage session (session.afterConnect answers
      (session.connect.handleConnect session.isTls ec2 index)) := by
  rcases handleConnect_cases session.connect session.isTls ec2 index with
    ⟨_, outcome⟩ | ⟨_, _, _, outcome⟩ | ⟨_, _, _, _, outcome⟩ | ⟨_, _, _, outcome⟩ |
    ⟨_, _, _, outcome⟩
  · rw [outcome]
    exact .silent rfl (.of_none idle.steady idle.nothing)
  · rw [outcome]
    exact retried_leads answers idle
  · rw [outcome]
    exact reported_leads answers idle idle.steady.timed rfl ec2 (by simp)
  · rw [outcome]
    refine .silent rfl (.of_one .handshake ?_ ?_ fun _ => trivial)
    · exact ⟨idle.steady.timed, idle.steady.waits, idle.steady.bodyWaits, idle.steady.checked⟩
    · exact congrArg (· ++ [Operation.handshake]) idle.nothing
  · rw [outcome]
    exact succeeded_leads answers idle ec2

theorem handleHandshake_leads (idle : Idle session) (ec : ErrorCode) :
    Leads answers.verdict stage session
      (session.afterConnect answers (session.connect.handleHandshake ec)) := by
  cases error : ec.isError with
  | true =>
    rw [handleHandshake_fails session.connect error]
    have timed := idle.steady.timed.noted
      { session.connect.outputEvent with index := session.connect.targetIndex }
    exact reported_leads answers idle timed rfl ec
      (show BeeErrorCode.tlsShakehandFail ≠ .success by simp)
  | false =>
    rw [handleHandshake_succeeds session.connect error]
    exact succeeded_leads answers idle ec

theorem executeConnect_executes (rests : Resting session) :
    Executes answers.verdict stage session (session.executeConnect answers) := by
  have steady := rests.steady
  have timed := steady.timed
  unfold HttpSession.executeConnect
  by_cases ready : Ready session.connect
  · rw [execute_starts ready session.nextTimer]
    have started : Timed (started session.connect session.nextTimer) :=
      ⟨timed.spent, timed.within, timed.endpointTimeout, timed.connectTimeout, timed.connectTimeout⟩
    refine .goes rfl (Leads.behind (.connecting _) rfl rfl (.silent rfl
      (.of_one _ ⟨started, steady.waits, steady.bodyWaits, fun timer member => ?_⟩
        (congrArg (· ++ _) rests.nothing) fun _ => trivial)))
    have only : timer ∈ session.nextTimer :: session.timers := member
    rw [rests.untimed, List.mem_singleton] at only
    exact only ▸ rfl
  · rw [execute_refuses ready]
    exact .fails rfl ⟨⟨timed, steady.waits, steady.bodyWaits, steady.checked⟩, rests.nothing⟩

/-! ### Resolving, sending and receiving -/

variable (surroundings : Surroundings Endpoint)

theorem handleResolve_leads (rests : Resting session) (ec2 : ErrorCode) (endpoints : List Endpoint) :
    Leads answers.verdict stage session (session.handleResolve answers ec2 endpoints) := by
  unfold HttpSession.handleResolve
  refine Leads.behind (.resolved endpoints) rfl rfl (done_leads answers .resolve (fun body => absurd body (by decide)) ?_ _ ec2)
  exact rests.frame rfl rfl rfl rfl rfl

theorem executeResolve_executes (rests : Resting session) :
    Executes answers.verdict stage session (session.executeResolve surroundings answers) := by
  unfold HttpSession.executeResolve
  by_cases setup : session.resolveSetup = true
  · rw [if_neg (fun unset => unset setup)]
    dsimp only
    split
    · rename_i endpoint _
      exact .goes rfl
        (Leads.behind (.resolving session.resolveHost session.resolveService) rfl rfl
          (Leads.behind (.resolved [endpoint]) rfl rfl
            (doneSetUp_leads answers .resolve (fun body => absurd body (by decide)) (rests.frame rfl rfl rfl rfl rfl))))
    · have noted : Resting
          (session.note (.resolving session.resolveHost session.resolveService)) :=
        rests.frame rfl rfl rfl rfl rfl
      exact .goes rfl (Leads.behind _ rfl rfl (.silent rfl (noted.awaits .resolve)))
  · rw [if_pos setup]
    exact .fails rfl rests.idle

theorem executeRequest_executes (rests : Resting session) :
    Executes verdict stage session session.executeRequest := by
  unfold HttpSession.executeRequest
  split
  · exact .fails rfl rests.idle
  · split
    · exact .fails rfl rests.idle
    · exact .goes rfl (.silent rfl (rests.awaits .write))

theorem executeRcvHeader_executes (rests : Resting session) :
    Executes verdict stage session session.executeRcvHeader := by
  unfold HttpSession.executeRcvHeader
  split
  · exact .fails rfl rests.idle
  · split
    · exact .fails rfl rests.idle
    · exact .goes rfl (.silent rfl (rests.awaits .readHeader))

theorem handleWrite_leads (rests : Resting session) (ec2 : ErrorCode) (transBytes : Nat) :
    Leads answers.verdict stage session (session.handleWrite answers ec2 transBytes) := by
  unfold HttpSession.handleWrite
  split
  · exact done_leads answers .request (fun body => absurd body (by decide)) rests _ ec2
  · refine Leads.of_log rfl (done_leads answers .request (fun body => absurd body (by decide)) ?_ _ ec2)
    exact rests.frame rfl rfl rfl rfl rfl

theorem handleReadHeader_leads (rests : Resting session) (ec2 : ErrorCode) :
    Leads answers.verdict stage session (session.handleReadHeader surroundings answers ec2) := by
  unfold HttpSession.handleReadHeader
  split
  · exact done_leads answers .rcvHeader (fun body => absurd body (by decide)) rests _ ec2
  · dsimp only
    split
    · refine Leads.of_log rfl (done_leads answers .rcvHeader (fun body => absurd body (by decide)) ?_ _ ec2)
      exact rests.frame rfl rfl rfl rfl rfl
    · refine Leads.of_log rfl (done_leads answers .rcvHeader (fun body => absurd body (by decide)) ?_ _ ec2)
      exact rests.frame rfl rfl rfl rfl rfl

/-! ### The body -/

/-- An outcome of a body state that waits: it still waits, and outputs nothing
but by `done`. -/
structure Waits (outcome : HttpBody.Outcome) : Prop where
  waits : outcome.state.waitComplete = true
  unvoiced : ∀ event, .output event ∉ outcome.commands

section
variable {body : HttpRcvBodyState} (fsm : HttpBody.HttpStateMachine)

theorem Waits.finish {outcome : HttpBody.Outcome} (waits : Waits outcome) (ec2 : ErrorCode) :
    Waits (outcome.finish ec2) := by
  unfold Outcome.finish
  split
  · exact ⟨waits.waits, fun event => by simp [waits.unvoiced event]⟩
  · exact waits

theorem stopped_waits (waits : body.waitComplete = true) (code : BeeErrorCode) :
    Waits (body.stopped fsm code) :=
  ⟨waits, fun _ => List.not_mem_nil⟩

theorem reportCacheContent_waits (waits : body.waitComplete = true) (ec1 : BeeErrorCode)
    (ec2 : ErrorCode) : Waits (body.reportCacheContent fsm ec1 ec2) :=
  ⟨waits, fun event => by simp [HttpRcvBodyState.reportCacheContent]⟩

theorem readChunkSize_waits (waits : body.waitComplete = true) : Waits (body.readChunkSize fsm) := by
  unfold HttpRcvBodyState.readChunkSize
  split
  · exact stopped_waits fsm waits _
  · exact ⟨waits, fun event => by simp⟩

theorem readChunkBody_waits (waits : body.waitComplete = true) : Waits (body.readChunkBody fsm) := by
  unfold HttpRcvBodyState.readChunkBody
  split
  · exact stopped_waits fsm waits _
  · split
    · exact ⟨waits, fun event => by simp⟩
    · exact ⟨waits, fun event => by simp⟩

theorem handleReadChunkSize_waits (waits : body.waitComplete = true) (ec2 : ErrorCode) :
    Waits (body.handleReadChunkSize fsm ec2) := by
  unfold HttpRcvBodyState.handleReadChunkSize
  apply Waits.finish
  split
  · exact stopped_waits fsm waits _
  split
  · exact stopped_waits fsm waits _
  split
  · exact stopped_waits fsm waits _
  dsimp only
  split
  · refine readChunkBody_waits _ ?_
    exact waits
  · refine reportCacheContent_waits _ ?_ _ ec2
    exact waits

theorem handleReadChunkBody_waits (waits : body.waitComplete = true) (ec2 : ErrorCode) :
    Waits (body.handleReadChunkBody fsm ec2) := by
  unfold HttpRcvBodyState.handleReadChunkBody
  apply Waits.finish
  split
  · exact stopped_waits fsm waits _
  split
  · exact stopped_waits fsm waits _
  split
  · refine readChunkSize_waits _ ?_
    exact waits
  split
  · exact reportCacheContent_waits fsm waits _ ec2
  · exact readChunkBody_waits fsm waits

theorem handleReadContent_waits (waits : body.waitComplete = true) (ec2 : ErrorCode)
    (needLen : Nat) : Waits (body.handleReadContent fsm ec2 needLen) := by
  unfold HttpRcvBodyState.handleReadContent
  apply Waits.finish
  split
  · exact stopped_waits fsm waits _
  split
  · exact stopped_waits fsm waits _
  · refine reportCacheContent_waits _ ?_ _ ec2
    exact waits

theorem readContent_waits (waits : body.waitComplete = true) (len : Nat) :
    Waits (body.readContent fsm len) := by
  unfold HttpRcvBodyState.readContent
  split
  · exact stopped_waits fsm waits _
  split
  · exact stopped_waits fsm waits _
  dsimp only
  generalize (if body.contentOffset + len > body.contentLength then
    (body.contentLength - body.contentOffset).toNat else len) = len
  split
  · exact ⟨waits, fun event => by simp⟩
  · exact ⟨waits, fun event => by simp⟩

theorem execute_waits (waits : body.waitComplete = true) : Waits (body.execute fsm) := by
  unfold HttpRcvBodyState.execute
  split
  · exact stopped_waits fsm waits _
  cases fsm.response with
  | none => exact stopped_waits fsm waits _
  | some response =>
    dsimp only
    generalize (if response.contentLen = -1 then true else body.isChunk) = isChunk
    split
    · refine stopped_waits fsm ?_ _
      exact waits
    split
    · refine readContent_waits fsm ?_ _
      exact waits
    split
    · refine readChunkSize_waits fsm ?_
      exact waits
    · refine stopped_waits fsm ?_ _
      exact waits

end

/-- The session around the body state once a handler has left its outcome. -/
private theorem Resting.embodies (rests : Resting session) {outcome : HttpBody.Outcome}
    (waits : Waits outcome) :
    Resting { session with body := outcome.state, rcvStreambuf := outcome.rcvStreambuf } :=
  ⟨⟨rests.steady.timed, rests.steady.waits, waits.waits, rests.steady.checked⟩, rests.nothing,
    rests.untimed⟩

private theorem reads_leads {command : HttpBody.Command} (read : BodyCalls.Reads command)
    (rests : Resting session) : Leads verdict stage session (session.performBody answers command) := by
  cases read with
  | chunkSizeLine => exact .silent rfl (rests.awaits _)
  | chunkBody => exact .silent rfl (rests.awaits _)
  | posted => exact .silent rfl (rests.awaits _)
  | content => exact .silent rfl (rests.awaits _)

/-- The state of the body is past the others. -/
private theorem at_body : AtBody eHttpState_RcvBody := by
  constructor <;> decide

theorem afterBody_leads {silent : Prop} {outcome : HttpBody.Outcome} (body : AtBody stage)
    (calls : BodyCalls.Calls silent outcome) (waits : Waits outcome) (rests : Resting session) :
    Leads answers.verdict stage session (session.afterBody answers outcome) := by
  have embodied := rests.embodies waits
  unfold HttpSession.afterBody
  cases calls with
  | reads _ read calls =>
    rw [calls]
    exact Leads.of_log rfl (reads_leads answers read embodied)
  | @streams command event _ read calls =>
    have unvoiced := waits.unvoiced event
    rw [calls] at unvoiced
    exact absurd List.mem_cons_self unvoiced
  | @ends ec1 ec2 _ calls =>
    rw [calls]
    exact Leads.of_log rfl (done_leads answers .rcvBody (fun _ => body) embodied ec1 ec2)

private theorem executeBody_executes (body : AtBody stage) (rests : Resting session) :
    Executes answers.verdict stage session ((session.body.execute session.fsm).code,
      session.afterBody answers (session.body.execute session.fsm)) := by
  have starts := BodyCalls.execute_starts session.body session.fsm
  have embodied := rests.embodies (execute_waits session.fsm rests.steady.bodyWaits)
  revert starts embodied
  generalize session.body.execute session.fsm = outcome
  intro starts embodied
  unfold HttpSession.afterBody
  cases starts with
  | fails _ calls =>
    rw [calls]
    exact .fails rfl embodied.idle
  | reads fine read calls =>
    rw [calls]
    exact .goes fine (Leads.of_log rfl (reads_leads answers read embodied))
  | sets fine _ calls =>
    rw [calls]
    exact .goes fine (Leads.of_log rfl (doneSetUp_leads answers .rcvBody (fun _ => body) embodied))

/-! ### Steps -/

/-- A state that fails to execute outputs its code. -/
private theorem Idle.fails (idle : Idle session) (state : Int) (event : StateEvent)
    (code : BeeErrorCode) : Leads verdict stage session
      ((HttpSession.output event (session.setOutputEvent state event)).note (.stopped code)) := by
  obtain ⟨log, pending, _⟩ := setOutputEvent_frame session state event
  have steady := idle.steady.setOutputEvent state event
  have nothing := pending.trans idle.nothing
  refine ⟨[.output event, .stopped code], ?_, .output event, fun _ => nothing,
    .of_none ⟨steady.timed, steady.waits, steady.bodyWaits, steady.checked⟩ nothing⟩
  simp [HttpSession.note, HttpSession.output, log]

theorem executeState_leads (rests : Resting session) (state : Int) :
    Leads answers.verdict state session (session.executeState surroundings answers state) := by
  obtain ⟨result, executed, step⟩ := executeState_executed answers session surroundings state
  rw [step]
  have executes : Executes answers.verdict state session result := by
    cases executed with
    | resolve => exact executeResolve_executes answers surroundings rests
    | connect => exact executeConnect_executes answers rests
    | request => exact executeRequest_executes rests
    | rcvHeader => exact executeRcvHeader_executes rests
    | rcvBody resolved connected requested headed =>
      exact executeBody_executes answers ⟨resolved, connected, requested, headed⟩ rests
  obtain ⟨code, next⟩ := result
  cases executes with
  | fails log idle =>
    by_cases fine : code = .success
    · simp only [if_neg (fun fails : code ≠ .success => fails fine)]
      exact .silent log (.of_none idle.steady idle.nothing)
    · have fails : code ≠ .success := fine
      simp only [if_pos fails]
      exact Leads.of_log log (idle.fails state _ code)
  | goes fine leads =>
    simp only [if_neg (fun fails : code ≠ .success => fails fine)]
    exact leads

/-- What the completion of the one operation outstanding comes to. -/
theorem complete_leads {operation : Operation} {completion : Completion Endpoint}
    (idle : Idle session) (untimed : ¬ Connects operation → session.timers = [])
    (completes : session.complete surroundings answers operation completion = some after) :
    Leads answers.verdict operation.state session after := by
  have rests : ¬ Connects operation → Resting session := fun other =>
    ⟨idle.steady, idle.nothing, untimed other⟩
  cases operation with
  | execute state =>
    cases completion with
    | executed =>
      cases completes
      exact executeState_leads answers surroundings (rests id) state
    | _ => cases completes
  | resolve =>
    cases completion with
    | resolved ec2 endpoints =>
      cases completes
      exact handleResolve_leads answers (rests id) ec2 endpoints
    | _ => cases completes
  | connect index =>
    cases completion with
    | ended ec2 =>
      cases completes
      exact handleConnect_leads answers idle ec2 index
    | _ => cases completes
  | handshake =>
    cases completion with
    | ended ec2 =>
      cases completes
      exact handleHandshake_leads answers idle ec2
    | _ => cases completes
  | write =>
    cases completion with
    | written ec2 bytes =>
      cases completes
      exact handleWrite_leads answers (rests id) ec2 bytes
    | _ => cases completes
  | readHeader =>
    cases completion with
    | received ec2 bytes =>
      cases completes
      refine Leads.of_log rfl (handleReadHeader_leads answers surroundings ?_ ec2)
      exact (rests id).frame rfl rfl rfl rfl rfl
    | _ => cases completes
  | readChunkSizeLine delim =>
    cases completion with
    | received ec2 bytes =>
      cases completes
      refine Leads.of_log rfl (afterBody_leads answers at_body (BodyCalls.handleReadChunkSize_calls _ _ ec2)
        (handleReadChunkSize_waits _ idle.steady.bodyWaits ec2) ?_)
      exact (rests id).frame rfl rfl rfl rfl rfl
    | _ => cases completes
  | readChunkBody atLeast =>
    cases completion with
    | received ec2 bytes =>
      cases completes
      refine Leads.of_log rfl (afterBody_leads answers at_body (BodyCalls.handleReadChunkBody_calls _ _ ec2)
        (handleReadChunkBody_waits _ idle.steady.bodyWaits ec2) ?_)
      exact (rests id).frame rfl rfl rfl rfl rfl
    | _ => cases completes
  | postChunkBody =>
    cases completion with
    | executed =>
      cases completes
      exact afterBody_leads answers at_body (BodyCalls.handleReadChunkBody_calls _ _ .none)
        (handleReadChunkBody_waits _ idle.steady.bodyWaits .none) (rests id)
    | _ => cases completes
  | readContent atLeast needLen =>
    cases completion with
    | received ec2 bytes =>
      cases completes
      refine Leads.of_log rfl (afterBody_leads answers at_body
        (BodyCalls.handleReadContent_calls _ _ ec2 needLen)
        (handleReadContent_waits _ idle.steady.bodyWaits ec2 needLen) ?_)
      exact (rests id).frame rfl rfl rfl rfl rfl
    | _ => cases completes

theorem Steady.flushed (steady : Steady session) : Steady session.flush.2 :=
  ⟨steady.timed, steady.waits, steady.bodyWaits, steady.checked⟩

theorem Paced.flushed (paced : Paced session) : Paced session.flush.2 :=
  ⟨paced.steady.flushed, paced.single, paced.connecting⟩

/-- Whatever is heard of a completion, nothing is outstanding behind it. -/
theorem completes_paced {position : Nat} {operation : Operation}
    {completion : Completion Endpoint} {entries : List (Entry Endpoint)} (paced : Paced session)
    (held : session.pending[position]? = some operation)
    (taken : HttpSession.step surroundings session (.completes position completion answers) =
      some (entries, after)) :
    Voices answers.verdict operation.state (entries.filter voiced) ∧
      (entries.filter voiced ≠ [] → after.pending = []) ∧ Paced after := by
  simp only [HttpSession.step, held, Option.bind_some] at taken
  obtain ⟨completed, completes, shape⟩ := Option.map_eq_some_iff.mp taken
  cases shape
  have steady := paced.steady
  have idle : Idle { session with log := [], pending := session.pending.eraseIdx position } :=
    ⟨⟨steady.timed, steady.waits, steady.bodyWaits, steady.checked⟩, alone paced.single held⟩
  have untimed : ¬ Connects operation → session.timers = [] := fun other =>
    Classical.not_not.mp fun timed =>
      other (paced.connecting timed operation (List.mem_of_getElem? held))
  obtain ⟨entries, log, voices, nothing, paced⟩ := complete_leads answers surroundings idle untimed
    completes
  have same : completed.log = entries := log
  exact ⟨same ▸ voices, fun heard => nothing (same ▸ heard), paced.flushed⟩

/-- The total timeout cancels the timer and outputs. -/
private theorem timeout_outputs (steady : Steady session)
    {timer : Nat} (running : session.connect.checkTimer = some timer) : ∃ event : StateEvent,
    let after := session.afterConnect answers ({ ticked session.connect with checkTimer := none },
      [.cancelTimer timer, .done .timeout .none])
    after.log = session.log ++ [.output event, .stopped event.ec1] ∧
      after.pending = session.pending ∧ after.timers = [] ∧ Steady after := by
  have untimed := steady.cancels running
  have ticks := steady.timed.ticked
  have timedOut : Steady { session with
      connect := { ticked session.connect with checkTimer := none }
      timers := session.timers.filter (· ≠ timer) } :=
    ⟨⟨ticks.spent, ticks.within, ticks.endpointTimeout, ticks.totalTimeout, ticks.connectTimeout⟩,
      steady.waits, steady.bodyWaits, fun other member => by
        rw [untimed] at member
        cases member⟩
  obtain ⟨event, log, pending, timers, steady⟩ := done_fails answers _ .none
    (show BeeErrorCode.timeout ≠ .success by simp) timedOut
  exact ⟨event, log, pending, timers.trans untimed, steady⟩

/-- A tick leaves what is outstanding, which is something that connects. -/
theorem ticks_paced {timer : Nat} {entries : List (Entry Endpoint)} (paced : Paced session)
    (taken : HttpSession.step surroundings session (.ticks timer answers) = some (entries, after)) :
    Voices answers.verdict stage (entries.filter voiced) ∧ after.pending = session.pending ∧
      (∀ operation ∈ session.pending, Connects operation) ∧ Paced after := by
  have steady := paced.steady
  have unlogged : Steady { session with log := [] } :=
    ⟨steady.timed, steady.waits, steady.bodyWaits, steady.checked⟩
  simp only [HttpSession.step] at taken
  split at taken
  case isFalse => cases taken
  rename_i runs
  obtain ⟨outcome, ran, shape⟩ := Option.map_eq_some_iff.mp taken
  cases shape
  have connects : ∀ operation ∈ session.pending, Connects operation :=
    paced.connecting (List.ne_nil_of_mem runs)
  rcases handlePeriodTimeout_cases session.connect session.isTls with
    ⟨_, shape⟩ | ⟨waits, tired, _⟩ | ⟨_, _, shape⟩
  · rw [shape] at ran
    obtain ⟨set, running, rfl⟩ := Option.map_eq_some_iff.mp ran
    obtain ⟨event, log, pending, timers, steady⟩ := timeout_outputs answers unlogged running
    have single := Nat.le_trans (Nat.le_of_eq (congrArg List.length pending)) paced.single
    refine ⟨?_, pending, connects,
      Paced.flushed ⟨steady, single, fun timed => absurd timers timed⟩⟩
    exact log ▸ .output event
  · exact absurd tired (steady.timed.endpoint_waits waits)
  · rw [shape] at ran
    cases ran
    exact ⟨.none, rfl, connects, ⟨steady.timed.ticked, steady.waits, steady.bodyWaits,
      steady.checked⟩, paced.single, paced.connecting⟩

/-! ### Silence -/

/-- A connect completes stale by its index, with an error while a try is left or
as timed out, or without one and still has to shake hands. -/
def SilentEnd (session : HttpSession Endpoint) : Operation → Completion Endpoint → Prop
  | .connect index, .ended ec2 => index ≠ session.connect.index ∨
      (ec2.isError = true ∧
        (session.connect.triedCount < session.connect.totalCount ∨ ec2 = .timedOut)) ∨
      (ec2.isError = false ∧ session.isTls = true)
  | _, _ => False

/-- A connect completes silently, or a timer ticks before the total timeout. -/
def Silent (session : HttpSession Endpoint) : Event Endpoint → Prop
  | .completes position completion _ => ∀ operation ∈ session.pending[position]?,
    SilentEnd session operation completion
  | .ticks _ _ => session.connect.currentSpentTime + kTcpCheckConnectPeriod <
      session.connect.totalTimeout

instance (session : HttpSession Endpoint) (operation : Operation)
    (completion : Completion Endpoint) : Decidable (SilentEnd session operation completion) := by
  unfold SilentEnd
  split <;> infer_instance

instance (session : HttpSession Endpoint) (event : Event Endpoint) :
    Decidable (Silent session event) :=
  match event with
  | .completes position completion _ => inferInstanceAs (Decidable
      (∀ operation ∈ session.pending[position]?, SilentEnd session operation completion))
  | .ticks _ _ => inferInstanceAs (Decidable (session.connect.currentSpentTime +
      kTcpCheckConnectPeriod < session.connect.totalTimeout))

/-- Nothing is heard of a silent step, and it leaves a session to connect on. -/
theorem silent_unheard {event : Event Endpoint} {entries : List (Entry Endpoint)}
    (paced : Paced session) (connects : ∀ operation ∈ session.pending, Connects operation)
    (silent : Silent session event)
    (taken : HttpSession.step surroundings session event = some (entries, after)) :
    entries.filter voiced = [] ∧ (∀ operation ∈ after.pending, Connects operation) := by
  cases event with
  | completes position completion answers =>
    obtain ⟨operation, held, rest⟩ := Option.bind_eq_some_iff.mp taken
    obtain ⟨completed, completes, shape⟩ := Option.map_eq_some_iff.mp rest
    cases shape
    have quiet := silent operation held
    have none := alone paced.single held
    cases operation with
    | connect index =>
      cases completion with
      | ended ec2 =>
        cases completes
        rcases handleConnect_cases session.connect session.isTls ec2 index with
          ⟨_, outcome⟩ | ⟨_, _, _, outcome⟩ | ⟨same, error, tried, other, _⟩ | ⟨_, _, _, outcome⟩ |
          ⟨same, fine, plain, _⟩
        · simp only [outcome]
          refine ⟨rfl, fun operation member => ?_⟩
          have member : operation ∈ session.pending.eraseIdx position := member
          rw [none] at member
          cases member
        · simp only [outcome, HttpSession.afterConnect, retried_calls]
          refine ⟨rfl, fun operation member => ?_⟩
          have member : operation ∈ session.pending.eraseIdx position ++
            [.connect (retried session.connect).1.index] := member
          rw [none, List.nil_append, List.mem_singleton] at member
          exact member ▸ trivial
        · rcases quiet with differs | ⟨_, left | timedOut⟩ | ⟨fine, _⟩
          · exact absurd same differs
          · omega
          · exact absurd timedOut other
          · rw [error] at fine
            cases fine
        · simp only [outcome]
          refine ⟨rfl, fun operation member => ?_⟩
          have member : operation ∈ session.pending.eraseIdx position ++ [.handshake] := member
          rw [none, List.nil_append, List.mem_singleton] at member
          exact member ▸ trivial
        · rcases quiet with differs | ⟨error, _⟩ | ⟨_, tls⟩
          · exact absurd same differs
          · rw [fine] at error
            cases error
          · rw [plain] at tls
            cases tls
      | _ => cases completes
    | _ => exact quiet.elim
  | ticks timer answers =>
    simp only [HttpSession.step] at taken
    split at taken
    case isFalse => cases taken
    obtain ⟨outcome, ran, shape⟩ := Option.map_eq_some_iff.mp taken
    cases shape
    rcases handlePeriodTimeout_cases session.connect session.isTls with
      ⟨elapsed, _⟩ | ⟨waits, tired, _⟩ | ⟨_, _, shape⟩
    · exact absurd elapsed (Int.not_le.mpr silent)
    · exact absurd tired (paced.steady.timed.endpoint_waits waits)
    · rw [shape] at ran
      cases ran
      exact ⟨rfl, connects⟩

/-! ### Headers -/

private theorem route_header {event : StateEvent} (setup : event.setup = true)
    (held : session.response = some response) (fine : Fine event)
    (handler : answers.verdict.handler = none) (callback : answers.verdict.callback = none)
    (refuses : answers.verdict.own ≠ .success) :
    route (session.wiring answers eHttpState_RcvHeader) event session =
      (false, { event with ec1 := answers.verdict.own }, session) := by
  have routes : onRcvHeader answers.verdict session.response event =
      (kInvalidState, { event with ec1 := answers.verdict.own }) := by
    unfold onRcvHeader consult
    rw [held]
    simp [fine.1, fine.2, handler, callback, refuses]
  rw [route_set setup rfl rfl, routes, if_pos rfl, if_neg refuses]

private theorem refused_log {ec2 : ErrorCode} (setup : session.headerEvent.setup = true)
    (held : session.response = some response) (read : ec2.isError = false)
    (handler : answers.verdict.handler = none) (callback : answers.verdict.callback = none)
    (refuses : answers.verdict.own ≠ .success) : ∃ event : StateEvent,
    event.ec1 = answers.verdict.own ∧ (session.done answers eHttpState_RcvHeader .success ec2).log =
      session.log ++ [.output event, .stopped event.ec1] := by
  let noted := session.setOutputEvent eHttpState_RcvHeader
    { session.outputEvent eHttpState_RcvHeader with ec1 := .success, ec2 }
  have setup : (noted.outputEvent eHttpState_RcvHeader).setup = true := setup
  have held : noted.response = some response := held
  have routes := route_header answers setup held ⟨rfl, read⟩ handler callback refuses
  unfold HttpSession.done
  rw [doneSetUp_concludes, routes, stopped_log]
  exact ⟨_, rfl, rfl⟩

/-- A header that is read and refused is output under the reason given. -/
theorem header_outputs {position : Nat} {ec2 : ErrorCode} {bytes : List UInt8}
    {entries : List (Entry Endpoint)} (held : session.pending[position]? = some .readHeader)
    (read : ec2.isError = false)
    (parsed : surroundings.parse (HttpSession.takeHeader [] (session.rcvStreambuf ++ bytes)).1 =
      some response)
    (handler : answers.verdict.handler = none) (callback : answers.verdict.callback = none)
    (refuses : answers.verdict.own ≠ .success)
    (taken : HttpSession.step surroundings session
      (.completes position (.received ec2 bytes) answers) = some (entries, after)) :
    ∃ event : StateEvent, event.ec1 = answers.verdict.own ∧
      entries.filter voiced = [.output event] := by
  simp only [HttpSession.step, held, Option.bind_some, HttpSession.complete, Option.map_some,
    HttpSession.handleReadHeader, read, parsed] at taken
  rw [if_neg (by decide)] at taken
  cases taken
  let headed : HttpSession Endpoint := { session with
    rcvStreambuf := (HttpSession.takeHeader [] (session.rcvStreambuf ++ bytes)).2
    response := some response
    headerEvent := { session.headerEvent with setup := true }
    pending := session.pending.eraseIdx position
    log := [] }
  have setup : headed.headerEvent.setup = true := rfl
  have held : headed.response = some response := rfl
  obtain ⟨event, named, log⟩ := refused_log answers setup held read handler callback refuses
  refine ⟨event, named, ?_⟩
  show List.filter voiced (HttpSession.log _) = _
  rw [log]
  rfl

/-! ### Requests -/

/-- A session that is requested with its whole body waits for it. -/
theorem requested_paced {request : HttpRequest}
    (starts : HttpSession.requested request true = some session) : Paced session := by
  unfold HttpSession.requested at starts
  simp only at starts
  split at starts
  · cases starts
  · cases starts
    exact .of_one _ ⟨⟨Int.le_refl 0, Int.le_refl 0, rfl, rfl, rfl⟩, rfl, rfl,
      fun _ member => (by cases member)⟩ rfl fun timed => absurd rfl timed

end BeeSdk.SessionPaced
