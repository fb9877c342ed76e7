import BeeSdk.BodyCalls
import BeeSdk.ConnectAttemptsProofs
import BeeSdk.HttpReply
import BeeSdk.SessionRouting

/-! What the requester of a session is told when its machine stops. Every way a
step can stop the machine is led back to `done` or to a failing `execute`. -/
namespace BeeSdk.SessionTold
open StateMachine TcpConnect HttpBody Session SessionRouting ConnectAttemptsProofs

variable {Endpoint : Type}

/-- The codes the machine stops with. -/
def stops (entries : List (Entry Endpoint)) : List BeeErrorCode :=
  entries.filterMap fun
    | .stopped code => some code
    | _ => none

/-- The codes a requester learns that ignores `Success`. -/
def told (entries : List (Entry Endpoint)) : List BeeErrorCode :=
  entries.filterMap fun
    | .output event => if event.ec1 = .success then none else some event.ec1
    | _ => none

/-- Where the machine stops, `output` is called exactly once with a code that is
not `Success`, the one the machine stopped with. -/
def Told (entries : List (Entry Endpoint)) : Prop :=
  stops entries ≠ [] → told entries = stops entries

/-- The completion makes the machine stop without a word: a header redirects
without a location or a socket, a zero chunk ends a body of which nothing is
cached, or a content read brings nothing. -/
def CompletesSilently (surroundings : Surroundings Endpoint) (answers : Answers)
    (session : HttpSession Endpoint) : Operation → Completion Endpoint → Prop
  | .readHeader, .received ec2 bytes => ec2.isError = false ∧ ∃ response,
    surroundings.parse (HttpSession.takeHeader [] (session.rcvStreambuf ++ bytes)).1 =
      some response ∧ GoesNowhere answers session.request response
  | .readChunkSizeLine _, .received ec2 bytes =>
    BodyCalls.EndsEmpty session.body
      { session.fsm with rcvStreambuf := session.rcvStreambuf ++ bytes } ec2
  | .readContent _ needLen, .received ec2 bytes =>
    BodyCalls.EndsUnread session.body
      { session.fsm with rcvStreambuf := session.rcvStreambuf ++ bytes } ec2 needLen
  | _, _ => False

def EndsSilently (surroundings : Surroundings Endpoint) (session : HttpSession Endpoint) :
    Event Endpoint → Prop
  | .completes position completion answers => ∃ operation,
    session.pending[position]? = some operation ∧
      CompletesSilently surroundings answers session operation completion
  | .ticks _ _ => False

/-! ### How entries end -/

/-- Entries that do not stop the machine, or do so once, with the event that
`output` is called with. -/
inductive Ending : List (Entry Endpoint) → Option BeeErrorCode → Prop where
  | goes (quiet : stops entries = []) : Ending entries none
  | ends (quiet : stops entries = []) (untold : told entries = []) :
      Ending (entries ++ [.output event, .stopped event.ec1]) (some event.ec1)

theorem Ending.stop (event : StateEvent) :
    Ending ([.output event, .stopped event.ec1] : List (Entry Endpoint)) (some event.ec1) :=
  @Ending.ends _ [] event rfl rfl

theorem stops_append (first second : List (Entry Endpoint)) :
    stops (first ++ second) = stops first ++ stops second :=
  List.filterMap_append

theorem told_append (first second : List (Entry Endpoint)) :
    told (first ++ second) = told first ++ told second :=
  List.filterMap_append

/-- Only a machine that stops with `Success` leaves its requester untold. -/
theorem Ending.told_iff {entries : List (Entry Endpoint)} (ending : Ending entries code) :
    Told entries ↔ code ≠ some .success := by
  cases ending with
  | goes quiet => exact ⟨fun _ => by simp, fun _ stopped => absurd quiet stopped⟩
  | @ends entries event quiet untold =>
    unfold Told
    rw [stops_append, told_append, quiet, untold]
    by_cases silent : event.ec1 = .success
    · simp [stops, told, silent]
    · simp [stops, told, silent]

/-- From one session to the next, entries are noted that end like this. -/
def Ends (before after : HttpSession Endpoint) (code : Option BeeErrorCode) : Prop :=
  ∃ entries, after.log = before.log ++ entries ∧ Ending entries code

/-- Entries are noted that neither stop the machine nor tell anyone anything. -/
def Notes (before after : HttpSession Endpoint) : Prop :=
  ∃ entries, after.log = before.log ++ entries ∧ stops entries = [] ∧ told entries = []

theorem Notes.refl_log {before after : HttpSession Endpoint} (same : after.log = before.log) :
    Notes before after :=
  ⟨[], by rw [same, List.append_nil], rfl, rfl⟩

theorem Notes.trans {first second third : HttpSession Endpoint} (notes : Notes first second)
    (more : Notes second third) : Notes first third := by
  obtain ⟨entries, log, quiet, untold⟩ := notes
  obtain ⟨entries', log', quiet', untold'⟩ := more
  refine ⟨entries ++ entries', ?_, ?_, ?_⟩
  · rw [log', log, List.append_assoc]
  · rw [stops_append, quiet, quiet', List.append_nil]
  · rw [told_append, untold, untold', List.append_nil]

theorem Notes.goes {before after : HttpSession Endpoint} (notes : Notes before after) :
    Ends before after none := by
  obtain ⟨entries, log, quiet, _⟩ := notes
  exact ⟨entries, log, .goes quiet⟩

theorem Notes.ends {first second third : HttpSession Endpoint} (notes : Notes first second)
    (ends : Ends second third code) : Ends first third code := by
  obtain ⟨entries, log, quiet, untold⟩ := notes
  obtain ⟨entries', log', ending⟩ := ends
  refine ⟨entries ++ entries', by rw [log', log, List.append_assoc], ?_⟩
  cases ending with
  | goes quiet' => exact .goes (by rw [stops_append, quiet, quiet', List.append_nil])
  | ends quiet' untold' =>
    rw [← List.append_assoc]
    exact .ends (by rw [stops_append, quiet, quiet', List.append_nil])
      (by rw [told_append, untold, untold', List.append_nil])

/-! ### `done` -/

theorem setOutputEvent_log (session : HttpSession Endpoint) (state : Int) (event : StateEvent) :
    (session.setOutputEvent state event).log = session.log := by
  unfold HttpSession.setOutputEvent
  split
  · rfl
  · split
    · rfl
    · split
      · rfl
      · split <;> rfl

variable (session : HttpSession Endpoint) (answers : Answers)

private theorem conclude_stops {state : Int} {event : StateEvent} {next : HttpSession Endpoint}
    (notes : Notes session next) :
    Ends session (conclude state (false, event, next)) (some event.ec1) := by
  obtain ⟨entries, log, quiet, untold⟩ := notes
  refine ⟨entries ++ [.output event, .stopped event.ec1], ?_, .ends quiet untold⟩
  unfold conclude
  simp [HttpSession.note, HttpSession.output, setOutputEvent_log, log]

private theorem conclude_goes {state : Int} {event : StateEvent} {next : HttpSession Endpoint}
    (notes : Notes session next) : Ends session (conclude state (true, event, next)) none := by
  refine (notes.trans (Notes.refl_log ?_)).goes
  exact setOutputEvent_log next state event

/-- The event of the state is a success that is not set up, or that of a header
that loses its way. -/
def Silently (state : Int) : Prop :=
  ((session.outputEvent state).setup = false ∧ (session.outputEvent state).ec1 = .success) ∨
    (state = eHttpState_RcvHeader ∧ LosesWay answers session (session.outputEvent state))

private theorem not_silently {state : Int} (setup : (session.outputEvent state).setup = true)
    (found : state = eHttpState_RcvHeader → ¬ LosesWay answers session (session.outputEvent state)) :
    ¬ Silently session answers state := by
  rintro (⟨unset, _⟩ | ⟨header, loses⟩)
  · rw [setup] at unset
    cases unset
  · exact found header loses

/-- `done` stops the machine with `Success` exactly when nothing names why. -/
theorem doneSetUp_ends (known : Known state) : ∃ code,
    Ends session (session.doneSetUp answers state) code ∧
      (code = some .success ↔ Silently session answers state) := by
  obtain ⟨result, routed, outcome⟩ := doneSetUp_routed answers session known
  rw [outcome]
  -- An advance is quiet, and everything but a lost way names its reason.
  have advances : ∀ event (next : HttpSession Endpoint), Notes session next →
      ¬ Silently session answers state → ∃ code,
        Ends session (conclude state (true, event, next)) code ∧
          (code = some .success ↔ Silently session answers state) := by
    intro event next notes never
    exact ⟨none, conclude_goes session notes, fun named => absurd named (by simp),
      fun silent => absurd silent never⟩
  have names : ∀ event (next : HttpSession Endpoint), Notes session next →
      event.ec1 ≠ .success → ¬ Silently session answers state → ∃ code,
        Ends session (conclude state (false, event, next)) code ∧
          (code = some .success ↔ Silently session answers state) := by
    intro event next notes named never
    exact ⟨_, conclude_stops session notes, fun silent => absurd (Option.some.inj silent) named,
      fun silent => absurd silent never⟩
  have same : Notes session session := Notes.refl_log rfl
  cases routed with
  | unset unset =>
    refine ⟨_, conclude_stops session same, fun silent => .inl ⟨unset, Option.some.inj silent⟩, ?_⟩
    rintro (⟨_, silent⟩ | ⟨_, loses⟩)
    · exact congrArg some silent
    · rw [loses.setup] at unset
      cases unset
  | refused setup named found => exact names _ _ same named (not_silently _ _ setup found)
  | finished setup named =>
    refine names _ _ ⟨[.rcvBody _], rfl, rfl, rfl⟩ named (not_silently _ _ setup fun header => ?_)
    cases header
  | connects setup _ _ =>
    exact advances _ _ (Notes.refl_log rfl) (not_silently _ _ setup fun header => by cases header)
  | requests setup _ =>
    exact advances _ _ (Notes.refl_log rfl) (not_silently _ _ setup fun header => by cases header)
  | receives setup _ =>
    exact advances _ _ (Notes.refl_log rfl) (not_silently _ _ setup fun header => by cases header)
  | redirects setup _ found _ _ host service =>
    exact advances _ _ ⟨[.redirected host service], rfl, rfl, rfl⟩
      (not_silently _ _ setup fun _ => found)
  | embodies setup _ found _ =>
    exact advances _ _ (Notes.refl_log rfl) (not_silently _ _ setup fun _ => found)
  | nowhere loses _ _ silent =>
    exact ⟨_, conclude_stops session (Notes.refl_log rfl), fun _ => .inr ⟨rfl, loses⟩,
      fun _ => congrArg some silent⟩

private theorem outputEvent_setOutputEvent (known : Known state) (event : StateEvent) :
    (session.setOutputEvent state event).outputEvent state = event := by
  cases known <;> rfl

private theorem setOutputEvent_rest (state : Int) (event : StateEvent) :
    (session.setOutputEvent state event).request = session.request ∧
      (session.setOutputEvent state event).response = session.response := by
  unfold HttpSession.setOutputEvent
  split
  · exact ⟨rfl, rfl⟩
  · split
    · exact ⟨rfl, rfl⟩
    · split
      · exact ⟨rfl, rfl⟩
      · split <;> exact ⟨rfl, rfl⟩

private theorem loses_iff {session other : HttpSession Endpoint} (event : StateEvent)
    (request : other.request = session.request) (response : other.response = session.response) :
    LosesWay answers other event ↔ LosesWay answers session event := by
  constructor
  · rintro ⟨setup, fine, found, held, agrees, redirects, accepted, lost⟩
    exact ⟨setup, fine, found, response ▸ held, agrees, redirects, accepted, request ▸ lost⟩
  · rintro ⟨setup, fine, found, held, agrees, redirects, accepted, lost⟩
    exact ⟨setup, fine, found, response ▸ held, agrees, redirects, accepted, request ▸ lost⟩

/-- The same of `done(ec1, ec2)`. -/
theorem done_ends (known : Known state) (ec1 : BeeErrorCode) (ec2 : ErrorCode) : ∃ code,
    Ends session (session.done answers state ec1 ec2) code ∧
      (code = some .success ↔
        ((session.outputEvent state).setup = false ∧ ec1 = .success) ∨
          (state = eHttpState_RcvHeader ∧
            LosesWay answers session { session.outputEvent state with ec1, ec2 })) := by
  obtain ⟨code, ends, silent⟩ := doneSetUp_ends
    (session.setOutputEvent state { session.outputEvent state with ec1, ec2 }) answers known
  obtain ⟨request, response⟩ := setOutputEvent_rest session state
    { session.outputEvent state with ec1, ec2 }
  refine ⟨code, (Notes.refl_log (setOutputEvent_log session state _)).ends ends, ?_⟩
  rw [silent, Silently, outputEvent_setOutputEvent session known, loses_iff answers _ request response]

/-- A step that does not stop the machine, or tells why it does. -/
def Spoken (before after : HttpSession Endpoint) : Prop :=
  ∃ code, Ends before after code ∧ code ≠ some .success

theorem Notes.spoken {before after : HttpSession Endpoint} (notes : Notes before after) :
    Spoken before after :=
  ⟨none, notes.goes, by simp⟩

theorem Notes.speaks {first second third : HttpSession Endpoint} (notes : Notes first second)
    (spoken : Spoken second third) : Spoken first third := by
  obtain ⟨code, ends, named⟩ := spoken
  exact ⟨code, notes.ends ends, named⟩

theorem done_fails (known : Known state) {ec1 : BeeErrorCode} (ec2 : ErrorCode)
    (fails : ec1 ≠ .success) : Spoken session (session.done answers state ec1 ec2) := by
  obtain ⟨code, ends, silent⟩ := done_ends session answers known ec1 ec2
  refine ⟨code, ends, fun success => ?_⟩
  rcases silent.mp success with ⟨_, fine⟩ | ⟨_, loses⟩
  · exact fails fine
  · exact fails loses.fine.1

/-- A state other than the header's speaks when it fails or is set up. -/
theorem done_spoken (known : Known state) (other : state ≠ eHttpState_RcvHeader)
    {ec1 : BeeErrorCode} (ec2 : ErrorCode)
    (named : ec1 ≠ .success ∨ (session.outputEvent state).setup = true) :
    Spoken session (session.done answers state ec1 ec2) := by
  rcases named with fails | setup
  · exact done_fails session answers known ec2 fails
  · obtain ⟨code, ends, silent⟩ := done_ends session answers known ec1 ec2
    refine ⟨code, ends, fun success => ?_⟩
    rcases silent.mp success with ⟨unset, _⟩ | ⟨header, _⟩
    · rw [setup] at unset
      cases unset
    · exact other header

theorem doneSetUp_spoken (known : Known state) (other : state ≠ eHttpState_RcvHeader)
    (setup : (session.outputEvent state).setup = true) :
    Spoken session (session.doneSetUp answers state) := by
  obtain ⟨code, ends, silent⟩ := doneSetUp_ends session answers known
  refine ⟨code, ends, fun success => ?_⟩
  exact not_silently session answers setup (fun header => absurd header other) (silent.mp success)

/-! ### Resolving and connecting -/

theorem handleResolve_spoken (ec2 : ErrorCode) (endpoints : List Endpoint) :
    Spoken session (session.handleResolve answers ec2 endpoints) := by
  unfold HttpSession.handleResolve
  refine Notes.speaks ⟨[.resolved endpoints], rfl, rfl, rfl⟩ (done_spoken _ answers .resolve
    (by decide) ec2 (.inr rfl))

/-- What `execute` of a state comes to: a code that says it has not started, or a
start that is spoken of. -/
def Executes (before : HttpSession Endpoint) (result : BeeErrorCode × HttpSession Endpoint) : Prop :=
  (result.1 = .success ∧ Spoken before result.2) ∨ (result.1 ≠ .success ∧ Notes before result.2)

theorem executeResolve_executes (surroundings : Surroundings Endpoint) :
    Executes session (session.executeResolve surroundings answers) := by
  unfold HttpSession.executeResolve
  by_cases setup : session.resolveSetup = true
  · rw [if_neg (fun unset => unset setup)]
    simp only
    split
    · refine .inl ⟨rfl, ?_⟩
      refine Notes.speaks ⟨_, by simp [HttpSession.note]; rfl, rfl, rfl⟩
        (doneSetUp_spoken _ answers .resolve (by decide) rfl)
    · exact .inl ⟨rfl, Notes.spoken ⟨[.resolving session.resolveHost session.resolveService],
        rfl, rfl, rfl⟩⟩
  · rw [if_pos setup]
    exact .inr ⟨by simp, Notes.refl_log rfl⟩

/-- A call other than `done`. -/
def Undone (call : TcpConnect.Command Endpoint) : Prop := ∀ ec1 ec2, call ≠ .done ec1 ec2

private theorem calls_note (calls : List (TcpConnect.Command Endpoint))
    (undone : ∀ call ∈ calls, Undone call) (session : HttpSession Endpoint) :
    Notes session
        (calls.foldl (fun session call => session.performConnect answers call) session) ∧
      (calls.foldl (fun session call => session.performConnect answers call) session).connect =
        session.connect := by
  induction calls generalizing session with
  | nil => exact ⟨Notes.refl_log rfl, rfl⟩
  | cons call rest ih =>
    obtain ⟨notes, connect⟩ := ih (fun call member => undone call (by simp [member]))
      (session.performConnect answers call)
    rw [List.foldl_cons]
    cases call with
    | asyncConnect endpoint index =>
      exact ⟨Notes.trans ⟨[.connecting endpoint], rfl, rfl, rfl⟩ notes, connect⟩
    | startTimer timer => exact ⟨(Notes.refl_log rfl).trans notes, connect⟩
    | cancelTimer timer => exact ⟨(Notes.refl_log rfl).trans notes, connect⟩
    | resetSocket => exact ⟨(Notes.refl_log rfl).trans notes, connect⟩
    | asyncHandshake => exact ⟨(Notes.refl_log rfl).trans notes, connect⟩
    | setConnected => exact ⟨(Notes.refl_log rfl).trans notes, connect⟩
    | done ec1 ec2 => exact absurd rfl (undone _ (by simp) ec1 ec2)

theorem afterConnect_notes {outcome : TcpConnect.Outcome Endpoint}
    (undone : ∀ call ∈ outcome.2, Undone call) :
    Notes session (session.afterConnect answers outcome) :=
  (Notes.refl_log rfl).trans (calls_note answers outcome.2 undone
    { session with connect := outcome.1 }).1

theorem afterConnect_spoken {state : TcpConnectState Endpoint}
    (calls : List (TcpConnect.Command Endpoint)) (undone : ∀ call ∈ calls, Undone call)
    {ec1 : BeeErrorCode} (ec2 : ErrorCode)
    (named : ec1 ≠ .success ∨ state.outputEvent.event.setup = true) :
    Spoken session (session.afterConnect answers (state, calls ++ [.done ec1 ec2])) := by
  obtain ⟨notes, connect⟩ := calls_note answers calls undone { session with connect := state }
  unfold HttpSession.afterConnect
  rw [List.foldl_append]
  refine Notes.speaks ((Notes.refl_log rfl).trans notes) ?_
  refine done_spoken _ answers .connect (by decide) ec2 ?_
  rcases named with fails | setup
  · exact .inl fails
  · refine .inr ?_
    show (HttpSession.connect _).outputEvent.event.setup = true
    rw [connect]
    exact setup

private theorem retried_undone (state : TcpConnectState Endpoint) :
    ∀ call ∈ (retried state).2, Undone call := by
  unfold retried
  split <;> simp [TcpConnectState.connectNext, Undone]

/-- A success calls `done` last, with an event that is set up. -/
private theorem succeeded_calls (state : TcpConnectState Endpoint) (ec : ErrorCode) :
    ∃ calls, (∀ call ∈ calls, Undone call) ∧
      (succeeded state ec).2 = calls ++ [.done .success ec] ∧
      (succeeded state ec).1.outputEvent.event.setup = true := by
  refine ⟨.setConnected :: (state.checkTimer.map .cancelTimer).toList, ?_, rfl, rfl⟩
  cases state.checkTimer <;> simp [Undone]

private theorem succeeded_spoken (state : TcpConnectState Endpoint) (ec : ErrorCode) :
    Spoken session (session.afterConnect answers (succeeded state ec)) := by
  obtain ⟨calls, undone, shape, setup⟩ := succeeded_calls state ec
  rw [show succeeded state ec = ((succeeded state ec).1, calls ++ [.done .success ec]) from
    Prod.ext rfl shape]
  exact afterConnect_spoken session answers calls undone ec (.inr setup)

private theorem retried_spoken (state : TcpConnectState Endpoint) :
    Spoken session (session.afterConnect answers (retried state)) :=
  (afterConnect_notes session answers (retried_undone state)).spoken

private theorem reported_spoken (state : TcpConnectState Endpoint) {ec1 : BeeErrorCode}
    (ec2 : ErrorCode) (fails : ec1 ≠ .success) :
    Spoken session (session.afterConnect answers (state, [.done ec1 ec2])) :=
  afterConnect_spoken session answers [] (fun _ member => by cases member) ec2 (.inl fails)

theorem handleConnect_spoken (ec2 : ErrorCode) (index : Nat) :
    Spoken session (session.afterConnect answers
      (session.connect.handleConnect session.isTls ec2 index)) := by
  rcases handleConnect_cases session.connect session.isTls ec2 index with
    ⟨_, outcome⟩ | ⟨_, _, _, outcome⟩ | ⟨_, _, _, _, outcome⟩ | ⟨_, _, _, outcome⟩ |
    ⟨_, _, _, outcome⟩
  · rw [outcome]
    exact (Notes.refl_log rfl).spoken
  · rw [outcome]
    exact retried_spoken session answers _
  · rw [outcome]
    exact reported_spoken session answers _ ec2 (by simp)
  · rw [outcome]
    exact (Notes.refl_log rfl).spoken
  · rw [outcome]
    exact succeeded_spoken session answers _ ec2

theorem handleHandshake_spoken (ec : ErrorCode) :
    Spoken session (session.afterConnect answers (session.connect.handleHandshake ec)) := by
  cases error : ec.isError with
  | true =>
    rw [handleHandshake_fails session.connect error]
    exact reported_spoken session answers _ ec (by simp)
  | false =>
    rw [handleHandshake_succeeds session.connect error]
    exact succeeded_spoken session answers _ ec

theorem handlePeriodTimeout_spoken {outcome : TcpConnect.Outcome Endpoint}
    (ran : session.connect.handlePeriodTimeout session.isTls = some outcome) :
    Spoken session (session.afterConnect answers outcome) := by
  rcases handlePeriodTimeout_cases session.connect session.isTls with
    ⟨_, shape⟩ | ⟨_, _, shape⟩ | ⟨_, _, shape⟩
  · rw [shape] at ran
    obtain ⟨timer, _, rfl⟩ := Option.map_eq_some_iff.mp ran
    exact afterConnect_spoken session answers [.cancelTimer timer]
      (by simp [Undone]) .none (.inl (by simp))
  · rw [shape] at ran
    cases ran
    exact retried_spoken session answers _
  · rw [shape] at ran
    cases ran
    exact (Notes.refl_log rfl).spoken

theorem executeConnect_executes : Executes session (session.executeConnect answers) := by
  unfold HttpSession.executeConnect
  by_cases ready : Ready session.connect
  · rw [execute_starts ready session.nextTimer]
    refine .inl ⟨rfl, Notes.spoken ((Notes.refl_log rfl).trans (afterConnect_notes _ answers ?_))⟩
    simp [Undone]
  · rw [execute_refuses ready]
    exact .inr ⟨by simp, Notes.refl_log rfl⟩

/-! ### Sending and receiving -/

theorem executeRequest_executes : Executes session session.executeRequest := by
  unfold HttpSession.executeRequest
  split
  · exact .inr ⟨by simp, Notes.refl_log rfl⟩
  · split
    · exact .inr ⟨by simp, Notes.refl_log rfl⟩
    · exact .inl ⟨rfl, (Notes.refl_log rfl).spoken⟩

theorem executeRcvHeader_executes : Executes session session.executeRcvHeader := by
  unfold HttpSession.executeRcvHeader
  split
  · exact .inr ⟨by simp, Notes.refl_log rfl⟩
  · split
    · exact .inr ⟨by simp, Notes.refl_log rfl⟩
    · exact .inl ⟨rfl, (Notes.refl_log rfl).spoken⟩

theorem handleWrite_spoken (ec2 : ErrorCode) (transBytes : Nat) :
    Spoken session (session.handleWrite answers ec2 transBytes) := by
  unfold HttpSession.handleWrite
  split
  · exact done_spoken session answers .request (by decide) ec2 (.inl (by simp))
  · exact Notes.speaks (Notes.refl_log rfl)
      (done_spoken _ answers .request (by decide) ec2 (.inr rfl))

private theorem ends_spoken {before after : HttpSession Endpoint} {silent : Prop}
    (spoken : Spoken before after) (never : ¬ silent) :
    ∃ code, Ends before after code ∧ (code = some .success ↔ silent) := by
  obtain ⟨code, ends, named⟩ := spoken
  exact ⟨code, ends, fun success => absurd success named, fun silent => absurd silent never⟩

/-- The header ends silently exactly when it is read, parsed, and goes nowhere. -/
theorem handleReadHeader_ends (surroundings : Surroundings Endpoint) (ec2 : ErrorCode) : ∃ code,
    Ends session (session.handleReadHeader surroundings answers ec2) code ∧
      (code = some .success ↔ ec2.isError = false ∧ ∃ response,
        surroundings.parse (HttpSession.takeHeader [] session.rcvStreambuf).1 = some response ∧
          GoesNowhere answers session.request response) := by
  unfold HttpSession.handleReadHeader
  cases error : ec2.isError with
  | true =>
    exact ends_spoken (done_fails session answers .rcvHeader ec2 (by simp)) fun silent => by
      cases silent.1
  | false =>
    rw [if_neg (by simp)]
    simp only
    cases parsed : surroundings.parse (HttpSession.takeHeader [] session.rcvStreambuf).1 with
    | none =>
      refine ends_spoken (Notes.speaks (Notes.refl_log rfl) (done_fails _ answers .rcvHeader ec2
        (by simp))) fun silent => ?_
      obtain ⟨_, _, some, _⟩ := silent
      cases some
    | some response =>
      simp only
      obtain ⟨code, ends, silent⟩ := done_ends
        { session with
          rcvStreambuf := (HttpSession.takeHeader [] session.rcvStreambuf).2
          response := some response
          headerEvent := { session.headerEvent with setup := true } }
        answers .rcvHeader .success ec2
      refine ⟨code, (Notes.refl_log rfl).ends ends, silent.trans ⟨?_, ?_⟩⟩
      · rintro (⟨unset, _⟩ | ⟨_, _, _, found, held, nowhere⟩)
        · cases unset
        · cases held
          exact ⟨trivial, response, rfl, nowhere⟩
      · rintro ⟨_, found, same, nowhere⟩
        cases same
        exact .inr ⟨rfl, rfl, ⟨rfl, error⟩, response, rfl, nowhere⟩

/-! ### The body -/

private theorem reads_note {command : HttpBody.Command} (read : BodyCalls.Reads command) :
    Notes session (session.performBody answers command) := by
  cases read <;> exact Notes.refl_log rfl

/-- A handler of the body ends silently exactly when its outcome says so. -/
theorem afterBody_ends {silent : Prop} {outcome : HttpBody.Outcome}
    (calls : BodyCalls.Calls silent outcome) : ∃ code,
    Ends session (session.afterBody answers outcome) code ∧ (code = some .success ↔ silent) := by
  unfold HttpSession.afterBody
  cases calls with
  | reads never read calls =>
    rw [calls]
    exact ends_spoken ((Notes.refl_log rfl).trans (reads_note _ answers read)).spoken never
  | @streams command event never read calls =>
    rw [calls]
    refine ⟨none, ⟨[.output event], ?_, .goes rfl⟩, fun named => absurd named (by simp),
      fun silent => absurd silent never⟩
    cases read <;> rfl
  | @ends ec1 ec2 silence calls =>
    rw [calls]
    obtain ⟨code, ends, silent⟩ := done_ends
      { session with body := outcome.state, rcvStreambuf := outcome.rcvStreambuf }
      answers .rcvBody ec1 ec2
    refine ⟨code, (Notes.refl_log rfl).ends ends, silent.trans (Iff.trans ?_ silence.symm)⟩
    constructor
    · rintro (⟨unset, fine⟩ | ⟨header, _⟩)
      · exact ⟨fine, unset⟩
      · cases header
    · rintro ⟨fine, unset⟩
      exact .inl ⟨unset, fine⟩

private theorem executeBody_executes : Executes session
    ((session.body.execute session.fsm).code,
      session.afterBody answers (session.body.execute session.fsm)) := by
  have starts := BodyCalls.execute_starts session.body session.fsm
  revert starts
  generalize session.body.execute session.fsm = outcome
  intro starts
  unfold HttpSession.afterBody
  cases starts with
  | fails code calls =>
    rw [calls]
    exact .inr ⟨code, Notes.refl_log rfl⟩
  | reads code read calls =>
    rw [calls]
    exact .inl ⟨code, ((Notes.refl_log rfl).trans (reads_note _ answers read)).spoken⟩
  | sets code setup calls =>
    rw [calls]
    exact .inl ⟨code, Notes.speaks (Notes.refl_log rfl)
      (doneSetUp_spoken _ answers .rcvBody (by decide) setup)⟩

/-! ### Steps -/

/-- `execute` that fails is output with its code. -/
theorem executeState_spoken (surroundings : Surroundings Endpoint) (state : Int) :
    Spoken session (session.executeState surroundings answers state) := by
  obtain ⟨result, executed, step⟩ := executeState_executed answers session surroundings state
  rw [step]
  have executes : Executes session result := by
    cases executed with
    | resolve => exact executeResolve_executes session answers surroundings
    | connect => exact executeConnect_executes session answers
    | request => exact executeRequest_executes session
    | rcvHeader => exact executeRcvHeader_executes session
    | rcvBody => exact executeBody_executes session answers
  obtain ⟨code, next⟩ := result
  rcases executes with ⟨fine, spoken⟩ | ⟨fails, notes⟩
  · have fine : code = .success := fine
    simp only [if_neg (fun fails : code ≠ .success => fails fine)]
    exact spoken
  · have fails : code ≠ .success := fails
    simp only [if_pos fails]
    refine ⟨some code, notes.ends ⟨_, ?_, .stop { next.outputEvent state with ec1 := code }⟩,
      by simpa using fails⟩
    simp [HttpSession.note, HttpSession.output, setOutputEvent_log]

private theorem spoken_ends {silent : Prop} {before after : HttpSession Endpoint}
    (spoken : Spoken before after) (never : ¬ silent) (fresh : before.log = []) :
    ∃ code, Ending after.log code ∧ (code = some .success ↔ silent) := by
  obtain ⟨code, ⟨entries, log, ending⟩, silence⟩ := ends_spoken spoken never
  rw [fresh, List.nil_append] at log
  exact ⟨code, log ▸ ending, silence⟩

private theorem fresh_ends {silent : Prop} {before after : HttpSession Endpoint}
    (ends : ∃ code, Ends before after code ∧ (code = some .success ↔ silent))
    (fresh : before.log = []) :
    ∃ code, Ending after.log code ∧ (code = some .success ↔ silent) := by
  obtain ⟨code, ⟨entries, log, ending⟩, silence⟩ := ends
  rw [fresh, List.nil_append] at log
  exact ⟨code, log ▸ ending, silence⟩

/-- What the completion of an operation comes to. -/
theorem complete_ends (surroundings : Surroundings Endpoint) {operation : Operation}
    {completion : Completion Endpoint} {after : HttpSession Endpoint} (fresh : session.log = [])
    (completes : session.complete surroundings answers operation completion = some after) :
    ∃ code, Ending after.log code ∧
      (code = some .success ↔
        CompletesSilently surroundings answers session operation completion) := by
  cases operation with
  | execute state =>
    cases completion with
    | executed =>
      cases completes
      exact spoken_ends (executeState_spoken session answers surroundings state) id fresh
    | _ => cases completes
  | resolve =>
    cases completion with
    | resolved ec2 endpoints =>
      cases completes
      exact spoken_ends (handleResolve_spoken session answers ec2 endpoints) id fresh
    | _ => cases completes
  | connect index =>
    cases completion with
    | ended ec2 =>
      cases completes
      exact spoken_ends (handleConnect_spoken session answers ec2 index) id fresh
    | _ => cases completes
  | handshake =>
    cases completion with
    | ended ec2 =>
      cases completes
      exact spoken_ends (handleHandshake_spoken session answers ec2) id fresh
    | _ => cases completes
  | write =>
    cases completion with
    | written ec2 bytes =>
      cases completes
      exact spoken_ends (handleWrite_spoken session answers ec2 bytes) id fresh
    | _ => cases completes
  | readHeader =>
    cases completion with
    | received ec2 bytes =>
      cases completes
      exact fresh_ends (handleReadHeader_ends
        { session with rcvStreambuf := session.rcvStreambuf ++ bytes } answers surroundings ec2) fresh
    | _ => cases completes
  | readChunkSizeLine delim =>
    cases completion with
    | received ec2 bytes =>
      cases completes
      exact fresh_ends (afterBody_ends { session with rcvStreambuf := session.rcvStreambuf ++ bytes }
        answers (BodyCalls.handleReadChunkSize_calls _ _ ec2)) fresh
    | _ => cases completes
  | readChunkBody atLeast =>
    cases completion with
    | received ec2 bytes =>
      cases completes
      exact fresh_ends (afterBody_ends { session with rcvStreambuf := session.rcvStreambuf ++ bytes }
        answers (BodyCalls.handleReadChunkBody_calls _ _ ec2)) fresh
    | _ => cases completes
  | postChunkBody =>
    cases completion with
    | executed =>
      cases completes
      exact fresh_ends (afterBody_ends session answers
        (BodyCalls.handleReadChunkBody_calls _ _ .none)) fresh
    | _ => cases completes
  | readContent atLeast needLen =>
    cases completion with
    | received ec2 bytes =>
      cases completes
      exact fresh_ends (afterBody_ends { session with rcvStreambuf := session.rcvStreambuf ++ bytes }
        answers (BodyCalls.handleReadContent_calls _ _ ec2 needLen)) fresh
    | _ => cases completes

/-- What one step of the session comes to. -/
theorem step_ends (surroundings : Surroundings Endpoint) (event : Event Endpoint)
    {after : HttpSession Endpoint}
    (taken : HttpSession.step surroundings session event = some (entries, after)) : ∃ code,
    Ending entries code ∧ (code = some .success ↔ EndsSilently surroundings session event) := by
  cases event with
  | ticks timer answers =>
    simp only [HttpSession.step] at taken
    split at taken
    · obtain ⟨outcome, ran, shape⟩ := Option.map_eq_some_iff.mp taken
      cases shape
      exact spoken_ends (handlePeriodTimeout_spoken { session with log := [] } answers ran) id rfl
    · cases taken
  | completes position completion answers =>
    obtain ⟨operation, held, rest⟩ := Option.bind_eq_some_iff.mp taken
    obtain ⟨completed, completes, shape⟩ := Option.map_eq_some_iff.mp rest
    cases shape
    obtain ⟨code, ending, silent⟩ := complete_ends
      { session with log := [], pending := session.pending.eraseIdx position } answers
      surroundings rfl completes
    refine ⟨code, ending, silent.trans ?_⟩
    simp only [EndsSilently, held, Option.some.injEq, exists_eq_left']
    cases operation <;> cases completion <;> exact Iff.rfl

/-! ### Runs -/

/-- The requester is told of every stop exactly when no step ends silently. -/
theorem always_told_iff (surroundings : Surroundings Endpoint) {final : HttpSession Endpoint}
    (ran : Runs.run (HttpSession.step surroundings) session events = some (replies, final)) :
    (∀ entries ∈ replies, Told entries) ↔
      Runs.AllSteps (HttpSession.step surroundings)
        (fun before event => ¬ EndsSilently surroundings before event) session events := by
  refine Runs.all_replies_iff Told ?_ ran
  intro before event entries after taken
  obtain ⟨code, ending, silent⟩ := step_ends before surroundings event taken
  rw [ending.told_iff, ne_eq, silent]

/-- `GET` of a host that answers every address. -/
def getRequest : HttpRequest where
  isHttps := false
  host := "a"
  path := "/"
  proxyHost := ""
  proxyPort := 0

/-- A status line that redirects, without any field. -/
def foundHeader : List UInt8 := HttpMessage.bytesOf "HTTP/1.1 302 Found\r\n\r\n"

/-- Every host is one address. -/
def oneHost : Surroundings Nat := HttpMessage.reading (fun _ _ => some 7) 0

/-- A connect and a request that succeed, up to the header's arrival. -/
def redirectedTo (header : List UInt8) : List (Session.Event Nat) :=
  [.completes 0 .executed {}, .completes 0 .executed {}, .completes 0 (.ended .none) {},
    .completes 0 .executed {}, .completes 0 (.written .none 18) {}, .completes 0 .executed {},
    .completes 0 (.received .none header) {}]

/-- What is asked for is not there, which the body state does not take. -/
def notFound : List (Session.Event Nat) :=
  redirectedTo (HttpMessage.bytesOf "HTTP/1.1 404 Not Found\r\n\r\n") ++ [.completes 0 .executed {}]

private theorem not_found_replies :
    ((HttpSession.requested getRequest true).bind fun session =>
      (Runs.run (HttpSession.step oneHost) session notFound).map fun result =>
        result.1.getLast?.map stops) = some (some [.errorHttpStatus]) := by
  decide +kernel

theorem always_told_iff_not_found : ∃ session replies final,
    HttpSession.requested getRequest true = some session ∧
    Runs.run (HttpSession.step oneHost) session notFound = some (replies, final) ∧
    replies.getLast?.map stops = some [.errorHttpStatus] ∧
    ((∀ entries ∈ replies, Told entries) ↔
      Runs.AllSteps (HttpSession.step oneHost)
        (fun before event => ¬ EndsSilently oneHost before event) session notFound) := by
  obtain ⟨session, starts, rest⟩ := Option.bind_eq_some_iff.mp not_found_replies
  obtain ⟨⟨replies, final⟩, ran, stopped⟩ := Option.map_eq_some_iff.mp rest
  exact ⟨session, replies, final, starts, ran, stopped, always_told_iff _ oneHost ran⟩

private theorem redirect_replies :
    ((HttpSession.requested getRequest true).bind fun session =>
      (Runs.run (HttpSession.step oneHost) session (redirectedTo foundHeader)).map
        fun result => (result.1.getLast?.map stops, result.1.getLast?.map told)) =
      some (some [.success], some []) := by
  decide +kernel

/-- A redirect without a location stops the machine and nobody is told. -/
theorem redirect_without_location_silent : ∃ session replies final,
    HttpSession.requested getRequest true = some session ∧
    Runs.run (HttpSession.step oneHost) session (redirectedTo foundHeader) =
      some (replies, final) ∧ ¬ ∀ entries ∈ replies, Told entries := by
  obtain ⟨session, starts, rest⟩ := Option.bind_eq_some_iff.mp redirect_replies
  obtain ⟨⟨replies, final⟩, ran, shape⟩ := Option.map_eq_some_iff.mp rest
  refine ⟨session, replies, final, starts, ran, fun always => ?_⟩
  obtain ⟨stopped, untold⟩ := Prod.mk.inj shape
  obtain ⟨entries, last, stops⟩ := Option.map_eq_some_iff.mp stopped
  rw [last] at untold
  have told := always entries (List.mem_of_getLast? last) (by rw [stops]; simp)
  rw [stops, Option.some.inj untold] at told
  cases told

end BeeSdk.SessionTold
