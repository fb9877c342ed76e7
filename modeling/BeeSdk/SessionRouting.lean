import BeeSdk.Session

/-! What `done` makes of a state's output event: the router and the transforms
of the state either lead to the next `execute` or leave an event for `output`.
The cases are told apart once; what whole steps and runs report and where they
connect is read off them. -/
namespace BeeSdk.SessionRouting
open StateMachine TcpConnect Session

variable {Endpoint : Type}

/-! ### Routers -/

/-- A router that goes on has found no error and everyone agreed. -/
theorem consult_cases (verdict : Verdict) (event : StateEvent)
    (next : StateEvent → Int × StateEvent) :
    (∃ other, consult verdict event next = (kInvalidState, other) ∧
      ¬ (event.ec1 = .success ∧ event.ec2.isError = false ∧ verdict.Agrees)) ∨
    ((event.ec1 = .success ∧ event.ec2.isError = false ∧ verdict.Agrees) ∧
      consult verdict event next = next event) := by
  unfold consult
  by_cases errors : event.ec1 ≠ .success ∨ event.ec2.isError = true
  · refine .inl ⟨event, if_pos errors, ?_⟩
    rintro ⟨fine, none, _⟩
    rcases errors with ec1 | ec2
    · exact ec1 fine
    · rw [none] at ec2
      cases ec2
  rw [if_neg errors]
  by_cases handler : verdict.handler = some false
  · exact .inl ⟨event, if_pos handler, fun agreed => agreed.2.2.1 handler⟩
  rw [if_neg handler]
  by_cases callback : verdict.callback = some false
  · exact .inl ⟨event, if_pos callback, fun agreed => agreed.2.2.2.1 callback⟩
  rw [if_neg callback]
  by_cases own : verdict.own = .success
  · have fine : event.ec1 = .success := Classical.not_not.mp fun ec1 => errors (.inl ec1)
    have none : event.ec2.isError = false := Bool.eq_false_iff.mpr fun ec2 => errors (.inr ec2)
    refine .inr ⟨⟨fine, none, handler, callback, own⟩, ?_⟩
    rw [own, if_neg (fun differs => differs rfl), ← fine]
  · exact .inl ⟨_, if_pos own, fun agreed => own agreed.2.2.2.2⟩

/-- The header redirects with everyone's consent, but there is no location to
go to or no socket to go there with. -/
structure GoesNowhere (answers : Answers) (request : HttpRequest)
    (response : HttpBody.HttpResponse) : Prop where
  agrees : answers.verdict.Agrees
  redirects : redirects response.statusCode = true
  accepted : answers.verdict.redirect = .success
  lost : response.location = "" ∨ (request.isHttps = true ∧ answers.socketOpens = false)

/-- The event of a header that goes nowhere. -/
structure LosesWay (answers : Answers) (session : HttpSession Endpoint) (event : StateEvent) :
    Prop where
  setup : event.setup = true
  fine : event.ec1 = .success ∧ event.ec2.isError = false
  nowhere : ∃ response, session.response = some response ∧ GoesNowhere answers session.request response

/-- What a state's router and transforms come to: the next `execute` is posted
on a session that is ready for it, or an event is left to be output. -/
inductive Routed (answers : Answers) (session : HttpSession Endpoint) (event : StateEvent) :
    Int → Bool × StateEvent × HttpSession Endpoint → Prop where
  | unset (unset : event.setup = false) : Routed answers session event state (false, event, session)
  | refused (setup : event.setup = true) (named : other.ec1 ≠ .success)
      (found : state = eHttpState_RcvHeader → ¬ LosesWay answers session event) :
      Routed answers session event state (false, other, session)
  | finished (setup : event.setup = true) (named : other.ec1 ≠ .success) :
      Routed answers session event eHttpState_RcvBody (false, other, session.note (.rcvBody event))
  | connects (setup : event.setup = true) (fine : event.ec1 = .success)
      (some : session.resolvedEndpoints ≠ []) :
      Routed answers session event eHttpState_Resolve (true, other,
        { session with connect := { session.connect with inputEvent :=
          { session.connect.inputEvent with
            endpoints := session.resolvedEndpoints, setup := true } } }.post eHttpState_Connect)
  | requests (setup : event.setup = true) (fine : event.ec1 = .success) :
      Routed answers session event eHttpState_Connect (true, other,
        { session with requestSetup := true }.post eHttpState_Request)
  | receives (setup : event.setup = true) (fine : event.ec1 = .success) :
      Routed answers session event eHttpState_Request (true, other,
        { session with headerSetup := true }.post eHttpState_RcvHeader)
  | redirects (setup : event.setup = true) (fine : event.ec1 = .success)
      (found : ¬ LosesWay answers session event) (request : HttpRequest) (isTls : Bool)
      (host service : List Char) :
      Routed answers session event eHttpState_RcvHeader (true, other,
        ({ session with
          request, isTls, rcvStreambuf := [], resolveHost := host, resolveService := service
          resolveSetup := true }.note (.redirected host service)).post eHttpState_Resolve)
  | embodies (setup : event.setup = true) (fine : event.ec1 = .success)
      (found : ¬ LosesWay answers session event) (waitComplete : Bool) :
      Routed answers session event eHttpState_RcvHeader (true, other,
        { session with body := { session.body with waitComplete } }.post eHttpState_RcvBody)
  | nowhere (loses : LosesWay answers session event) (request : HttpRequest)
      (rcvStreambuf : List UInt8) (silent : other.ec1 = .success) :
      Routed answers session event eHttpState_RcvHeader (false, other,
        { session with request, rcvStreambuf })

/-! ### Routing by state -/

section
variable {wiring : Wiring (HttpSession Endpoint)} {session : HttpSession Endpoint}
variable {event other : StateEvent} {router : StateEvent → Int × StateEvent}

private theorem routed_refused (session : HttpSession Endpoint) (setup : event.setup = true)
    (held : wiring.router = HttpSession.routed router)
    (refuses : router event = (kInvalidState, other)) :
    ∃ named : StateEvent, named.ec1 ≠ .success ∧
      route wiring event session = (false, named, session) :=
  route_refused session setup held (by rw [refuses])

private theorem routed_transformed
    (transform : StateEvent → HttpSession Endpoint → Bool × StateEvent × HttpSession Endpoint)
    (setup : event.setup = true) (held : wiring.router = HttpSession.routed router)
    (goes : router event = (target, other)) (valid : target ≠ kInvalidState)
    (unfinished : target ≠ kFinishedState) (found : wiring.transform target = some transform) :
    route wiring event session = transform other session :=
  route_transformed setup held (by rw [goes]) valid unfinished found

end

variable (answers : Answers) (session : HttpSession Endpoint) (event : StateEvent)

private theorem not_header {state : Int} (differs : state ≠ eHttpState_RcvHeader) :
    state = eHttpState_RcvHeader → ¬ LosesWay answers session event :=
  fun same => absurd same differs

/-- A state whose router has one target only. -/
private theorem route_consulted {state target : Int} {wiring : Wiring (HttpSession Endpoint)}
    (transform : StateEvent → HttpSession Endpoint → Bool × StateEvent × HttpSession Endpoint)
    (other : state ≠ eHttpState_RcvHeader)
    (held : wiring.router = HttpSession.routed fun event =>
      consult answers.verdict event fun event => (target, event))
    (valid : target ≠ kInvalidState) (unfinished : target ≠ kFinishedState)
    (found : wiring.transform target = some transform)
    (goes : event.setup = true → event.ec1 = .success →
      Routed answers session event state (transform event session)) :
    Routed answers session event state (route wiring event session) := by
  cases setup : event.setup with
  | false =>
    rw [route_unset setup]
    exact .unset setup
  | true =>
    rcases consult_cases answers.verdict event fun event => (target, event) with
      ⟨_, refuses, _⟩ | ⟨⟨fine, _⟩, agrees⟩
    · obtain ⟨named, names, outcome⟩ := routed_refused session setup held refuses
      rw [outcome]
      exact .refused setup names (not_header _ _ _ other)
    · rw [routed_transformed transform setup held agrees valid unfinished found]
      exact goes setup fine

theorem route_resolve : Routed answers session event eHttpState_Resolve
    (route (session.wiring answers eHttpState_Resolve) event session) := by
  refine route_consulted answers session event HttpSession.transformResolveToConnect
    (by decide) rfl (by decide) (by decide) rfl fun setup fine => ?_
  unfold HttpSession.transformResolveToConnect
  by_cases none : session.resolvedEndpoints = []
  · rw [if_pos none]
    exact .refused setup (by simp) (not_header _ _ _ (by decide))
  · rw [if_neg none]
    exact .connects setup fine none

theorem route_connect : Routed answers session event eHttpState_Connect
    (route (session.wiring answers eHttpState_Connect) event session) :=
  route_consulted answers session event HttpSession.transformConnectToRequest
    (by decide) rfl (by decide) (by decide) rfl .requests

theorem route_request : Routed answers session event eHttpState_Request
    (route (session.wiring answers eHttpState_Request) event session) :=
  route_consulted answers session event HttpSession.transformSendRequestToRcvHeader
    (by decide) rfl (by decide) (by decide) rfl .receives

theorem route_rcv_body : Routed answers session event eHttpState_RcvBody
    (route (session.wiring answers eHttpState_RcvBody) event session) := by
  cases setup : event.setup with
  | false =>
    rw [route_unset setup]
    exact .unset setup
  | true =>
    have held : (session.wiring answers eHttpState_RcvBody).router =
      some fun event session => ((onRcvBody answers.verdict event).1,
        (onRcvBody answers.verdict event).2, session.note (.rcvBody event)) := rfl
    have noted : ∀ {next : Int} {other : StateEvent},
        onRcvBody answers.verdict event = (next, other) →
        ((onRcvBody answers.verdict event).1, (onRcvBody answers.verdict event).2,
          session.note (.rcvBody event)) = (next, other, session.note (.rcvBody event)) :=
      fun answers => by rw [answers]
    rcases consult_cases answers.verdict event fun event => (kFinishedState, event) with
      ⟨other, refuses, _⟩ | ⟨_, agrees⟩
    · obtain ⟨named, names, outcome⟩ := route_refused session setup held
        (noted (show onRcvBody answers.verdict event = (kInvalidState, other) from refuses))
      rw [outcome]
      exact .finished setup names
    · obtain ⟨named, names, outcome⟩ := route_finished session setup held
        (noted (show onRcvBody answers.verdict event = (kFinishedState, event) from agrees))
      rw [outcome]
      exact .finished setup names

/-! ### Routing a header -/

private theorem redirects_range {statusCode : Nat} (redirects : redirects statusCode = true) :
    SH_HTTP_STATUS_AMBIGUOUS ≤ statusCode ∧ statusCode ≤ SH_HTTP_STATUS_REDIRECT_KEEP_VERB := by
  unfold Session.redirects at redirects
  have status := of_decide_eq_true redirects
  simp only [SH_HTTP_STATUS_MOVED, SH_HTTP_STATUS_REDIRECT, SH_HTTP_STATUS_REDIRECT_METHOD,
    SH_HTTP_STATUS_REDIRECT_KEEP_VERB, SH_HTTP_STATUS_AMBIGUOUS] at *
  omega

private theorem redirected_https (request : HttpRequest) (url : List Char) :
    (request.redirected url).isHttps = request.isHttps := by
  unfold HttpRequest.redirected HttpRequest.setHost
  simp only
  split
  · split <;> rfl
  · rfl

/-- What the header's router does once everyone has agreed. -/
def headed (verdict : Verdict) (response : HttpBody.HttpResponse) (event : StateEvent) :
    Int × StateEvent :=
  if SH_HTTP_STATUS_AMBIGUOUS ≤ response.statusCode ∧
      response.statusCode ≤ SH_HTTP_STATUS_REDIRECT_KEEP_VERB then
    if redirects response.statusCode then
      let event := { event with ec1 := verdict.redirect }
      if event.ec1 ≠ .success then (kInvalidState, event) else (eHttpState_Resolve, event)
    else (kInvalidState, event)
  else (eHttpState_RcvBody, event)

/-- Where the header's router leads. -/
private theorem header_target (response : HttpBody.HttpResponse) :
    (∃ other, onRcvHeader answers.verdict (some response) event = (kInvalidState, other) ∧
      ¬ ((event.ec1 = .success ∧ event.ec2.isError = false) ∧
        GoesNowhere answers session.request response)) ∨
    ((event.ec1 = .success ∧ event.ec2.isError = false) ∧ answers.verdict.Agrees ∧
      redirects response.statusCode = true ∧ answers.verdict.redirect = .success ∧
      onRcvHeader answers.verdict (some response) event = (eHttpState_Resolve, event)) ∨
    ((event.ec1 = .success ∧ event.ec2.isError = false) ∧ redirects response.statusCode = false ∧
      onRcvHeader answers.verdict (some response) event = (eHttpState_RcvBody, event)) := by
  rw [show onRcvHeader answers.verdict (some response) event =
    consult answers.verdict event (headed answers.verdict response) from rfl]
  rcases consult_cases answers.verdict event (headed answers.verdict response) with
    ⟨other, refuses, why⟩ | ⟨⟨ec1, ec2, agreed⟩, agrees⟩
  · refine .inl ⟨other, refuses, ?_⟩
    rintro ⟨⟨ec1, ec2⟩, nowhere⟩
    exact why ⟨ec1, ec2, nowhere.agrees⟩
  rw [agrees]
  unfold headed
  cases status : redirects response.statusCode with
  | true =>
    rw [if_pos (redirects_range status), if_pos rfl]
    by_cases accepted : answers.verdict.redirect = .success
    · refine .inr (.inl ⟨⟨ec1, ec2⟩, agreed, rfl, accepted, ?_⟩)
      simp only [accepted, ← ec1]
      rw [if_neg (fun differs => differs rfl)]
    · exact .inl ⟨_, if_pos accepted, fun nowhere => accepted nowhere.2.accepted⟩
  | false =>
    by_cases range : SH_HTTP_STATUS_AMBIGUOUS ≤ response.statusCode ∧
        response.statusCode ≤ SH_HTTP_STATUS_REDIRECT_KEEP_VERB
    · rw [if_pos range]
      refine .inl ⟨event, rfl, fun nowhere => ?_⟩
      have redirects := nowhere.2.redirects
      rw [status] at redirects
      cases redirects
    · rw [if_neg range]
      exact .inr (.inr ⟨⟨ec1, ec2⟩, rfl, rfl⟩)

/-- A redirection with everyone's consent goes somewhere or loses its way. -/
private theorem redirection_routed {response : HttpBody.HttpResponse} (setup : event.setup = true)
    (fine : event.ec1 = .success ∧ event.ec2.isError = false)
    (held : session.response = some response) (agreed : answers.verdict.Agrees)
    (status : redirects response.statusCode = true) (accepted : answers.verdict.redirect = .success) :
    Routed answers session event eHttpState_RcvHeader
      (HttpSession.transformRcvHeaderToRedirection answers.socketOpens event session) := by
  have loses : ∀ lost : response.location = "" ∨
      (session.request.isHttps = true ∧ answers.socketOpens = false),
      LosesWay answers session event := fun lost =>
    ⟨setup, fine, response, held, agreed, status, accepted, lost⟩
  unfold HttpSession.transformRcvHeaderToRedirection
  rw [held]
  simp only
  by_cases missing : response.location = ""
  · rw [if_pos missing]
    exact .nowhere (loses (.inl missing)) session.request session.rcvStreambuf fine.1
  rw [if_neg missing]
  unfold HttpSession.redirect
  by_cases closed : session.request.isHttps = true ∧ answers.socketOpens = false
  · simp only [redirected_https, closed, not_false_eq_true, and_self, if_true, Bool.false_eq_true]
    exact .nowhere (loses (.inr closed)) _ _ fine.1
  · have opens : ¬ (session.request.isHttps = true ∧ ¬ answers.socketOpens = true) :=
      fun shut => closed ⟨shut.1, Bool.eq_false_iff.mpr shut.2⟩
    simp only [redirected_https, if_neg opens, not_true_eq_false, if_false]
    refine .redirects setup fine.1 ?_ _ _ _ _
    rintro ⟨_, _, response', held', nowhere⟩
    rw [held] at held'
    cases held'
    exact nowhere.lost.elim missing closed

theorem route_rcv_header : Routed answers session event eHttpState_RcvHeader
    (route (session.wiring answers eHttpState_RcvHeader) event session) := by
  cases setup : event.setup with
  | false =>
    rw [route_unset setup]
    exact .unset setup
  | true =>
    have held : (session.wiring answers eHttpState_RcvHeader).router =
      HttpSession.routed (onRcvHeader answers.verdict session.response) := rfl
    cases response : session.response with
    | none =>
      rw [response] at held
      obtain ⟨named, names, outcome⟩ := routed_refused session setup held
        (rfl : onRcvHeader answers.verdict none event = (kInvalidState, event))
      rw [outcome]
      refine .refused setup names fun _ loses => ?_
      obtain ⟨_, some, _⟩ := loses.nowhere
      rw [response] at some
      cases some
    | some response' =>
      rw [response] at held
      have found : ∀ never : ¬ ((event.ec1 = .success ∧ event.ec2.isError = false) ∧
          GoesNowhere answers session.request response'), ¬ LosesWay answers session event := by
        rintro never ⟨_, fine, _, same, nowhere⟩
        rw [response] at same
        cases same
        exact never ⟨fine, nowhere⟩
      rcases header_target answers session event response' with
        ⟨other, refuses, never⟩ | ⟨fine, agreed, status, accepted, goes⟩ |
        ⟨fine, status, goes⟩
      · obtain ⟨named, names, outcome⟩ := routed_refused session setup held refuses
        rw [outcome]
        exact .refused setup names fun _ => found never
      · rw [routed_transformed
          (HttpSession.transformRcvHeaderToRedirection answers.socketOpens) setup held goes
          (by decide) (by decide) rfl]
        exact redirection_routed answers session event setup fine response agreed status accepted
      · rw [routed_transformed HttpSession.transformRcvHeaderToRcvBody setup held goes
          (by decide) (by decide) rfl]
        refine .embodies setup fine.1 (found fun nowhere => ?_) session.waitContentComplete
        have redirects := nowhere.2.redirects
        rw [status] at redirects
        cases redirects

/-! ### What `done` comes to -/

/-- The states the session is made of. -/
inductive Known : Int → Prop where
  | resolve : Known eHttpState_Resolve
  | connect : Known eHttpState_Connect
  | request : Known eHttpState_Request
  | rcvHeader : Known eHttpState_RcvHeader
  | rcvBody : Known eHttpState_RcvBody

theorem route_routed (known : Known state) : Routed answers session event state
    (route (session.wiring answers state) event session) := by
  cases known with
  | resolve => exact route_resolve answers session event
  | connect => exact route_connect answers session event
  | request => exact route_request answers session event
  | rcvHeader => exact route_rcv_header answers session event
  | rcvBody => exact route_rcv_body answers session event

/-- What is left to do once the router and the transforms have answered. -/
def conclude (state : Int) (result : Bool × StateEvent × HttpSession Endpoint) :
    HttpSession Endpoint :=
  if result.1 then result.2.2.setOutputEvent state result.2.1
  else ((HttpSession.output result.2.1 result.2.2).setOutputEvent state result.2.1).note
    (.stopped result.2.1.ec1)

theorem doneSetUp_concludes (state : Int) : session.doneSetUp answers state =
    conclude state (route (session.wiring answers state) (session.outputEvent state) session) := by
  unfold HttpSession.doneSetUp switchToNext conclude
  generalize route (session.wiring answers state) (session.outputEvent state) session = result
  obtain ⟨advanced, event, next⟩ := result
  cases advanced with
  | true => rfl
  | false => rfl

theorem doneSetUp_routed (known : Known state) :
    ∃ result, Routed answers session (session.outputEvent state) state result ∧
      session.doneSetUp answers state = conclude state result :=
  ⟨_, route_routed answers session (session.outputEvent state) known,
    doneSetUp_concludes answers session state⟩

/-! ### What `execute` comes to -/

/-- What a state executes. -/
inductive Executed (surroundings : Surroundings Endpoint) :
    Int → BeeErrorCode × HttpSession Endpoint → Prop where
  | resolve : Executed surroundings eHttpState_Resolve (session.executeResolve surroundings answers)
  | connect : Executed surroundings eHttpState_Connect (session.executeConnect answers)
  | request : Executed surroundings eHttpState_Request session.executeRequest
  | rcvHeader : Executed surroundings eHttpState_RcvHeader session.executeRcvHeader
  | rcvBody {state : Int} (resolve : state ≠ eHttpState_Resolve)
      (connect : state ≠ eHttpState_Connect) (request : state ≠ eHttpState_Request)
      (rcvHeader : state ≠ eHttpState_RcvHeader) :
      Executed surroundings state ((session.body.execute session.fsm).code,
        session.afterBody answers (session.body.execute session.fsm))

/-- A state executes; where it fails its event is output with the code. -/
theorem executeState_executed (surroundings : Surroundings Endpoint) (state : Int) :
    ∃ result, Executed answers session surroundings state result ∧
      session.executeState surroundings answers state =
        if result.1 ≠ .success then
          let event := { result.2.outputEvent state with ec1 := result.1 }
          (HttpSession.output event (result.2.setOutputEvent state event)).note (.stopped result.1)
        else result.2 := by
  by_cases resolve : state = eHttpState_Resolve
  · exact resolve ▸ ⟨_, .resolve, rfl⟩
  by_cases connect : state = eHttpState_Connect
  · exact connect ▸ ⟨_, .connect, rfl⟩
  by_cases request : state = eHttpState_Request
  · exact request ▸ ⟨_, .request, rfl⟩
  by_cases rcvHeader : state = eHttpState_RcvHeader
  · exact rcvHeader ▸ ⟨_, .rcvHeader, rfl⟩
  refine ⟨_, .rcvBody resolve connect request rcvHeader, ?_⟩
  rw [HttpSession.executeState, if_neg resolve, if_neg connect, if_neg request, if_neg rcvHeader]

end BeeSdk.SessionRouting
