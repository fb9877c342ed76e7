import BeeSdk.HttpBody
import BeeSdk.TcpConnect

/-! `HttpSession`: the machine that resolves, connects, sends the request, reads
the header and the body, and follows redirects. What the network, the resolver
and the user of the session answer arrives as events; each event completes one
pending operation or is a tick of a running timer. -/
namespace BeeSdk.Session
open IStream StateMachine HttpBody TcpConnect

variable {Endpoint : Type}

def eHttpState_Resolve : Int := 0
def eHttpState_Connect : Int := 1
def eHttpState_Request : Int := 2
def eHttpState_RcvHeader : Int := 3
def eHttpState_RcvBody : Int := 4

def SH_HTTP_STATUS_AMBIGUOUS : Nat := 300
def SH_HTTP_STATUS_MOVED : Nat := 301
def SH_HTTP_STATUS_REDIRECT : Nat := 302
def SH_HTTP_STATUS_REDIRECT_METHOD : Nat := 303
def SH_HTTP_STATUS_REDIRECT_KEEP_VERB : Nat := 307

/-! ### Routers -/

/-- What the user answers when a router asks: `handler_` and the callback where
they are set, the session's own `handle_...`, and `handle_redirect`. -/
structure Verdict where
  handler : Option Bool := none
  callback : Option Bool := none
  own : BeeErrorCode := .success
  redirect : BeeErrorCode := .success

/-- Everyone who is asked agrees. -/
def Verdict.Agrees (verdict : Verdict) : Prop :=
  verdict.handler ≠ some false ∧ verdict.callback ≠ some false ∧ verdict.own = .success

/-- The course all routers share; `next` is what the router does once everyone
has agreed. -/
def consult (verdict : Verdict) (event : StateEvent) (next : StateEvent → Int × StateEvent) :
    Int × StateEvent :=
  if event.ec1 ≠ .success ∨ event.ec2.isError then (kInvalidState, event)
  else if verdict.handler = some false then (kInvalidState, event)
  else if verdict.callback = some false then (kInvalidState, event)
  else
    let event := { event with ec1 := verdict.own }
    if event.ec1 ≠ .success then (kInvalidState, event) else next event

def onResolve (verdict : Verdict) (event : StateEvent) : Int × StateEvent :=
  consult verdict event fun event => (eHttpState_Connect, event)

def onConnect (verdict : Verdict) (event : StateEvent) : Int × StateEvent :=
  consult verdict event fun event => (eHttpState_Request, event)

def onRequest (verdict : Verdict) (event : StateEvent) : Int × StateEvent :=
  consult verdict event fun event => (eHttpState_RcvHeader, event)

/-- 301, 302, 303 and 307. -/
def redirects (statusCode : Nat) : Bool :=
  statusCode = SH_HTTP_STATUS_MOVED ∨ statusCode = SH_HTTP_STATUS_REDIRECT ∨
    statusCode = SH_HTTP_STATUS_REDIRECT_METHOD ∨ statusCode = SH_HTTP_STATUS_REDIRECT_KEEP_VERB

def onRcvHeader (verdict : Verdict) (response : Option HttpResponse) (event : StateEvent) :
    Int × StateEvent :=
  match response with
  | none => (kInvalidState, event)
  | some response => consult verdict event fun event =>
    if SH_HTTP_STATUS_AMBIGUOUS ≤ response.statusCode ∧
        response.statusCode ≤ SH_HTTP_STATUS_REDIRECT_KEEP_VERB then
      if redirects response.statusCode then
        let event := { event with ec1 := verdict.redirect }
        if event.ec1 ≠ .success then (kInvalidState, event) else (eHttpState_Resolve, event)
      else (kInvalidState, event)
    else (eHttpState_RcvBody, event)

def onRcvBody (verdict : Verdict) (event : StateEvent) : Int × StateEvent :=
  consult verdict event fun event => (kFinishedState, event)

/-! ### The request and its redirection -/

structure HttpRequest where
  isHttps : Bool
  /-- The `Host` header. -/
  host : String
  path : String
  proxyHost : String
  proxyPort : Nat

namespace HttpRequest

/-- `boost::lexical_cast<unsigned int>`: digits behind an optional sign. -/
def castPort (text : List Char) : Option Nat :=
  let (negative, digits) := match text with
    | '+' :: rest => (false, rest)
    | '-' :: rest => (true, rest)
    | _ => (false, text)
  let value := digits.foldl (fun value digit => 10 * value + (digit.toNat - '0'.toNat)) 0
  if digits = [] ∨ ¬ digits.all Char.isDigit ∨ 2 ^ 32 ≤ value then none
  else some (if negative then (2 ^ 32 - value) % 2 ^ 32 else value)

/-- `get_host_port`, called with an empty host and port zero. -/
def getHostPort (request : HttpRequest) : List Char × Nat :=
  let hostStr := request.host.toList
  if hostStr = [] then ([], 0)
  else
    let portStr := match hostStr.dropWhile (· ≠ ':') with
      | [] => ['8', '0']
      | _ :: behind => behind
    (hostStr.takeWhile (· ≠ ':'), (castPort portStr).getD 80)

def getConnHostPort (request : HttpRequest) : List Char × Nat :=
  if request.proxyHost = "" then request.getHostPort
  else (request.proxyHost.toList, request.proxyPort)

def setHost (request : HttpRequest) (host : String) : HttpRequest :=
  if host ≠ "" then { request with host } else request

/-- What `redirect` makes of the request: only `http://` counts as a scheme, any
other location is a path on the same host. -/
def redirected (request : HttpRequest) (url : List Char) : HttpRequest :=
  let scheme := "http://".toList
  if scheme <+: url then
    let behind := url.drop scheme.length
    let host := behind.takeWhile (· ≠ '/')
    let path := behind.dropWhile (· ≠ '/')
    { request.setHost (String.ofList host) with
      path := if path = [] then "/" else String.ofList path }
  else
    let slash := if url.head? = some '/' then [] else ['/']
    { request with path := String.ofList (slash ++ url) }

end HttpRequest

/-! ### The session -/

/-- An operation the session waits for. A connect carries the index its handler
is bound to, a read its completion condition. -/
inductive Operation where
  | execute (state : Int)
  | resolve
  | connect (index : Nat)
  | handshake
  | write
  | readHeader
  | readChunkSizeLine (delim : List UInt8)
  | readChunkBody (atLeast : Nat)
  | postChunkBody
  | readContent (atLeast needLen : Nat)
  deriving DecidableEq

/-- The state whose handler the operation completes in. -/
def Operation.state : Operation → Int
  | .execute state => state
  | .resolve => eHttpState_Resolve
  | .connect _ => eHttpState_Connect
  | .handshake => eHttpState_Connect
  | .write => eHttpState_Request
  | .readHeader => eHttpState_RcvHeader
  | .readChunkSizeLine _ => eHttpState_RcvBody
  | .readChunkBody _ => eHttpState_RcvBody
  | .postChunkBody => eHttpState_RcvBody
  | .readContent _ _ => eHttpState_RcvBody

/-- What a step does that its surroundings notice. -/
inductive Entry (Endpoint : Type) where
  | resolving (host service : List Char)
  | resolved (endpoints : List Endpoint)
  | redirected (host service : List Char)
  | connecting (endpoint : Option Endpoint)
  | rcvBody (event : StateEvent)
  | stopped (code : BeeErrorCode)
  | output (event : StateEvent)
  deriving DecidableEq

structure HttpSession (Endpoint : Type) where
  connected : Bool
  isTls : Bool
  rcvStreambuf : List UInt8
  request : HttpRequest
  response : Option HttpResponse
  waitContentComplete : Bool
  resolveSetup : Bool
  resolveHost : List Char
  resolveService : List Char
  resolveEvent : StateEvent
  resolvedEndpoints : List Endpoint
  connect : TcpConnectState Endpoint
  requestSetup : Bool
  requestEvent : StateEvent
  sendBytes : Nat
  headerSetup : Bool
  headerEvent : StateEvent
  body : HttpRcvBodyState
  pending : List Operation
  timers : List Nat
  nextTimer : Nat
  log : List (Entry Endpoint)

/-- What lies outside the session: an endpoint for a literal address and a
service, and the parser of response headers. -/
structure Surroundings (Endpoint : Type) where
  literal : List Char → List Char → Option Endpoint
  parse : List UInt8 → Option HttpResponse

/-- What one step is told: the user's verdict, and whether `setup_socket` finds
what TLS needs should the step redirect. -/
structure Answers where
  verdict : Verdict := {}
  socketOpens : Bool := true

/-- How a pending operation completes. -/
inductive Completion (Endpoint : Type) where
  | executed
  | resolved (ec2 : ErrorCode) (endpoints : List Endpoint)
  | ended (ec2 : ErrorCode)
  | written (ec2 : ErrorCode) (bytes : Nat)
  | received (ec2 : ErrorCode) (bytes : List UInt8)

/-- What happens next: a pending operation completes or a timer ticks. -/
inductive Event (Endpoint : Type) where
  | completes (position : Nat) (completion : Completion Endpoint) (answers : Answers)
  | ticks (timer : Nat) (answers : Answers)

namespace HttpSession

def note (session : HttpSession Endpoint) (entry : Entry Endpoint) : HttpSession Endpoint :=
  { session with log := session.log ++ [entry] }

def await (session : HttpSession Endpoint) (operation : Operation) : HttpSession Endpoint :=
  { session with pending := session.pending ++ [operation] }

/-- `HttpSession::output`; what the user does with the event changes nothing here. -/
def output (event : StateEvent) (session : HttpSession Endpoint) : HttpSession Endpoint :=
  session.note (.output event)

/-- What `AsyncStateMachine::switch_to_state` does once the transform agrees. -/
def post (session : HttpSession Endpoint) (state : Int) : HttpSession Endpoint :=
  session.await (.execute state)

def transformResolveToConnect (event : StateEvent) (session : HttpSession Endpoint) :
    Bool × StateEvent × HttpSession Endpoint :=
  if session.resolvedEndpoints = [] then (false, { event with ec1 := .resolveFail }, session)
  else
    let inputEvent := { session.connect.inputEvent with
      endpoints := session.resolvedEndpoints, setup := true }
    (true, event, { session with connect := { session.connect with inputEvent } }.post
      eHttpState_Connect)

def transformConnectToRequest (event : StateEvent) (session : HttpSession Endpoint) :
    Bool × StateEvent × HttpSession Endpoint :=
  (true, event, { session with requestSetup := true }.post eHttpState_Request)

def transformSendRequestToRcvHeader (event : StateEvent) (session : HttpSession Endpoint) :
    Bool × StateEvent × HttpSession Endpoint :=
  (true, event, { session with headerSetup := true }.post eHttpState_RcvHeader)

/-- `HttpStateMachine::redirect` up to `setup_socket`, which drops what was
received and takes over the request's scheme. -/
def redirect (session : HttpSession Endpoint) (url : List Char) (socketOpens : Bool) :
    Bool × List Char × List Char × HttpSession Endpoint :=
  let request := session.request.redirected url
  let (host, port) := request.getConnHostPort
  let session := { session with request, rcvStreambuf := [] }
  let service := (toString port).toList
  if request.isHttps ∧ ¬ socketOpens then (false, host, service, session)
  else (true, host, service, { session with isTls := request.isHttps })

def transformRcvHeaderToRedirection (socketOpens : Bool) (event : StateEvent)
    (session : HttpSession Endpoint) : Bool × StateEvent × HttpSession Endpoint :=
  match session.response with
  | none => (false, event, session)
  | some response =>
    if response.location = "" then (false, event, session)
    else
      let (opened, host, service, session) := session.redirect response.location.toList socketOpens
      if ¬ opened then (false, event, session)
      else
        (true, event, { session with
          resolveHost := host, resolveService := service, resolveSetup := true }.note
            (.redirected host service) |>.post eHttpState_Resolve)

def transformRcvHeaderToRcvBody (event : StateEvent) (session : HttpSession Endpoint) :
    Bool × StateEvent × HttpSession Endpoint :=
  (true, event, { session with
    body := { session.body with waitComplete := session.waitContentComplete } }.post
      eHttpState_RcvBody)

/-- A router that leaves the session as it is. -/
def routed (router : StateEvent → Int × StateEvent) :
    Option (StateEvent → HttpSession Endpoint → Int × StateEvent × HttpSession Endpoint) :=
  some fun event session => ((router event).1, (router event).2, session)

/-- The router and the transforms each state is set up with. -/
def wiring (answers : Answers) (session : HttpSession Endpoint) (state : Int) :
    Wiring (HttpSession Endpoint) where
  router :=
    if state = eHttpState_Resolve then routed (onResolve answers.verdict)
    else if state = eHttpState_Connect then routed (onConnect answers.verdict)
    else if state = eHttpState_Request then routed (onRequest answers.verdict)
    else if state = eHttpState_RcvHeader then
      routed (onRcvHeader answers.verdict session.response)
    else some fun event session =>
      ((onRcvBody answers.verdict event).1, (onRcvBody answers.verdict event).2,
        session.note (.rcvBody event))
  transform := fun target =>
    if state = eHttpState_Resolve ∧ target = eHttpState_Connect then
      some transformResolveToConnect
    else if state = eHttpState_Connect ∧ target = eHttpState_Request then
      some transformConnectToRequest
    else if state = eHttpState_Request ∧ target = eHttpState_RcvHeader then
      some transformSendRequestToRcvHeader
    else if state = eHttpState_RcvHeader ∧ target = eHttpState_Resolve then
      some (transformRcvHeaderToRedirection answers.socketOpens)
    else if state = eHttpState_RcvHeader ∧ target = eHttpState_RcvBody then
      some transformRcvHeaderToRcvBody
    else none
  output := output

/-- The output event of a state. -/
def outputEvent (session : HttpSession Endpoint) (state : Int) : StateEvent :=
  if state = eHttpState_Resolve then session.resolveEvent
  else if state = eHttpState_Connect then session.connect.outputEvent.event
  else if state = eHttpState_Request then session.requestEvent
  else if state = eHttpState_RcvHeader then session.headerEvent
  else session.body.outputEvent

def setOutputEvent (session : HttpSession Endpoint) (state : Int) (event : StateEvent) :
    HttpSession Endpoint :=
  if state = eHttpState_Resolve then { session with resolveEvent := event }
  else if state = eHttpState_Connect then
    { session with connect := { session.connect with
        outputEvent := { session.connect.outputEvent with event } } }
  else if state = eHttpState_Request then { session with requestEvent := event }
  else if state = eHttpState_RcvHeader then { session with headerEvent := event }
  else { session with body := { session.body with outputEvent := event } }

/-- `State::done()` of one of the states. -/
def doneSetUp (session : HttpSession Endpoint) (answers : Answers) (state : Int) :
    HttpSession Endpoint :=
  let (advanced, event, session) :=
    switchToNext (session.wiring answers state) (session.outputEvent state) session
  let session := session.setOutputEvent state event
  if advanced then session else session.note (.stopped event.ec1)

/-- `State::done(ec1, ec2)`. -/
def done (session : HttpSession Endpoint) (answers : Answers) (state : Int) (ec1 : BeeErrorCode)
    (ec2 : ErrorCode) : HttpSession Endpoint :=
  (session.setOutputEvent state { session.outputEvent state with ec1, ec2 }).doneSetUp answers state

/-! ### Resolving -/

/-- `TcpResolveState::execute`. A literal address becomes an endpoint at once;
either way what is found is added to what was found before. -/
def executeResolve (session : HttpSession Endpoint) (surroundings : Surroundings Endpoint)
    (answers : Answers) : BeeErrorCode × HttpSession Endpoint :=
  if ¬ session.resolveSetup then (.invalidParam, session)
  else
    let session := session.note (.resolving session.resolveHost session.resolveService)
    match surroundings.literal session.resolveHost session.resolveService with
    | some endpoint =>
      let session := { session with
        resolvedEndpoints := session.resolvedEndpoints ++ [endpoint]
        resolveEvent := { session.resolveEvent with setup := true } }.note (.resolved [endpoint])
      (.success, session.doneSetUp answers eHttpState_Resolve)
    | none => (.success, session.await .resolve)

def handleResolve (session : HttpSession Endpoint) (answers : Answers) (ec2 : ErrorCode)
    (endpoints : List Endpoint) : HttpSession Endpoint :=
  let ec1 := if endpoints = [] then .resolveFail else .success
  let session := { session with
    resolvedEndpoints := session.resolvedEndpoints ++ endpoints
    resolveEvent := { session.resolveEvent with ec1, ec2, setup := true } }.note (.resolved endpoints)
  session.done answers eHttpState_Resolve ec1 ec2

/-! ### Connecting -/

def performConnect (session : HttpSession Endpoint) (answers : Answers) :
    TcpConnect.Command Endpoint → HttpSession Endpoint
  | .asyncConnect endpoint index => (session.note (.connecting endpoint)).await (.connect index)
  | .startTimer timer => { session with timers := timer :: session.timers }
  | .cancelTimer timer => { session with timers := session.timers.filter (· ≠ timer) }
  | .resetSocket => { session with rcvStreambuf := [] }
  | .asyncHandshake => session.await .handshake
  | .setConnected => { session with connected := true }
  | .done ec1 ec2 => session.done answers eHttpState_Connect ec1 ec2

def afterConnect (session : HttpSession Endpoint) (answers : Answers)
    (outcome : TcpConnect.Outcome Endpoint) : HttpSession Endpoint :=
  outcome.2.foldl (fun session command => session.performConnect answers command)
    { session with connect := outcome.1 }

def executeConnect (session : HttpSession Endpoint) (answers : Answers) :
    BeeErrorCode × HttpSession Endpoint :=
  let (code, outcome) := session.connect.execute session.nextTimer
  (code, { session with nextTimer := session.nextTimer + 1 }.afterConnect answers outcome)

/-! ### Sending and receiving -/

/-- `HttpRequestState::execute`. -/
def executeRequest (session : HttpSession Endpoint) : BeeErrorCode × HttpSession Endpoint :=
  if ¬ session.requestSetup then (.invalidParam, session)
  else if ¬ session.connected then (.notConnected, session)
  else (.success, session.await .write)

def handleWrite (session : HttpSession Endpoint) (answers : Answers) (ec2 : ErrorCode)
    (transBytes : Nat) : HttpSession Endpoint :=
  if ec2.isError then session.done answers eHttpState_Request .writeFail ec2
  else { session with
    sendBytes := transBytes
    requestEvent := { session.requestEvent with setup := true } }.done answers eHttpState_Request
      .success ec2

/-- `HttpRcvHeaderState::execute`. -/
def executeRcvHeader (session : HttpSession Endpoint) : BeeErrorCode × HttpSession Endpoint :=
  if ¬ session.headerSetup then (.invalidParam, session)
  else if ¬ session.connected then (.notConnected, session)
  else (.success, session.await .readHeader)

/-- The `getline` loop: lines up to and including the first empty one, and what
is left behind it. -/
def takeHeader (line : List UInt8) : List UInt8 → List UInt8 × List UInt8
  | [] => (if line = [] then [] else line ++ [newline], [])
  | byte :: rest =>
    if byte ≠ newline then takeHeader (line ++ [byte]) rest
    else if line = [carriageReturn] then (line ++ [newline], rest)
    else
      let (header, left) := takeHeader [] rest
      (line ++ newline :: header, left)

def handleReadHeader (session : HttpSession Endpoint) (surroundings : Surroundings Endpoint)
    (answers : Answers) (ec2 : ErrorCode) : HttpSession Endpoint :=
  if ec2.isError then session.done answers eHttpState_RcvHeader .readHttpHeaderFail ec2
  else
    let (header, rest) := takeHeader [] session.rcvStreambuf
    let session := { session with rcvStreambuf := rest }
    match surroundings.parse header with
    | none => session.done answers eHttpState_RcvHeader .errorData ec2
    | some response =>
      { session with
        response := some response
        headerEvent := { session.headerEvent with setup := true } }.done answers
          eHttpState_RcvHeader .success ec2

/-- What `HttpRcvBodyState` sees of the session. -/
def fsm (session : HttpSession Endpoint) : HttpStateMachine :=
  ⟨session.connected, session.response, session.rcvStreambuf⟩

def performBody (session : HttpSession Endpoint) (answers : Answers) :
    HttpBody.Command → HttpSession Endpoint
  | .readChunkSizeLine delim => session.await (.readChunkSizeLine delim)
  | .readChunkBody atLeast => session.await (.readChunkBody atLeast)
  | .postChunkBody => session.await .postChunkBody
  | .readContent atLeast needLen => session.await (.readContent atLeast needLen)
  | .output event => output event session
  | .doneSetUp => session.doneSetUp answers eHttpState_RcvBody
  | .done ec1 ec2 => session.done answers eHttpState_RcvBody ec1 ec2

def afterBody (session : HttpSession Endpoint) (answers : Answers) (outcome : HttpBody.Outcome) :
    HttpSession Endpoint :=
  outcome.commands.foldl (fun session command => session.performBody answers command)
    { session with body := outcome.state, rcvStreambuf := outcome.rcvStreambuf }

/-! ### Steps -/

/-- `AsyncStateMachine::execute_state`. -/
def executeState (session : HttpSession Endpoint) (surroundings : Surroundings Endpoint)
    (answers : Answers) (state : Int) : HttpSession Endpoint :=
  let (code, session) :=
    if state = eHttpState_Resolve then session.executeResolve surroundings answers
    else if state = eHttpState_Connect then session.executeConnect answers
    else if state = eHttpState_Request then session.executeRequest
    else if state = eHttpState_RcvHeader then session.executeRcvHeader
    else
      let outcome := session.body.execute session.fsm
      (outcome.code, session.afterBody answers outcome)
  if code ≠ .success then
    let event := { session.outputEvent state with ec1 := code }
    (output event (session.setOutputEvent state event)).note (.stopped code)
  else session

/-- The handler a pending operation completes with, where the completion is one
the operation can have. Received bytes are in the stream buffer first. -/
def complete (session : HttpSession Endpoint) (surroundings : Surroundings Endpoint)
    (answers : Answers) : Operation → Completion Endpoint → Option (HttpSession Endpoint)
  | .execute state, .executed => some (session.executeState surroundings answers state)
  | .resolve, .resolved ec2 endpoints => some (session.handleResolve answers ec2 endpoints)
  | .connect index, .ended ec2 =>
    some (session.afterConnect answers (session.connect.handleConnect session.isTls ec2 index))
  | .handshake, .ended ec2 =>
    some (session.afterConnect answers (session.connect.handleHandshake ec2))
  | .write, .written ec2 bytes => some (session.handleWrite answers ec2 bytes)
  | .readHeader, .received ec2 bytes =>
    some ({ session with rcvStreambuf := session.rcvStreambuf ++ bytes }.handleReadHeader
      surroundings answers ec2)
  | .readChunkSizeLine _, .received ec2 bytes =>
    let session := { session with rcvStreambuf := session.rcvStreambuf ++ bytes }
    some (session.afterBody answers (session.body.handleReadChunkSize session.fsm ec2))
  | .readChunkBody _, .received ec2 bytes =>
    let session := { session with rcvStreambuf := session.rcvStreambuf ++ bytes }
    some (session.afterBody answers (session.body.handleReadChunkBody session.fsm ec2))
  | .postChunkBody, .executed =>
    some (session.afterBody answers (session.body.handleReadChunkBody session.fsm .none))
  | .readContent _ needLen, .received ec2 bytes =>
    let session := { session with rcvStreambuf := session.rcvStreambuf ++ bytes }
    some (session.afterBody answers (session.body.handleReadContent session.fsm ec2 needLen))
  | _, _ => none

/-- What has been noticed of the session, and the session without it. -/
def flush (session : HttpSession Endpoint) : List (Entry Endpoint) × HttpSession Endpoint :=
  (session.log, { session with log := [] })

/-- One step, with what its surroundings notice of it. There is none for an
operation that is not pending or a timer that does not run. -/
def step (surroundings : Surroundings Endpoint) (session : HttpSession Endpoint) :
    Event Endpoint → Option (List (Entry Endpoint) × HttpSession Endpoint)
  | .completes position completion answers =>
    session.pending[position]?.bind fun operation =>
      ({ session with log := [], pending := session.pending.eraseIdx position }.complete
        surroundings answers operation completion).map flush
  | .ticks timer answers =>
    if timer ∈ session.timers then
      (session.connect.handlePeriodTimeout session.isTls).map fun outcome =>
        flush ({ session with log := [] }.afterConnect answers outcome)
    else none

/-- `HttpStateMachine::request` after `setup_request`: the first host is set up
for the resolver and its `execute` is posted. `setup_input_event` refuses an
empty host. -/
def requested (request : HttpRequest) (waitContentComplete : Bool) :
    Option (HttpSession Endpoint) :=
  let (host, port) := request.getConnHostPort
  if host = [] then none
  else some {
    connected := false, isTls := request.isHttps, rcvStreambuf := [], request, response := none
    waitContentComplete, resolveSetup := true, resolveHost := host
    resolveService := (toString port).toList, resolveEvent := {}, resolvedEndpoints := []
    connect := {}, requestSetup := false, requestEvent := {}, sendBytes := 0
    headerSetup := false, headerEvent := {}, body := {}
    pending := [.execute eHttpState_Resolve], timers := [], nextTimer := 0, log := [] }

end HttpSession
end BeeSdk.Session
