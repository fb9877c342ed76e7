import BeeSdk.Session

/-! `LuaHttpSession`: an `HttpSession` whose handlers ask Lua, and which tells
Lua how a `get` has ended, through the callback `async_get` was given or by
resuming the coroutine that called `get`. How Lua comes back from a callback,
and whether it closes the session on being told, arrives with each event. -/
namespace BeeSdk.LuaHttp
open StateMachine HttpBody Session

variable {Endpoint : Type}

def LUA_REFNIL : Int := -1

inductive LuaHttpCallbackType where
  | resolve
  | connect
  | request
  | header
  | redirect
  | body
  deriving DecidableEq

/-- How `lua_resume` comes back: with returned values, by their truth, with a
yield or with an error. -/
inductive Resumption where
  | ok (values : List Bool)
  | yield
  | error
  deriving DecidableEq

/-- Only a single value that is false rejects. -/
def Resumption.verdict : Resumption → BeeErrorCode
  | .ok [accept] => if accept then .success else .engineReject
  | .ok _ => .success
  | .yield => .success
  | .error => .engineScriptError

/-- What `push_response` hands over; an empty body is not handed over. -/
structure Response where
  ec1 : BeeErrorCode
  ec2 : ErrorCode
  statusCode : Nat
  body : List UInt8
  deriving DecidableEq

/-- Lua is told how its `get` has ended. -/
inductive Signal where
  | called (getCallback : Int) (response : Response)
  | resumed (response : Response)
  deriving DecidableEq

/-- What Lua does during one event: how the callback of the stage and the one
for a redirect come back, and whether being told after so many signals makes it
close the session. A callback that closes the session while it is asked is left
out: the source goes on with the `main_` that is gone. -/
structure Lua where
  stage : Resumption := .ok []
  redirect : Resumption := .ok []
  closes : Nat → Bool := fun _ => false

structure LuaHttpSession (Endpoint : Type) where
  http : HttpSession Endpoint
  /-- `ios_` and the routers of the states are there until `stop`. -/
  installed : Bool
  /-- `main_` is not `NULL`, and so for `co`. -/
  main : Bool
  co : Bool
  manualReadBody : Bool
  oneOff : Bool
  luaCallbacks : LuaHttpCallbackType → Int
  getCallback : Int
  statusCode : Nat
  resumed : Bool
  yielding : Bool
  /-- Calls of `close` that have been posted. -/
  closings : Nat
  signals : List Signal

namespace LuaHttpSession

/-- `close`, with the `stop` of the machine below. -/
def close (session : LuaHttpSession Endpoint) : LuaHttpSession Endpoint :=
  let session := { session with main := false, co := false }
  if session.http.connected then
    { session with http := { session.http with connected := false }, installed := false }
  else session

/-! ### Telling Lua -/

def tell (session : LuaHttpSession Endpoint) (lua : Lua) (signal : Signal) :
    LuaHttpSession Endpoint :=
  let told := { session with signals := session.signals ++ [signal] }
  if lua.closes session.signals.length then told.close else told

def reportAsyncGetResult (session : LuaHttpSession Endpoint) (lua : Lua) (response : Response) :
    LuaHttpSession Endpoint :=
  if session.main ∧ session.getCallback ≠ LUA_REFNIL then
    session.tell lua (.called session.getCallback response)
  else session

def resume (session : LuaHttpSession Endpoint) (lua : Lua) (response : Response) :
    LuaHttpSession Endpoint :=
  if session.co ∧ session.main ∧ session.yielding ∧ ¬ session.resumed then
    { session with resumed := true, yielding := false }.tell lua (.resumed response)
  else session

def report (session : LuaHttpSession Endpoint) (lua : Lua) (ec1 : BeeErrorCode) (ec2 : ErrorCode)
    (body : List UInt8) : LuaHttpSession Endpoint :=
  if session.getCallback ≠ LUA_REFNIL then
    session.reportAsyncGetResult lua ⟨ec1, ec2, session.statusCode, body⟩
  else session.resume lua ⟨ec1, ec2, session.statusCode, body⟩

/-- What follows a report: a session used once posts its own `close`. -/
def closeLater (session : LuaHttpSession Endpoint) : LuaHttpSession Endpoint :=
  if session.oneOff ∧ session.installed then { session with closings := session.closings + 1 }
  else session

/-! ### Handlers -/

/-- The course of a handler that asks and does nothing else. -/
def ask (session : LuaHttpSession Endpoint) (type : LuaHttpCallbackType) (answer : Resumption) :
    BeeErrorCode :=
  if ¬ session.main then .engineInternalError
  else if session.luaCallbacks type = LUA_REFNIL then .success
  else answer.verdict

def handleResolve (session : LuaHttpSession Endpoint) (lua : Lua) : BeeErrorCode :=
  session.ask .resolve lua.stage

def handleConnect (session : LuaHttpSession Endpoint) (lua : Lua) : BeeErrorCode :=
  session.ask .connect lua.stage

def handleSend (session : LuaHttpSession Endpoint) (lua : Lua) : BeeErrorCode :=
  session.ask .request lua.stage

def handleRedirect (session : LuaHttpSession Endpoint) (lua : Lua) : BeeErrorCode :=
  session.ask .redirect lua.redirect

def handleRcvHeader (session : LuaHttpSession Endpoint) (lua : Lua) (ec1 : BeeErrorCode)
    (ec2 : ErrorCode) (header : Option HttpResponse) : BeeErrorCode × LuaHttpSession Endpoint :=
  if ¬ session.main then (.engineInternalError, session)
  else match header with
    | none => (.nullPointer, session)
    | some header =>
      let session := { session with statusCode := header.statusCode }
      let ret := if session.luaCallbacks .header > LUA_REFNIL then lua.stage.verdict else .success
      if ¬ session.manualReadBody then (ret, session)
      else (.stateMachineFinished, session.report lua ec1 ec2 [])

/-- The content is reported whatever the callback has answered. -/
def handleRcvContent (session : LuaHttpSession Endpoint) (lua : Lua) (ec1 : BeeErrorCode)
    (ec2 : ErrorCode) (data : List UInt8) : BeeErrorCode × LuaHttpSession Endpoint :=
  if ¬ session.main then (.engineInternalError, session)
  else
    let ret := if session.luaCallbacks .body > LUA_REFNIL then lua.stage.verdict else .success
    (ret, (session.report lua ec1 ec2 data).closeLater)

def output (session : LuaHttpSession Endpoint) (lua : Lua) (event : StateEvent) :
    LuaHttpSession Endpoint :=
  if event.ec1 ≠ .success ∧ event.ec1 ≠ .stateMachineFinished then
    (session.report lua event.ec1 event.ec2 []).closeLater
  else session

/-! ### Steps -/

/-- The header a completion brings, when it is read and valid. -/
def headerRead (surroundings : Surroundings Endpoint) (http : HttpSession Endpoint) :
    Operation → Completion Endpoint → Option HttpResponse
  | .readHeader, .received ec2 bytes =>
    if ec2.isError then none
    else surroundings.parse (HttpSession.takeHeader [] (http.rcvStreambuf ++ bytes)).1
  | _, _ => none

/-- What the session's own handlers answer the router of a state. The answer
does not depend on the event the router asks about. -/
def verdict (session : LuaHttpSession Endpoint) (lua : Lua) (state : Int)
    (header : Option HttpResponse) : Verdict where
  own :=
    if state = eHttpState_Resolve then session.handleResolve lua
    else if state = eHttpState_Connect then session.handleConnect lua
    else if state = eHttpState_Request then session.handleSend lua
    else if state = eHttpState_RcvHeader then
      (session.handleRcvHeader lua .success .none header).1
    else (session.handleRcvContent lua .success .none []).1
  redirect := session.handleRedirect lua

/-- What is noticed of the machine reaches the session: a content that its
router hands over, and the events it outputs. -/
def hear (lua : Lua) (session : LuaHttpSession Endpoint) : Entry Endpoint → LuaHttpSession Endpoint
  | .rcvBody event =>
    if event.ec1 ≠ .success ∨ event.ec2.isError then session
    else (session.handleRcvContent lua event.ec1 event.ec2 event.data).2
  | .output event => session.output lua event
  | _ => session

/-- What a header that is read makes of the session. -/
def handHeader (lua : Lua) (session : LuaHttpSession Endpoint) :
    Option HttpResponse → LuaHttpSession Endpoint
  | none => session
  | some header => (session.handleRcvHeader lua .success .none (some header)).2

/-- One step of the machine; a header that is read is handled before anything
the step outputs. -/
def follow (surroundings : Surroundings Endpoint) (session : LuaHttpSession Endpoint) (lua : Lua)
    (header : Option HttpResponse) (event : Session.Event Endpoint) :
    Option (LuaHttpSession Endpoint) :=
  (HttpSession.step surroundings session.http event).map fun (entries, http) =>
    entries.foldl (hear lua) (handHeader lua { session with http } header)

/-- The event of the machine, with what its routers are answered. -/
def completing (surroundings : Surroundings Endpoint) (session : LuaHttpSession Endpoint)
    (lua : Lua) (socketOpens : Bool) (position : Nat) (operation : Operation)
    (completion : Completion Endpoint) : Session.Event Endpoint :=
  let header := headerRead surroundings session.http operation completion
  .completes position completion ⟨session.verdict lua operation.state header, socketOpens⟩

def ticking (session : LuaHttpSession Endpoint) (lua : Lua) (timer : Nat) :
    Session.Event Endpoint :=
  .ticks timer { verdict := session.verdict lua eHttpState_Connect none }

end LuaHttpSession

/-- What happens next: a pending operation completes, a timer ticks, Lua sets a
callback or closes the session, or a posted `close` is called. -/
inductive Event (Endpoint : Type) where
  | completes (position : Nat) (completion : Completion Endpoint) (socketOpens : Bool) (lua : Lua)
  | ticks (timer : Nat) (lua : Lua)
  | sets (type : LuaHttpCallbackType) (callback : Int)
  | closes
  | closesLater

namespace LuaHttpSession

def step (surroundings : Surroundings Endpoint) (session : LuaHttpSession Endpoint) :
    Event Endpoint → Option (Unit × LuaHttpSession Endpoint)
  | .completes position completion socketOpens lua =>
    session.http.pending[position]?.bind fun operation =>
      if session.installed then
        (session.follow surroundings lua
          (headerRead surroundings session.http operation completion)
          (session.completing surroundings lua socketOpens position operation completion)).map
            fun session => ((), session)
      else
        -- A state without a router gets no further than `output`, and that finds no `main_`.
        some ((), { session with http := { session.http with
          pending := session.http.pending.eraseIdx position } })
  | .ticks timer lua =>
    if session.installed then
      (session.follow surroundings lua none (session.ticking lua timer)).map
        fun session => ((), session)
    else if timer ∈ session.http.timers then some ((), session)
    else none
  | .sets type callback =>
    some ((), { session with luaCallbacks := fun other =>
      if other = type then callback else session.luaCallbacks other })
  | .closes => some ((), session.close)
  | .closesLater =>
    if session.closings = 0 then none
    else some ((), { session with closings := session.closings - 1 }.close)

/-! ### Requests -/

/-- A newly constructed session that has taken a request. -/
def requested (request : HttpRequest) (manualReadBody oneOff : Bool)
    (luaCallbacks : LuaHttpCallbackType → Int) : Option (LuaHttpSession Endpoint) :=
  (HttpSession.requested request true).map fun http =>
    { http, installed := true, main := true, co := false, manualReadBody, oneOff, luaCallbacks
      getCallback := LUA_REFNIL, statusCode := 0, resumed := false, yielding := false
      closings := 0, signals := [] }

/-- `get`: the coroutine that calls it yields once the request is made. -/
def get (request : HttpRequest) (manualReadBody oneOff : Bool)
    (luaCallbacks : LuaHttpCallbackType → Int) : Option (LuaHttpSession Endpoint) :=
  (requested request manualReadBody oneOff luaCallbacks).map fun session =>
    { session with co := true, yielding := true }

def asyncGet (getCallback : Int) (request : HttpRequest) (manualReadBody oneOff : Bool)
    (luaCallbacks : LuaHttpCallbackType → Int) : Option (LuaHttpSession Endpoint) :=
  if getCallback = LUA_REFNIL then none
  else (requested request manualReadBody oneOff luaCallbacks).map fun session =>
    { session with getCallback }

end LuaHttpSession
end BeeSdk.LuaHttp
