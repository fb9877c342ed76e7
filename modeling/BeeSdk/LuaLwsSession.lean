import BeeSdk.Runs
import BeeSdk.StateMachine

/-! A websocket session of a script. Its handlers run on the thread of the io service and
call into Lua, which may ask the session to close or to write before it returns; the
thread of libwebsockets changes the closing flags meanwhile. Every handler is therefore cut
where it calls: the part up to the callback, and what is left to do when it returns. -/
namespace BeeSdk.LuaLws
open StateMachine (BeeErrorCode)

/-- A `std::string`. -/
abbrev Text := List Char

/-- A connection of libwebsockets; `none` of an `Option` is the pointer NULL. -/
abbrev Wsi := Nat

/-- The reference of the Lua registry that means nil. -/
def LUA_REFNIL : Int := -1

/-- The reasons that `pre_handle_event` lets through. -/
inductive LwsCallbackReasons where
  | clientEstablished
  | clientConnectionError
  | closed
  | wsPeerInitiatedClose
  | wsiDestroy
  | clientWriteable
  | clientReceive
  deriving DecidableEq

/-- What `report_event` posts. Only a failure comes without a connection. -/
structure Event where
  wsi : Option Wsi
  reason : LwsCallbackReasons
  data : Text
  named : reason = .clientEstablished → wsi ≠ none
  deriving DecidableEq

/-- An event of the connection. -/
def Event.of (wsi : Wsi) (reason : LwsCallbackReasons) (data : Text) : Event :=
  { wsi := some wsi, reason, data, named := fun _ none => nomatch none }

/-- A call of a Lua callback, by the handler that makes it. -/
inductive Callback where
  | connectionResult (success : Bool) (data : Text)
  | disconnected
  | readData (msg : Text)
  deriving DecidableEq

/-- Of the pointers `ios_`, `lws_service_` and `main_` it matters whether they are NULL; of
`connect_timer_`, whether it is still going to fire. -/
structure LuaLwsSession where
  ios : Bool
  lwsService : Bool
  checkJsonCompleted : Bool
  main : Bool
  readCallback : Int
  connectCallback : Int := LUA_REFNIL
  wsi : Option Wsi := none
  currentMsg : Text := []
  closing : Bool := false
  closed : Bool := false
  connected : Bool := false
  connectTimer : Bool := false
  connectReported : Bool := false
  deriving DecidableEq

namespace LuaLwsSession

/-- With a url, a service and a callback, the service is asked to connect. -/
def connect (session : LuaLwsSession) (url : Option Text) (timeout callback : Int) :
    BeeErrorCode × LuaLwsSession :=
  if url = none ∨ ¬ session.lwsService ∨ callback = LUA_REFNIL then (.invalidParam, session)
  else
    let session := { session with connectCallback := callback }
    (.success, if timeout > 0 ∧ session.ios then { session with connectTimer := true } else session)

/-- What the service is asked to do, to let go of the connection in its own thread, changes
nothing here. -/
def close (session : LuaLwsSession) : LuaLwsSession :=
  if session.closed ∨ session.closing then session
  else
    let session := { session with closing := true }
    if ¬ session.lwsService then session
    else { session with lwsService := false, connectTimer := false }

/-- The connection and the text that the service is asked to write, if it is asked. -/
def write (session : LuaLwsSession) (data : Option Text) :
    BeeErrorCode × Option (Option Wsi × Text) :=
  if session.closing ∨ session.closed then (.notConnected, none)
  else match data with
    | none => (.invalidParam, none)
    | some data =>
      if ¬ session.lwsService then (.invalidParam, none) else (.success, some (session.wsi, data))

/-- Up to the callback; the connection is known to the session before Lua is. -/
def reportConnectionResult (session : LuaLwsSession) (wsi : Option Wsi) (success : Bool)
    (data : Text) : LuaLwsSession × Option Callback :=
  if ¬ session.main ∨ session.connectReported then (session, none)
  else if session.connectCallback = LUA_REFNIL then (session, none)
  else (if success then { session with wsi } else session, some (.connectionResult success data))

def reportDisconnected (session : LuaLwsSession) : LuaLwsSession × Option Callback :=
  if ¬ session.main ∨ ¬ session.connected then (session, none)
  else if session.connectCallback = LUA_REFNIL then (session, none)
  else (session, some .disconnected)

/-- The message, once `parse` finds it complete. What has come is kept until then. -/
def getCompletedJsonMessage (parse : Text → Bool) (session : LuaLwsSession) (data : Text) :
    LuaLwsSession × Option Text :=
  if session.currentMsg ≠ [] then
    let session := { session with currentMsg := session.currentMsg ++ data }
    (session, if parse session.currentMsg then some session.currentMsg else none)
  else if parse data then (session, some data)
  else ({ session with currentMsg := data }, none)

def reportReadData (parse : Text → Bool) (session : LuaLwsSession) (data : Text) :
    LuaLwsSession × Option Callback :=
  let (session, msg) := if session.checkJsonCompleted then
      getCompletedJsonMessage parse session data
    else (session, some data)
  match msg with
  | none => (session, none)
  | some msg =>
    if ¬ session.main then (session, none)
    else if session.readCallback = LUA_REFNIL then (session, none)
    else (session, some (.readData msg))

def onEvent (parse : Text → Bool) (session : LuaLwsSession) (event : Event) :
    LuaLwsSession × Option Callback :=
  if session.closing ∨ session.closed then (session, none)
  else match event.reason with
    | .clientEstablished =>
      reportConnectionResult { session with connected := true } event.wsi true event.data
    | .clientConnectionError => reportConnectionResult session event.wsi false event.data
    | .closed | .wsPeerInitiatedClose | .wsiDestroy =>
      reportDisconnected { session with closed := true }
    | .clientReceive => reportReadData parse session event.data
    | .clientWriteable => (session, none)

/-- The timer waits once. -/
def handleConnectTimeout (session : LuaLwsSession) : LuaLwsSession × Option Callback :=
  let session := { session with connectTimer := false }
  if session.connectReported then (session, none)
  else reportConnectionResult session none false "timeout".toList

/-- What the handler still does when its callback has returned, well or not. -/
def returned (session : LuaLwsSession) : Callback → LuaLwsSession
  | .connectionResult .. => { session with connectReported := true, connectTimer := false }
  | .disconnected => session
  | .readData _ => { session with currentMsg := [] }

end LuaLwsSession

/-! ### A session and what Lua is told -/

/-- A session among the threads that work on it: the callback in which the thread of the io
service is, if it is in one, whether the other thread is between its two flags, and all
calls made so far. -/
structure Life where
  session : LuaLwsSession
  calling : Option Callback := none
  clearing : Bool := false
  told : List Callback := []
  deriving DecidableEq

inductive Step where
  | event (event : Event)
  | timeout
  | returns
  | close
  /-- `inner_callback` finds the session closing: `set_closing(false)`. -/
  | clearsClosing
  /-- and then `set_closed(true)`. -/
  | setsClosed
  deriving DecidableEq

/-- A handler up to its callback. -/
def Life.handled (life : Life) : LuaLwsSession × Option Callback → Life
  | (session, none) => { life with session }
  | (session, some call) =>
    { life with session, calling := some call, told := life.told ++ [call] }

/-- The io service runs one handler at a time, and none while a callback has not returned. -/
def step (parse : Text → Bool) (life : Life) : Step → Option (Unit × Life)
  | .event event =>
    if life.calling ≠ none then none
    else some ((), life.handled (life.session.onEvent parse event))
  | .timeout =>
    if life.calling ≠ none ∨ ¬ life.session.connectTimer then none
    else some ((), life.handled life.session.handleConnectTimeout)
  | .returns => life.calling.map fun call =>
      ((), { life with session := life.session.returned call, calling := none })
  | .close => some ((), { life with session := life.session.close })
  | .clearsClosing =>
    if ¬ life.session.closing then none
    else some ((), { life with session := { life.session with closing := false }, clearing := true })
  | .setsClosed =>
    if ¬ life.clearing then none
    else some ((), { life with session := { life.session with closed := true }, clearing := false })

/-- The life of a session that has just been asked to connect. -/
def connecting (session : LuaLwsSession) (url : Option Text) (timeout callback : Int) : Life :=
  { session := (session.connect url timeout callback).2 }

/-- A session as `lua_open` makes it. -/
def opened (ios lwsService checkJsonCompleted main : Bool) (readCallback : Int) : LuaLwsSession :=
  { ios, lwsService, checkJsonCompleted, main, readCallback }

end BeeSdk.LuaLws
