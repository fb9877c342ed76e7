import BeeSdk.LuaLwsSession
import Mathlib.Data.List.AList

/-! The service that all websocket sessions share, with the sessions of a script. Writes
come from the thread of the io service and find their queue by the connection the session
knows; libwebsockets calls from its own thread and finds queue and session by the
connection it calls for. What asks libwebsockets for such a call is not modelled, it may
call at any time. -/
namespace BeeSdk.LuaLws
open StateMachine (BeeErrorCode)

/-- The session, by its handle, and what it has to send. -/
structure WsiObj where
  session : Nat
  sendQueuqe : List Text := []
  deriving DecidableEq

/-- The service, the sessions by their handles, the events posted to the io service, the
callback its thread is in, the session between whose two flags the other thread is; and
what has happened so far: the writes answered with success, and what was given to
`lws_write`, each beside the session. -/
structure Lws where
  running : Bool
  wsiTable : AList fun _ : Wsi => WsiObj := ∅
  sessions : List LuaLwsSession := []
  posted : List (Nat × Event) := []
  calling : Option (Nat × Callback) := none
  clearing : Option Nat := none
  written : List (Nat × Text) := []
  handed : List (Nat × Text) := []

inductive Request where
  | open' (ios lwsService checkJsonCompleted main : Bool) (readCallback : Int)
  /-- `wsi` is what `lws_client_connect_via_info` returns, or NULL if it is not reached. -/
  | connect (handle : Nat) (url : Option Text) (timeout callback : Int) (wsi : Option Wsi)
  | write (handle : Nat) (data : Option Text)
  | close (handle : Nat)
  /-- The first event posted is handled. -/
  | handle
  | timeout (handle : Nat)
  | returns
  /-- libwebsockets calls; `n` is what `lws_write` returns if it is reached. -/
  | calls (wsi : Wsi) (reason : LwsCallbackReasons) (data : Text) (n : Int)
  | setsClosed
  deriving DecidableEq

inductive Reply where
  | nothing
  | code (code : BeeErrorCode)
  | ret (ret : Int)
  deriving DecidableEq

namespace Lws

/-- What the table holds for a connection; it holds nothing for NULL. -/
def found (lws : Lws) (wsi : Option Wsi) : Option WsiObj := wsi.bind lws.wsiTable.lookup

def setSession (lws : Lws) (handle : Nat) (session : LuaLwsSession) : Lws :=
  { lws with sessions := lws.sessions.set handle session }

/-- `report_event`. -/
def reportEvent (lws : Lws) (handle : Nat) (session : LuaLwsSession) (event : Event) : Lws :=
  if session.ios then { lws with posted := lws.posted ++ [(handle, event)] } else lws

/-- `LuaLwsService::connect`. -/
def connect (lws : Lws) (handle : Nat) (session : LuaLwsSession) (wsi : Option Wsi) : Lws :=
  match (if lws.running then wsi else none) with
  | none => lws.reportEvent handle session
    { wsi := none, reason := .clientConnectionError, data := [], named := nofun }
  | some wsi => { lws with wsiTable := lws.wsiTable.insert wsi { session := handle } }

/-- `LuaLwsService::write`. -/
def write (lws : Lws) (wsi : Option Wsi) (data : Text) : Lws :=
  if ¬ lws.running then lws
  else match wsi with
    | none => lws
    | some wsi => match lws.wsiTable.lookup wsi with
      | none => lws
      | some obj => { lws with
          wsiTable := lws.wsiTable.insert wsi { obj with sendQueuqe := obj.sendQueuqe ++ [data] } }

/-- `on_writable`: at most the first message is given to `lws_write`, and gone with it. -/
def onWritable (lws : Lws) (wsi : Wsi) (obj : WsiObj) (n : Int) : Int × Lws :=
  match obj.sendQueuqe with
  | [] => (0, lws)
  | data :: rest =>
    (if n < 0 ∨ n < data.length then -1 else 0, { lws with
      wsiTable := lws.wsiTable.insert wsi { obj with sendQueuqe := rest }
      handed := lws.handed ++ [(obj.session, data)] })

/-- `inner_callback`, up to `set_closed` if the session is closing. -/
def innerCallback (lws : Lws) (wsi : Wsi) (reason : LwsCallbackReasons) (data : Text) (n : Int) :
    Int × Lws :=
  match lws.wsiTable.lookup wsi with
  | none => (0, lws)
  | some obj => match lws.sessions[obj.session]? with
    | none => (0, lws)
    | some session =>
      if session.closing then
        (-1, { lws.setSession obj.session { session with closing := false } with
          wsiTable := lws.wsiTable.erase wsi
          clearing := some obj.session })
      else if reason = .clientWriteable then lws.onWritable wsi obj n
      else (0, lws.reportEvent obj.session session (.of wsi reason data))

/-- A handler of a session up to its callback. -/
def handled (lws : Lws) (handle : Nat) : LuaLwsSession × Option Callback → Lws
  | (session, none) => lws.setSession handle session
  | (session, some call) => { lws.setSession handle session with calling := some (handle, call) }

/-- One step of either thread. A session is asked to connect once: it reports one result
only. Handlers do not run while a callback has not returned, and libwebsockets does not
call while its thread is between two flags. -/
def step (parse : Text → Bool) (lws : Lws) : Request → Option (Reply × Lws)
  | .open' ios lwsService checkJsonCompleted main readCallback =>
    some (.nothing, { lws with sessions := lws.sessions ++
      [opened ios lwsService checkJsonCompleted main readCallback] })
  | .connect handle url timeout callback wsi =>
    lws.sessions[handle]?.bind fun session =>
      if session.connectCallback ≠ LUA_REFNIL then none
      else match session.connect url timeout callback with
        | (.success, session) =>
          some (.code .success, (lws.setSession handle session).connect handle session wsi)
        | (code, session) => some (.code code, lws.setSession handle session)
  | .write handle data =>
    lws.sessions[handle]?.map fun session =>
      match session.write data with
      | (code, none) => (.code code, lws)
      | (code, some (wsi, text)) =>
        (.code code, { lws.write wsi text with written := lws.written ++ [(handle, text)] })
  | .close handle =>
    lws.sessions[handle]?.map fun session => (.nothing, lws.setSession handle session.close)
  | .handle =>
    if lws.calling ≠ none then none
    else match lws.posted with
      | [] => none
      | (handle, event) :: rest =>
        lws.sessions[handle]?.map fun session =>
          (.nothing, { lws with posted := rest }.handled handle (session.onEvent parse event))
  | .timeout handle =>
    if lws.calling ≠ none then none
    else lws.sessions[handle]?.bind fun session =>
      if ¬ session.connectTimer then none
      else some (.nothing, lws.handled handle session.handleConnectTimeout)
  | .returns =>
    lws.calling.bind fun (handle, call) =>
      lws.sessions[handle]?.map fun session =>
        (.nothing, { lws.setSession handle (session.returned call) with calling := none })
  | .calls wsi reason data n =>
    if lws.clearing ≠ none then none
    else
      let (ret, lws) := lws.innerCallback wsi reason data n
      some (.ret ret, lws)
  | .setsClosed =>
    lws.clearing.bind fun handle =>
      lws.sessions[handle]?.map fun session =>
        (.nothing, { lws.setSession handle { session with closed := true } with clearing := none })

end Lws

end BeeSdk.LuaLws
