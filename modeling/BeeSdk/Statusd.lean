import BeeSdk.HttpHeader
import BeeSdk.Runs

/-! `StatusdClient` and the part of `BeeEntrance` that feeds it: which session id the
status server is told, over login, reset-sid packets, errors and reconnects. -/
namespace BeeSdk.Statusd
open HttpHeader (Text)

def kLiveSessionIdLen : Nat := 32

/-- What `generate_live_session_id` makes. It fits the 256 bytes a packet keeps for it. -/
def LiveSessionId := { id : Text // id.length = kLiveSessionIdLen }

theorem LiveSessionId.nonempty (id : LiveSessionId) : id.val ≠ [] := by
  intro empty
  have length := id.property
  rw [empty] at length
  cases length

inductive Packet where
  | login (uid sid : Text)
  | resetSid (sid : Text)
  | log (text : Text)
  deriving DecidableEq

/-- The session id a packet tells the server. -/
def Packet.sid : Packet → Option Text
  | .login _ sid => some sid
  | .resetSid sid => some sid
  | .log _ => none

/-- Where the state machine stands: resolving or connecting, sending the login packet
composed, finished, or interrupted in the middle of the login packet. -/
inductive StatusdState where
  | connect
  | login (uid sid : Text)
  | finished
  | interrupted
  deriving DecidableEq

/-- The writes hold what `async_write` has not put out yet, the packet under way first. -/
structure StatusdClient where
  currentState : StatusdState := .connect
  logined : Bool := false
  uid : Text
  sid : Text := []
  syncSidPending : Bool := false
  writes : List Packet := []
  sent : List Packet := []
  deriving DecidableEq

namespace StatusdClient

def write (client : StatusdClient) (packet : Packet) : StatusdClient :=
  { client with writes := client.writes ++ [packet] }

def syncSid (client : StatusdClient) : StatusdClient :=
  client.write (.resetSid client.sid)

def innerSetSid (client : StatusdClient) (call : Text × Bool) : StatusdClient :=
  let (sid, sync) := call
  if sid = client.sid then client
  else
    let client := { client with sid := sid }
    if ¬ client.logined ∧ sync then { client with syncSidPending := true }
    else if ¬ sync then client
    else client.syncSid

def innerWriteLog (client : StatusdClient) (log : Text) : StatusdClient :=
  client.write (.log log)

def handleError (client : StatusdClient) : StatusdClient :=
  { client with logined := false }

/-- `handle_Connect` and, where it goes on, `Transform_Connect_To_Login`. A connection
that was given up can still come about, so the state does not change on an error. -/
def handleConnect (client : StatusdClient) (ok : Bool) : StatusdClient :=
  if ¬ ok then client.handleError
  else if client.uid = [] then client
  else { client with currentState := .login client.uid client.sid }

/-- `handle_Login` behind the login packet. -/
def handleLogin (client : StatusdClient) (uid sid : Text) (ok : Bool) : StatusdClient :=
  if ¬ ok then { client.handleError with currentState := .interrupted }
  else
    let client := { client with
      currentState := .finished
      logined := true
      sent := client.sent ++ [Packet.login uid sid] }
    if client.syncSidPending then { client.syncSid with syncSidPending := false } else client

/-- `handle_write` behind the packet under way. What is behind a failed write stays queued. -/
def handleWrite (client : StatusdClient) (packet : Packet) (rest : List Packet) (ok : Bool) :
    StatusdClient :=
  if ¬ ok then client.handleError
  else { client with writes := rest, sent := client.sent ++ [packet] }

end StatusdClient

/-- The sessions are those open, the one opened last first, each under its handle. The
posted calls of `inner_set_sid` wait in the order of their posting. -/
structure BeeEntrance where
  enableStatusd : Bool := true
  machineCode : Text
  sessions : List (Int × LiveSessionId) := []
  currentLiveSessionId : Text := []
  statusdClient : Option StatusdClient := none
  posted : List (Text × Bool) := []

namespace BeeEntrance

/-- `set_sid` of the status client, where there is one. -/
def setSid (entrance : BeeEntrance) (sid : Text) (sync : Bool) : BeeEntrance :=
  match entrance.statusdClient with
  | none => entrance
  | some _ => { entrance with posted := entrance.posted ++ [(sid, sync)] }

/-- `do_open_session` where a session could be opened. The handle is that of an idle one. -/
def doOpenSession (entrance : BeeEntrance) (handle : Int) (id : LiveSessionId) : BeeEntrance :=
  { entrance with
    sessions := (handle, id) :: entrance.sessions.filter (·.1 ≠ handle)
    currentLiveSessionId := id.val }.setSid id.val true

/-- The sessions left open by `close_busy_session`, which fails where the session's own
close does. -/
def closeBusySession (entrance : BeeEntrance) (handle : Int) (closed : Bool) :
    List (Int × LiveSessionId) :=
  if closed then entrance.sessions.filter (·.1 ≠ handle) else entrance.sessions

/-- `do_close_session` in a state that admits it, whatever `close_busy_session` returns. -/
def doCloseSession (entrance : BeeEntrance) (handle : Int) (closed : Bool) : BeeEntrance :=
  { entrance with
    sessions := entrance.closeBusySession handle closed
    currentLiveSessionId := [] }.setSid [] false

def isStatusdLogined (entrance : BeeEntrance) : Bool :=
  match entrance.statusdClient with
  | none => false
  | some client => client.logined

/-- The new client is told nothing of the open session. -/
def handleStatusdTimeout (entrance : BeeEntrance) : BeeEntrance :=
  if ¬ entrance.enableStatusd then entrance
  else if entrance.isStatusdLogined then entrance
  else { entrance with
    statusdClient := some { uid := entrance.machineCode }
    posted := [] }

/-- `force_stop`, as far as sessions and the status client go. -/
def forceStop (entrance : BeeEntrance) : BeeEntrance :=
  { entrance with sessions := [], statusdClient := none, posted := [] }

/-- What happens next to the entrance or to its status client. An opening or a closing
that is refused changes nothing and is left out. -/
inductive Request where
  | sets (enableStatusd : Bool) (machineCode : Text)
  | opens (handle : Int) (id : LiveSessionId)
  | closes (handle : Int) (closed : Bool)
  | statusdTimeout
  | stops
  | connects (ok : Bool)
  | loginWritten (ok : Bool)
  | runsPosted
  | writesLog (log : Text)
  | wrote (ok : Bool)

/-- Undefined where the client is not in a position to have that happen to it. -/
def step (entrance : BeeEntrance) : Request → Option (Unit × BeeEntrance)
  | .sets enableStatusd machineCode => some ((), { entrance with
      enableStatusd := enableStatusd
      machineCode := machineCode })
  | .opens handle id => some ((), entrance.doOpenSession handle id)
  | .closes handle closed => some ((), entrance.doCloseSession handle closed)
  | .statusdTimeout => some ((), entrance.handleStatusdTimeout)
  | .stops => some ((), entrance.forceStop)
  | .connects ok => do
    let client ← entrance.statusdClient
    if client.currentState = .connect then
      some ((), { entrance with statusdClient := some (client.handleConnect ok) })
    else none
  | .loginWritten ok => do
    let client ← entrance.statusdClient
    match client.currentState with
    | .login uid sid =>
      some ((), { entrance with statusdClient := some (client.handleLogin uid sid ok) })
    | _ => none
  | .runsPosted => do
    let client ← entrance.statusdClient
    match entrance.posted with
    | [] => none
    | call :: rest => some ((), { entrance with
        statusdClient := some (client.innerSetSid call)
        posted := rest })
  | .writesLog log => do
    let client ← entrance.statusdClient
    if client.currentState = .finished then
      some ((), { entrance with statusdClient := some (client.innerWriteLog log) })
    else none
  | .wrote ok => do
    let client ← entrance.statusdClient
    match client.logined, client.writes with
    | true, packet :: rest =>
      some ((), { entrance with statusdClient := some (client.handleWrite packet rest ok) })
    | _, _ => none

end BeeEntrance
end BeeSdk.Statusd
