import BeeSdk.VideoRoomScript
import BeeSdk.TextSearch

/-! The methods of `WhiteBoard` and everything that can happen to it. Its `room_name` is
never assigned: every text that is to name the room names it nil. -/
namespace BeeSdk.WhiteBoard
open HttpHeader (Text)
open Signalling (Slot)
open Script

def eBeeWhiteBoardRole_None : Int := 0
def eBeeWhiteBoardRole_Teacher : Int := 1
def eBeeWhiteBoardRole_Student : Int := 2

/-- A uid as a key of a table. Two values that are tables themselves are never the same; each
is known by the message and the place it came in. -/
inductive Uid where
  | null
  | boolean
  | integer (value : Int)
  | fraction (numeral : Text)
  | string (text : Text)
  | table (message place : Nat)
  deriving DecidableEq

/-- What is taken for a uid, where it is neither nil nor false. -/
def Uid.ofValue (message place : Nat) : LuaValue → Option Uid
  | .nil | .boolean false => none
  | .null => some .null
  | .boolean true => some .boolean
  | .integer value => some (.integer (LuaNumber.doubleOf value))
  | .fraction numeral => some (.fraction numeral)
  | .string text => some (.string text)
  | .array _ | .object _ => some (.table message place)

/-- What the board asks of the named server and of the message service. -/
inductive BoardRequest where
  | namedSvr (roomName : Option Text)
  | msgSvc
  | create (roomId : LuaValue) (uid : Option Text)
  | join (roomId : LuaValue) (uid : Option Text) (roleAlias : Text) (nickName : Option Text)
  | message (cmd uidlist uid msg roomId : LuaValue)
  | heart (roomId : LuaValue) (uid : Option Text)

/-- What is told to the application. -/
inductive Notification where
  | localJoin (ec : Int)
  | localLeave (ec : Int)
  | remoteJoin (uid : Uid) (nickName : LuaValue) (role : Int)
  | remoteLeave (uid : Uid)
  | message («from» : LuaValue)

inductive Entry where
  | asks (request : BoardRequest)
  | notifies (notification : Notification)

/-- Which of the calls into the modules succeed. -/
structure Calls where
  starts : Bool := true
  wsOpens : Bool := true
  httpOpens : Bool := true
  gets : Bool := true
  connects : Bool := true
  writes : Bool := true
  timerOpens : Bool := true

/-- The fields of the board that its methods read. Of a member of the table its uid is all that
is read; `received` counts the messages that have been decoded. -/
structure Board where
  roomNameDisplay : Option Text := none
  roomNameInternal : LuaValue := .nil
  roomNameCompat : Option Text := none
  create : Option Bool := none
  uid : Option Text := none
  nickName : Option Text := none
  token : Option Text := none
  role : Option Int := none
  roleAlias : Text := "none".toList
  msgSvcWs : Slot := {}
  namedConn : Slot := {}
  msgSvcKeepaliveTimer : Slot := {}
  joined : Bool := false
  leaving : Bool := false
  memberTable : List Uid := []
  received : Nat := 0
  calls : Calls := {}
  history : List Entry := []

abbrev Lua := Script Board

/-- The arguments the application gives as JSON text; what it leaves out is nil. -/
structure JoinArgs where
  roomName : Option Text
  create : Option Bool
  uid : Option Text
  nickName : Option Text
  token : Option Text
  role : Option Int

structure LeaveArgs where
  roomName : Option Text

structure SendArgs where
  cmd : LuaValue
  uidlist : LuaValue
  uid : LuaValue
  msg : LuaValue

def Board.enter (board : Board) (entry : Entry) : Board :=
  { board with history := board.history ++ [entry] }

def assert (holds : Bool) : Lua Unit := if holds then pure () else raise

def field (value : LuaValue) (key : String) : Lua LuaValue := ofOption (value.field key)

def reportData (notification : Notification) : Lua Unit := modify (·.enter (.notifies notification))

/-- `self.msg_svc_ws:write`, which raises an error where the socket is nil. -/
def writeMsgSvc (request : BoardRequest) : Lua Unit := do
  assert (← get).msgSvcWs.held
  if (← get).calls.writes then modify (·.enter (.asks request))

/-! ### Opening and closing -/

def requestNamedSvrForMsgSvc : Lua Bool := do
  let opened := (← get).calls.httpOpens
  modify fun board => { board with namedConn := board.namedConn.assign opened }
  if opened ∧ (← get).calls.gets then
    modify fun board => board.enter (.asks (.namedSvr board.roomNameCompat))
    return true
  else return false

def «open» : Lua Unit := do
  assert (← get).calls.starts
  let opened := (← get).calls.wsOpens
  modify fun board => { board with msgSvcWs := board.msgSvcWs.assign opened }
  assert opened
  assert (← requestNamedSvrForMsgSvc)

def roleAliasOf (role : Int) : Text :=
  if role = eBeeWhiteBoardRole_Student then "stu".toList
  else if role = eBeeWhiteBoardRole_Teacher then "tech".toList
  else "none".toList

def join (args : JoinArgs) : Lua Unit := do
  let roomName ← ofOption args.roomName
  let create ← ofOption args.create
  let uid ← ofOption args.uid
  let nickName ← ofOption args.nickName
  let token ← ofOption args.token
  let role ← ofOption args.role
  modify fun board => { board with
    roomNameDisplay := some roomName
    roomNameCompat := some ("board_".toList ++ roomName)
    create := some create
    uid := some uid
    nickName := some nickName
    token := some token
    role := some role
    roleAlias := roleAliasOf role }
  WhiteBoard.open

/-- Nothing of the members is touched. -/
def close : Lua Unit := do
  modify fun board => { board with
    leaving := true
    msgSvcWs := board.msgSvcWs.close
    msgSvcKeepaliveTimer := board.msgSvcKeepaliveTimer.close }
  reportData (.localLeave 0)

def leave (args : LeaveArgs) : Lua Unit := do
  assert args.roomName.isSome
  close

def sendMessage (args : SendArgs) : Lua Unit := do
  assert args.cmd.truthy
  assert args.uidlist.truthy
  assert args.uid.truthy
  assert args.msg.truthy
  if (← get).msgSvcWs.held then
    writeMsgSvc (.message args.cmd args.uidlist args.uid args.msg (← get).roomNameInternal)

/-! ### The named server and the message service -/

def requestMsgSvc : Lua Unit := do
  assert (← get).msgSvcWs.held
  if (← get).calls.connects then modify (·.enter (.asks .msgSvc))

/-- The body is nothing where decrypting or decoding it raises an error. -/
def onRequestNamedSvrForMsgSvc (ec1 : Int) (body : Option LuaValue) : Lua Unit := do
  assert (ec1 = 0)
  let jsonData ← ofOption body
  let streamName ← field jsonData "stream_name"
  modify fun board => { board with roomNameInternal := streamName }
  requestMsgSvc

def joinRequest (board : Board) : BoardRequest :=
  .join board.roomNameInternal board.uid board.roleAlias board.nickName

def handleMsgSvcError : Lua Unit := do
  if ¬ (← get).joined then reportData (.localJoin 38)
  else
    reportData (.localLeave 16)
    modify fun board => { board with joined := false }

def handleMsgSvcConnect (res : Bool) : Lua Unit := do
  let board ← get
  if res then
    if board.create = some true then writeMsgSvc (.create board.roomNameInternal board.uid)
    else writeMsgSvc (joinRequest board)
  else handleMsgSvcError

def handleMsgSvcCreateback : Lua Unit := do writeMsgSvc (joinRequest (← get))

def handleMsgSvcJoinback : Lua Unit := do
  reportData (.localJoin 0)
  let opened := (← get).calls.timerOpens
  modify fun board => { board with
    msgSvcKeepaliveTimer := board.msgSvcKeepaliveTimer.assign opened
    joined := true }

/-! ### Members -/

/-- The role of a member, which is missing where its type is. -/
def roleOf (type : LuaValue) : Option Int :=
  if type.isNil then none
  else if type.rawEqual (.string "tech".toList) then some eBeeWhiteBoardRole_Teacher
  else if type.rawEqual (.string "stu".toList) then some eBeeWhiteBoardRole_Student
  else some eBeeWhiteBoardRole_None

/-- `self.member_table[uid]` is not nil. The table is filled by position: a number finds the
member in its place, and nothing else finds any. -/
def probe (memberTable : List Uid) : Uid → Bool
  | .integer position => 1 ≤ position ∧ position ≤ memberTable.length
  | _ => false

/-- The uid of a member other than oneself that an entry of a list names. -/
def remoteUid (own : Option Text) (message place : Nat) (entry : LuaValue) : Option Uid :=
  if entry.truthy then
    (Uid.ofValue message place (entry.get "uid")).bind fun uid =>
      if own.map Uid.string = some uid then none else some uid
  else none

/-- `list[i].outinfo.name` where there is an outinfo, else nil. -/
def nickNameOf (outinfo : LuaValue) : Option LuaValue :=
  if outinfo.isNil then some .nil else outinfo.field "name"

/-- One entry of the list, and the uids it adds to those seen in it. A role that is missing
cannot be printed. -/
def admitEntry (place : Nat) (entry : LuaValue) : Lua (List Uid) := do
  if entry.truthy then
    discard (field entry "uid")
    let board ← get
    match remoteUid board.uid board.received place entry with
    | none => return []
    | some uid =>
      let nickName ← ofOption (nickNameOf (← field entry "outinfo"))
      let role := roleOf (← field entry "type")
      if ¬ probe (← get).memberTable uid then
        let role ← ofOption role
        reportData (.remoteJoin uid nickName role)
        modify fun board => { board with memberTable := board.memberTable ++ [uid] }
      return [uid]
  else return []

def admitAll (place : Nat) : List LuaValue → Lua (List Uid)
  | [] => return []
  | entry :: rest => do
    let seen ← admitEntry place entry
    let others ← admitAll (place + 1) rest
    return seen ++ others

/-- The walk over the table, of which the first part has been seen and stays. -/
def dismiss (current kept : List Uid) : List Uid → Lua Unit
  | [] => pure ()
  | uid :: rest =>
    if uid ∈ current then dismiss current (kept ++ [uid]) rest
    else do
      reportData (.remoteLeave uid)
      modify fun board => { board with memberTable := kept ++ rest }
      dismiss current kept rest

/-- A list that is nil raises an error where its length is asked for. -/
def handleMsgSvcListback (jsonData : LuaValue) : Lua Unit := do
  let items ← ofOption (Signalling.VideoRoom.listItems (← field jsonData "list"))
  let current ← admitAll 1 items
  dismiss current [] (← get).memberTable

def handleMsgSvcReceiveback («from» : LuaValue) : Lua Unit := reportData (.message «from»)

/-- The room it is said of is nil. -/
def existStr : Text := "Room:nil exist".toList

/-- `string.find(reason, exist_str) == nil`, which raises an error for a reason that is no
text. No number holds the pattern. -/
def strange (reason : LuaValue) : Option Bool :=
  match reason with
  | .string text => some (TextSearch.find existStr text).isNone
  | .integer _ | .fraction _ => some true
  | _ => none

/-- The message is an error of the service. -/
def failed (jsonData : LuaValue) : Lua Bool := do
  let result ← field jsonData "result"
  let reason ← field jsonData "reason"
  if ¬ result.isNil ∧ ¬ result.rawEqual (.integer 1) ∧ ¬ reason.isNil then ofOption (strange reason)
  else return false

/-- The message is nothing where decoding it raises an error. -/
def handleMsgSvcData (message : Option LuaValue) : Lua Unit := do
  let jsonData ← ofOption message
  modify fun board => { board with received := board.received + 1 }
  if ← failed jsonData then handleMsgSvcError
  else
    match (← field jsonData "cmd").text.map String.ofList with
    | some "createback" => handleMsgSvcCreateback
    | some "joinback" => handleMsgSvcJoinback
    | some "listback" => handleMsgSvcListback jsonData
    | some "receiveback" => do handleMsgSvcReceiveback (← field jsonData "senduid")
    | _ => pure ()

def handleMsgSvcTimeout : Lua Unit := do
  let board ← get
  writeMsgSvc (.heart board.roomNameInternal board.uid)

/-! ### Everything that can happen -/

inductive Happening where
  | join (args : JoinArgs)
  | leave (args : LeaveArgs)
  | sendMessage (args : SendArgs)
  | namedReply (ec1 : Int) (body : Option LuaValue)
  | msgSvcConnect (res : Bool)
  | msgSvcData (message : Option LuaValue)
  | msgSvcError
  | msgSvcTimeout

namespace Happening

/-- A closed connection calls nothing back. -/
def Due (board : Board) : Happening → Prop
  | .namedReply _ _ => board.namedConn.isOpen = true
  | .msgSvcConnect _ | .msgSvcData _ | .msgSvcError => board.msgSvcWs.isOpen = true
  | .msgSvcTimeout => board.msgSvcKeepaliveTimer.isOpen = true
  | _ => True

instance (board : Board) (happening : Happening) : Decidable (happening.Due board) := by
  unfold Due
  split <;> infer_instance

def run : Happening → Lua Unit
  | .join args => WhiteBoard.join args
  | .leave args => WhiteBoard.leave args
  | .sendMessage args => WhiteBoard.sendMessage args
  | .namedReply ec1 body => onRequestNamedSvrForMsgSvc ec1 body
  | .msgSvcConnect res => handleMsgSvcConnect res
  | .msgSvcData message => handleMsgSvcData message
  | .msgSvcError => handleMsgSvcError
  | .msgSvcTimeout => handleMsgSvcTimeout

end Happening

structure Request where
  happening : Happening
  calls : Calls := {}

/-- The reply says whether the script got through without an error. -/
def step (board : Board) (request : Request) : Option (Bool × Board) :=
  if request.happening.Due board then
    let (ended, reached) := request.happening.run { board with calls := request.calls }
    some (ended.isSome, reached)
  else none

end BeeSdk.WhiteBoard
