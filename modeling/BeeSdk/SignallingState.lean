import Mathlib.Data.List.AList
import BeeSdk.LuaValue

/-! What the signalling script holds: the video room, its parties, the tables they are
filed in, and what has passed between the script and the modules under it. A party is
known by its place in the order of their making. -/
namespace BeeSdk.Signalling
open HttpHeader (Text)

inductive PartyType where
  | localParty
  | remoteParty
  deriving DecidableEq

/-- The connections a party keeps in fields of its own. -/
inductive Conn where
  | named
  | masterd
  | scheduled
  | janus
  | rtc
  | keepalive
  deriving DecidableEq

/-- A field for a connection. Those it held before and lost to an assignment stay open,
and go on calling back. -/
structure Slot where
  held : Bool := false
  lost : Nat := 0
  deriving DecidableEq

namespace Slot

/-- The field is assigned what an `open` returned, which is nil where that failed. -/
def assign (slot : Slot) (opened : Bool) : Slot :=
  { held := opened, lost := if slot.held then slot.lost + 1 else slot.lost }

def close (slot : Slot) : Slot := { slot with held := false }

/-- Some connection of the field is open. -/
def isOpen (slot : Slot) : Bool := slot.held || slot.lost ≠ 0

end Slot

def eVideoConfNotify_Local_Join : Nat := 0
def eVideoConfNotify_Remote_Join : Nat := 1
def eVideoConfNotify_Local_Leaved : Nat := 2
def eVideoConfNotify_Remote_Leaved : Nat := 3
def eVideoConfNotify_Local_Slow_Link : Nat := 5
def eVideoConfNotify_Remote_Slow_Link : Nat := 6

def eIceGathering_Completed : Nat := 2

def kIceConnectionFailed : Nat := 4
def kIceConnectionDisconnected : Nat := 5
def kIceConnectionClosed : Nat := 6

def eVideoRoomRole_None : Int := 0
def eVideoRoomRole_Manager : Int := 1
def eVideoRoomRole_Party : Int := 2

def eMediaType_None : Nat := 0
def eMediaType_Audio : Nat := 1
def eMediaType_Audio_Video : Nat := 3

/-- The method a transaction calls back, and the party it calls it on. -/
inductive TransactionCallback where
  | onCreateHandleEx (party : Nat)
  | onListened (party : Nat)
  | onOfferAnswered (party : Nat)
  | onAnswerAcked (party : Nat)
  deriving DecidableEq

def TransactionCallback.party : TransactionCallback → Nat
  | .onCreateHandleEx party | .onListened party | .onOfferAnswered party | .onAnswerAcked party => party

structure Transaction where
  acked : Bool := false
  hasRsp : Bool
  cb : Option TransactionCallback
  deriving DecidableEq

/-- The random ids are taken to be different; the number of the draw stands for the text. -/
def transactionId (drawn : Nat) : Text := Nat.toDigits 10 drawn

/-- What a party asks of the modules under the script, the next step of its setting up. -/
inductive PartyRequest where
  | namedSvr (streamName : Text)
  | masterdSvr (streamName : Text)
  | scheduledSvr (url : LuaValue)
  | janusSvr (url : LuaValue)
  | createHandle (transaction : Text) (streamName : LuaValue)
  | createOffer
  | publish (sid hid : Int) (transaction : Text) (streamName : LuaValue) (audio video : Bool)
      (maxBitrate minBitrate : Nat) (jsep : Text)
  | listen (sid hid : Int) (transaction : Text) (feedName : LuaValue) (audio video : Bool)
  | createAnswer (jsep : LuaValue)
  | start (sid hid : Int) (transaction : Text) (jsep : Text)
  | setRemoteDesc (jsep : LuaValue)
  | keepalive (sid : Int) (transaction : Text)

/-- What the room asks of the named server and of the media service. -/
inductive RoomRequest where
  | namedSvr (roomName : Option Text)
  | mediaSvc
  | create (roomId : LuaValue) (uid : Option Text)
  | join (roomId : LuaValue) (uid : Option Text) (roleAlias : Text) (media : Option (Text × Option Text))
      (name : Option Text)
  | heart (roomId : LuaValue) (uid : Option Text)

structure Member where
  streamName : LuaValue
  uid : LuaValue
  nickName : LuaValue
  mediaType : Nat
  role : Int

/-- What is told to the application. -/
inductive Notification where
  | ofParty (type : Nat) (ec : Int) (roomName : Option Text) (streamName : Text) (uid : Option Text)
  | joined (roomName streamName : Option Text)
  | failed (roomName streamName : Option Text)
  | slowLink (type : Nat) (roomName : Option Text) (streamName : Text) (nack : Int)
  | members (roomName : Option Text) (members : List Member)
  | message (roomName : Option Text) («from» : LuaValue)

/-- One thing that passed between the script and its surroundings. What a party has to
gather is told by its peer connection. -/
inductive Entry where
  | asks (party : Nat) (request : PartyRequest)
  | gathers (party : Nat) (candidate : Text)
  | trickles (party : Nat) (sid hid : Int) (candidate : Text)
  | roomAsks (request : RoomRequest)
  | notifies (party : Option Nat) (notification : Notification)

/-- The fields of a party that its calls read. `created` is no field of the script's: it
says that the room has been told of the party's success, and nothing reads it. -/
structure Party where
  type : PartyType := .localParty
  uid : Option Text := none
  nickName : Option Text := none
  token : Option Text := none
  roomName : Option Text := none
  streamNameDisplay : Text := []
  streamNameInternal : LuaValue := .string []
  conns : Conn → Slot := fun _ => {}
  sessionId : LuaValue := .nil
  handle : LuaValue := .nil
  signalReady : Bool := false
  mediaReady : Bool := false
  allReady : Bool := false
  pushAudio : Bool := false
  pushVideo : Bool := false
  pullAudio : Bool := true
  pullVideo : Bool := true
  maxBitrate : Nat := 768000
  minBitrate : Nat := 256000
  sendLocalOfferPending : Bool := false
  localOfferCreated : Bool := false
  localOfferSdp : Text := []
  /-- Nothing as long as the table is that of the class. -/
  candidateList : Option (List Text) := none
  closed : Option Bool := none
  created : Bool := false

structure VideoRoom where
  roomName : Option Text := none
  roomNameDisplay : Option Text := none
  roomNameInternal : LuaValue := .nil
  roomNameCompat : Option Text := none
  streamNameDisplay : Option Text := none
  streamNameInternal : LuaValue := .nil
  pushVideo : Bool := true
  videoSource : Option Int := none
  pushAudio : Bool := true
  audioSource : Option Int := none
  create : Option Bool := none
  uid : Option Text := none
  nickName : Option Text := none
  token : Option Text := none
  role : Option Int := none
  roleAlias : Text := "none".toList
  msgSvcWs : Slot := {}
  namedConn : Slot := {}
  msgSvcKeepaliveTimer : Slot := {}
  pushStreamPartyTable : AList fun _ : Text => Nat := ∅
  pullStreamPartyTable : AList fun _ : Text => Nat := ∅
  pushStreamCount : Int := 0
  pullStreamCount : Int := 0
  leaving : Bool := false
  pushing : Bool := false
  msgSvcPending : Bool := false

/-- Which of the calls a happening makes into the modules succeed. Those in the room's
own name are told apart from those of a party. -/
structure Calls where
  starts : Bool := true
  httpOpens : Bool := true
  gets : Bool := true
  wsOpens : Bool := true
  connects : Bool := true
  writes : Bool := true
  trickles : Bool := true
  rtcOpens : Bool := true
  offers : Bool := true
  answers : Bool := true
  timerOpens : Bool := true
  roomHttpOpens : Bool := true
  roomGets : Bool := true
  roomWsOpens : Bool := true
  roomConnects : Bool := true
  roomWrites : Bool := true

/-- A connection of a party opens. -/
def Calls.opens (calls : Calls) : Conn → Bool
  | .named | .masterd | .scheduled => calls.httpOpens
  | .janus => calls.wsOpens
  | .rtc => calls.rtcOpens
  | .keepalive => calls.timerOpens

/-- The tables of transactions and handles and the table of candidates belong to the
classes; there is one room. -/
structure Session where
  room : VideoRoom := {}
  parties : Nat → Party := fun _ => {}
  made : Nat := 0
  transactionTable : Text → Option Transaction := fun _ => none
  handlePartyTable : LuaValue → Option Nat := fun _ => none
  candidateList : List Text := []
  drawn : Nat := 0
  calls : Calls := {}
  history : List Entry := []

abbrev Lua := Script Session

namespace Session

def updateParty (session : Session) (party : Nat) (change : Party → Party) : Session :=
  { session with
    parties := fun other => if other = party then change (session.parties party)
      else session.parties other }

def updateRoom (session : Session) (change : VideoRoom → VideoRoom) : Session :=
  { session with room := change session.room }

def enter (session : Session) (entry : Entry) : Session :=
  { session with history := session.history ++ [entry] }

/-- `handle_party_table[handle] = party`. -/
def fileHandle (session : Session) (handle : LuaValue) (party : Nat) : Session :=
  { session with
    handlePartyTable := fun key => if key.rawEqual handle then some party
      else session.handlePartyTable key }

/-- The entry of a handle is removed, where there is a handle. -/
def forgetHandle (session : Session) (handle : LuaValue) : Session :=
  { session with
    handlePartyTable := fun key => if key.rawEqual handle ∧ ¬ handle.isNil then none
      else session.handlePartyTable key }

def fileTransaction (session : Session) (id : Text) (transaction : Transaction) : Session :=
  { session with
    transactionTable := fun other => if other = id then some transaction
      else session.transactionTable other }

def removeTransaction (session : Session) (id : Text) : Session :=
  { session with
    transactionTable := fun other => if other = id then none else session.transactionTable other }

def draw (session : Session) : Session := { session with drawn := session.drawn + 1 }

def insertCandidate (session : Session) (candidate : Text) : Session :=
  { session with candidateList := session.candidateList ++ [candidate] }

/-- A new party, known by the number of those made before it. -/
def make (session : Session) (party : Party) : Session :=
  { session with
    made := session.made + 1
    parties := fun other => if other = session.made then party else session.parties other }

end Session

namespace VideoRoom

/-- The entry of a stream is removed from the table of its type, and one less is counted. -/
def drop (room : VideoRoom) (type : PartyType) (streamName : Text) : VideoRoom :=
  match type with
  | .localParty => { room with
    pushStreamPartyTable := room.pushStreamPartyTable.erase streamName
    pushStreamCount := room.pushStreamCount - 1 }
  | .remoteParty => { room with
    pullStreamPartyTable := room.pullStreamPartyTable.erase streamName
    pullStreamCount := room.pullStreamCount - 1 }

def addPush (room : VideoRoom) (streamName : Text) (party : Nat) : VideoRoom :=
  { room with pushStreamPartyTable := room.pushStreamPartyTable.insert streamName party }

def addPull (room : VideoRoom) (streamName : Text) (party : Nat) : VideoRoom :=
  { room with
    pullStreamPartyTable := room.pullStreamPartyTable.insert streamName party
    pullStreamCount := room.pullStreamCount + 1 }

/-- A pushed stream has been created. -/
def countPush (room : VideoRoom) (streamNameInternal : LuaValue) : VideoRoom :=
  { room with
    streamNameInternal := streamNameInternal
    pushStreamCount := room.pushStreamCount + 1 }

/-- The room's own connections are closed ahead of its parties. -/
def beginLeaving (room : VideoRoom) : VideoRoom :=
  { room with
    leaving := true
    msgSvcWs := room.msgSvcWs.close
    msgSvcKeepaliveTimer := room.msgSvcKeepaliveTimer.close }

end VideoRoom

namespace Party

def assignConn (party : Party) (conn : Conn) (opened : Bool) : Party :=
  { party with
    conns := fun other => if other = conn then (party.conns conn).assign opened
      else party.conns other }

def closeConns (party : Party) : Party :=
  { party with conns := fun conn => (party.conns conn).close }

def closeRtc (party : Party) : Party :=
  { party with
    conns := fun conn => if conn = .rtc then (party.conns .rtc).close else party.conns conn }

end Party

def theParty (party : Nat) : Lua Party := do return (← Script.get).parties party

def theRoom : Lua VideoRoom := do return (← Script.get).room

def theCalls : Lua Calls := do return (← Script.get).calls

def setParty (party : Nat) (change : Party → Party) : Lua Unit :=
  Script.modify fun session => session.updateParty party change

def setRoom (change : VideoRoom → VideoRoom) : Lua Unit :=
  Script.modify fun session => session.updateRoom change

def enter (entry : Entry) : Lua Unit := Script.modify fun session => session.enter entry

/-- The assignment of what an `open` returned to the field of a party. -/
def setConn (party : Nat) (conn : Conn) (opened : Bool) : Lua Unit :=
  setParty party (·.assignConn conn opened)

/-- `assert`. -/
def assert (holds : Bool) : Lua Unit := if holds then pure () else Script.raise

def field (value : LuaValue) (key : String) : Lua LuaValue := Script.ofOption (value.field key)

/-- What `%d` prints. -/
def formatInteger (value : LuaValue) : Lua Int := Script.ofOption value.toInteger

section
variable (session : Session) (party : Nat)

@[simp] theorem theParty_apply : theParty party session = (some (session.parties party), session) := rfl

@[simp] theorem theRoom_apply : theRoom session = (some session.room, session) := rfl

@[simp] theorem theCalls_apply : theCalls session = (some session.calls, session) := rfl

@[simp] theorem setParty_apply (change : Party → Party) :
    setParty party change session = (some (), session.updateParty party change) := rfl

@[simp] theorem setConn_apply (conn : Conn) (opened : Bool) :
    setConn party conn opened session =
      (some (), session.updateParty party (·.assignConn conn opened)) := rfl

@[simp] theorem setRoom_apply (change : VideoRoom → VideoRoom) :
    setRoom change session = (some (), session.updateRoom change) := rfl

@[simp] theorem enter_apply (entry : Entry) :
    enter entry session = (some (), session.enter entry) := rfl

@[simp] theorem assert_apply (holds : Bool) :
    assert holds session = if holds then (some (), session) else (none, session) := by
  cases holds <;> rfl

@[simp] theorem field_apply (value : LuaValue) (key : String) :
    field value key session = (value.field key, session) := Script.ofOption_apply ..

@[simp] theorem formatInteger_apply (value : LuaValue) :
    formatInteger value session = (value.toInteger, session) := Script.ofOption_apply ..

end

namespace Session
variable (session : Session) (party : Nat) (change : Party → Party)

@[simp] theorem updateParty_self :
    (session.updateParty party change).parties party = change (session.parties party) := if_pos rfl

theorem updateParty_other {other : Nat} (apart : other ≠ party) :
    (session.updateParty party change).parties other = session.parties other := if_neg apart

@[simp] theorem updateParty_room : (session.updateParty party change).room = session.room := rfl

@[simp] theorem updateParty_calls : (session.updateParty party change).calls = session.calls := rfl

@[simp] theorem updateParty_history :
    (session.updateParty party change).history = session.history := rfl

@[simp] theorem updateRoom_room (change : VideoRoom → VideoRoom) :
    (session.updateRoom change).room = change session.room := rfl

@[simp] theorem updateRoom_parties (change : VideoRoom → VideoRoom) :
    (session.updateRoom change).parties = session.parties := rfl

@[simp] theorem updateRoom_calls (change : VideoRoom → VideoRoom) :
    (session.updateRoom change).calls = session.calls := rfl

@[simp] theorem updateRoom_history (change : VideoRoom → VideoRoom) :
    (session.updateRoom change).history = session.history := rfl

@[simp] theorem enter_room (entry : Entry) : (session.enter entry).room = session.room := rfl

@[simp] theorem enter_parties (entry : Entry) :
    (session.enter entry).parties = session.parties := rfl

@[simp] theorem enter_calls (entry : Entry) : (session.enter entry).calls = session.calls := rfl

@[simp] theorem enter_history (entry : Entry) :
    (session.enter entry).history = session.history ++ [entry] := rfl

end Session

end BeeSdk.Signalling
