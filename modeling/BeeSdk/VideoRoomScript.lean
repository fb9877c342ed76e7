import BeeSdk.PartyScript
import BeeSdk.Runs

/-! The methods of `VideoRoom` and everything that can happen to the script: the calls of
the application, the callbacks of a party's connections, and the messages of the servers. -/
namespace BeeSdk.Signalling
open HttpHeader (Text)
open Script

structure AudioArgs where
  present : Option Bool := none
  source : Option Int := none

structure VideoArgs where
  present : Option Bool := none
  source : Option Int := none

structure PushArgs where
  streamName : Option Text
  audio : Option AudioArgs := none
  video : Option VideoArgs := none

/-- The arguments the application gives as JSON text; what it leaves out is nil. -/
structure JoinArgs where
  roomName : Option Text
  create : Option Bool
  uid : Option Text
  nickName : Option Text
  token : Option Text
  role : Option Int
  push : Option PushArgs := none

structure LeaveArgs where
  roomName : Option Text
  reason : LuaValue

structure ConnectArgs where
  roomName : Option Text
  streamName : Option Text
  uid : Option Text
  pullVideo : Option Bool := none
  pullAudio : Option Bool := none

structure DisconnectArgs where
  roomName : Option Text
  streamName : Option Text
  uid : Option Text
  type : Option Int
  reason : LuaValue

namespace VideoRoom

/-! ### Opening and closing -/

/-- `Party:new`. -/
def makeParty (type : PartyType) (uid nickName : Option Text) (streamNameDisplay : Text) :
    Lua Nat := do
  let session ← get
  modify (·.make {
    type := type
    uid := uid
    nickName := nickName
    token := session.room.token
    roomName := session.room.roomName
    streamNameDisplay := streamNameDisplay })
  return session.made

def push (streamName : Text) : Lua Unit := do
  let room ← theRoom
  let party ← makeParty .localParty room.uid room.nickName streamName
  setRoom (·.addPush streamName party)
  Party.push party room.audioSource room.videoSource
  setRoom fun room => { room with pushing := true }

def requestNamedSvrForMediaSvc : Lua Unit := do
  let opened := (← theCalls).roomHttpOpens
  setRoom fun room => { room with namedConn := room.namedConn.assign opened }
  if opened ∧ (← theCalls).roomGets then
    enter (.roomAsks (.namedSvr (← theRoom).roomNameCompat))

/-- Without a stream to push, a party reported by nobody is waited for by nobody. The
stream name drawn at random is not read again. -/
def «open» : Lua Unit := do
  assert (← theCalls).starts
  let opened := (← theCalls).roomWsOpens
  setRoom fun room => { room with msgSvcWs := room.msgSvcWs.assign opened }
  assert opened
  requestNamedSvrForMediaSvc
  let room ← theRoom
  if room.pushVideo ∨ room.pushAudio then
    -- A join that pushes has given the stream its name.
    push (room.streamNameDisplay.getD [])
  else setRoom fun room => { room with msgSvcPending := true }

def roleAliasOf (role : Int) : Text :=
  if role = eVideoRoomRole_Party then "stu".toList
  else if role = eVideoRoomRole_Manager then "tech".toList
  else "none".toList

/-- What `push` among the arguments changes in the room. -/
def takePush (push : PushArgs) : Lua Unit := do
  let streamName ← ofOption push.streamName
  setRoom fun room => { room with streamNameDisplay := some streamName }
  if let some audio := push.audio then
    setRoom fun room => { room with
      pushAudio := audio.present.getD room.pushAudio
      audioSource := audio.source }
  if let some video := push.video then
    setRoom fun room => { room with
      pushVideo := video.present.getD room.pushVideo
      videoSource := video.source }

def join (args : JoinArgs) : Lua Unit := do
  let roomName ← ofOption args.roomName
  let create ← ofOption args.create
  let uid ← ofOption args.uid
  let nickName ← ofOption args.nickName
  let token ← ofOption args.token
  let role ← ofOption args.role
  setRoom fun room => { room with
    roomNameDisplay := some roomName
    roomNameCompat := some ("media_".toList ++ roomName)
    create := some create
    uid := some uid
    nickName := some nickName
    token := some token
    role := some role
    pushAudio := false
    pushVideo := false
    roleAlias := roleAliasOf role }
  if let some push := args.push then takePush push
  let room ← theRoom
  assert (¬ room.pushVideo || (room.videoSource.isSome && room.videoSource ≠ some 0))
  VideoRoom.open

/-- `pairs` over a table of parties, each of which is left where it is still in the table.
The order is that of the table here; Lua leaves it open. -/
def leaveParties (table : VideoRoom → AList fun _ : Text => Nat) (reason : Option Int) :
    Lua Unit := do
  each (table (← theRoom)).entries fun entry => do
    if (table (← theRoom)).lookup entry.1 = some entry.2 then Party.leave entry.2 reason

def close (reason : Option Int) : Lua Unit := do
  setRoom (·.beginLeaving)
  leaveParties (·.pushStreamPartyTable) reason
  leaveParties (·.pullStreamPartyTable) reason

def leave (args : LeaveArgs) : Lua Unit := do
  assert args.roomName.isSome
  assert args.reason.truthy
  close args.reason.toInteger

def doConnectStream (streamName : Text) (uid : Option Text) (pullVideo pullAudio : Bool) :
    Lua Unit := do
  let party ← makeParty .remoteParty uid none streamName
  setRoom (·.addPull streamName party)
  Party.pull party streamName pullAudio pullVideo

def connectStream (args : ConnectArgs) : Lua Unit := do
  assert args.roomName.isSome
  let streamName ← ofOption args.streamName
  let uid ← ofOption args.uid
  doConnectStream streamName (some uid) (args.pullVideo.getD true) (args.pullAudio.getD true)

/-- The reason given is not passed on: what is named `reason` here is a global that
nobody has set. -/
def disconnectStream (args : DisconnectArgs) : Lua Unit := do
  assert args.roomName.isSome
  let streamName ← ofOption args.streamName
  assert args.uid.isSome
  let type ← ofOption args.type
  assert args.reason.truthy
  let room ← theRoom
  let table := if type = 0 then room.pushStreamPartyTable else room.pullStreamPartyTable
  if let some party := table.lookup streamName then Party.leave party none

/-! ### Messages of a party's server -/

def lookupTransaction (jsonData : LuaValue) : Lua (Option (Text × Transaction)) := do
  let id ← field jsonData "transaction"
  let session ← get
  return id.text.bind fun id => (session.transactionTable id).map fun found => (id, found)

/-- `Transaction:process`. -/
def processTransaction (transaction : Transaction) (success : Bool) (jsonData : LuaValue) :
    Lua Unit :=
  match transaction.cb with
  | none => pure ()
  | some (.onCreateHandleEx party) => Party.onCreateHandleEx party success jsonData
  | some (.onListened party) => Party.onListened party jsonData
  | some (.onOfferAnswered party) => Party.onOfferAnswered party jsonData
  | some (.onAnswerAcked party) => Party.onAnswerAcked party jsonData

def processTransactionResult (success : Bool) (jsonData : LuaValue) : Lua Unit := do
  if let some (id, transaction) ← lookupTransaction jsonData then
    processTransaction transaction success jsonData
    modify (·.removeTransaction id)

def processAck (jsonData : LuaValue) : Lua Unit := do
  if let some (id, transaction) ← lookupTransaction jsonData then
    modify (·.fileTransaction id { transaction with acked := true })
    if ¬ transaction.hasRsp then modify (·.removeTransaction id)

/-- An event that belongs to no transaction is looked at, and nothing comes of it. -/
def processEvent (jsonData : LuaValue) : Lua Unit := do
  let sender ← field jsonData "sender"
  if ((← get).handlePartyTable sender).isSome then
    match ← lookupTransaction jsonData with
    | some (id, transaction) =>
      processTransaction transaction true jsonData
      modify (·.removeTransaction id)
    | none =>
      let plugindata ← field jsonData "plugindata"
      if ¬ plugindata.isNil then
        let data ← field plugindata "data"
        if ¬ data.isNil then discard (field data "leaving")

/-- The sender's party, once `%d` has printed the session and the sender. -/
def senderParty (jsonData : LuaValue) : Lua (Option Nat) := do
  discard (formatInteger (← field jsonData "session_id"))
  let sender ← field jsonData "sender"
  discard (formatInteger sender)
  return (← get).handlePartyTable sender

def processWebrtcupNotify (jsonData : LuaValue) : Lua Unit := do
  if let some party ← senderParty jsonData then Party.onWebrtcup party

def processSlowlinkNotify (jsonData : LuaValue) : Lua Unit := do
  let sender ← senderParty jsonData
  let nack ← formatInteger (← field jsonData "nacks")
  if let some party := sender then
    let slow ← theParty party
    let type := match slow.type with
      | .localParty => eVideoConfNotify_Local_Slow_Link
      | .remoteParty => eVideoConfNotify_Remote_Slow_Link
    reportData (some party) (.slowLink type slow.roomName slow.streamNameDisplay nack)

def processDetachedNotify (jsonData : LuaValue) : Lua Unit := do
  if let some party ← senderParty jsonData then Party.close party (some 0)

/-- The message is nothing where decoding it raises an error. Media and hangup messages
are only logged. -/
def handleJanusData (message : Option LuaValue) : Lua Unit := do
  let jsonData ← ofOption message
  match (← field jsonData "bee").text.map String.ofList with
  | some "success" => processTransactionResult true jsonData
  | some "error" => processTransactionResult false jsonData
  | some "ack" => processAck jsonData
  | some "event" => processEvent jsonData
  | some "webrtcup" => processWebrtcupNotify jsonData
  | some "media" => discard (senderParty jsonData)
  | some "slowlink" => processSlowlinkNotify jsonData
  | some "hangup" => discard (senderParty jsonData)
  | some "detached" => processDetachedNotify jsonData
  | _ => pure ()

/-! ### The media service -/

def onRequestNamedSvrForMediaSvc (ec1 : Int) (body : Option LuaValue) : Lua Unit := do
  if ec1 = 0 then
    let jsonData ← ofOption body
    let streamName ← field jsonData "stream_name"
    setRoom fun room => { room with roomNameInternal := streamName }
    if (← theRoom).msgSvcPending then requestMediaSvc

/-- A message of the room, which raises an error where the socket is nil. -/
def writeMediaSvc (request : RoomRequest) : Lua Unit := do
  assert (← theRoom).msgSvcWs.held
  if (← theCalls).roomWrites then enter (.roomAsks request)

def joinRequest (room : VideoRoom) : RoomRequest :=
  let media :=
    if room.pushVideo then some ("video".toList, room.streamNameDisplay)
    else if room.pushAudio then some ("audio".toList, room.streamNameDisplay)
    else none
  .join room.roomNameInternal room.uid room.roleAlias media room.nickName

def handleMediaSvcError : Lua Unit := do
  let room ← theRoom
  reportData none (.failed room.roomName room.streamNameDisplay)

def handleMediaSvcConnect (res : Bool) : Lua Unit := do
  let room ← theRoom
  if res then
    if room.create = some true then writeMediaSvc (.create room.roomNameInternal room.uid)
    else writeMediaSvc (joinRequest room)
  else handleMediaSvcError

def handleMediaSvcCreateback : Lua Unit := do
  writeMediaSvc (joinRequest (← theRoom))

def handleMediaSvcJoinback : Lua Unit := do
  let room ← theRoom
  reportData none (.joined room.roomName room.streamNameDisplay)
  let opened := (← theCalls).timerOpens
  setRoom fun room => { room with
    msgSvcKeepaliveTimer := room.msgSvcKeepaliveTimer.assign opened }

def handleMediaSvcReceiveback («from» : LuaValue) : Lua Unit := do
  reportData none (.message (← theRoom).roomName «from»)

/-- What is read of one entry of a list. -/
structure Stream where
  uid : LuaValue
  nickName : LuaValue
  role : LuaValue
  streamName : LuaValue
  mediaType : LuaValue

def roleOf (type : LuaValue) : LuaValue :=
  if type.isNil then .nil
  else if type.rawEqual (.string "tech".toList) then .integer eVideoRoomRole_Manager
  else if type.rawEqual (.string "stu".toList) then .integer eVideoRoomRole_Party
  else .integer eVideoRoomRole_None

/-- `value.key` where the value is not nil, else nil. -/
def fieldIfAny (value : LuaValue) (key : String) : Lua LuaValue :=
  if value.isNil then pure .nil else field value key

def itemIfAny (value : LuaValue) (i : Nat) : Lua LuaValue :=
  if value.isNil then pure .nil else ofOption (value.item i)

def readStream (entry : LuaValue) : Lua Stream := do
  let uid ← field entry "uid"
  let nickName ← fieldIfAny (← field entry "outinfo") "name"
  let role := roleOf (← field entry "type")
  let media ← itemIfAny (← field entry "media") 1
  let streamName ← fieldIfAny media "streamname"
  let mediaType ← if streamName.isNil then pure .nil else field media "type"
  return { uid, nickName, role, streamName, mediaType }

/-- The entries of a list that are not nil, read one after the other. -/
def readStreams : List LuaValue → Lua (List Stream)
  | [] => pure []
  | entry :: rest => do
    if entry.isNil then readStreams rest
    else
      let stream ← readStream entry
      let streams ← readStreams rest
      return stream :: streams

/-- The items of `list`, which raises an error where there is none or it has no length. -/
def listItems (list : LuaValue) : Option (List LuaValue) :=
  match list with
  | .array items => some items
  | .object _ => some []
  | .string text => some (text.map fun _ => .nil)
  | _ => none

/-- The streams named in the list that nobody pulls yet. -/
def unpulled (room : VideoRoom) (streams : List Stream) : List Stream :=
  streams.filter fun stream => ¬ stream.streamName.isNil ∧
    (stream.streamName.text.bind room.pullStreamPartyTable.lookup).isNone

def named (streams : List Stream) (name : Text) : Bool :=
  streams.any fun stream => stream.streamName.text = some name

/-- The parties whose streams the list does not name are left. -/
def checkParties (jsonData : LuaValue) : Lua (List Stream) := do
  let items ← ofOption (listItems (← field jsonData "list"))
  let streams ← readStreams items
  let room ← theRoom
  let reported := unpulled room streams
  each room.pullStreamPartyTable.entries fun entry => do
    if (← theRoom).pullStreamPartyTable.lookup entry.1 = some entry.2 ∧ ¬ named streams entry.1 then
      if (← theParty entry.2).allReady then Party.leave entry.2 (some 0)
      else Party.leave entry.2 (some 20)
  return reported

def mediaTypeOf (mediaType : LuaValue) : Nat :=
  if mediaType.rawEqual (.string "audio".toList) then eMediaType_Audio
  else if mediaType.rawEqual (.string "video".toList) then eMediaType_Audio_Video
  else eMediaType_None

/-- The role of a member is printed with `%d`. -/
def readMembers (room : VideoRoom) : List Stream → Lua (List Member)
  | [] => pure []
  | stream :: rest => do
    let own := room.streamNameDisplay.isSome && stream.streamName.text = room.streamNameDisplay
    if ¬ own ∧ (stream.streamName.text.bind room.pullStreamPartyTable.lookup).isNone then
      let role ← formatInteger stream.role
      let members ← readMembers room rest
      return {
        streamName := stream.streamName
        uid := stream.uid
        nickName := if stream.nickName.isNil then .string "anonymous".toList else stream.nickName
        mediaType := mediaTypeOf stream.mediaType
        role := role } :: members
    else readMembers room rest

def reportMembers (streams : List Stream) : Lua Unit := do
  let room ← theRoom
  let members ← readMembers room streams
  if members ≠ [] then reportData none (.members room.roomName members)

def handleMediaSvcListback (jsonData : LuaValue) : Lua Unit := do
  let streams ← checkParties jsonData
  if streams ≠ [] then reportMembers streams

/-- The message is nothing where decoding it raises an error. -/
def handleMediaSvcData (message : Option LuaValue) : Lua Unit := do
  let jsonData ← ofOption message
  let result ← field jsonData "result"
  let reason ← field jsonData "reason"
  if ¬ result.isNil ∧ ¬ result.rawEqual (.integer 1) ∧ ¬ reason.isNil then handleMediaSvcError
  else
    match (← field jsonData "cmd").text.map String.ofList with
    | some "createback" => handleMediaSvcCreateback
    | some "joinback" => handleMediaSvcJoinback
    | some "listback" => handleMediaSvcListback jsonData
    | some "receiveback" => do handleMediaSvcReceiveback (← field jsonData "senduid")
    | _ => pure ()

def handleMediaSvcTimeout : Lua Unit := do
  let room ← theRoom
  writeMediaSvc (.heart room.roomNameInternal room.uid)

end VideoRoom

/-! ### Everything that can happen -/

/-- What a connection of a party calls back. -/
inductive Callback where
  | namedReply (ec1 : Int) (body : Option LuaValue)
  | masterdReply (ec1 : Int) (body : Option LuaValue)
  | scheduledReply (ec1 : Int) (body : Option LuaValue)
  | janusConnectResult (res : Bool)
  | janusData (message : Option LuaValue)
  | offerCreated (jsep : Text)
  | answerCreated (jsep : Text)
  | iceCandidate (candidate : Text)
  | iceGatheringChange (newState : Nat)
  | iceConnectionChange (newState : Nat)
  | mediaReady
  | janusTimeout

namespace Callback

/-- The connection that calls back. -/
def conn : Callback → Conn
  | .namedReply _ _ => .named
  | .masterdReply _ _ => .masterd
  | .scheduledReply _ _ => .scheduled
  | .janusConnectResult _ | .janusData _ => .janus
  | .offerCreated _ | .answerCreated _ | .iceCandidate _ | .iceGatheringChange _
  | .iceConnectionChange _ | .mediaReady => .rtc
  | .janusTimeout => .keepalive

def run (party : Nat) : Callback → Lua Unit
  | .namedReply ec1 body => Party.onRequestNamedSvr party ec1 body
  | .masterdReply ec1 body => Party.onRequestMasterdSvr party ec1 body
  | .scheduledReply ec1 body => Party.onRequestScheduledSvr party ec1 body
  | .janusConnectResult res => Party.onJanusConnectResult party res
  | .janusData message => VideoRoom.handleJanusData message
  | .offerCreated jsep => Party.onCreateOffer party jsep
  | .answerCreated jsep => Party.onCreateAnswer party jsep
  | .iceCandidate candidate => Party.onIceCandidate party candidate
  | .iceGatheringChange newState => Party.onIceGatheringChange party newState
  | .iceConnectionChange newState => Party.onIceConnectionChange party newState
  | .mediaReady => Party.onMediaReady party
  | .janusTimeout => Party.handleJanusTimeout party

end Callback

inductive Happening where
  | join (args : JoinArgs)
  | leave (args : LeaveArgs)
  | connectStream (args : ConnectArgs)
  | disconnectStream (args : DisconnectArgs)
  | callsBack (party : Nat) (callback : Callback)
  | namedReply (ec1 : Int) (body : Option LuaValue)
  | mediaSvcConnect (res : Bool)
  | mediaSvcData (message : Option LuaValue)
  | mediaSvcError
  | mediaSvcTimeout

namespace Happening

/-- A closed connection calls nothing back. -/
def Due (session : Session) : Happening → Prop
  | .callsBack party callback => ((session.parties party).conns callback.conn).isOpen = true
  | .namedReply _ _ => session.room.namedConn.isOpen = true
  | .mediaSvcConnect _ | .mediaSvcData _ | .mediaSvcError => session.room.msgSvcWs.isOpen = true
  | .mediaSvcTimeout => session.room.msgSvcKeepaliveTimer.isOpen = true
  | _ => True

instance (session : Session) (happening : Happening) : Decidable (happening.Due session) := by
  unfold Due
  split <;> infer_instance

def run : Happening → Lua Unit
  | .join args => VideoRoom.join args
  | .leave args => VideoRoom.leave args
  | .connectStream args => VideoRoom.connectStream args
  | .disconnectStream args => VideoRoom.disconnectStream args
  | .callsBack party callback => callback.run party
  | .namedReply ec1 body => VideoRoom.onRequestNamedSvrForMediaSvc ec1 body
  | .mediaSvcConnect res => VideoRoom.handleMediaSvcConnect res
  | .mediaSvcData message => VideoRoom.handleMediaSvcData message
  | .mediaSvcError => VideoRoom.handleMediaSvcError
  | .mediaSvcTimeout => VideoRoom.handleMediaSvcTimeout

end Happening

structure Request where
  happening : Happening
  calls : Calls := {}

/-- The reply says whether the script got through without an error; what it has done stays
done in either case. -/
def step (session : Session) (request : Request) : Option (Bool × Session) :=
  if request.happening.Due session then
    let (ended, reached) := request.happening.run { session with calls := request.calls }
    some (ended.isSome, reached)
  else none

end BeeSdk.Signalling
