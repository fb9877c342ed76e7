import BeeSdk.ScriptTexts
import BeeSdk.WinVideoRoom

/-! Every JSON text that is put together, what it is meant to say, and whom it is handed to. -/
namespace BeeSdk.AssembledTexts
open JsonText ScriptTexts WinRoom
open StateMachine (kBeeErrorCode_Count)

/-- A text for each place that puts one together, with what goes into it. -/
inductive Assembled where
  | joinArg (room : WinVideoRoom) (creator : Bool)
  | leaveArg (room : WinVideoRoom)
  | connectArg (room : WinVideoRoom) (uid streamName : Text) (mediaType : BitVec 32)
      (videoRenderer : Int)
  | createHandleEx (transaction opaqueId clientDesc : Text) (streamNameInternal : Option Text)
  | destroy (sessionId : Int) (transaction : Text)
  | listen (sessionId handle : Int) (transaction janusRoomName : Text)
      (streamNameInternal : Option Text) (pullAudio pullVideo : Bool)
  | keepalive (sessionId : Int) (transaction : Text)
  | completedMsg
  | sendCandidate (sessionId handle : Int) (transaction : Text) (candidate : Document)
  | sendLocalOffer (sessionId handle : Int) (transaction janusRoomName : Text)
      (streamNameInternal : Option Text) (pushAudio pushVideo : Bool) (maxBitrate minBitrate : Int)
      (jsep : Document)
  | sendRemoteAnswer (sessionId handle : Int) (transaction janusRoomName : Text) (jsep : Document)
  | remoteJoined (roomName streamNameDisplay uid : Option Text)
  | reportClose (isLocal allReady : Bool) (reason : Int) (roomName streamNameDisplay uid : Option Text)
  | mediaSvcConnect (room : Room)
  | mediaSvcCreateback (room : Room)
  | mediaSvcTimeout (room : Room)
  | mediaSvcListTimeout (room : Room)
  | audioInputLevel (room : Room) (streamName : Option Text) (level : Int32)
  | audioOutputLevel (room : Room) (uid streamName : Option Text) (level : Int32)
  | members (room : Room) (isLoopback : Bool) (streamList : List Stream)
      (reports : (VideoRoom.reportMembers room isLoopback streamList).isSome)
  | slowlink (isLocal : Bool) (roomName streamNameDisplay : Option Text) (nacks : Int)
  | mediaSvcJoinback (room : Room)
  | mediaSvcReceiveback (room : Room) (sender : Option Text) (msg : Document)
  | mediaSvcError (room : Room) (data : Text)
  | msgSvcConnect (board : Room)
  | msgSvcCreateback (board : Room)
  | msgSvcTimeout (board : Room)
  | msgSvcListTimeout (board : Room)
  | boardClose (board : Room)
  | msgSvcJoinback (board : Room)
  | memberJoined (uid : Text) (nickName : Option Text) (role : Int32)
  | memberLeft (uid : Text)
  | msgSvcReceiveback (board : Room) (sender : Option Text) (msg : Document)
  | msgSvcError (board : Room) (joined : Bool) (data : Text)

/-! ### What is meant -/

def string (key : String) (text : Text) : Text × Json := (key.toList, .string text)
def number (key : String) (value : Int) : Text × Json := (key.toList, .literal (decimal value))
def flag (key : String) (value : Bool) : Text × Json := (key.toList, .literal (boolean value))
def object (key : String) (members : List (Text × Json)) : Text × Json := (key.toList, .object members)
def array (key : String) (items : List Json) : Text × Json := (key.toList, .array items)
def document (key : String) (inner : Document) : Text × Json := (key.toList, inner.value)

/-- The first fields of a message to the media server. -/
def message (bee : String) (sessionId handle : Int) (transaction : Text) (others : List (Text × Json)) : Json :=
  .object (string "bee" bee.toList :: number "session_id" sessionId :: number "handle_id" handle ::
    string "transaction" transaction :: others)

/-- A text with a type, an error and a room. -/
def notice (type ec : Int) (roomName : Option Text) (others : List (Text × Json)) : Json :=
  .object (number "type" type :: number "ec" ec :: string "room_name" (tostring roomName) :: others)

def command (cmd : String) (room : Room) : Json :=
  .object [string "cmd" cmd.toList, string "roomid" (tostring room.roomNameInternal),
    string "uid" (tostring room.uid)]

/-- The `join` of a room or a board, with the stream that is pushed. -/
def joinMessage (room : Room) (media : List (Text × Json)) : Json :=
  .object [string "cmd" "join".toList, string "roomid" (tostring room.roomNameInternal),
    number "cast" 1, string "uid" (tostring room.uid),
    object "profile" (string "uid" (tostring room.uid) :: string "type" room.roleAlias ::
      (media ++ [object "outinfo" [string "name" (tostring room.nickName)]]))]

def mediaOf (room : Room) : List (Text × Json) :=
  if room.pushVideo then
    [array "media" [.object [string "type" "video".toList,
      string "streamname" (tostring room.streamNameDisplay)]]]
  else if room.pushAudio then
    [array "media" [.object [string "type" "audio".toList,
      string "streamname" (tostring room.streamNameDisplay)]]]
  else []

def memberValue (stream : Stream) : Json :=
  .object [string "stream_name" stream.streamName, string "uid" (tostring stream.uid),
    string "nick_name" (VideoRoom.nickNameOf stream),
    number "media_type" (VideoRoom.mediaTypeOf stream), number "role" stream.role.toInt]

def closeType (isLocal allReady : Bool) : Int :=
  if allReady then (if isLocal then 2 else 3) else (if isLocal then 0 else 1)

namespace Assembled

def text : Assembled → Text
  | joinArg room creator => room.joinArg creator
  | leaveArg room => room.leaveArg
  | connectArg room uid streamName mediaType videoRenderer =>
    room.connectArg uid streamName mediaType videoRenderer
  | createHandleEx transaction opaqueId clientDesc streamNameInternal =>
    Party.createHandleEx transaction opaqueId clientDesc streamNameInternal
  | destroy sessionId transaction => Party.destroy sessionId transaction
  | listen sessionId handle transaction janusRoomName streamNameInternal pullAudio pullVideo =>
    Party.listen sessionId handle transaction janusRoomName streamNameInternal pullAudio pullVideo
  | keepalive sessionId transaction => Party.keepalive sessionId transaction
  | completedMsg => Party.completedMsg
  | sendCandidate sessionId handle transaction candidate =>
    Party.sendCandidate sessionId handle transaction candidate.text
  | sendLocalOffer sessionId handle transaction janusRoomName streamNameInternal pushAudio pushVideo
      maxBitrate minBitrate jsep =>
    Party.sendLocalOffer sessionId handle transaction janusRoomName streamNameInternal pushAudio
      pushVideo maxBitrate minBitrate jsep.text
  | sendRemoteAnswer sessionId handle transaction janusRoomName jsep =>
    Party.sendRemoteAnswer sessionId handle transaction janusRoomName jsep.text
  | remoteJoined roomName streamNameDisplay uid => Party.remoteJoined roomName streamNameDisplay uid
  | reportClose isLocal allReady reason roomName streamNameDisplay uid =>
    Party.reportClose isLocal allReady reason roomName streamNameDisplay uid
  | mediaSvcConnect room => VideoRoom.handleMediaSvcConnect room
  | mediaSvcCreateback room => VideoRoom.handleMediaSvcCreateback room
  | mediaSvcTimeout room => VideoRoom.handleMediaSvcTimeout room
  | mediaSvcListTimeout room => VideoRoom.handleMediaSvcListTimeout room
  | audioInputLevel room streamName level => VideoRoom.getAudioInputLevel room streamName level
  | audioOutputLevel room uid streamName level =>
    VideoRoom.getAudioOutputLevel room uid streamName level
  | members room isLoopback streamList reports =>
    (VideoRoom.reportMembers room isLoopback streamList).get reports
  | slowlink isLocal roomName streamNameDisplay nacks =>
    VideoRoom.processSlowlinkNotify isLocal roomName streamNameDisplay nacks
  | mediaSvcJoinback room => VideoRoom.handleMediaSvcJoinback room
  | mediaSvcReceiveback room sender msg => VideoRoom.handleMediaSvcReceiveback room sender msg.text
  | mediaSvcError room data => VideoRoom.handleMediaSvcError room data
  | msgSvcConnect board => ScriptTexts.WhiteBoard.handleMsgSvcConnect board
  | msgSvcCreateback board => ScriptTexts.WhiteBoard.handleMsgSvcCreateback board
  | msgSvcTimeout board => ScriptTexts.WhiteBoard.handleMsgSvcTimeout board
  | msgSvcListTimeout board => ScriptTexts.WhiteBoard.handleMsgSvcListTimeout board
  | boardClose board => ScriptTexts.WhiteBoard.close board
  | msgSvcJoinback board => ScriptTexts.WhiteBoard.handleMsgSvcJoinback board
  | memberJoined uid nickName role => ScriptTexts.WhiteBoard.memberJoined uid nickName role
  | memberLeft uid => ScriptTexts.WhiteBoard.memberLeft uid
  | msgSvcReceiveback board sender msg => ScriptTexts.WhiteBoard.handleMsgSvcReceiveback board sender msg.text
  | msgSvcError board joined data => ScriptTexts.WhiteBoard.handleMsgSvcError board joined data

/-- The object a text is meant to be, with every string as it was given. -/
def meant : Assembled → Json
  | joinArg room creator =>
    .object [string "room_name" room.roomName, flag "create" creator, string "uid" room.uid,
      string "nick_name" room.nickName, string "token" room.token, number "role" room.role,
      object "push"
        [string "stream_name" room.streamName,
          object "audio" [flag "present" room.willPushAudio, number "source" room.audioSource],
          object "video" [flag "present" room.willPushVideo, number "renderer" room.videoRenderer,
            number "source" room.videoSource]]]
  | leaveArg room => .object [string "room_name" room.roomName, number "reason" 0]
  | connectArg room uid streamName mediaType videoRenderer =>
    .object [string "room_name" room.roomName, string "uid" uid, string "stream_name" streamName,
      flag "pull_video" (WinVideoRoom.willPullVideo mediaType),
      flag "pull_audio" (WinVideoRoom.willPullAudio mediaType), number "renderer" videoRenderer]
  | createHandleEx transaction opaqueId clientDesc streamNameInternal =>
    .object [string "bee" "c&a".toList, string "transaction" transaction,
      string "plugin" "bee.videoroom".toList, string "opaque_id" opaqueId,
      string "clt_des" clientDesc, string "stream_name" (tostring streamNameInternal)]
  | destroy sessionId transaction =>
    .object [string "bee" "destroy".toList, number "session_id" sessionId,
      string "transaction" transaction]
  | listen sessionId handle transaction janusRoomName streamNameInternal pullAudio pullVideo =>
    message "message" sessionId handle transaction
      [object "body" [string "request" "join".toList, string "room_name" janusRoomName,
        string "ptype" "subscriber".toList, string "feed_name" (tostring streamNameInternal),
        flag "audio" pullAudio, flag "video" pullVideo, flag "soon" true]]
  | keepalive sessionId transaction =>
    .object [string "bee" "keepalive".toList, number "session_id" sessionId,
      string "transaction" transaction]
  | completedMsg => .object [flag "completed" true]
  | sendCandidate sessionId handle transaction candidate =>
    message "trickle" sessionId handle transaction [document "candidate" candidate]
  | sendLocalOffer sessionId handle transaction janusRoomName streamNameInternal pushAudio pushVideo
      maxBitrate minBitrate jsep =>
    message "message" sessionId handle transaction
      [object "body" [string "request" "j&c".toList, string "room_name" janusRoomName,
        string "ptype" "publisher".toList, string "stream_name" (tostring streamNameInternal),
        flag "audio" pushAudio, flag "video" pushVideo, number "max_bitrate" maxBitrate,
        number "min_bitrate" minBitrate], document "jsep" jsep]
  | sendRemoteAnswer sessionId handle transaction janusRoomName jsep =>
    message "message" sessionId handle transaction
      [object "body" [string "request" "start".toList, string "room_name" janusRoomName],
        document "jsep" jsep]
  | remoteJoined roomName streamNameDisplay uid =>
    notice 1 0 roomName [string "stream_name" (tostring streamNameDisplay), string "uid" (tostring uid)]
  | reportClose isLocal allReady reason roomName streamNameDisplay uid =>
    notice (closeType isLocal allReady) reason roomName
      [string "stream_name" (tostring streamNameDisplay), string "uid" (tostring uid)]
  | mediaSvcConnect room =>
    if room.create then command "create" room else joinMessage room (mediaOf room)
  | mediaSvcCreateback room => joinMessage room (mediaOf room)
  | mediaSvcTimeout room => command "heart" room
  | mediaSvcListTimeout room => command "list" room
  | audioInputLevel room streamName level =>
    .object [number "type" 9, string "uid" (tostring room.uid),
      string "room_name" (tostring room.roomName), string "stream_name" (tostring streamName),
      number "level" level.toInt]
  | audioOutputLevel room uid streamName level =>
    .object [number "type" 10, string "uid" (tostring uid),
      string "room_name" (tostring room.roomName), string "stream_name" (tostring streamName),
      number "level" level.toInt]
  | members room isLoopback streamList _ =>
    .object [number "type" 7, string "room_name" (tostring room.roomName),
      array "members" ((streamList.filter (VideoRoom.reported room isLoopback)).map memberValue)]
  | slowlink isLocal roomName streamNameDisplay nacks =>
    .object [number "type" (if isLocal then 5 else 6), string "room_name" (tostring roomName),
      string "stream_name" (tostring streamNameDisplay), object "info" [number "nack" nacks]]
  | mediaSvcJoinback room =>
    notice 0 0 room.roomName [string "stream_name" (tostring room.streamNameDisplay)]
  | mediaSvcReceiveback room sender msg =>
    notice 8 0 room.roomName
      [string "from" (tostring sender), document "message" msg, number "svc" 1]
  | mediaSvcError room data =>
    notice 0 38 room.roomName
      [string "stream_name" (tostring room.streamNameDisplay), string "msg" data, number "svc" 1]
  | msgSvcConnect board => if board.create then command "create" board else joinMessage board []
  | msgSvcCreateback board => joinMessage board []
  | msgSvcTimeout board => command "heart" board
  | msgSvcListTimeout board => command "list" board
  | boardClose _ => .object [number "type" 2, number "ec" 0]
  | msgSvcJoinback board => notice 0 0 board.roomName []
  | memberJoined uid nickName role =>
    .object [number "type" 1, string "uid" uid, string "nick_name" (tostring nickName),
      number "role" role.toInt]
  | memberLeft uid => .object [number "type" 3, string "uid" uid]
  | msgSvcReceiveback board sender msg =>
    notice 5 0 board.roomName [string "from" (tostring sender), document "message" msg]
  | msgSvcError board joined data =>
    if joined then notice 2 16 board.roomName [string "msg" data]
    else notice 0 38 board.roomName [string "msg" data]

/-- The strings of a stream that is reported: one that gives no nick name has one put in. -/
def streamStrings (stream : Stream) : List (Option Text) :=
  [some stream.streamName, stream.uid, some (VideoRoom.nickNameOf stream)]

def joinStrings (room : Room) (media : List (Option Text)) : List (Option Text) :=
  [room.roomNameInternal, room.uid, room.uid, some room.roleAlias] ++ media ++ [room.nickName]

def mediaStrings (room : Room) : List (Option Text) :=
  if room.pushVideo || room.pushAudio then [room.streamNameDisplay] else []

/-- The strings that are put into a text, in order. One that is nil is none. -/
def given : Assembled → List (Option Text)
  | joinArg room _ =>
    [some room.roomName, some room.uid, some room.nickName, some room.token, some room.streamName]
  | leaveArg room => [some room.roomName]
  | connectArg room uid streamName _ _ => [some room.roomName, some uid, some streamName]
  | createHandleEx transaction opaqueId clientDesc streamNameInternal =>
    [some transaction, some opaqueId, some clientDesc, streamNameInternal]
  | destroy _ transaction => [some transaction]
  | listen _ _ transaction janusRoomName streamNameInternal _ _ =>
    [some transaction, some janusRoomName, streamNameInternal]
  | keepalive _ transaction => [some transaction]
  | completedMsg => []
  | sendCandidate _ _ transaction _ => [some transaction]
  | sendLocalOffer _ _ transaction janusRoomName streamNameInternal _ _ _ _ _ =>
    [some transaction, some janusRoomName, streamNameInternal]
  | sendRemoteAnswer _ _ transaction janusRoomName _ => [some transaction, some janusRoomName]
  | remoteJoined roomName streamNameDisplay uid => [roomName, streamNameDisplay, uid]
  | reportClose _ _ _ roomName streamNameDisplay uid => [roomName, streamNameDisplay, uid]
  | mediaSvcConnect room =>
    if room.create then [room.roomNameInternal, room.uid] else joinStrings room (mediaStrings room)
  | mediaSvcCreateback room => joinStrings room (mediaStrings room)
  | mediaSvcTimeout room => [room.roomNameInternal, room.uid]
  | mediaSvcListTimeout room => [room.roomNameInternal, room.uid]
  | audioInputLevel room streamName _ => [room.uid, room.roomName, streamName]
  | audioOutputLevel room uid streamName _ => [uid, room.roomName, streamName]
  | members room isLoopback streamList _ =>
    room.roomName :: (streamList.filter (VideoRoom.reported room isLoopback)).flatMap streamStrings
  | slowlink _ roomName streamNameDisplay _ => [roomName, streamNameDisplay]
  | mediaSvcJoinback room => [room.roomName, room.streamNameDisplay]
  | mediaSvcReceiveback room sender _ => [room.roomName, sender]
  | mediaSvcError room data => [room.roomName, room.streamNameDisplay, some data]
  | msgSvcConnect board =>
    if board.create then [board.roomNameInternal, board.uid] else joinStrings board []
  | msgSvcCreateback board => joinStrings board []
  | msgSvcTimeout board => [board.roomNameInternal, board.uid]
  | msgSvcListTimeout board => [board.roomNameInternal, board.uid]
  | boardClose _ => []
  | msgSvcJoinback board => [board.roomName]
  | memberJoined uid nickName _ => [some uid, nickName]
  | memberLeft uid => [some uid]
  | msgSvcReceiveback board sender _ => [board.roomName, sender]
  | msgSvcError board _ data => [board.roomName, some data]

/-- The text from elsewhere that is put in. -/
def inside : Assembled → Option Document
  | sendCandidate _ _ _ candidate => some candidate
  | sendLocalOffer _ _ _ _ _ _ _ _ _ jsep => some jsep
  | sendRemoteAnswer _ _ _ _ jsep => some jsep
  | mediaSvcReceiveback _ _ msg => some msg
  | msgSvcReceiveback _ _ msg => some msg
  | _ => none

def memberInfoOf (stream : Stream) : MemberInfo where
  uid := tostring stream.uid
  nickName := VideoRoom.nickNameOf stream
  streamName := stream.streamName
  mediaType := VideoRoom.mediaTypeOf stream
  role := stream.role.toInt

/-- What the sink of a room has to be told for a notification of the room. There is nothing to
tell it of a message, and the boards have no sink here. -/
def Told (told : Option SinkCall) : Assembled → Prop
  | remoteJoined _ streamNameDisplay uid =>
    told = some (.onConnect (tostring uid) (tostring streamNameDisplay) 0 [])
  | reportClose isLocal allReady reason _ streamNameDisplay uid =>
    let stream := tostring streamNameDisplay
    told = some (if allReady then
        (if isLocal then .onLeave stream reason [] else .onDisconnect (tostring uid) stream reason [])
      else (if isLocal then .onJoin stream reason [] else .onConnect (tostring uid) stream reason []))
  | audioInputLevel _ streamName level =>
    told = some (.onAudioInputLevel (tostring streamName) level.toInt)
  | audioOutputLevel _ uid streamName level =>
    told = some (.onAudioOutputLevel (tostring uid) (tostring streamName) level.toInt)
  | members room isLoopback streamList _ =>
    told = some (.onMembers
      ((streamList.filter (VideoRoom.reported room isLoopback)).map memberInfoOf))
  | slowlink isLocal _ streamNameDisplay _ =>
    ∃ uid info, told = some (.onSlowLink uid (tostring streamNameDisplay) isLocal info)
  | mediaSvcJoinback room => told = some (.onJoin (tostring room.streamNameDisplay) 0 [])
  | mediaSvcError room data => told = some (.onJoin (tostring room.streamNameDisplay) 38 data)
  | _ => True

/-- Every string was there to be put in, the text is JSON in which every field is found as it was
given, and the sink is told what it was made from. -/
def Right (json : BeeJson) (assembled : Assembled) : Prop :=
  (∀ text ∈ assembled.given, text.isSome) ∧
    (∃ read, decode strict assembled.text = some read ∧ assembled.meant.carriedBy read = true) ∧
    assembled.Told (handleData json assembled.text)

/-- Which notifications have their way to the sink, with errors it knows. -/
def handed : Assembled → Bool
  | slowlink .. => false
  | reportClose _ _ reason _ _ _ => 0 ≤ reason && reason < kBeeErrorCode_Count
  | _ => true

/-- Every string is there and has no quote, backslash or control character. -/
def Fit (assembled : Assembled) : Prop :=
  (∀ text ∈ assembled.given, ∃ given, text = some given ∧ ∀ symbol ∈ given,
    symbol ≠ '"' ∧ symbol ≠ '\\' ∧ 32 ≤ symbol.toNat) ∧ assembled.handed = true

/-- The text put in names no key twice and has no character that its value does not need, but
for spaces. -/
def Terse (assembled : Assembled) : Prop :=
  ∀ inner ∈ assembled.inside, inner.value.keyed = true ∧ ink inner.text ≤ cost strict inner.value.spell

end Assembled
end BeeSdk.AssembledTexts
