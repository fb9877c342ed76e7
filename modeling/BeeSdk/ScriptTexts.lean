import BeeSdk.JsonDialect

/-! The JSON texts of the signalling script: every format it has, with what goes into it. -/
namespace BeeSdk.ScriptTexts
open JsonText

/-- `string.format`: each directive stands for the next argument. The numbers come as text. -/
def format : Text → List Text → Text
  | '%' :: _ :: rest, arg :: args => arg ++ format rest args
  | symbol :: rest, args => symbol :: format rest args
  | [], _ => []

/-- `tostring`, which `%s` goes through: what is nil is written out as such. -/
def tostring (text : Option Text) : Text := text.getD "nil".toList

/-- A JSON text that came from elsewhere, and the value it is read as. -/
structure Document where
  text : Text
  value : Json
  reads : decode strict text = some value

/-! ### `Party` -/

namespace Party

/-- `create_handle_ex`. -/
def createHandleEx (transaction opaqueId clientDesc : Text) (streamNameInternal : Option Text) : Text :=
  format ("\x7b\"bee\":\"c&a\",\"transaction\":\"%s\",\"plugin\":\"bee.videoroom\",".toList ++
      "\"opaque_id\":\"%s\",\"clt_des\":\"%s\",\"stream_name\":\"%s\"\x7d".toList)
    [transaction, opaqueId, clientDesc, tostring streamNameInternal]

/-- `leave`. -/
def destroy (sessionId : Int) (transaction : Text) : Text :=
  format "\x7b\"bee\":\"destroy\",\"session_id\":%d,\"transaction\":\"%s\"\x7d".toList
    [decimal sessionId, transaction]

/-- `listen`. -/
def listen (sessionId handle : Int) (transaction janusRoomName : Text) (streamNameInternal : Option Text)
    (pullAudio pullVideo : Bool) : Text :=
  let body := format ("\x7b\"request\":\"join\",\"room_name\":\"%s\",\"ptype\":\"subscriber\",".toList ++
      "\"feed_name\":\"%s\",\"audio\":%s,\"video\":%s,\"soon\":true\x7d".toList)
    [janusRoomName, tostring streamNameInternal, boolean pullAudio, boolean pullVideo]
  format ("\x7b\"bee\":\"message\",\"session_id\":%d,\"handle_id\":%d,\"transaction\":\"%s\",".toList ++
      "\"body\":%s\x7d".toList)
    [decimal sessionId, decimal handle, transaction, body]

/-- `handle_janus_timeout`. -/
def keepalive (sessionId : Int) (transaction : Text) : Text :=
  format "\x7b\"bee\":\"keepalive\",\"session_id\":%d, \"transaction\":\"%s\"\x7d".toList
    [decimal sessionId, transaction]

/-- `on_ice_gathering_change`. -/
def completedMsg : Text := format "\x7b\"completed\": true\x7d".toList []

/-- `send_candidate`. -/
def sendCandidate (sessionId handle : Int) (transaction candidate : Text) : Text :=
  format ("\x7b\"bee\":\"trickle\",\"session_id\":%d,\"handle_id\":%d,\"transaction\":\"%s\",".toList ++
      "\"candidate\":%s \x7d".toList)
    [decimal sessionId, decimal handle, transaction, candidate]

/-- `send_local_offer`. -/
def sendLocalOffer (sessionId handle : Int) (transaction janusRoomName : Text)
    (streamNameInternal : Option Text) (pushAudio pushVideo : Bool) (maxBitrate minBitrate : Int)
    (jsep : Text) : Text :=
  let body := format ("\x7b \"request\":\"j&c\",\"room_name\":\"%s\",\"ptype\":\"publisher\",".toList ++
      "\"stream_name\":\"%s\",\"audio\":%s,\"video\":%s,\"max_bitrate\":%d,".toList ++
      "\"min_bitrate\":%d\x7d".toList)
    [janusRoomName, tostring streamNameInternal, boolean pushAudio, boolean pushVideo,
      decimal maxBitrate, decimal minBitrate]
  format ("\x7b\"bee\":\"message\",\"session_id\":%d,\"handle_id\":%d,\"transaction\":\"%s\",".toList ++
      "\"body\":%s,\"jsep\":%s \x7d".toList)
    [decimal sessionId, decimal handle, transaction, body, jsep]

/-- `send_remote_answer`. -/
def sendRemoteAnswer (sessionId handle : Int) (transaction janusRoomName jsep : Text) : Text :=
  let body := format "\x7b \"request\": \"start\", \"room_name\" : \"%s\" \x7d".toList [janusRoomName]
  format ("\x7b\"bee\":\"message\",\"session_id\":%d,\"handle_id\":%d,\"transaction\":\"%s\",".toList ++
      "\"body\":%s,\"jsep\":%s \x7d".toList)
    [decimal sessionId, decimal handle, transaction, body, jsep]

/-- `check_channel_ready`, of a party that pulls. -/
def remoteJoined (roomName streamNameDisplay uid : Option Text) : Text :=
  format "\x7b\"type\":%d, \"ec\":0, \"room_name\":\"%s\", \"stream_name\":\"%s\", \"uid\":\"%s\"\x7d".toList
    [decimal 1, tostring roomName, tostring streamNameDisplay, tostring uid]

/-- `report_close`: a party that was ready has left, another never joined. -/
def reportClose (isLocal allReady : Bool) (reason : Int)
    (roomName streamNameDisplay uid : Option Text) : Text :=
  let type := if allReady then (if isLocal then 2 else 3) else (if isLocal then 0 else 1)
  format "\x7b\"type\":%d, \"ec\":%d, \"room_name\":\"%s\", \"stream_name\":\"%s\", \"uid\":\"%s\"\x7d".toList
    [decimal type, decimal reason, tostring roomName, tostring streamNameDisplay, tostring uid]

end Party

/-! ### `VideoRoom` -/

/-- The fields of a room that go into its texts, and what decides which text it is. -/
structure Room where
  roomName : Option Text
  roomNameInternal : Option Text
  uid : Option Text
  nickName : Option Text
  roleAlias : Text
  streamNameDisplay : Option Text
  create : Bool
  pushVideo : Bool
  pushAudio : Bool
  pushing : Bool
  pulled : List Text

/-- An element of what `check_parties` returns. -/
structure Stream where
  streamName : Text
  uid : Option Text
  nickName : Option Text
  mediaType : Option Text
  role : Int32

namespace VideoRoom
variable (room : Room)

def createMsg : Text :=
  format "\x7b\"cmd\":\"create\",\"roomid\":\"%s\",\"uid\":\"%s\"\x7d".toList
    [tostring room.roomNameInternal, tostring room.uid]

/-- `handle_media_svc_createback`. -/
def handleMediaSvcCreateback : Text :=
  if room.pushVideo then
    format ("\x7b\"cmd\":\"join\",\"roomid\":\"%s\",\"cast\":1,\"uid\":\"%s\",".toList ++
      "\"profile\":\x7b\"uid\":\"%s\",\"type\":\"%s\",\"media\":[\x7b\"type\":\"video\",".toList ++
      "\"streamname\":\"%s\"\x7d],\"outinfo\":\x7b\"name\":\"%s\"\x7d\x7d\x7d".toList)
      [tostring room.roomNameInternal, tostring room.uid, tostring room.uid, room.roleAlias,
        tostring room.streamNameDisplay, tostring room.nickName]
  else if room.pushAudio then
    format ("\x7b\"cmd\":\"join\",\"roomid\":\"%s\",\"cast\":1,\"uid\":\"%s\",".toList ++
      "\"profile\":\x7b\"uid\":\"%s\",\"type\":\"%s\",\"media\":[\x7b\"type\":\"audio\",".toList ++
      "\"streamname\":\"%s\"\x7d],\"outinfo\":\x7b\"name\":\"%s\"\x7d\x7d\x7d".toList)
      [tostring room.roomNameInternal, tostring room.uid, tostring room.uid, room.roleAlias,
        tostring room.streamNameDisplay, tostring room.nickName]
  else
    format ("\x7b\"cmd\":\"join\",\"roomid\":\"%s\",\"cast\":1,\"uid\":\"%s\",".toList ++
      "\"profile\":\x7b\"uid\":\"%s\",\"type\":\"%s\",".toList ++
      "\"outinfo\":\x7b\"name\":\"%s\"\x7d\x7d\x7d".toList)
      [tostring room.roomNameInternal, tostring room.uid, tostring room.uid, room.roleAlias,
        tostring room.nickName]

/-- `handle_media_svc_connect`: without `create` it sends what a createback is answered with. -/
def handleMediaSvcConnect : Text :=
  if room.create then createMsg room else handleMediaSvcCreateback room

/-- `handle_media_svc_timeout`. -/
def handleMediaSvcTimeout : Text :=
  format "\x7b\"cmd\":\"heart\",\"roomid\":\"%s\", \"uid\":\"%s\"\x7d".toList
    [tostring room.roomNameInternal, tostring room.uid]

/-- `handle_media_svc_list_timeout`. -/
def handleMediaSvcListTimeout : Text :=
  format "\x7b\"cmd\":\"list\",\"roomid\":\"%s\", \"uid\":\"%s\"\x7d".toList
    [tostring room.roomNameInternal, tostring room.uid]

def getAudioInputLevel (streamName : Option Text) (level : Int32) : Text :=
  format "\x7b\"type\":%d, \"uid\":\"%s\", \"room_name\":\"%s\", \"stream_name\":\"%s\", \"level\":%d\x7d".toList
    [decimal 9, tostring room.uid, tostring room.roomName, tostring streamName, decimal level.toInt]

def getAudioOutputLevel (uid streamName : Option Text) (level : Int32) : Text :=
  format "\x7b\"type\":%d, \"uid\":\"%s\", \"room_name\":\"%s\", \"stream_name\":\"%s\", \"level\":%d\x7d".toList
    [decimal 10, tostring uid, tostring room.roomName, tostring streamName, decimal level.toInt]

/-- Is the stream one to be reported? Its own only where it may pull itself. -/
def reported (isLoopback : Bool) (stream : Stream) : Bool :=
  (room.pushing && isLoopback || some stream.streamName ≠ room.streamNameDisplay) &&
    !room.pulled.contains stream.streamName

def mediaTypeOf (stream : Stream) : Int :=
  if stream.mediaType = some "audio".toList then 1
  else if stream.mediaType = some "video".toList then 3
  else 0

def nickNameOf (stream : Stream) : Text := stream.nickName.getD "anonymous".toList

def memberText (stream : Stream) : Text :=
  format ("\x7b\"stream_name\":\"%s\",\"uid\":\"%s\",\"nick_name\":\"%s\",\"media_type\":%d,".toList ++
      "\"role\":%d\x7d".toList)
    [stream.streamName, tostring stream.uid, nickNameOf stream, decimal (mediaTypeOf stream),
      decimal stream.role.toInt]

/-- One turn of the loop: the text so far and how many members it has. -/
def reportMember (isLoopback : Bool) (sofar : Text × Nat) (stream : Stream) : Text × Nat :=
  if reported room isLoopback stream then
    let data := if sofar.2 > 0 then sofar.1 ++ ",".toList else sofar.1
    (data ++ memberText stream, sofar.2 + 1)
  else sofar

/-- `report_members`: nothing is reported where no member is left. -/
def reportMembers (isLoopback : Bool) (streamList : List Stream) : Option Text :=
  let data := format "\x7b\"type\":%d, \"room_name\":\"%s\", \"members\":[".toList
    [decimal 7, tostring room.roomName]
  let (data, count) := streamList.foldl (reportMember room isLoopback) (data, 0)
  if count > 0 then some (data ++ "]\x7d".toList) else none

/-- `process_slowlink_notify`, of the party it is about. -/
def processSlowlinkNotify (isLocal : Bool) (roomName streamNameDisplay : Option Text)
    (nacks : Int) : Text :=
  format "\x7b\"type\":%d, \"room_name\":\"%s\", \"stream_name\":\"%s\", \"info\":\x7b\"nack\":%d\x7d\x7d".toList
    [decimal (if isLocal then 5 else 6), tostring roomName, tostring streamNameDisplay, decimal nacks]

/-- `handle_media_svc_joinback`. -/
def handleMediaSvcJoinback : Text :=
  format "\x7b\"type\":%d, \"ec\":0, \"room_name\":\"%s\", \"stream_name\":\"%s\"\x7d".toList
    [decimal 0, tostring room.roomName, tostring room.streamNameDisplay]

/-- `handle_media_svc_receiveback`: the message goes in as it came. -/
def handleMediaSvcReceiveback (sender : Option Text) (msg : Text) : Text :=
  format ("\x7b\"type\":%d,\"ec\":0,\"room_name\":\"%s\",\"from\":\"%s\",\"message\":%s,".toList ++
      "\"svc\":%d\x7d".toList)
    [decimal 8, tostring room.roomName, tostring sender, msg, decimal 1]

/-- `handle_media_svc_error`. -/
def handleMediaSvcError (data : Text) : Text :=
  format ("\x7b\"type\":%d,\"ec\":38,\"room_name\":\"%s\",\"stream_name\":\"%s\",".toList ++
      "\"msg\":\"%s\",\"svc\":%d\x7d".toList)
    [decimal 0, tostring room.roomName, tostring room.streamNameDisplay, data, decimal 1]

end VideoRoom

/-! ### `WhiteBoard` -/

namespace WhiteBoard
variable (board : Room)

/-- `handle_msg_svc_createback`. -/
def handleMsgSvcCreateback : Text :=
  format ("\x7b\"cmd\":\"join\",\"roomid\":\"%s\",\"cast\":1,\"uid\":\"%s\",".toList ++
      "\"profile\":\x7b\"uid\":\"%s\",\"type\":\"%s\",".toList ++
      "\"outinfo\":\x7b\"name\":\"%s\"\x7d\x7d\x7d".toList)
    [tostring board.roomNameInternal, tostring board.uid, tostring board.uid, board.roleAlias,
      tostring board.nickName]

/-- `handle_msg_svc_connect`. -/
def handleMsgSvcConnect : Text :=
  if board.create then
    format "\x7b\"cmd\":\"create\",\"roomid\":\"%s\",\"uid\":\"%s\"\x7d".toList
      [tostring board.roomNameInternal, tostring board.uid]
  else handleMsgSvcCreateback board

/-- `handle_msg_svc_timeout`. -/
def handleMsgSvcTimeout : Text :=
  format "\x7b\"cmd\":\"heart\",\"roomid\":\"%s\", \"uid\":\"%s\"\x7d".toList
    [tostring board.roomNameInternal, tostring board.uid]

/-- `handle_msg_svc_list_timeout`. -/
def handleMsgSvcListTimeout : Text :=
  format "\x7b\"cmd\":\"list\",\"roomid\":\"%s\", \"uid\":\"%s\"\x7d".toList
    [tostring board.roomNameInternal, tostring board.uid]

/-- `close`: the format has no place for the room name it is given. -/
def close : Text := format "\x7b\"type\":%d, \"ec\":0\x7d".toList [decimal 2, tostring board.roomName]

/-- `handle_msg_svc_joinback`. -/
def handleMsgSvcJoinback : Text :=
  format "\x7b\"type\":%d, \"ec\":0, \"room_name\":\"%s\"\x7d".toList
    [decimal 0, tostring board.roomName]

/-- `handle_msg_svc_listback`, of a member that is new. -/
def memberJoined (uid : Text) (nickName : Option Text) (role : Int32) : Text :=
  format "\x7b\"type\":%d,\"uid\":\"%s\",\"nick_name\":\"%s\",\"role\":%d\x7d".toList
    [decimal 1, uid, tostring nickName, decimal role.toInt]

/-- `handle_msg_svc_listback`, of a member that is gone. -/
def memberLeft (uid : Text) : Text :=
  format "\x7b\"type\":%d,\"uid\":\"%s\"\x7d".toList [decimal 3, uid]

/-- `handle_msg_svc_receiveback`. -/
def handleMsgSvcReceiveback (sender : Option Text) (msg : Text) : Text :=
  format "\x7b\"type\":%d,\"ec\":0,\"room_name\":\"%s\",\"from\":\"%s\",\"message\":%s\x7d".toList
    [decimal 5, tostring board.roomName, tostring sender, msg]

/-- `handle_msg_svc_error`. -/
def handleMsgSvcError (joined : Bool) (data : Text) : Text :=
  if joined = false then
    format "\x7b\"type\":%d,\"ec\":38,\"room_name\":\"%s\",\"msg\":\"%s\"\x7d".toList
      [decimal 0, tostring board.roomName, data]
  else
    format "\x7b\"type\":%d,\"ec\":16,\"room_name\":\"%s\",\"msg\":\"%s\"\x7d".toList
      [decimal 2, tostring board.roomName, data]

end WhiteBoard
end BeeSdk.ScriptTexts
