import BeeSdk.AssembledTold
import BeeSdk.LuaValue

/-! The calls of the Android, iOS and Windows video room that execute a command, the
argument each of them makes, and the functions of the script that take the commands.
`JSONObject` and `NSDictionary` write what the script reads back, so their arguments
stand here as the objects themselves; the text that Windows puts together is read.
Numbers stand as they are written: cjson's doubles hold every role, reason and pointer. -/
namespace BeeSdk.ApiCommands
open JsonText WinRoom
open AssembledTexts (string number flag object)

/-! ### The script -/

/-- A number to cjson: one of JSON, and whatever else `strtod` takes whole, with a sign, zeros
in front, hexadecimal digits or no end, as long as it does not begin with its point. -/
def takesNumber (literal : Text) : Bool :=
  isNumeral literal || literal.head? ≠ some '.' && ((LuaNumber.strToNumber literal).isSome ||
    ["inf".toList, "infinity".toList, "nan".toList].contains
      ((LuaNumber.unsigned literal).2.map Char.toLower))

/-- cjson takes every character of a string as it is, up to the NUL behind its text. -/
def cjson : Dialect where
  raw symbol := symbol ≠ '\x00'
  known literal :=
    takesNumber literal || ["true".toList, "false".toList, "null".toList].contains literal
  printable symbol least := by
    rw [decide_eq_true_eq]
    rintro rfl
    exact absurd least (by decide)

def getJsonData (args : Text) : Option Json := decode cjson args

/-- `value.key`, which is nil where there is no such field, and an error for a value that
has no fields at all. -/
def field (value : Json) (key : String) : Option (Option Json) :=
  match value with
  | .object members => some (lastOf key.toList members)
  | .array _ | .string _ => some none
  | .literal _ => none

def truthy : Json → Bool
  | .literal text => text ≠ "false".toList
  | _ => true

/-- A field that is asserted. -/
def asserted (value : Json) (key : String) : Option Json :=
  match field value key with
  | some (some found) => if truthy found then some found else none
  | _ => none

/-- What `..` takes. -/
def concatenates : Json → Bool
  | .string _ => true
  | .literal text => takesNumber text
  | _ => false

/-- A number that equals zero. -/
def isZero : Json → Bool
  | .literal text =>
    isNumeral text && (text.takeWhile fun symbol => symbol ≠ 'e' && symbol ≠ 'E').all
      fun symbol => !symbol.isDigit || symbol = '0'
  | _ => false

/-- What a join leaves in the room for the stream it pushes. -/
structure Pushed where
  streamNameDisplay : Option Json := none
  audioSource : Option Json := none
  videoSource : Option Json := none
  localVideoRenderer : Option Json := none

/-- The fields of the room that `open` finds; `room_name_compat` and `role_alias` follow
from them. -/
structure Opened extends Pushed where
  roomName : Json
  create : Json
  uid : Json
  nickName : Json
  token : Json
  role : Json
  pushAudio : Json
  pushVideo : Json

/-- What the methods of `VideoRoom` do once their assertions have held. -/
inductive Act where
  | «open» (room : Opened)
  | close (reason : Json)
  | doConnectStream (streamName uid pullVideo pullAudio : Json) (videoRenderer : Option Json)
  | doDisconnectStream (uid streamName type : Json) (reason : Option Json)
  | getAudioInputLevel (streamName : Json)
  | getAudioOutputLevel (uid streamName : Json)

/-- The part of `join` that reads `push.audio`. -/
def takeAudio (room : Opened) (push : Json) : Option Opened := do
  match ← field push "audio" with
  | none => some room
  | some audio =>
    let present ← field audio "present"
    let source ← field audio "source"
    some { room with pushAudio := present.getD room.pushAudio, audioSource := source }

/-- The part of `join` that reads `push.video`. -/
def takeVideo (room : Opened) (push : Json) : Option Opened := do
  match ← field push "video" with
  | none => some room
  | some video =>
    let present ← field video "present"
    let source ← field video "source"
    let renderer ← field video "renderer"
    some { room with
      pushVideo := present.getD room.pushVideo
      videoSource := source
      localVideoRenderer := renderer }

def takePush (room : Opened) (jsonData : Json) : Option Opened := do
  match ← field jsonData "push" with
  | none => some room
  | some push =>
    let streamName ← asserted push "stream_name"
    let room ← takeAudio { room with streamNameDisplay := some streamName } push
    takeVideo room push

/-- `VideoRoom:join`, with what earlier joins have left in the room. -/
def join (earlier : Pushed) (jsonData : Json) : Option Act := do
  let roomName ← asserted jsonData "room_name"
  let create ← (← field jsonData "create")
  let uid ← asserted jsonData "uid"
  let nickName ← asserted jsonData "nick_name"
  let token ← asserted jsonData "token"
  let role ← asserted jsonData "role"
  guard (concatenates roomName)
  let no := Json.literal (boolean false)
  let room : Opened := {
    toPushed := earlier, roomName, create, uid, nickName, token, role, pushAudio := no, pushVideo := no }
  let room ← takePush room jsonData
  if truthy room.pushVideo then
    let source ← room.videoSource
    guard (!isZero source)
  some (.open room)

/-- `VideoRoom:leave`. -/
def leave (jsonData : Json) : Option Act := do
  let _ ← asserted jsonData "room_name"
  let reason ← asserted jsonData "reason"
  some (.close reason)

/-- `VideoRoom:connect_stream`. -/
def connectStream (jsonData : Json) : Option Act := do
  let _ ← asserted jsonData "room_name"
  let streamName ← asserted jsonData "stream_name"
  let uid ← asserted jsonData "uid"
  let renderer ← field jsonData "renderer"
  let pullVideo ← field jsonData "pull_video"
  let pullAudio ← field jsonData "pull_audio"
  let yes := Json.literal (boolean true)
  some (.doConnectStream streamName uid (pullVideo.getD yes) (pullAudio.getD yes) renderer)

/-- `VideoRoom:disconnect_stream`: the reason it passes on is a global that nobody sets. -/
def disconnectStream (jsonData : Json) : Option Act := do
  let _ ← asserted jsonData "room_name"
  let streamName ← asserted jsonData "stream_name"
  let uid ← asserted jsonData "uid"
  let type ← asserted jsonData "type"
  let _ ← asserted jsonData "reason"
  some (.doDisconnectStream uid streamName type none)

/-- The global functions of the script. -/
def globals : List String :=
  ["BeeEncrypt", "BeeDecrypt", "handler", "BeeLog", "LogFatal", "LogError", "LogWarn", "LogTrace",
    "LogInfo", "LogDebug", "EncodeParams", "DecodeParams", "SetSysInfo", "random_string",
    "GetCapability", "GetJsonData", "Join", "Leave", "ConnectStream", "DisconnectStream",
    "SendMessage", "OnLuaSessionStart"]

/-- What the video room of the script does with a command and its argument. -/
def handle (earlier : Pushed) (command : String) (jsonData : Json) : Option Act :=
  if command = "Join" then join earlier jsonData
  else if command = "Leave" then leave jsonData
  else if command = "ConnectStream" then connectStream jsonData
  else if command = "DisconnectStream" then disconnectStream jsonData
  else none

/-! ### The calls -/

inductive Call where
  | join (roomName uid nickName : Option Text) (creator : Bool) (role : Option Int)
  | leave
  | connect (uid streamName : Option Text) (mediaType : BitVec 32) (videoRenderer : Option Int)
  | disconnect (uid streamName : Option Text) (reason : Int)
  | getAudioInputLevel (streamName : Option Text)
  | getAudioOutputLevel (uid streamName : Option Text)

/-- `BeeVideoRoom` on Android and iOS: the fields the calls read, the sources as the numbers
that go into the argument. What the call meets beside them: whether the service can be
registered, whether the network may be used, whether the renderer opens, and the time. -/
structure BeeVideoRoom where
  roomName : Option Text := none
  uid : Option Text := none
  token : Option Text := some []
  streamName : Option Text := none
  mediaType : BitVec 32 := 0
  audioSource : Int := 0
  videoSource : Int := 0
  videoRenderer : Int := 0
  isRegister : Bool := false
  registers : Bool := true
  mayConnect : Bool := true
  opens : Bool := true
  currentTimeMillis : Nat := 0

inductive Client where
  | android (room : BeeVideoRoom)
  | ios (room : BeeVideoRoom)
  | windows (room : WinVideoRoom)

/-- A field that null takes out of the object. -/
def put (key : String) (text : Option Text) : List (Text × Json) :=
  match text with
  | some text => [string key text]
  | none => []

namespace BeeVideoRoom

def willPushAudio (room : BeeVideoRoom) : Bool := WinVideoRoom.willPullAudio room.mediaType
def willPushVideo (room : BeeVideoRoom) : Bool := WinVideoRoom.willPullVideo room.mediaType

def pushMedia (room : BeeVideoRoom) : List (Text × Json) :=
  [object "audio" [flag "present" room.willPushAudio, number "source" room.audioSource],
    object "video" [flag "present" room.willPushVideo, number "renderer" room.videoRenderer,
      number "source" room.videoSource]]

/-- `joinInternal`'s argument: what is pushed goes under the stream name it is given. -/
def joinArgs (room : BeeVideoRoom) (streamName roomName uid nickName : Option Text) (creator : Bool)
    (role : Int) : Json :=
  .object (put "room_name" roomName ++ [flag "create" creator] ++ put "uid" uid ++
    put "nick_name" nickName ++ put "token" room.token ++ [number "role" role] ++
    if room.willPushVideo || room.willPushAudio then
      [object "push" (put "stream_name" streamName ++ room.pushMedia)]
    else [])

/-- Java's `streamName+System.currentTimeMillis()`. -/
def stampedName (room : BeeVideoRoom) : Text :=
  room.streamName.getD "null".toList ++ Nat.toDigits 10 room.currentTimeMillis

def leaveArgs (room : BeeVideoRoom) : Json :=
  .object (put "room_name" room.roomName ++ [number "reason" 0])

def connectArgs (room : BeeVideoRoom) (uid streamName : Option Text) (mediaType : BitVec 32)
    (videoRenderer : Int) : Json :=
  .object (put "room_name" room.roomName ++ put "uid" uid ++ put "stream_name" streamName ++
    [flag "pull_audio" (WinVideoRoom.willPullAudio mediaType),
      flag "pull_video" (WinVideoRoom.willPullVideo mediaType), number "renderer" videoRenderer])

/-- `disconnectInternal`'s argument, with the type that only Android gives. -/
def disconnectArgs (room : BeeVideoRoom) (uid streamName : Option Text) (type : Option Int)
    (reason : Int) : Json :=
  .object (put "room_name" room.roomName ++ put "uid" uid ++ put "stream_name" streamName ++
    (match type with
    | some type => [number "type" type]
    | none => []) ++ [number "reason" reason])

def levelArgs (room : BeeVideoRoom) (uid streamName : Option Text) : Json :=
  .object (put "room_name" room.roomName ++ put "uid" uid ++ put "stream_name" streamName)

end BeeVideoRoom

def eVideoRoomRole_None : Int := 0
def eVideoRoomPartyType_Remote : Int := 1

/-- A call passes the checks of its client. On iOS and Windows a role is never null, and on
Windows no string is. -/
def Client.accepts : Client → Call → Bool
  | .android room, .join roomName uid nickName _ _ =>
    roomName.isSome && uid.isSome && nickName.isSome && room.token.isSome &&
      (room.isRegister || room.registers) && room.mayConnect
  | .ios room, .join roomName uid nickName _ role =>
    roomName.isSome && uid.isSome && nickName.isSome && room.token.isSome &&
      (room.isRegister || room.registers) && role.isSome
  | .android room, .leave | .ios room, .leave => room.isRegister
  | .android room, .connect uid streamName _ videoRenderer =>
    uid.isSome && streamName.isSome && videoRenderer.isSome && room.isRegister && room.opens
  | .ios room, .connect uid streamName _ videoRenderer =>
    uid.isSome && streamName.isSome && videoRenderer.isSome && room.isRegister
  | .android room, .disconnect uid streamName _ | .ios room, .disconnect uid streamName _ =>
    uid.isSome && streamName.isSome && room.isRegister
  | .android room, .getAudioInputLevel streamName =>
    room.uid.isSome && streamName.isSome && room.isRegister
  | .ios room, .getAudioInputLevel streamName => streamName.isSome && room.isRegister
  | .android room, .getAudioOutputLevel uid streamName | .ios room, .getAudioOutputLevel uid streamName =>
    uid.isSome && streamName.isSome && room.isRegister
  | .windows _, .join roomName uid nickName _ role =>
    roomName.getD [] ≠ [] && uid.getD [] ≠ [] && nickName.getD [] ≠ [] && role.isSome &&
      role ≠ some eVideoRoomRole_None
  | .windows _, .leave => true
  | .windows _, .connect uid streamName _ _ | .windows _, .disconnect uid streamName _ =>
    uid.isSome && streamName.isSome
  | .windows _, .getAudioInputLevel _ | .windows _, .getAudioOutputLevel _ _ => false

/-- The members a `join` on Windows sets. -/
def joined (room : WinVideoRoom) (roomName uid nickName : Option Text) (role : Option Int) :
    WinVideoRoom :=
  { room with
    roomName := roomName.getD []
    uid := uid.getD []
    nickName := nickName.getD []
    role := role.getD eVideoRoomRole_None }

/-- The command that an accepted call executes, with what `GetJsonData` makes of its argument.
A null role throws before anything is executed. -/
def Client.executes : Client → Call → Option (String × Option Json)
  | .android room, .join roomName uid nickName creator role => do
    let role ← role
    some ("Join", room.joinArgs (some room.stampedName) roomName uid nickName creator role)
  | .ios room, .join roomName uid nickName creator role => do
    let role ← role
    some ("Join", room.joinArgs room.streamName roomName uid nickName creator role)
  | .android room, .leave | .ios room, .leave => some ("Leave", room.leaveArgs)
  | .android room, .connect uid streamName mediaType videoRenderer
  | .ios room, .connect uid streamName mediaType videoRenderer =>
    some ("ConnectStream", room.connectArgs uid streamName mediaType (videoRenderer.getD 0))
  | .android room, .disconnect uid streamName reason =>
    some ("DisconnectStream",
      room.disconnectArgs uid streamName (some eVideoRoomPartyType_Remote) reason)
  | .ios room, .disconnect uid streamName reason =>
    some ("DisconnectStream", room.disconnectArgs uid streamName none reason)
  | .android room, .getAudioInputLevel streamName | .ios room, .getAudioInputLevel streamName =>
    some ("GetAudioInputLevel", room.levelArgs room.uid streamName)
  | .android room, .getAudioOutputLevel uid streamName =>
    some ("GetAudioOutputLevel", room.levelArgs uid streamName)
  | .ios room, .getAudioOutputLevel _ streamName =>
    some ("GetAudioOutputLevel", room.levelArgs room.uid streamName)
  | .windows room, .join roomName uid nickName creator role =>
    some ("Join", getJsonData ((joined room roomName uid nickName role).joinArg creator))
  | .windows room, .leave => some ("Leave", getJsonData room.leaveArg)
  | .windows room, .connect uid streamName mediaType videoRenderer =>
    some ("ConnectStream", getJsonData
      (room.connectArg (uid.getD []) (streamName.getD []) mediaType (videoRenderer.getD 0)))
  | .windows _, .disconnect _ _ _ => none
  | .windows _, .getAudioInputLevel _ | .windows _, .getAudioOutputLevel _ _ => none

/-! ### What the caller means -/

/-- What a caller has said of the stream a join pushes, if it pushes one. Windows says it in
every join. -/
structure Setup where
  streamName : Text
  pushAudio : Bool
  pushVideo : Bool
  audioSource : Int
  videoSource : Int
  videoRenderer : Int

/-- Everything a call gives, in the room it is made in: the fields that the script asserts or
reads, and what it does with them. -/
inductive Meaning where
  | join (roomName uid nickName token : Text) (creator : Bool) (role : Int) (push : Option Setup)
  | leave (roomName : Text)
  | connect (roomName uid streamName : Text) (pullAudio pullVideo : Bool) (videoRenderer : Int)
  | disconnect (roomName uid streamName : Text) (reason : Int)
  | getAudioInputLevel (roomName streamName : Text)
  | getAudioOutputLevel (roomName uid streamName : Text)

def BeeVideoRoom.setup (room : BeeVideoRoom) : Option (Option Setup) :=
  if room.willPushVideo || room.willPushAudio then do
    let streamName ← room.streamName
    some (some ⟨streamName, room.willPushAudio, room.willPushVideo, room.audioSource,
      room.videoSource, room.videoRenderer⟩)
  else some none

/-- Nothing is meant where something is null that the call needs. -/
def BeeVideoRoom.means (room : BeeVideoRoom) : Call → Option Meaning
  | .join roomName uid nickName creator role => do
    some (.join (← roomName) (← uid) (← nickName) (← room.token) creator (← role) (← room.setup))
  | .leave => do some (.leave (← room.roomName))
  | .connect uid streamName mediaType videoRenderer => do
    some (.connect (← room.roomName) (← uid) (← streamName) (WinVideoRoom.willPullAudio mediaType)
      (WinVideoRoom.willPullVideo mediaType) (← videoRenderer))
  | .disconnect uid streamName reason => do
    some (.disconnect (← room.roomName) (← uid) (← streamName) reason)
  | .getAudioInputLevel streamName => do
    some (.getAudioInputLevel (← room.roomName) (← streamName))
  | .getAudioOutputLevel uid streamName => do
    some (.getAudioOutputLevel (← room.roomName) (← uid) (← streamName))

def Client.means : Client → Call → Option Meaning
  | .android room, call | .ios room, call => room.means call
  | .windows room, .join roomName uid nickName creator role =>
    let room := joined room roomName uid nickName role
    some (.join room.roomName room.uid room.nickName room.token creator room.role
      (some ⟨room.streamName, room.willPushAudio, room.willPushVideo, room.audioSource,
        room.videoSource, room.videoRenderer⟩))
  | .windows room, .leave => some (.leave room.roomName)
  | .windows room, .connect uid streamName mediaType videoRenderer =>
    some (.connect room.roomName (uid.getD []) (streamName.getD [])
      (WinVideoRoom.willPullAudio mediaType) (WinVideoRoom.willPullVideo mediaType)
      (videoRenderer.getD 0))
  | .windows room, .disconnect uid streamName reason => do
    some (.disconnect room.roomName (← uid) (← streamName) reason)
  | .windows _, .getAudioInputLevel _ | .windows _, .getAudioOutputLevel _ _ => none

def Setup.fields (push : Setup) : List (Text × Json) :=
  [string "stream_name" push.streamName,
    object "audio" [flag "present" push.pushAudio, number "source" push.audioSource],
    object "video" [flag "present" push.pushVideo, number "renderer" push.videoRenderer,
      number "source" push.videoSource]]

/-- The fields that the script asserts or reads, with the values of the caller. -/
def Meaning.fields : Meaning → Json
  | .join roomName uid nickName token creator role push =>
    .object ([string "room_name" roomName, flag "create" creator, string "uid" uid,
      string "nick_name" nickName, string "token" token, number "role" role] ++
      match push with
      | some push => [object "push" push.fields]
      | none => [])
  | .leave roomName => .object [string "room_name" roomName, number "reason" 0]
  | .connect roomName uid streamName pullAudio pullVideo videoRenderer =>
    .object [string "room_name" roomName, string "uid" uid, string "stream_name" streamName,
      flag "pull_video" pullVideo, flag "pull_audio" pullAudio, number "renderer" videoRenderer]
  | .disconnect roomName uid streamName reason =>
    .object [string "room_name" roomName, string "uid" uid, string "stream_name" streamName,
      number "type" eVideoRoomPartyType_Remote, number "reason" reason]
  | .getAudioInputLevel _ streamName => .object [string "stream_name" streamName]
  | .getAudioOutputLevel _ uid streamName => .object [string "uid" uid, string "stream_name" streamName]

/-- What the script is to do. -/
def Meaning.act (earlier : Pushed) : Meaning → Act
  | .join roomName uid nickName token creator role push =>
    let opened : Opened := { earlier with
      roomName := .string roomName
      create := .literal (boolean creator)
      uid := .string uid
      nickName := .string nickName
      token := .string token
      role := .literal (decimal role)
      pushAudio := .literal (boolean false)
      pushVideo := .literal (boolean false) }
    match push with
    | some push => .open { opened with
        streamNameDisplay := some (.string push.streamName)
        pushAudio := .literal (boolean push.pushAudio)
        audioSource := some (.literal (decimal push.audioSource))
        pushVideo := .literal (boolean push.pushVideo)
        videoSource := some (.literal (decimal push.videoSource))
        localVideoRenderer := some (.literal (decimal push.videoRenderer)) }
    | none => .open opened
  | .leave _ => .close (.literal (decimal 0))
  | .connect _ uid streamName pullAudio pullVideo videoRenderer =>
    .doConnectStream (.string streamName) (.string uid) (.literal (boolean pullVideo))
      (.literal (boolean pullAudio)) (some (.literal (decimal videoRenderer)))
  | .disconnect _ uid streamName reason =>
    .doDisconnectStream (.string uid) (.string streamName)
      (.literal (decimal eVideoRoomPartyType_Remote)) (some (.literal (decimal reason)))
  | .getAudioInputLevel _ streamName => .getAudioInputLevel (.string streamName)
  | .getAudioOutputLevel _ uid streamName => .getAudioOutputLevel (.string uid) (.string streamName)

/-- The command is there, its argument has every field with the caller's value, and the script
does with them what the caller means. -/
structure Runs (earlier : Pushed) (command : String) (args : Json) (meaning : Meaning) : Prop where
  isGlobal : command ∈ globals
  carried : meaning.fields.carriedBy args = true
  acts : handle earlier command args = some (meaning.act earlier)

/-- The call means something, and that is what its command runs. -/
def Agrees (earlier : Pushed) (client : Client) (call : Call) : Prop :=
  ∃ command args meaning, client.executes call = some (command, some args) ∧
    client.means call = some meaning ∧ Runs earlier command args meaning

/-- No quote, backslash or NUL. -/
def plainText (text : Text) : Bool := text.all (plain cjson)

/-- When they agree. A join on Android has a role and pushes nothing; one on iOS that pushes
has the name of its stream, one on iOS or Windows that pushes video a source; leave and
connect know their room; and on Windows every string is plain. -/
def Client.Met : Client → Call → Prop
  | .android room, .join _ _ _ _ role =>
    role.isSome ∧ room.willPushVideo = false ∧ room.willPushAudio = false
  | .ios room, .join _ _ _ _ _ =>
    ((room.willPushVideo || room.willPushAudio) = true → room.streamName.isSome) ∧
      (room.willPushVideo = true → room.videoSource ≠ 0)
  | .windows room, .join roomName uid nickName _ _ =>
    ([roomName.getD [], uid.getD [], nickName.getD [], room.token, room.streamName].all plainText) = true ∧
      (room.willPushVideo = true → room.videoSource ≠ 0)
  | .android room, .leave | .ios room, .leave => room.roomName.isSome
  | .windows room, .leave => plainText room.roomName = true
  | .android room, .connect _ _ _ _ | .ios room, .connect _ _ _ _ => room.roomName.isSome
  | .windows room, .connect uid streamName _ _ =>
    ([room.roomName, uid.getD [], streamName.getD []].all plainText) = true
  | _, .disconnect _ _ _ | _, .getAudioInputLevel _ | _, .getAudioOutputLevel _ _ => False

end BeeSdk.ApiCommands
