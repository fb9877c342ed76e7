import BeeSdk.JsonDialect
import BeeSdk.StateMachine

/-! `WinVideoRoom`: the arguments it puts together for the script, and what it tells its sink
of the notifications the script sends back. -/
namespace BeeSdk.WinRoom
open JsonText
open StateMachine (kBeeErrorCode_Count)

/-! ### The macros the arguments are put together with -/

def objBegin : Text := "\x7b".toList
def objEnd : Text := "\x7d".toList
def strObjBegin (key : String) : Text := '"' :: (key.toList ++ "\":\"".toList)
def strObjContinue : Text := "\",".toList
def valObjBegin (key : String) : Text := '"' :: (key.toList ++ "\":".toList)
def valObjContinue : Text := ",".toList
def valObjEnd : Text := []
def comObjBegin (key : String) : Text := '"' :: (key.toList ++ "\":\x7b".toList)
def comObjContinue : Text := "\x7d,".toList
def comObjEnd : Text := "\x7d".toList

/-- `std::ostringstream`: what is written comes out in order. -/
def stream (pieces : List Text) : Text := pieces.foldr (· ++ ·) []

/-- The members that `join`, `leave` and `connect` read. The pointers are numbers here. -/
structure WinVideoRoom where
  token : Text
  roomName : Text
  uid : Text
  nickName : Text
  streamName : Text
  mediaType : BitVec 32
  role : Int
  audioSource : Int
  videoSource : Int
  videoRenderer : Int

def mediaTypeAudio : BitVec 32 := 1
def mediaTypeVideo : BitVec 32 := 2

namespace WinVideoRoom

def willPushVideo (room : WinVideoRoom) : Bool := room.mediaType &&& mediaTypeVideo ≠ 0
def willPushAudio (room : WinVideoRoom) : Bool := room.mediaType &&& mediaTypeAudio ≠ 0
def willPullVideo (mediaType : BitVec 32) : Bool := mediaType &&& mediaTypeVideo ≠ 0
def willPullAudio (mediaType : BitVec 32) : Bool := mediaType &&& mediaTypeAudio ≠ 0

/-- The argument of `Join`, once the members are set. -/
def joinArg (room : WinVideoRoom) (creator : Bool) : Text := stream
  [objBegin,
    strObjBegin "room_name", room.roomName, strObjContinue,
    valObjBegin "create", boolean creator, valObjContinue,
    strObjBegin "uid", room.uid, strObjContinue,
    strObjBegin "nick_name", room.nickName, strObjContinue,
    strObjBegin "token", room.token, strObjContinue,
    valObjBegin "role", decimal room.role, valObjContinue,
    comObjBegin "push",
      strObjBegin "stream_name", room.streamName, strObjContinue,
      comObjBegin "audio",
        valObjBegin "present", boolean room.willPushAudio, valObjContinue,
        valObjBegin "source", decimal room.audioSource, valObjEnd,
      comObjContinue,
      comObjBegin "video",
        valObjBegin "present", boolean room.willPushVideo, valObjContinue,
        valObjBegin "renderer", decimal room.videoRenderer, valObjContinue,
        valObjBegin "source", decimal room.videoSource, valObjEnd,
      comObjEnd,
    comObjEnd,
    objEnd]

/-- The argument of `Leave`. -/
def leaveArg (room : WinVideoRoom) : Text := stream
  [objBegin,
    strObjBegin "room_name", room.roomName, strObjContinue,
    valObjBegin "reason", decimal 0, valObjEnd,
    objEnd]

/-- The argument of `ConnectStream`. -/
def connectArg (room : WinVideoRoom) (uid streamName : Text) (mediaType : BitVec 32)
    (videoRenderer : Int) : Text := stream
  [objBegin,
    strObjBegin "room_name", room.roomName, strObjContinue,
    strObjBegin "uid", uid, strObjContinue,
    strObjBegin "stream_name", streamName, strObjContinue,
    valObjBegin "pull_video", boolean (willPullVideo mediaType), valObjContinue,
    valObjBegin "pull_audio", boolean (willPullAudio mediaType), valObjContinue,
    valObjBegin "renderer", decimal videoRenderer, valObjEnd,
    objEnd]

end WinVideoRoom

/-! ### What the sink is told -/

/-- `VideoRoomMemberInfo`, of somebody else in every case. -/
structure MemberInfo where
  uid : Text
  nickName : Text
  streamName : Text
  mediaType : Int
  role : Int
  deriving DecidableEq

/-- The methods of the sink that tell what a notification says. -/
inductive SinkCall where
  | onJoin (streamName : Text) (error : Int) (msg : Text)
  | onLeave (streamName : Text) (error : Int) (msg : Text)
  | onMembers (members : List MemberInfo)
  | onConnect (uid streamName : Text) (error : Int) (msg : Text)
  | onDisconnect (uid streamName : Text) (error : Int) (msg : Text)
  | onSlowLink (uid streamName : Text) (isLocal : Bool) (info : Text)
  | onAudioInputLevel (streamName : Text) (level : Int)
  | onAudioOutputLevel (uid streamName : Text) (level : Int)
  deriving DecidableEq

/-- `BeeJson`: its reader, and the whole number it makes of a literal. -/
structure BeeJson where
  parse : Text → Option Json
  asInt : Text → Option Int

/-- What a C string keeps of a text is all of it, and the literal is short. -/
def tame : Token → Bool
  | .string text => text.all (· ≠ '\x00')
  | .literal text => text.length < 32
  | _ => true

/-- The reader gets out of standard JSON what it says, and takes a number that fits for itself. -/
structure BeeJson.Faithful (json : BeeJson) : Prop where
  reads : ∀ text value, decode strict text = some value →
    (∀ token ∈ value.spell, tame token = true) → json.parse text = some value
  counts : ∀ number : Int, -2147483648 ≤ number → number < 2147483648 →
    json.asInt (decimal number) = some number

variable (json : BeeJson)

def isNull : Json → Bool
  | .literal text => text = "null".toList
  | _ => false

/-- `value[key]`: what is not there is null, as is what is called so. Nothing but an object
can be asked. -/
def member (value : Json) (key : String) : Option (Option Json) :=
  match value with
  | .object members => some ((lastOf key.toList members).filter fun found => !isNull found)
  | _ => none

/-- `value[key].asInt()`, where it is there. -/
def intMember (value : Json) (key : String) : Option (Option Int) :=
  match member value key with
  | some none => some none
  | some (some (.literal text)) => (json.asInt text).map some
  | _ => none

/-- `value[key].asCString()`, where it is there: up to the first NUL. -/
def textMember (value : Json) (key : String) : Option (Option Text) :=
  match member value key with
  | some none => some none
  | some (some (.string text)) => some (some (text.takeWhile (· ≠ '\x00')))
  | _ => none

/-- One element of `members`: it is passed over without a uid or a stream name. -/
def memberInfo (info : Json) : Option (Option MemberInfo) := do
  match ← textMember info "uid" with
  | none => some none
  | some uid =>
    let nickName := (← textMember info "nick_name").getD []
    match ← textMember info "stream_name" with
    | none => some none
    | some streamName =>
      let mediaType := (← intMember json info "media_type").getD 0
      let role := (← intMember json info "role").getD 0
      some (some
        { uid := uid, nickName := nickName, streamName := streamName
          mediaType := mediaType, role := role })

/-- A null element is passed over. -/
def membersInfo : List Json → Option (List MemberInfo)
  | [] => some []
  | info :: infos => do
    let first ← if isNull info then some none else memberInfo json info
    let others ← membersInfo infos
    some (first.toList ++ others)

def msgTypeCount : Int := 11

/-- The elements of `members`: what is no list has none, but for an object, which cannot be
asked by number. -/
def elements : Json → Option (List Json)
  | .array infos => some infos
  | .object [] => some []
  | .object _ => none
  | _ => some []

/-- The switch of `handle_data`, once the fields that are common are read. -/
def tellSink (jsonMsg : Json) (type ec : Int) (msg streamName uid : Text) : Option SinkCall :=
  if type = 0 then some (.onJoin streamName ec msg)
  else if type = 1 then some (.onConnect uid streamName ec msg)
  else if type = 2 then some (.onLeave streamName ec msg)
  else if type = 3 then some (.onDisconnect uid streamName ec msg)
  else if type = 7 then do
    match ← member jsonMsg "members" with
    | some members => ((elements members).bind (membersInfo json)).map .onMembers
    | none => some (.onMembers [])
  else if type = 9 then do
    some (.onAudioInputLevel streamName ((← intMember json jsonMsg "level").getD (-1)))
  else if type = 10 then do
    some (.onAudioOutputLevel uid streamName ((← intMember json jsonMsg "level").getD (-1)))
  else none

/-- `handle_data`: nothing is told where the text cannot be read, its type or its error is
none that is known, or a member has another kind than it is asked for. -/
def handleData (data : Text) : Option SinkCall := do
  let jsonMsg ← json.parse data
  let type := (← intMember json jsonMsg "type").getD msgTypeCount
  let ec := (← intMember json jsonMsg "ec").getD 0
  let msg := (← textMember jsonMsg "msg").getD []
  let _ ← textMember jsonMsg "room_name"
  let streamName := (← textMember jsonMsg "stream_name").getD []
  let uid := (← textMember jsonMsg "uid").getD []
  if 0 ≤ type ∧ type ≤ msgTypeCount ∧ 0 ≤ ec ∧ ec < kBeeErrorCode_Count then
    tellSink json jsonMsg type ec msg streamName uid
  else none

end BeeSdk.WinRoom
