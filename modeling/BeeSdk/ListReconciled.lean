import BeeSdk.PartyTurn

/-! What a list of the media service does to the room: the streams that are pulled and no
longer listed are closed, and those listed and not yet pulled are reported. -/
namespace BeeSdk.Signalling
open HttpHeader (Text)
open Script VideoRoom

/-! ### The streams of a list -/

/-- The entries of a list, where there is one. -/
def entriesOf (jsonData : LuaValue) : List LuaValue :=
  match jsonData.get "list" with
  | .array items => items
  | _ => []

/-- All media of an entry. -/
def mediaOf (entry : LuaValue) : List LuaValue :=
  match entry.get "media" with
  | .array items => items
  | _ => []

/-- A stream as an entry and one of its media give it. -/
def streamFrom (entry medium : LuaValue) : Stream where
  uid := entry.get "uid"
  nickName := (entry.get "outinfo").get "name"
  role := roleOf (entry.get "type")
  streamName := medium.get "streamname"
  mediaType := if (medium.get "streamname").isNil then .nil else medium.get "type"

/-- The media with a name are the streams. -/
def streamsOf (entry : LuaValue) (media : List LuaValue) : List Stream :=
  (media.map (streamFrom entry)).filter fun stream => stream.streamName.text.isSome

/-- Every stream that a message lists. -/
def listedStreams (jsonData : LuaValue) : List Stream :=
  (entriesOf jsonData).flatMap fun entry => streamsOf entry (mediaOf entry)

/-- The medium of an entry that the script looks at. -/
def firstMedium (entry : LuaValue) : LuaValue := (mediaOf entry)[0]?.getD .nil

/-- The streams that come first among the media of their entries, and those behind them. -/
def firstStreams (jsonData : LuaValue) : List Stream :=
  (entriesOf jsonData).flatMap fun entry => streamsOf entry ((mediaOf entry).take 1)

def laterStreams (jsonData : LuaValue) : List Stream :=
  (entriesOf jsonData).flatMap fun entry => streamsOf entry ((mediaOf entry).drop 1)

/-! ### Reconciling -/

/-- A stream that is neither pulled nor pushed. -/
def VideoRoom.isNew (room : VideoRoom) (stream : Stream) : Bool :=
  (stream.streamName.text.bind room.pullStreamPartyTable.lookup).isNone &&
    (stream.streamName.text.bind room.pushStreamPartyTable.lookup).isNone

/-- A stream as `%s` is given it: a text is told as it is, a number as the double it is, with a
point. Without a name of its own a member is anonymous. -/
def memberOf (stream : Stream) : Member where
  streamName := stream.streamName
  uid := stream.uid
  nickName := if stream.nickName.isNil then .string "anonymous".toList else stream.nickName
  mediaType := mediaTypeOf stream.mediaType
  role := stream.role.toInteger.getD eVideoRoomRole_None

/-- The streams that are pulled and not listed, with their parties. -/
def Session.unlisted (session : Session) (streams : List Stream) : List (Text × Nat) :=
  (session.room.pullStreamPartyTable.entries.map fun entry => (entry.1, entry.2)).filter
    fun entry => ¬ named streams entry.1

/-- The error a party is closed with when it is no longer listed. -/
def unlistedReason (party : Party) : Int := if party.allReady then 0 else 20

/-- What the application is told of closed parties. -/
def Session.closings (session : Session) (gone : List (Text × Nat)) : List Entry :=
  gone.map fun entry => .notifies (some entry.2)
    ((session.parties entry.2).closing (unlistedReason (session.parties entry.2)))

/-- One message with the members, where there are any. -/
def membersMessage (room : VideoRoom) (members : List Member) : List Entry :=
  if members = [] then [] else [.notifies none (.members room.roomName members)]

/-- A list has been reconciled: there was no error, exactly the pulled streams that it does not
list are closed, nothing else is touched, and one message tells of the new streams with the uids and
names that are listed. -/
structure Reconciled (before : Session) (jsonData : LuaValue) (ended : Option Unit)
    (after : Session) : Prop where
  ends : ended = some ()
  closed : ∀ entry ∈ before.unlisted (listedStreams jsonData),
    after.parties entry.2 = (before.parties entry.2).closeConns.finish
  pulls : ∀ streamName, after.room.pullStreamPartyTable.lookup streamName =
    if named (listedStreams jsonData) streamName then
      before.room.pullStreamPartyTable.lookup streamName
    else none
  pushes : after.room.pushStreamPartyTable = before.room.pushStreamPartyTable
  others : ∀ party, party ∉ (before.unlisted (listedStreams jsonData)).map Prod.snd →
    after.parties party = before.parties party ∧
      ∀ key, before.handlePartyTable key = some party → after.handlePartyTable key = some party
  told : after.history = before.history ++ before.closings (before.unlisted (listedStreams jsonData)) ++
    membersMessage before.room (((listedStreams jsonData).filter before.room.isNew).map memberOf)
  given : ∀ stream ∈ (listedStreams jsonData).filter before.room.isNew,
    stream.uid.text.isSome ∧ (stream.nickName.isNil ∨ stream.nickName.text.isSome)

/-! ### Lists that are reconciled -/

/-- An entry that the script reads without an error. -/
def Readable (entry : LuaValue) : Prop :=
  entry.isNil ∨ entry.indexable ∧
    ((entry.get "outinfo").isNil ∨ (entry.get "outinfo").indexable) ∧
    ((entry.get "media").isNil ∨ (entry.get "media").indexable) ∧
    ((firstMedium entry).isNil ∨ (firstMedium entry).indexable)

/-- The name under which the room pushes. -/
def VideoRoom.isOwn (room : VideoRoom) (stream : Stream) : Bool :=
  room.streamNameDisplay.isSome && stream.streamName.text = room.streamNameDisplay

/-- A list that can be read and leaves nothing open: there is one; a new stream has a uid and a
type, and a name that is text if it has one; the own name is that of a stream that is pushed;
of the media behind the first ones none is new, and none keeps a stream from being closed; and
no party that stays is filed under the handle of one that is closed. -/
structure Regular (before : Session) (jsonData : LuaValue) : Prop where
  list : (jsonData.get "list").length.isSome
  readable : ∀ entry ∈ entriesOf jsonData, Readable entry
  named : ∀ entry ∈ entriesOf jsonData, ((firstMedium entry).get "streamname").isNil ∨
    ((firstMedium entry).get "streamname").text.isSome
  new : ∀ stream ∈ firstStreams jsonData, before.room.isNew stream → stream.uid.text.isSome ∧
    (stream.nickName.isNil ∨ stream.nickName.text.isSome) ∧ ¬ stream.role.isNil
  own : ∀ stream ∈ firstStreams jsonData,
    (stream.streamName.text.bind before.room.pullStreamPartyTable.lookup).isNone →
      (before.room.isOwn stream ↔
        (stream.streamName.text.bind before.room.pushStreamPartyTable.lookup).isSome)
  later : ∀ stream ∈ laterStreams jsonData, before.room.isNew stream = false ∧
    ∀ streamName, stream.streamName.text = some streamName →
      (before.room.pullStreamPartyTable.lookup streamName).isSome →
        VideoRoom.named (firstStreams jsonData) streamName
  handles : ∀ entry ∈ before.unlisted (listedStreams jsonData), ∀ key party,
    before.handlePartyTable key = some party →
    key.rawEqual (before.parties entry.2).handle → (before.parties entry.2).handle.isNil ∨
      party ∈ (before.unlisted (listedStreams jsonData)).map Prod.snd

end BeeSdk.Signalling
