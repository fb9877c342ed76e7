import BeeSdk.AssembledTold
import BeeSdk.NotificationDecoders

/-! What `handle_data` of Windows makes of the text of a notification is what the decoder makes
of its fields. -/
namespace BeeSdk.NotificationDecoders
open JsonText WinRoom AssembledTexts
open StateMachine (kBeeErrorCode_Count)

/-! ### A notification as JSON -/

/-- The fields that are there. -/
def present (fields : List (Text × Option Json)) : List (Text × Json) :=
  fields.filterMap fun (key, value) => value.map fun value => (key, value)

def number (value : Int32) : Json := .literal (decimal value.toInt)

def Entry.fields (entry : Entry) : List (Text × Option Json) :=
  [("uid".toList, entry.uid.map .string), ("nick_name".toList, entry.nickName.map .string),
    ("stream_name".toList, entry.streamName.map .string),
    ("media_type".toList, entry.mediaType.map number), ("role".toList, entry.role.map number)]

def Entry.json (entry : Entry) : Json := .object (present entry.fields)

def Notification.fields (json : Notification) : List (Text × Option Json) :=
  [("type".toList, json.type.map number), ("ec".toList, json.ec.map number),
    ("msg".toList, json.msg.map .string), ("room_name".toList, json.roomName.map .string),
    ("stream_name".toList, json.streamName.map .string), ("uid".toList, json.uid.map .string),
    ("members".toList, json.members.map fun entries => .array (entries.map Entry.json)),
    ("level".toList, json.level.map number), ("info".toList, json.info.map .string)]

def Notification.json (json : Notification) : Json := .object (present json.fields)

/-- The call of the sink with texts that are always there. -/
def told : WinRoom.SinkCall → SinkCall
  | .onJoin streamName error msg => .onJoin (some streamName) error (some msg)
  | .onLeave streamName error msg => .onLeave (some streamName) error (some msg)
  | .onMembers members => .onMembers (members.map fun info => some {
      uid := some info.uid, nickName := some info.nickName, streamName := some info.streamName
      mediaType := .ofInt info.mediaType, role := info.role })
  | .onConnect uid streamName error msg => .onConnect (some uid) (some streamName) error (some msg)
  | .onDisconnect uid streamName error msg =>
    .onDisconnect (some uid) (some streamName) error (some msg)
  | .onSlowLink uid streamName isLocal info =>
    .onSlowLink (some uid) (some streamName) isLocal (some info)
  | .onAudioInputLevel streamName level => .onAudioInputLevel none (some streamName) (.ofInt level)
  | .onAudioOutputLevel uid streamName level =>
    .onAudioOutputLevel none (some uid) (some streamName) (.ofInt level)

/-! ### Reading the fields -/

theorem lastOf_present {fields : List (Text × Option Json)} {key : Text} {value : Option Json}
    (nodup : (fields.map Prod.fst).Nodup) (mem : (key, value) ∈ fields) :
    lastOf key (present fields) = value := by
  have absent : ∀ fields : List (Text × Option Json), key ∉ fields.map Prod.fst →
      lastOf key (present fields) = none := by
    intro fields missing
    rw [lastOf, List.lookup_eq_none_iff]
    intro pair there
    obtain ⟨⟨name, found⟩, listed, made⟩ := List.mem_filterMap.mp (List.mem_reverse.mp there)
    obtain ⟨_, _, rfl⟩ := Option.map_eq_some_iff.mp made
    have other : key ≠ name := fun same => missing (same ▸ List.mem_map_of_mem listed)
    simpa using other
  induction fields with
  | nil => cases mem
  | cons field fields ih =>
    obtain ⟨fresh, others⟩ := List.nodup_cons.mp nodup
    have parts : present (field :: fields) =
        (field.2.map fun value => (field.1, value)).toList ++ present fields := by
      obtain ⟨name, _ | found⟩ := field <;> rfl
    rw [parts, lastOf, List.reverse_append, List.lookup_append]
    rcases List.mem_cons.mp mem with rfl | mem
    · have behind := absent fields fresh
      rw [lastOf] at behind
      cases value <;> simp [behind]
    · have behind := ih others mem
      rw [lastOf] at behind
      have other : key ≠ field.1 := fun same => fresh (same ▸ List.mem_map_of_mem mem)
      rw [behind]
      obtain ⟨name, _ | found⟩ := field <;> cases value <;> simp_all

theorem text_field {members : List (Text × Json)} {key : String} {text : Option Text}
    (last : lastOf key.toList members = text.map .string) :
    textMember (.object members) key = some (text.map Win.asCString) := by
  cases text with
  | none => exact no_text_member last
  | some text =>
    simp only [Option.map_some] at last
    simp only [textMember, member, last, isNull, Option.filter_some, Bool.not_false, ↓reduceIte]
    rfl

theorem number_field {reader : BeeJson} (faithful : reader.Faithful) {members : List (Text × Json)}
    {key : String} {value : Option Int32} (last : lastOf key.toList members = value.map number) :
    intMember reader (.object members) key = some (value.map Int32.toInt) := by
  cases value with
  | none => exact no_int_member last
  | some value => exact int_member faithful last (level_bounds value).1 (level_bounds value).2

/-! ### The decoder -/

theorem getD_toInt (value : Option Int32) :
    (value.map Int32.toInt).getD 0 = (value.getD 0).toInt := by
  cases value <;> rfl

@[simp] theorem getD_asCString (text : Option Text) :
    (text.map Win.asCString).getD [] = Win.asCString (text.getD []) := by
  cases text <;> rfl

theorem entry_field (entry : Entry) {key : Text} {value : Option Json}
    (mem : (key, value) ∈ entry.fields) : lastOf key (present entry.fields) = value := by
  refine lastOf_present ?_ mem
  show List.Nodup ["uid".toList, "nick_name".toList, "stream_name".toList, "media_type".toList,
    "role".toList]
  decide

theorem notification_field (json : Notification) {key : Text} {value : Option Json}
    (mem : (key, value) ∈ json.fields) : lastOf key (present json.fields) = value := by
  refine lastOf_present ?_ mem
  show List.Nodup ["type".toList, "ec".toList, "msg".toList, "room_name".toList,
    "stream_name".toList, "uid".toList, "members".toList, "level".toList, "info".toList]
  decide

theorem memberInfo_reads {reader : BeeJson} (faithful : reader.Faithful) (entry : Entry) :
    ∃ info, WinRoom.memberInfo reader entry.json = some info ∧
      info.map (fun info => MemberInfo.mk (some info.uid) (some info.nickName)
        (some info.streamName) (.ofInt info.mediaType) info.role) = Win.memberInfo entry := by
  have uid : textMember entry.json "uid" = some (entry.uid.map Win.asCString) :=
    text_field (entry_field entry (by simp [Entry.fields]))
  have nick : textMember entry.json "nick_name" = some (entry.nickName.map Win.asCString) :=
    text_field (entry_field entry (by simp [Entry.fields]))
  have stream : textMember entry.json "stream_name" = some (entry.streamName.map Win.asCString) :=
    text_field (entry_field entry (by simp [Entry.fields]))
  have media : intMember reader entry.json "media_type" = some (entry.mediaType.map Int32.toInt) :=
    number_field faithful (entry_field entry (by simp [Entry.fields]))
  have role : intMember reader entry.json "role" = some (entry.role.map Int32.toInt) :=
    number_field faithful (entry_field entry (by simp [Entry.fields]))
  unfold WinRoom.memberInfo
  generalize entry.json = value at uid nick stream media role
  rw [uid]
  cases there : entry.uid with
  | none => exact ⟨none, rfl, by simp [Win.memberInfo, there]⟩
  | some text =>
    simp only [Option.bind_eq_bind, Option.bind_some, nick, stream, media, role]
    cases named : entry.streamName with
    | none => exact ⟨none, rfl, by simp [Win.memberInfo, there, named]⟩
    | some streamName =>
      exact ⟨_, rfl, by simp [Win.memberInfo, there, named, getD_toInt]⟩

theorem membersInfo_reads {reader : BeeJson} (faithful : reader.Faithful) (entries : List Entry) :
    ∃ infos, membersInfo reader (entries.map Entry.json) = some infos ∧
      infos.map (fun info => MemberInfo.mk (some info.uid) (some info.nickName)
        (some info.streamName) (.ofInt info.mediaType) info.role) =
          entries.filterMap Win.memberInfo := by
  induction entries with
  | nil => exact ⟨[], rfl, rfl⟩
  | cons entry entries ih =>
    obtain ⟨info, read, same⟩ := memberInfo_reads faithful entry
    obtain ⟨infos, reads, rest⟩ := ih
    have there : isNull entry.json = false := rfl
    refine ⟨info.toList ++ infos, by simp [membersInfo, there, read, reads], ?_⟩
    rw [List.filterMap_cons, ← same, List.map_append, rest]
    cases info <;> rfl

/-- The numbers below `eVideoRoomMsgType_Count` are those of the types. -/
def VideoRoomMsgType.ordinal : VideoRoomMsgType → Int
  | .localPartyJoin => 0
  | .remotePartyJoin => 1
  | .localLeave => 2
  | .remoteLeave => 3
  | .closed => 4
  | .localSlowLink => 5
  | .remoteSlowLink => 6
  | .remoteMembers => 7
  | .message => 8
  | .audioInputLevel => 9
  | .audioOutputLevel => 10

theorem toMessageType_some {type : Int32} {kind : VideoRoomMsgType}
    (known : toMessageType type = some kind) : type.toInt = kind.ordinal := by
  unfold toMessageType at known
  split at known
  · rename_i nonneg
    have back : (type.toInt.toNat : Int) = type.toInt := Int.toNat_of_nonneg nonneg
    rw [← back]
    generalize type.toInt.toNat = n at known
    rcases n with _ | _ | _ | _ | _ | _ | _ | _ | _ | _ | _ | n <;> cases known <;> rfl
  · cases known

theorem toMessageType_none {type : Int32} (unknown : toMessageType type = none) :
    type.toInt < 0 ∨ 11 ≤ type.toInt := by
  unfold toMessageType at unknown
  split at unknown
  · rw [List.getElem?_eq_none_iff] at unknown
    simp only [List.length_cons, List.length_nil] at unknown
    omega
  · omega

theorem tell_reads {reader : BeeJson} (json : Notification) {value : Json}
    {infos : List WinRoom.MemberInfo} (ec : Int)
    (level : intMember reader value "level" = some (json.level.map Int32.toInt))
    (members : WinRoom.member value "members" =
      some (json.members.map fun entries => .array (entries.map Entry.json)))
    (reads : membersInfo reader ((json.members.getD []).map Entry.json) = some infos)
    (same : infos.map (fun info => MemberInfo.mk (some info.uid) (some info.nickName)
      (some info.streamName) (.ofInt info.mediaType) info.role) =
        (json.members.getD []).filterMap Win.memberInfo) (kind : VideoRoomMsgType) :
    (tellSink reader value kind.ordinal ec ((json.msg.map Win.asCString).getD [])
      ((json.streamName.map Win.asCString).getD []) ((json.uid.map Win.asCString).getD [])).map told = Win.tell json kind ec := by
  cases kind with
  | remoteMembers =>
    have listed : infos.map (fun info => some (MemberInfo.mk (some info.uid) (some info.nickName)
        (some info.streamName) (.ofInt info.mediaType) info.role)) =
        ((json.members.getD []).filterMap Win.memberInfo).map some := by
      rw [← same, List.map_map]
      rfl
    simp only [Win.tell, ← listed]
    cases given : json.members with
    | none =>
      simp only [given, Option.getD_none, List.map_nil, membersInfo, Option.some.injEq] at reads
      simp [VideoRoomMsgType.ordinal, tellSink, members, given, ← reads, told]
    | some entries =>
      simp only [given, Option.getD_some] at reads
      simp [VideoRoomMsgType.ordinal, tellSink, members, given, elements, reads, told]
  | audioInputLevel | audioOutputLevel =>
    cases given : json.level <;>
      simp [VideoRoomMsgType.ordinal, tellSink, level, given, told, Win.tell]
  | _ => simp [VideoRoomMsgType.ordinal, tellSink, told, Win.tell]

/-- The text of a notification is told to the sink as its fields say. -/
theorem handleData_reads {reader : BeeJson} (faithful : reader.Faithful) (json : Notification)
    {text : Text} (parsed : reader.parse text = some json.json) :
    (WinRoom.handleData reader text).map told = Win.handleData json := by
  have type : intMember reader json.json "type" = some (json.type.map Int32.toInt) :=
    number_field faithful (notification_field json (by simp [Notification.fields]))
  have ec : intMember reader json.json "ec" = some (json.ec.map Int32.toInt) :=
    number_field faithful (notification_field json (by simp [Notification.fields]))
  have msg : textMember json.json "msg" = some (json.msg.map Win.asCString) :=
    text_field (notification_field json (by simp [Notification.fields]))
  have room : textMember json.json "room_name" = some (json.roomName.map Win.asCString) :=
    text_field (notification_field json (by simp [Notification.fields]))
  have stream : textMember json.json "stream_name" = some (json.streamName.map Win.asCString) :=
    text_field (notification_field json (by simp [Notification.fields]))
  have uid : textMember json.json "uid" = some (json.uid.map Win.asCString) :=
    text_field (notification_field json (by simp [Notification.fields]))
  have level : intMember reader json.json "level" = some (json.level.map Int32.toInt) :=
    number_field faithful (notification_field json (by simp [Notification.fields]))
  have members : WinRoom.member json.json "members" =
      some (json.members.map fun entries => .array (entries.map Entry.json)) := by
    have last : lastOf "members".toList (present json.fields) =
        json.members.map fun entries => .array (entries.map Entry.json) :=
      notification_field json (by simp [Notification.fields])
    unfold WinRoom.member Notification.json
    simp only [last]
    cases json.members <;> rfl
  obtain ⟨infos, reads, same⟩ := membersInfo_reads faithful (json.members.getD [])
  have error : (0 ≤ (json.ec.map Int32.toInt).getD 0 ∧ (json.ec.map Int32.toInt).getD 0 <
      kBeeErrorCode_Count) ↔ isErrorCode (json.ec.getD 0) := by
    simp only [getD_toInt, isErrorCode, Bool.and_eq_true, decide_eq_true_eq]
  generalize json.json = value at parsed type ec msg room stream uid level members
  simp only [WinRoom.handleData, parsed, Option.bind_eq_bind, Option.bind_some, type, ec, msg, room,
    stream, uid, Win.handleData]
  cases given : json.type with
  | none => simp [tellSink, msgTypeCount]
  | some type =>
    simp only [Option.map_some, Option.getD_some, Option.bind_some]
    by_cases known : isErrorCode (json.ec.getD 0)
    · obtain ⟨low, high⟩ := error.mpr known
      cases typed : toMessageType type with
      | none =>
        have outside := toMessageType_none typed
        have nothing : ∀ ec msg streamName uid,
            tellSink reader value type.toInt ec msg streamName uid = none := by
          intro ec msg streamName uid
          have off : ∀ ordinal : Int, 0 ≤ ordinal → ordinal < 11 → type.toInt ≠ ordinal := by omega
          simp [tellSink, off]
        simp [nothing]
      | some kind =>
        have ordinal := toMessageType_some typed
        have inside : 0 ≤ type.toInt ∧ type.toInt ≤ msgTypeCount := by
          rw [ordinal]
          cases kind <;> decide
        have all := And.intro inside.1 (And.intro inside.2 (And.intro low high))
        rw [if_pos all, getD_toInt, ordinal]
        simpa [known] using tell_reads json (json.ec.getD 0).toInt level members reads same kind
    · have failed : ¬ (0 ≤ type.toInt ∧ type.toInt ≤ msgTypeCount ∧
          0 ≤ (json.ec.map Int32.toInt).getD 0 ∧ (json.ec.map Int32.toInt).getD 0 < kBeeErrorCode_Count) :=
        fun inside => known (error.mp inside.2.2)
      rw [if_neg failed]
      cases toMessageType type <;> simp [known]

/-- The room has been left. -/
def leaveNotice : Notification := { type := some 1, ec := some 0, streamName := some "s".toList }

theorem leave_notice_read :
    (WinRoom.handleData beeJson "\x7b\"type\":1,\"ec\":0,\"stream_name\":\"s\"\x7d".toList).map told =
      Win.handleData leaveNotice :=
  handleData_reads bee_json_faithful leaveNotice rfl

end BeeSdk.NotificationDecoders
