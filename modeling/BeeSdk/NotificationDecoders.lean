import BeeSdk.HttpHeader
import BeeSdk.StateMachine
import Mathlib.Tactic.Tauto

/-! The three decoders of what the script tells the video room: `handle_data` of Windows and
`handleData` of Android and of iOS. A notification is an object whose fields are there or not;
a text that a decoder finds missing is empty in one place and nil in another. -/
namespace BeeSdk.NotificationDecoders
open HttpHeader (Text)
open StateMachine (kBeeErrorCode_Count kBeeErrorCode_Not_Compatible)

/-! ### Notifications -/

/-- An entry of `members`. -/
structure Entry where
  uid : Option Text := none
  nickName : Option Text := none
  streamName : Option Text := none
  mediaType : Option Int32 := none
  role : Option Int32 := none

/-- The fields that are read. `info` is the text that a slow link has under this name. -/
structure Notification where
  type : Option Int32 := none
  ec : Option Int32 := none
  msg : Option Text := none
  roomName : Option Text := none
  streamName : Option Text := none
  uid : Option Text := none
  members : Option (List Entry) := none
  level : Option Int32 := none
  info : Option Text := none

inductive VideoRoomMsgType where
  | localPartyJoin | remotePartyJoin | localLeave | remoteLeave | closed | localSlowLink
  | remoteSlowLink | remoteMembers | message | audioInputLevel | audioOutputLevel
  deriving DecidableEq

/-- The type with a number, below `eVideoRoomMsgType_Count`. -/
def toMessageType (type : Int32) : Option VideoRoomMsgType :=
  [.localPartyJoin, .remotePartyJoin, .localLeave, .remoteLeave, .closed, .localSlowLink,
    .remoteSlowLink, .remoteMembers, .message, .audioInputLevel, .audioOutputLevel][
      if 0 ≤ type.toInt then type.toInt.toNat else 11]?

/-- A number that is an error code, success among them. -/
def isErrorCode (ec : Int32) : Bool := 0 ≤ ec.toInt && ec.toInt < kBeeErrorCode_Count

/-! ### Sinks -/

/-- What is told about a member, of somebody else in every case. -/
structure MemberInfo where
  uid : Option Text
  nickName : Option Text
  streamName : Option Text
  mediaType : Int32
  role : Int
  deriving DecidableEq

/-- A call of the sink. A member that is none is an empty slot of the array. The levels come
with an error and its text where the sink has parameters for them. -/
inductive SinkCall where
  | onJoin (streamName : Option Text) (error : Int) (msg : Option Text)
  | onLeave (streamName : Option Text) (error : Int) (msg : Option Text)
  | onMembers (members : List (Option MemberInfo))
  | onConnect (uid streamName : Option Text) (error : Int) (msg : Option Text)
  | onDisconnect (uid streamName : Option Text) (error : Int) (msg : Option Text)
  | onSlowLink (uid streamName : Option Text) (isLocal : Bool) (info : Option Text)
  | onAudioInputLevel (error : Option (Int × Option Text)) (streamName : Option Text) (level : Int32)
  | onAudioOutputLevel (error : Option (Int × Option Text)) (uid streamName : Option Text)
      (level : Int32)
  deriving DecidableEq

/-! ### Windows -/

namespace Win

/-- What is left of a string that is taken by `asCString`. -/
def asCString (text : Text) : Text := text.takeWhile (· ≠ '\x00')

/-- An entry without a uid or a stream name is passed over; any number is a role. -/
def memberInfo (entry : Entry) : Option MemberInfo := do
  let uid ← entry.uid
  let streamName ← entry.streamName
  some {
    uid := some (asCString uid)
    nickName := some (asCString (entry.nickName.getD []))
    streamName := some (asCString streamName)
    mediaType := entry.mediaType.getD 0
    role := (entry.role.getD 0).toInt }

def tell (json : Notification) (type : VideoRoomMsgType) (ec : Int) : Option SinkCall :=
  let errMsg := some (asCString (json.msg.getD []))
  let streamName := some (asCString (json.streamName.getD []))
  let uid := some (asCString (json.uid.getD []))
  match type with
  | .localPartyJoin => some (.onJoin streamName ec errMsg)
  | .remotePartyJoin => some (.onConnect uid streamName ec errMsg)
  | .localLeave => some (.onLeave streamName ec errMsg)
  | .remoteLeave => some (.onDisconnect uid streamName ec errMsg)
  | .remoteMembers => some (.onMembers (((json.members.getD []).filterMap memberInfo).map some))
  | .audioInputLevel => some (.onAudioInputLevel none streamName (json.level.getD (-1)))
  | .audioOutputLevel => some (.onAudioOutputLevel none uid streamName (json.level.getD (-1)))
  | _ => none

def handleData (json : Notification) : Option SinkCall := do
  let type ← json.type
  let type ← toMessageType type
  let ec := json.ec.getD 0
  if isErrorCode ec then tell json type ec.toInt else none

end Win

/-! ### Android -/

namespace Android

def toBeeErrorCode (ret : Int32) : Int :=
  if isErrorCode ret then ret.toInt else kBeeErrorCode_Not_Compatible

/-- An entry without a uid leaves its slot empty; a number that is no role is none. -/
def memberInfo (entry : Entry) : Option MemberInfo := do
  let uid ← entry.uid
  let role := (entry.role.getD 0).toInt
  some {
    uid := some uid
    nickName := entry.nickName
    streamName := entry.streamName
    mediaType := entry.mediaType.getD 0
    role := if 0 ≤ role ∧ role ≤ 2 then role else 0 }

/-- Without entries nothing is told. -/
def handleRemoteMembers (members : Option (List Entry)) : Option SinkCall :=
  match members with
  | none | some [] => none
  | some entries => some (.onMembers (entries.map memberInfo))

def tell (errorToString : Int → Text) (json : Notification) (type : VideoRoomMsgType) (ret : Int) :
    Option SinkCall :=
  let errMsg := some (json.msg.getD [])
  match type with
  | .localPartyJoin => some (.onJoin json.streamName ret errMsg)
  | .remotePartyJoin => some (.onConnect json.uid json.streamName ret errMsg)
  | .localLeave => some (.onLeave json.streamName ret errMsg)
  | .remoteLeave => some (.onDisconnect json.uid json.streamName ret errMsg)
  | .localSlowLink => some (.onSlowLink json.uid json.streamName true json.info)
  | .remoteSlowLink => some (.onSlowLink json.uid json.streamName false json.info)
  | .remoteMembers => handleRemoteMembers json.members
  | .audioInputLevel => some (.onAudioInputLevel (some (ret, some (errorToString ret)))
      json.streamName (json.level.getD (-1)))
  | .audioOutputLevel => some (.onAudioOutputLevel (some (ret, some (errorToString ret)))
      json.uid json.streamName (json.level.getD (-1)))
  | _ => none

def handleData (errorToString : Int → Text) (json : Notification) : Option SinkCall := do
  let type ← json.type
  let type ← toMessageType type
  tell errorToString json type ((json.ec.map toBeeErrorCode).getD 0)

end Android

/-! ### iOS -/

namespace Ios

def toRole (role : Int32) : Int := if 0 < role.toInt ∧ role.toInt ≤ 2 then role.toInt else 0

/-- An entry without a uid or a stream name is passed over. -/
def memberInfo (entry : Entry) : Option MemberInfo := do
  let uid ← entry.uid
  let streamName ← entry.streamName
  some {
    uid := some uid
    nickName := entry.nickName
    streamName := some streamName
    mediaType := entry.mediaType.getD 0
    role := (entry.role.map toRole).getD 0 }

/-- Without members nothing is told. -/
def handleRemoteMembers (members : Option (List Entry)) : Option SinkCall :=
  let members := (members.getD []).filterMap memberInfo
  if 0 < members.length then some (.onMembers (members.map some)) else none

/-- The error of a leaving user is dropped. -/
def tell (json : Notification) (type : VideoRoomMsgType) (err : Int) : Option SinkCall :=
  match type with
  | .localPartyJoin => some (.onJoin json.streamName err json.msg)
  | .remotePartyJoin => some (.onConnect json.uid json.streamName err json.msg)
  | .localLeave => some (.onLeave json.streamName err json.msg)
  | .remoteLeave => some (.onDisconnect json.uid json.streamName 0 json.msg)
  | .remoteMembers => handleRemoteMembers json.members
  | .audioInputLevel => some (.onAudioInputLevel (some (err, json.msg)) json.streamName
      (json.level.getD (-1)))
  | .audioOutputLevel => some (.onAudioOutputLevel (some (err, json.msg)) json.uid json.streamName
      (json.level.getD (-1)))
  | _ => none

def handleData (json : Notification) : Option SinkCall := do
  let type ← json.type
  let type ← toMessageType type
  let ec := json.ec.getD 0
  if isErrorCode ec then tell json type ec.toInt else none

end Ios

/-! ### Agreement -/

/-- The arguments that the sink of Windows has as well. -/
def SinkCall.shared : SinkCall → SinkCall
  | .onAudioInputLevel _ streamName level => .onAudioInputLevel none streamName level
  | .onAudioOutputLevel _ uid streamName level => .onAudioOutputLevel none uid streamName level
  | call => call

/-- What an entry says of a member, where it has a uid and a stream name. -/
def Entry.wellFormed (entry : Entry) : Bool := entry.uid.isSome && entry.streamName.isSome

def Entry.info (entry : Entry) : MemberInfo where
  uid := entry.uid
  nickName := entry.nickName
  streamName := entry.streamName
  mediaType := entry.mediaType.getD 0
  role := (entry.role.getD 0).toInt

/-- Each sink gets the same call with the same arguments, or none gets one; the members are the
well-formed entries in their order, with no empty slot. -/
structure Agree (errorToString : Int → Text) (json : Notification) : Prop where
  mobile : Android.handleData errorToString json = Ios.handleData json
  desktop : Win.handleData json = (Ios.handleData json).map SinkCall.shared
  members : ∀ members, Ios.handleData json = some (.onMembers members) →
    members = ((json.members.getD []).filter Entry.wellFormed).map fun entry => some entry.info

/-- A text that is there and a C string. -/
def Whole (text : Option Text) : Prop := ∃ found, text = some found ∧ '\x00' ∉ found

/-- An entry that has every text, and a role that is known if it has one. -/
def Entry.Full (entry : Entry) : Prop :=
  Whole entry.uid ∧ Whole entry.nickName ∧ Whole entry.streamName ∧
    0 ≤ (entry.role.getD 0).toInt ∧ (entry.role.getD 0).toInt ≤ 2

/-- The texts a call has are in the notification, and its error is known. What the text of a
level must be is up to the error; a slow link is told by one of the three only. -/
def Alike (errorToString : Int → Text) (json : Notification) : Option VideoRoomMsgType → Prop
  | some .localPartyJoin | some .localLeave =>
    isErrorCode (json.ec.getD 0) ∧ Whole json.streamName ∧ Whole json.msg
  | some .remotePartyJoin =>
    isErrorCode (json.ec.getD 0) ∧ Whole json.uid ∧ Whole json.streamName ∧ Whole json.msg
  | some .remoteLeave =>
    json.ec.getD 0 = 0 ∧ Whole json.uid ∧ Whole json.streamName ∧ Whole json.msg
  | some .localSlowLink | some .remoteSlowLink => False
  | some .remoteMembers =>
    if isErrorCode (json.ec.getD 0) then json.members.getD [] ≠ [] ∧
      ∀ entry ∈ json.members.getD [], entry.Full
    else json.members.getD [] = []
  | some .audioInputLevel =>
    isErrorCode (json.ec.getD 0) ∧ Whole json.streamName ∧
      json.msg = some (errorToString (json.ec.getD 0).toInt)
  | some .audioOutputLevel =>
    isErrorCode (json.ec.getD 0) ∧ Whole json.uid ∧ Whole json.streamName ∧
      json.msg = some (errorToString (json.ec.getD 0).toInt)
  | some .closed | some .message | none => True

/-! ### C strings -/

theorem asCString_eq_iff (text : Text) : Win.asCString text = text ↔ '\x00' ∉ text := by
  rw [Win.asCString, List.takeWhile_eq_self_iff]
  constructor
  · rintro clean mem
    simpa using clean _ mem
  · rintro clean symbol mem
    simp only [decide_eq_true_eq]
    rintro rfl
    exact clean mem

/-- A text in the place of a missing one makes a difference when it is missing, -/
theorem filled_eq_iff (text : Option Text) : some (text.getD []) = text ↔ text.isSome := by
  cases text <;> simp

/-- and a C string in its place when it is cut as well. -/
theorem cut_eq_iff (text : Option Text) :
    some (Win.asCString (text.getD [])) = text ↔ Whole text := by
  cases text with
  | none => simp [Whole]
  | some text => simp [Whole, asCString_eq_iff]

theorem Whole.isSome {text : Option Text} (whole : Whole text) : text.isSome := by
  obtain ⟨found, rfl, -⟩ := whole
  rfl

/-! ### Members -/

/-- A full entry is the same member everywhere. -/
theorem memberInfo_full {entry : Entry} (full : entry.Full) :
    Win.memberInfo entry = some entry.info ∧ Android.memberInfo entry = some entry.info ∧
      Ios.memberInfo entry = some entry.info := by
  obtain ⟨uid, nickName, streamName, mediaType, role⟩ := entry
  obtain ⟨⟨uid, hasUid, cleanUid⟩, ⟨nickName, hasNick, cleanNick⟩,
    ⟨streamName, hasStream, cleanStream⟩, low, high⟩ := full
  simp only at hasUid hasNick hasStream low high
  subst hasUid hasNick hasStream
  refine ⟨by simp [Win.memberInfo, Entry.info, asCString_eq_iff, cleanUid, cleanNick, cleanStream],
    by simp [Android.memberInfo, Entry.info, low, high], ?_⟩
  cases role with
  | none => rfl
  | some role =>
    simp only [Option.getD_some] at low high
    by_cases zero : role.toInt = 0
    · simp [Ios.memberInfo, Entry.info, Ios.toRole, zero]
    · have positive : 0 < role.toInt := by omega
      simp [Ios.memberInfo, Entry.info, Ios.toRole, positive, high]

/-- An entry of which iOS and Windows make the same member is full. -/
theorem full_of_memberInfo {entry : Entry} {info : MemberInfo}
    (ios : Ios.memberInfo entry = some info) (win : Win.memberInfo entry = some info) :
    entry.Full := by
  obtain ⟨uid, nickName, streamName, mediaType, role⟩ := entry
  cases uid with
  | none => cases ios
  | some uid =>
    cases streamName with
    | none => cases ios
    | some streamName =>
      have same := ios.trans win.symm
      simp only [Ios.memberInfo, Win.memberInfo, Option.bind_eq_bind, Option.bind_some,
        Option.some.injEq, MemberInfo.mk.injEq, true_and] at same
      obtain ⟨sameUid, nick, sameStream, clamped⟩ := same
      refine ⟨⟨uid, rfl, (asCString_eq_iff uid).mp sameUid.symm⟩, (cut_eq_iff nickName).mp nick.symm,
        ⟨streamName, rfl, (asCString_eq_iff streamName).mp sameStream.symm⟩, ?_⟩
      cases role with
      | none =>
        simp only [Option.getD_none]
        decide
      | some role =>
        simp only [Option.map_some, Option.getD_some, Ios.toRole] at clamped ⊢
        split at clamped <;> omega

/-- The three lists are one only when every entry is full. -/
theorem members_full (entries : List Entry)
    (android : entries.map Android.memberInfo = (entries.filterMap Ios.memberInfo).map some)
    (win : entries.filterMap Win.memberInfo = entries.filterMap Ios.memberInfo) :
    ∀ entry ∈ entries, entry.Full := by
  induction entries with
  | nil => simp
  | cons entry entries ih =>
    cases ios : Ios.memberInfo entry with
    | none =>
      -- the slot that Android leaves is one too many
      have lengths := congrArg List.length android
      have fewer := List.length_filterMap_le Ios.memberInfo entries
      simp only [List.length_map, List.filterMap_cons, ios, List.length_cons] at lengths
      omega
    | some info =>
      have there : (Win.memberInfo entry).isSome := by
        obtain ⟨_ | uid, _, _ | streamName, _, _⟩ := entry <;>
          simp_all [Ios.memberInfo, Win.memberInfo]
      obtain ⟨other, told⟩ := Option.isSome_iff_exists.mp there
      simp only [List.filterMap_cons, ios, told, List.cons.injEq] at win
      simp only [List.filterMap_cons, ios, List.map_cons, List.cons.injEq] at android
      have first := full_of_memberInfo ios (win.1 ▸ told)
      exact List.forall_mem_cons.mpr ⟨first, ih android.2 win.2⟩

/-- The lists of full entries. -/
theorem full_members {entries : List Entry} (full : ∀ entry ∈ entries, entry.Full) :
    entries.filterMap Win.memberInfo = entries.map Entry.info ∧
      entries.map Android.memberInfo = entries.map (fun entry => some entry.info) ∧
      entries.filterMap Ios.memberInfo = entries.map Entry.info ∧
      entries.filter Entry.wellFormed = entries := by
  induction entries with
  | nil => exact ⟨rfl, rfl, rfl, rfl⟩
  | cons entry entries ih =>
    obtain ⟨first, others⟩ := List.forall_mem_cons.mp full
    obtain ⟨win, android, ios⟩ := memberInfo_full first
    obtain ⟨wins, androids, ioss, formed⟩ := ih others
    have wellFormed : entry.wellFormed = true := by
      simp [Entry.wellFormed, first.1.isSome, first.2.2.1.isSome]
    exact ⟨by simp [win, wins], by simp [android, androids], by simp [ios, ioss],
      by simp [wellFormed, formed]⟩

/-! ### When the decoders agree -/

theorem android_error {json : Notification} (known : isErrorCode (json.ec.getD 0)) :
    (json.ec.map Android.toBeeErrorCode).getD 0 = (json.ec.getD 0).toInt := by
  cases ec : json.ec with
  | none => rfl
  | some ec =>
    simp only [ec, Option.getD_some] at known
    simp [Android.toBeeErrorCode, known]

theorem remote_members_iff (entries : Option (List Entry)) :
    (Android.handleRemoteMembers entries = Ios.handleRemoteMembers entries ∧
      some (.onMembers (((entries.getD []).filterMap Win.memberInfo).map some)) =
        (Ios.handleRemoteMembers entries).map SinkCall.shared ∧
      ∀ members, Ios.handleRemoteMembers entries = some (.onMembers members) →
        members = ((entries.getD []).filter Entry.wellFormed).map fun entry => some entry.info) ↔
      entries.getD [] ≠ [] ∧ ∀ entry ∈ entries.getD [], entry.Full := by
  rcases entries with _ | _ | ⟨entry, entries⟩
  · simp [Ios.handleRemoteMembers]
  · simp [Ios.handleRemoteMembers]
  · simp only [Android.handleRemoteMembers, Option.getD_some]
    generalize given : entry :: entries = all
    have nonempty : all ≠ [] := by
      rw [← given]
      exact List.cons_ne_nil _ _
    constructor
    · rintro ⟨mobile, desktop, -⟩
      simp only [Ios.handleRemoteMembers, Option.getD_some] at mobile desktop
      split at mobile
      · rename_i some
        simp only [some, if_true, Option.map_some, SinkCall.shared, Option.some.injEq,
          SinkCall.onMembers.injEq] at mobile desktop
        have win := (List.map_inj_right fun _ _ => Option.some.inj).mp desktop
        exact ⟨nonempty, members_full all mobile win⟩
      · cases mobile
    · rintro ⟨-, full⟩
      obtain ⟨win, android, ios, formed⟩ := full_members full
      have some : 0 < (all.map Entry.info).length := by
        rw [List.length_map]
        exact List.length_pos_iff.mpr nonempty
      simp only [Ios.handleRemoteMembers, Option.getD_some, win, android, ios, formed, some, if_true]
      refine ⟨by simp, rfl, fun members told => ?_⟩
      cases told
      simp

theorem agree_iff (errorToString : Int → Text) (json : Notification) :
    Agree errorToString json ↔
      Android.handleData errorToString json = Ios.handleData json ∧
        Win.handleData json = (Ios.handleData json).map SinkCall.shared ∧
        ∀ members, Ios.handleData json = some (.onMembers members) → members =
          ((json.members.getD []).filter Entry.wellFormed).map fun entry => some entry.info :=
  ⟨fun ⟨mobile, desktop, members⟩ => ⟨mobile, desktop, members⟩,
    fun ⟨mobile, desktop, members⟩ => ⟨mobile, desktop, members⟩⟩

/-- Exactly when the decoders agree on a notification: it has no known type, or one that is
told to nobody, or it has all that a call of its type needs. -/
theorem notifications_agree_iff (errorToString : Int → Text) (json : Notification) :
    Agree errorToString json ↔
      Alike errorToString json (json.type.bind toMessageType) := by
  have zero : (json.ec.getD 0).toInt = 0 ↔ json.ec.getD 0 = 0 := by
    rw [← Int32.toInt_zero, Int32.toInt_inj]
  rw [agree_iff]
  simp only [Android.handleData, Ios.handleData, Win.handleData, Option.bind_eq_bind,
    ← Option.bind_assoc]
  generalize json.type.bind toMessageType = type
  cases type with
  | none => simp [Alike]
  | some type =>
    simp only [Option.bind_some]
    have there : Whole json.msg → json.msg.isSome := Whole.isSome
    by_cases known : isErrorCode (json.ec.getD 0)
    · rw [android_error known]
      simp only [known, if_true]
      cases type with
      | remoteMembers =>
        simpa [Alike, known, Win.tell, Android.tell, Ios.tell] using remote_members_iff json.members
      | remoteLeave =>
        rw [Alike, ← zero]
        simp [Win.tell, Android.tell, Ios.tell, SinkCall.shared, filled_eq_iff, cut_eq_iff]
        tauto
      | audioInputLevel | audioOutputLevel =>
        simp [Alike, known, Win.tell, Android.tell, Ios.tell, SinkCall.shared, cut_eq_iff]
        tauto
      | closed | message | localSlowLink | remoteSlowLink =>
        simp [Alike, Win.tell, Android.tell, Ios.tell]
      | _ =>
        simp [Alike, known, Win.tell, Android.tell, Ios.tell, SinkCall.shared, filled_eq_iff,
          cut_eq_iff]
        tauto
    · -- Android tells what the others drop
      cases type with
      | remoteMembers => rcases members : json.members with _ | _ | _ <;>
          simp [Alike, known, Android.tell, Android.handleRemoteMembers, members]
      | remoteLeave =>
        have failed : json.ec.getD 0 ≠ 0 := fun success => known (by rw [success]; rfl)
        simp [Alike, known, Android.tell, failed]
      | _ => simp [Alike, known, Android.tell]

/-- A remote stream closed with an error, as the script reports it. -/
def closedWithError : Notification where
  type := some 3
  ec := some 38
  roomName := some "nil".toList
  streamName := some "s".toList
  uid := some "b".toList

/-- iOS drops the error. -/
theorem decoders_disagree : ¬ ∀ errorToString json, Agree errorToString json := by
  intro all
  have told := (all (fun _ => []) closedWithError).mobile
  revert told
  decide

end BeeSdk.NotificationDecoders
