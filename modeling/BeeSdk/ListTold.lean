import BeeSdk.ListReconciledProofs
import BeeSdk.PartyNotices
import Mathlib.Data.List.Perm.Basic

/-! What a whole list comes to, and the lists that are reconciled in every state the script
reaches. -/
namespace BeeSdk.Signalling
open HttpHeader (Text)
open Script VideoRoom

/-! ### Closing -/

/-- One round over the pulled parties. -/
def leaveUnlisted (streams : List Stream) (entry : (_ : Text) × Nat) : Lua Unit := do
  if (← theRoom).pullStreamPartyTable.lookup entry.1 = some entry.2 ∧ ¬ named streams entry.1 then
    if (← theParty entry.2).allReady then Party.leave entry.2 (some 0)
    else Party.leave entry.2 (some 20)

theorem leaveUnlisted_apply (streams : List Stream) (entry : (_ : Text) × Nat) (session : Session)
    (held : session.room.pullStreamPartyTable.lookup entry.1 = some entry.2) :
    leaveUnlisted streams entry session = (some (), if named streams entry.1 then session
      else session.shut entry.2 (unlistedReason (session.parties entry.2))) := by
  unfold leaveUnlisted
  rw [bind_apply, theRoom_apply]
  dsimp only
  rw [if_apply]
  cases kept : named streams entry.1 with
  | true =>
    rw [if_neg (by simp), if_pos rfl]
    rfl
  | false =>
    rw [if_pos ⟨held, by simp⟩, if_neg (by simp), bind_apply, theParty_apply]
    dsimp only
    rw [if_apply]
    unfold unlistedReason
    split <;> rw [leave_some]

/-- The pulled parties are left one after the other, but for those that are named. -/
theorem each_unlists (streams : List Stream) (entries : List ((_ : Text) × Nat))
    {session : Session} (pulled : Pulled session)
    (listed : ∀ entry ∈ entries,
      session.room.pullStreamPartyTable.lookup entry.1 = some entry.2)
    (nodup : (entries.map Sigma.fst).Nodup) :
    each entries (leaveUnlisted streams) session =
      (some (), session.unlist ((entries.map fun entry => (entry.1, entry.2)).filter
        fun entry => ¬ named streams entry.1)) := by
  induction entries generalizing session with
  | nil => rfl
  | cons entry entries ih =>
    obtain ⟨held, others⟩ := List.forall_mem_cons.mp listed
    obtain ⟨fresh, nodup⟩ := List.nodup_cons.mp nodup
    simp only [each, bind_apply, leaveUnlisted_apply streams entry session held, List.map_cons,
      List.filter_cons]
    cases kept : named streams entry.1 with
    | true =>
      rw [if_pos rfl, ih pulled others nodup]
      simp
    | false =>
      have behind : ∀ other ∈ entries,
          (session.shut entry.2
            (unlistedReason (session.parties entry.2))).room.pullStreamPartyTable.lookup other.1 =
              some other.2 := by
        intro other mem
        have away : other.1 ≠ entry.1 := fun same => fresh (same ▸ List.mem_map_of_mem mem)
        rw [shut_pulls pulled held, if_neg away, others other mem]
      rw [if_neg (by simp), ih (pulled.turn (shut_turn ..)) behind nodup]
      simp [Session.unlist]

/-- The items of a list are its entries, but for texts, whose items are all nil. -/
theorem listItems_entries (jsonData : LuaValue) :
    ((jsonData.get "list").length = none ∧ listItems (jsonData.get "list") = none) ∨
    ∃ items, (jsonData.get "list").length.isSome ∧ listItems (jsonData.get "list") = some items ∧
      ((∀ entry ∈ items, Readable entry) ↔ ∀ entry ∈ entriesOf jsonData, Readable entry) ∧
      streamsRead items = streamsRead (entriesOf jsonData) := by
  unfold entriesOf
  generalize jsonData.get "list" = list
  cases list with
  | array items => exact .inr ⟨items, rfl, rfl, .rfl, rfl⟩
  | object => exact .inr ⟨[], rfl, rfl, .rfl, rfl⟩
  | string text =>
    refine .inr ⟨text.map fun _ => .nil, rfl, rfl, ?_, ?_⟩
    · simp [Readable, LuaValue.isNil]
    · simp [streamsRead, LuaValue.isNil]
  | _ => exact .inl ⟨rfl, rfl⟩

/-- What a list comes to before anything is reported. -/
theorem checkParties_apply (jsonData : LuaValue) {session : Session} (pulled : Pulled session) :
    ((jsonData.get "list").length.isSome → (∀ entry ∈ entriesOf jsonData, Readable entry) →
      checkParties jsonData session =
        (some (unpulled session.room (streamsRead (entriesOf jsonData))),
          session.unlist (session.unlisted (streamsRead (entriesOf jsonData))))) ∧
    (¬ ((jsonData.get "list").length.isSome ∧ ∀ entry ∈ entriesOf jsonData, Readable entry) →
      (checkParties jsonData session).1 = none) := by
  unfold checkParties
  rw [bind_apply, field_apply]
  by_cases indexable : jsonData.indexable = true
  swap
  · have closed : jsonData.indexable = false := by simpa using indexable
    have absent : jsonData.get "list" = .nil := by
      simp [LuaValue.get, LuaValue.field_of_not_indexable closed]
    rw [LuaValue.field_of_not_indexable closed, absent]
    exact ⟨fun there => by simp [LuaValue.length] at there, fun _ => rfl⟩
  rw [LuaValue.field_of_indexable indexable]
  dsimp only
  rw [bind_apply, ofOption_apply]
  rcases listItems_entries jsonData with ⟨absent, none⟩ | ⟨items, there, some, readable, read⟩
  · rw [none, absent]
    exact ⟨fun there => by simp at there, fun _ => rfl⟩
  rw [some, ← readable, ← read]
  dsimp only
  rw [bind_apply]
  constructor
  · intro _ all
    rw [(readStreams_apply items session).1 all]
    dsimp only
    rw [bind_apply, theRoom_apply]
    dsimp only
    have left := each_unlists (streamsRead items) _ pulled
      (fun entry mem => AList.mem_lookup_iff.mpr mem) session.room.pullStreamPartyTable.nodupKeys
    unfold leaveUnlisted at left
    rw [bind_apply, left]
    rfl
  · intro unread
    rw [(readStreams_apply items session).2 fun all => unread ⟨there, all⟩]

/-! ### Reporting -/

/-- A stream that is reported: neither the own one nor pulled. -/
def VideoRoom.isReported (room : VideoRoom) (stream : Stream) : Bool :=
  ¬ room.isOwn stream ∧ (stream.streamName.text.bind room.pullStreamPartyTable.lookup).isNone

theorem readMembers_cons (room : VideoRoom) (stream : Stream) (streams : List Stream)
    (session : Session) :
    readMembers room (stream :: streams) session =
      if room.isReported stream then
        match stream.role.toInteger with
        | none => (none, session)
        | some _ => match readMembers room streams session with
          | (some members, reached) => (some (memberOf stream :: members), reached)
          | (none, reached) => (none, reached)
      else readMembers room streams session := by
  have asked : (¬ (room.streamNameDisplay.isSome &&
      decide (stream.streamName.text = room.streamNameDisplay)) = true ∧
        (stream.streamName.text.bind fun name => room.pullStreamPartyTable.lookup name).isNone = true) ↔
      room.isReported stream = true := by
    unfold VideoRoom.isReported VideoRoom.isOwn
    rw [decide_eq_true_iff]
  rw [readMembers]
  rw [if_apply]
  refine if_congr asked ?_ rfl
  rw [bind_apply, formatInteger_apply]
  cases role : stream.role.toInteger with
  | none => rfl
  | some number =>
    dsimp only
    rw [bind_apply]
    unfold memberOf
    rw [role]
    rcases readMembers room streams session with ⟨_ | members, reached⟩ <;> rfl

/-- Every reported stream has a role that can be printed, or there is an error. -/
theorem readMembers_apply (room : VideoRoom) (streams : List Stream) (session : Session) :
    ((∀ stream ∈ streams.filter room.isReported, stream.role.toInteger.isSome) →
      readMembers room streams session =
        (some ((streams.filter room.isReported).map memberOf), session)) ∧
    ((¬ ∀ stream ∈ streams.filter room.isReported, stream.role.toInteger.isSome) →
      readMembers room streams session = (none, session)) := by
  induction streams with
  | nil => exact ⟨fun _ => rfl, fun unsound => absurd (by simp) unsound⟩
  | cons stream streams ih =>
    rw [readMembers_cons, List.filter_cons]
    cases reported : room.isReported stream with
    | false =>
      rw [if_neg (by simp), if_neg (by simp)]
      exact ih
    | true =>
      rw [if_pos rfl, if_pos rfl, List.forall_mem_cons, List.map_cons]
      cases role : stream.role.toInteger with
      | none => exact ⟨fun sound => by simp at sound, fun _ => rfl⟩
      | some number =>
        constructor
        · rintro ⟨-, all⟩
          rw [ih.1 all]
        · intro unsound
          rw [ih.2 fun all => unsound ⟨rfl, all⟩]

theorem role_printed (stream : Stream) {type : LuaValue} (role : stream.role = roleOf type) :
    stream.role.toInteger.isSome ↔ ¬ stream.role.isNil := by
  rw [role]
  unfold roleOf
  repeat' split
  all_goals decide

/-! ### The whole list -/

/-- The streams that the script reports. -/
def VideoRoom.reportedOf (room : VideoRoom) (streams : List Stream) : List Stream :=
  (unpulled room streams).filter room.isReported

/-- The session tells of new members, where there are any. -/
def Session.tellMembers (session : Session) (members : List Member) : Session :=
  if members = [] then session
  else session.enter (.notifies none (.members session.room.roomName members))

theorem unlisted_unlisted (streams : List Stream) {session : Session} (pulled : Pulled session) :
    Unlisted session (session.unlisted streams) (session.unlist (session.unlisted streams)) := by
  obtain ⟨nodup, listed⟩ := pull_entries session
  refine unlist_unlisted _ pulled (fun entry mem => listed entry (List.mem_filter.mp mem).1) ?_
  exact nodup.sublist (List.filter_sublist.map Prod.fst)

/-- Closing parties does not change which of the streams not pulled are reported. -/
theorem reported_behind (streams : List Stream) {session after : Session}
    (unlisted : Unlisted session gone after) :
    (unpulled session.room streams).filter after.room.isReported =
      session.room.reportedOf streams := by
  refine List.filter_congr fun stream mem => ?_
  have free : (stream.streamName.text.bind session.room.pullStreamPartyTable.lookup).isNone = true := by
    have held := (List.mem_filter.mp mem).2
    simp only [decide_eq_true_eq] at held
    exact held.2
  have still : (stream.streamName.text.bind after.room.pullStreamPartyTable.lookup).isNone = true := by
    cases name : stream.streamName.text with
    | none => rfl
    | some streamName =>
      rw [name] at free
      rw [Option.bind_some, unlisted.pulls]
      split
      · rfl
      · exact free
  simp only [VideoRoom.isReported, VideoRoom.isOwn, unlisted.name.2, free, still]

/-- What a list comes to: an error, or the parties closed and the members told. -/
theorem listback_apply (jsonData : LuaValue) {session : Session} (pulled : Pulled session) :
    let read := streamsRead (entriesOf jsonData)
    ((jsonData.get "list").length.isSome → (∀ entry ∈ entriesOf jsonData, Readable entry) →
      (∀ stream ∈ session.room.reportedOf read, stream.role.toInteger.isSome) →
      handleMediaSvcListback jsonData session =
        (some (), (session.unlist (session.unlisted read)).tellMembers
          ((session.room.reportedOf read).map memberOf))) ∧
    (¬ ((jsonData.get "list").length.isSome ∧ (∀ entry ∈ entriesOf jsonData, Readable entry) ∧
      ∀ stream ∈ session.room.reportedOf read, stream.role.toInteger.isSome) →
      (handleMediaSvcListback jsonData session).1 = none) := by
  intro read
  obtain ⟨checks, raises⟩ := checkParties_apply jsonData pulled
  have unlisted := unlisted_unlisted read pulled
  have behind := reported_behind read unlisted
  have members := readMembers_apply (session.unlist (session.unlisted read)).room
    (unpulled session.room read) (session.unlist (session.unlisted read))
  rw [behind] at members
  unfold handleMediaSvcListback
  rw [bind_apply]
  by_cases sound : (jsonData.get "list").length.isSome ∧
      ∀ entry ∈ entriesOf jsonData, Readable entry
  swap
  · refine ⟨fun there all => absurd ⟨there, all⟩ sound, fun _ => ?_⟩
    have none := raises sound
    generalize checkParties jsonData session = result at none
    obtain ⟨ended, reached⟩ := result
    cases none
    rfl
  rw [checks sound.1 sound.2]
  dsimp only
  rw [if_apply]
  by_cases empty : unpulled session.room read = []
  · have silent : session.room.reportedOf read = [] := by
      unfold VideoRoom.reportedOf
      rw [empty]
      rfl
    rw [if_neg (by simpa using empty), silent]
    exact ⟨fun _ _ _ => rfl, fun unsound => absurd ⟨sound.1, sound.2, by simp⟩ unsound⟩
  · rw [if_pos empty]
    unfold reportMembers reportData
    rw [bind_apply, theRoom_apply]
    dsimp only
    rw [bind_apply]
    constructor
    · intro _ _ roles
      rw [members.1 roles]
      dsimp only
      rw [if_apply]
      unfold Session.tellMembers
      by_cases silent : (session.room.reportedOf read).map memberOf = []
      · rw [if_neg (by simpa using silent), if_pos silent]
        rfl
      · rw [if_pos silent, if_neg silent]
        rfl
    · intro unsound
      rw [members.2 fun roles => unsound ⟨sound.1, sound.2, roles⟩]

/-! ### What is read and what is listed -/

theorem mem_unlisted {session : Session} {streams : List Stream} {entry : Text × Nat} :
    entry ∈ session.unlisted streams ↔
      session.room.pullStreamPartyTable.lookup entry.1 = some entry.2 ∧
        named streams entry.1 = false := by
  unfold Session.unlisted
  rw [List.mem_filter]
  refine and_congr ⟨(pull_entries session).2 entry, fun held => ?_⟩ (by simp)
  exact List.mem_map.mpr ⟨⟨entry.1, entry.2⟩, AList.mem_lookup_iff.mp held, rfl⟩

theorem streamsOf_split (entry : LuaValue) (media : List LuaValue) :
    streamsOf entry media = streamsOf entry (media.take 1) ++ streamsOf entry (media.drop 1) := by
  unfold streamsOf
  rw [← List.filter_append, ← List.map_append, List.take_append_drop]

/-- The streams of a list are the first ones and those behind them. -/
theorem listed_perm (jsonData : LuaValue) :
    (firstStreams jsonData ++ laterStreams jsonData).Perm (listedStreams jsonData) := by
  have split : listedStreams jsonData = (entriesOf jsonData).flatMap fun entry =>
      streamsOf entry ((mediaOf entry).take 1) ++ streamsOf entry ((mediaOf entry).drop 1) :=
    List.flatMap_congr fun entry _ => streamsOf_split entry _
  rw [split]
  exact List.flatMap_append_perm ..

theorem mem_listed {jsonData : LuaValue} {stream : Stream} :
    stream ∈ listedStreams jsonData ↔
      stream ∈ firstStreams jsonData ∨ stream ∈ laterStreams jsonData := by
  rw [← (listed_perm jsonData).mem_iff, List.mem_append]

/-- Where nothing is kept of the streams behind the first ones. -/
theorem filter_listed {jsonData : LuaValue} {keep : Stream → Bool}
    (behind : ∀ stream ∈ laterStreams jsonData, keep stream = false) :
    (listedStreams jsonData).filter keep = (firstStreams jsonData).filter keep := by
  unfold listedStreams firstStreams
  rw [List.filter_flatMap, List.filter_flatMap]
  refine List.flatMap_congr fun entry mem => ?_
  rw [streamsOf_split, List.filter_append]
  have none : (streamsOf entry ((mediaOf entry).drop 1)).filter keep = [] := by
    refine List.filter_eq_nil_iff.mpr fun stream there kept => ?_
    have dropped := behind stream (List.mem_flatMap.mpr ⟨entry, mem, there⟩)
    rw [dropped] at kept
    cases kept
  rw [none, List.append_nil]

theorem named_mem {streams : List Stream} {streamName : Text} :
    named streams streamName = true ↔
      ∃ stream ∈ streams, stream.streamName.text = some streamName := by
  simp [named, List.any_eq_true]

/-- What is read of a list names what its first streams name. -/
theorem named_read (jsonData : LuaValue) (streamName : Text) :
    named (streamsRead (entriesOf jsonData)) streamName = named (firstStreams jsonData) streamName := by
  rw [Bool.eq_iff_iff, named_mem, named_mem, firstStreams, ← streamsRead_named]
  constructor
  · rintro ⟨stream, mem, name⟩
    exact ⟨stream, List.mem_filter.mpr ⟨mem, by rw [name]; rfl⟩, name⟩
  · rintro ⟨stream, mem, name⟩
    exact ⟨stream, (List.mem_filter.mp mem).1, name⟩

/-- A stream that is reported has a name, is not pulled and not the own one. -/
theorem mem_reportedOf {room : VideoRoom} {streams : List Stream} {stream : Stream} :
    stream ∈ room.reportedOf streams ↔ stream ∈ streams ∧ stream.streamName.isNil = false ∧
      (stream.streamName.text.bind room.pullStreamPartyTable.lookup).isNone = true ∧
      room.isOwn stream = false := by
  simp only [VideoRoom.reportedOf, unpulled, VideoRoom.isReported, List.mem_filter,
    decide_eq_true_eq, Bool.not_eq_true]
  tauto

theorem membersMessage_injective {room : VideoRoom} {first second : List Member}
    (same : membersMessage room first = membersMessage room second) : first = second := by
  unfold membersMessage at same
  split at same <;> split at same <;> simp_all

/-- What is read has the role that its type gives. -/
theorem role_read {entries : List LuaValue} {stream : Stream} (mem : stream ∈ streamsRead entries) :
    stream.role.toInteger.isSome ↔ ¬ stream.role.isNil := by
  obtain ⟨entry, -, rfl⟩ := List.mem_map.mp mem
  exact role_printed _ rfl

@[simp] theorem tellMembers_parties (session : Session) (members : List Member) :
    (session.tellMembers members).parties = session.parties := by
  unfold Session.tellMembers
  split <;> rfl

@[simp] theorem tellMembers_room (session : Session) (members : List Member) :
    (session.tellMembers members).room = session.room := by
  unfold Session.tellMembers
  split <;> rfl

@[simp] theorem tellMembers_handlePartyTable (session : Session) (members : List Member) :
    (session.tellMembers members).handlePartyTable = session.handlePartyTable := by
  unfold Session.tellMembers
  split <;> rfl

theorem tellMembers_history (session : Session) (members : List Member) :
    (session.tellMembers members).history = session.history ++ membersMessage session.room members := by
  unfold Session.tellMembers membersMessage
  split <;> simp

theorem membersMessage_room {room other : VideoRoom} (same : room.roomName = other.roomName)
    (members : List Member) : membersMessage room members = membersMessage other members := by
  unfold membersMessage
  rw [same]

/-! ### The lists that are reconciled -/

/-- A list that has been reconciled, seen through what the script did. -/
structure Matched (session : Session) (jsonData : LuaValue) : Prop where
  closed : session.unlisted (streamsRead (entriesOf jsonData)) =
    session.unlisted (listedStreams jsonData)
  named : ∀ streamName, (session.room.pullStreamPartyTable.lookup streamName).isSome →
    VideoRoom.named (listedStreams jsonData) streamName →
      VideoRoom.named (firstStreams jsonData) streamName
  members : (session.room.reportedOf (streamsRead (entriesOf jsonData))).map memberOf =
    ((listedStreams jsonData).filter session.room.isNew).map memberOf

/-- Of the pulled streams, those are closed that come first nowhere. -/
theorem closed_of_named {session : Session} {jsonData : LuaValue}
    (firsts : ∀ streamName, (session.room.pullStreamPartyTable.lookup streamName).isSome →
      named (listedStreams jsonData) streamName → named (firstStreams jsonData) streamName) :
    session.unlisted (streamsRead (entriesOf jsonData)) = session.unlisted (listedStreams jsonData) := by
  refine List.filter_congr fun entry mem => ?_
  have held := (pull_entries session).2 entry mem
  have same : named (firstStreams jsonData) entry.1 = named (listedStreams jsonData) entry.1 := by
    rw [Bool.eq_iff_iff]
    refine ⟨fun first => ?_, firsts entry.1 (by rw [held]; rfl)⟩
    obtain ⟨stream, mem, name⟩ := named_mem.mp first
    exact named_mem.mpr ⟨stream, mem_listed.mpr (.inl mem), name⟩
  rw [named_read, same]

/-- Whether a name is among those of the closed parties. -/
theorem closed_name {session : Session} {streams : List Stream} (streamName : Text) :
    (if streamName ∈ (session.unlisted streams).map Prod.fst then none
      else session.room.pullStreamPartyTable.lookup streamName) =
      if named streams streamName then session.room.pullStreamPartyTable.lookup streamName
      else none := by
  by_cases gone : streamName ∈ (session.unlisted streams).map Prod.fst
  · obtain ⟨entry, mem, rfl⟩ := List.mem_map.mp gone
    rw [if_pos gone, (mem_unlisted.mp mem).2, if_neg (by simp)]
  · rw [if_neg gone]
    split
    · rfl
    · rename_i unnamed
      cases held : session.room.pullStreamPartyTable.lookup streamName with
      | none => rfl
      | some party =>
        have mem : (streamName, party) ∈ session.unlisted streams :=
          mem_unlisted.mpr ⟨held, by simpa using unnamed⟩
        exact absurd (List.mem_map_of_mem mem) gone

theorem not_nil_of_text {value : LuaValue} (named : value.text.isSome) : value.isNil = false := by
  cases value with
  | nil => cases named
  | _ => rfl

/-- Where names are texts and the own name is that of a pushed stream, the new ones among the
first streams are reported. -/
theorem reported_regular {room : VideoRoom} {jsonData : LuaValue}
    (texts : ∀ entry ∈ entriesOf jsonData, ((firstMedium entry).get "streamname").isNil ∨
      ((firstMedium entry).get "streamname").text.isSome)
    (own : ∀ stream ∈ firstStreams jsonData,
      (stream.streamName.text.bind room.pullStreamPartyTable.lookup).isNone →
        (room.isOwn stream ↔ (stream.streamName.text.bind room.pushStreamPartyTable.lookup).isSome)) :
    room.reportedOf (streamsRead (entriesOf jsonData)) = (firstStreams jsonData).filter room.isNew := by
  rw [firstStreams, ← streamsRead_named] at own ⊢
  unfold VideoRoom.reportedOf unpulled
  rw [List.filter_filter, List.filter_filter]
  refine List.filter_congr fun stream mem => ?_
  rw [Bool.eq_iff_iff]
  have text : stream.streamName.isNil = true ∨ stream.streamName.text.isSome := by
    obtain ⟨entry, there, rfl⟩ := List.mem_map.mp mem
    exact texts entry (List.mem_filter.mp there).1
  rcases text with none | text
  · have unnamed : stream.streamName.text = Option.none := by
      cases held : stream.streamName <;> simp_all [LuaValue.text, LuaValue.isNil]
    simp [none, unnamed]
  · have asked := own stream (List.mem_filter.mpr ⟨mem, text⟩)
    have there := not_nil_of_text text
    simp only [VideoRoom.isReported, VideoRoom.isNew, Bool.and_eq_true, decide_eq_true_eq]
    rw [there, text]
    cases free : (stream.streamName.text.bind room.pullStreamPartyTable.lookup).isNone with
    | false => simp
    | true =>
      have same := asked free
      revert same
      generalize stream.streamName.text.bind room.pushStreamPartyTable.lookup = pushed
      cases room.isOwn stream <;> cases pushed <;> simp

section
variable {session after : Session} {jsonData : LuaValue} {ended : Option Unit}
  (pulled : Pulled session) (ran : handleMediaSvcListback jsonData session = (ended, after))
include pulled ran

/-- Without an error the list is read and the members have their roles. -/
theorem listback_ran (ends : ended = some ()) :
    (jsonData.get "list").length.isSome ∧ (∀ entry ∈ entriesOf jsonData, Readable entry) ∧
      (∀ stream ∈ session.room.reportedOf (streamsRead (entriesOf jsonData)),
        stream.role.toInteger.isSome) ∧
      after = (session.unlist (session.unlisted (streamsRead (entriesOf jsonData)))).tellMembers
        ((session.room.reportedOf (streamsRead (entriesOf jsonData))).map memberOf) := by
  obtain ⟨does, raises⟩ := listback_apply jsonData pulled
  by_cases sound : (jsonData.get "list").length.isSome ∧
      (∀ entry ∈ entriesOf jsonData, Readable entry) ∧
      ∀ stream ∈ session.room.reportedOf (streamsRead (entriesOf jsonData)),
        stream.role.toInteger.isSome
  · have result := ran.symm.trans (does sound.1 sound.2.1 sound.2.2)
    exact ⟨sound.1, sound.2.1, sound.2.2, congrArg Prod.snd result⟩
  · have none := raises sound
    rw [ran, ends] at none
    cases none

theorem matched_of_reconciled (reconciled : Reconciled session jsonData ended after) :
    Matched session jsonData := by
  obtain ⟨-, -, -, rfl⟩ := listback_ran pulled ran reconciled.ends
  have unlisted := unlisted_unlisted (streamsRead (entriesOf jsonData)) pulled
  have firsts : ∀ streamName, (session.room.pullStreamPartyTable.lookup streamName).isSome →
      named (listedStreams jsonData) streamName → named (firstStreams jsonData) streamName := by
    intro streamName there listed
    have kept := reconciled.pulls streamName
    rw [tellMembers_room, unlisted.pulls, closed_name, named_read, if_pos listed] at kept
    cases first : named (firstStreams jsonData) streamName with
    | true => rfl
    | false =>
      rw [first, if_neg (by simp)] at kept
      rw [← kept] at there
      cases there
  have closed := closed_of_named firsts
  refine ⟨closed, firsts, ?_⟩
  have told := reconciled.told
  rw [tellMembers_history, unlisted.history, membersMessage_room unlisted.name.1, closed] at told
  exact membersMessage_injective (List.append_cancel_left told)

theorem regular_of_reconciled (reconciled : Reconciled session jsonData ended after) :
    Regular session jsonData := by
  have matched := matched_of_reconciled pulled ran reconciled
  obtain ⟨there, readable, roles, rfl⟩ := listback_ran pulled ran reconciled.ends
  have unlisted := unlisted_unlisted (streamsRead (entriesOf jsonData)) pulled
  -- A name that is reported is that of a new stream, and the other way round.
  have reports : ∀ stream ∈ session.room.reportedOf (streamsRead (entriesOf jsonData)),
      ∃ other ∈ listedStreams jsonData, session.room.isNew other = true ∧
        other.streamName.text.isSome ∧ other.streamName = stream.streamName := by
    intro stream mem
    have reported := List.mem_map_of_mem (f := memberOf) mem
    rw [matched.members] at reported
    obtain ⟨other, mem, same⟩ := List.mem_map.mp reported
    obtain ⟨listed, fresh⟩ := List.mem_filter.mp mem
    obtain ⟨entry, -, ofEntry⟩ := List.mem_flatMap.mp listed
    exact ⟨other, listed, fresh, (List.mem_filter.mp ofEntry).2, congrArg Member.streamName same⟩
  have reported : ∀ stream ∈ listedStreams jsonData, session.room.isNew stream = true →
      ∃ other ∈ session.room.reportedOf (streamsRead (entriesOf jsonData)),
        other.streamName = stream.streamName := by
    intro stream listed fresh
    have mem := List.mem_map_of_mem (f := memberOf) (List.mem_filter.mpr ⟨listed, fresh⟩)
    rw [← matched.members] at mem
    obtain ⟨other, mem, same⟩ := List.mem_map.mp mem
    exact ⟨other, mem, congrArg Member.streamName same⟩
  have foreign : ∀ stream ∈ listedStreams jsonData, session.room.isNew stream = true →
      session.room.isOwn stream = false := by
    intro stream listed fresh
    obtain ⟨other, mem, same⟩ := reported stream listed fresh
    have away := (mem_reportedOf.mp mem).2.2.2
    unfold VideoRoom.isOwn at away ⊢
    rwa [← same]
  have read : ∀ stream ∈ firstStreams jsonData,
      stream ∈ streamsRead (entriesOf jsonData) ∧ stream.streamName.text.isSome := by
    intro stream mem
    rw [firstStreams, ← streamsRead_named] at mem
    exact List.mem_filter.mp mem
  have isReported : ∀ stream ∈ firstStreams jsonData,
      (stream.streamName.text.bind session.room.pullStreamPartyTable.lookup).isNone = true →
      session.room.isOwn stream = false →
      stream ∈ session.room.reportedOf (streamsRead (entriesOf jsonData)) := by
    intro stream mem free away
    refine mem_reportedOf.mpr ⟨(read stream mem).1, ?_, free, away⟩
    obtain ⟨name, text⟩ := Option.isSome_iff_exists.mp (read stream mem).2
    cases held : stream.streamName <;> simp_all [LuaValue.text, LuaValue.isNil]
  have texts : ∀ entry ∈ entriesOf jsonData, ((firstMedium entry).get "streamname").isNil ∨
      ((firstMedium entry).get "streamname").text.isSome := by
    intro entry mem
    by_cases none : ((firstMedium entry).get "streamname").isNil = true
    · exact .inl none
    · right
      by_contra text
      have there : entry.isNil = false := by
        cases entry <;> simp_all [LuaValue.isNil, LuaValue.get, LuaValue.field, firstMedium, mediaOf]
      have unnamed : (streamFrom entry (firstMedium entry)).streamName.text = Option.none := by
        simpa [streamFrom] using text
      have named : (streamFrom entry (firstMedium entry)).streamName.isNil = false := by
        simpa [streamFrom] using none
      have mem : streamFrom entry (firstMedium entry) ∈
          session.room.reportedOf (streamsRead (entriesOf jsonData)) := by
        refine mem_reportedOf.mpr ⟨?_, named, by rw [unnamed]; rfl, ?_⟩
        · exact List.mem_map_of_mem (List.mem_filter.mpr ⟨mem, by simpa using there⟩)
        · unfold VideoRoom.isOwn
          rw [unnamed]
          cases session.room.streamNameDisplay <;> rfl
      obtain ⟨other, -, -, named, same⟩ := reports _ mem
      rw [same, unnamed] at named
      cases named
  have own : ∀ stream ∈ firstStreams jsonData,
      (stream.streamName.text.bind session.room.pullStreamPartyTable.lookup).isNone →
        (session.room.isOwn stream ↔
          (stream.streamName.text.bind session.room.pushStreamPartyTable.lookup).isSome) := by
    intro stream mem free
    cases pushed : (stream.streamName.text.bind session.room.pushStreamPartyTable.lookup).isSome with
    | false =>
      have fresh : session.room.isNew stream = true := by
        unfold VideoRoom.isNew
        rw [free, ← Option.not_isSome, pushed]
        rfl
      simp [foreign stream (mem_listed.mpr (.inl mem)) fresh]
    | true =>
      refine ⟨fun _ => rfl, fun _ => ?_⟩
      by_contra away
      obtain ⟨other, -, fresh, -, same⟩ := reports stream
        (isReported stream mem free (by simpa using away))
      unfold VideoRoom.isNew at fresh
      rw [same, free, ← Option.not_isSome, pushed] at fresh
      cases fresh
  have news := reported_regular texts own
  constructor
  case list => exact there
  case readable => exact readable
  case named => exact texts
  case own => exact own
  case new =>
    intro stream mem fresh
    have listed := mem_listed.mpr (.inl mem)
    obtain ⟨uid, nickName⟩ := reconciled.given stream (List.mem_filter.mpr ⟨listed, fresh⟩)
    have free : (stream.streamName.text.bind session.room.pullStreamPartyTable.lookup).isNone = true := by
      unfold VideoRoom.isNew at fresh
      simp only [Bool.and_eq_true] at fresh
      exact fresh.1
    have role := roles stream (isReported stream mem free (foreign stream listed fresh))
    exact ⟨uid, nickName, (role_read (read stream mem).1).mp role⟩
  case later =>
    have lengths := congrArg List.length matched.members
    have perm := ((listed_perm jsonData).filter session.room.isNew).length_eq
    rw [List.filter_append, List.length_append] at perm
    rw [List.length_map, List.length_map, news, ← perm] at lengths
    have none : (laterStreams jsonData).filter session.room.isNew = [] :=
      List.eq_nil_of_length_eq_zero (by omega)
    intro stream mem
    refine ⟨by simpa using List.filter_eq_nil_iff.mp none stream mem, fun streamName name held => ?_⟩
    exact matched.named streamName held (named_mem.mpr ⟨stream, mem_listed.mpr (.inr mem), name⟩)
  case handles =>
    intro entry mem key party filed same
    by_cases nil : (session.parties entry.2).handle.isNil = true
    · exact .inl nil
    · right
      by_contra stays
      have kept := (reconciled.others party stays).2 key filed
      rw [tellMembers_handlePartyTable, unlisted.handles,
        if_pos ⟨entry, matched.closed ▸ mem, same, nil⟩] at kept
      cases kept

end

theorem reconciled_of_regular {session : Session} {jsonData : LuaValue} (pulled : Pulled session)
    (regular : Regular session jsonData) :
    Reconciled session jsonData (handleMediaSvcListback jsonData session).1
      (handleMediaSvcListback jsonData session).2 := by
  have news := reported_regular regular.named regular.own
  have members : (listedStreams jsonData).filter session.room.isNew =
      (firstStreams jsonData).filter session.room.isNew :=
    filter_listed fun stream mem => (regular.later stream mem).1
  have closed : session.unlisted (streamsRead (entriesOf jsonData)) =
      session.unlisted (listedStreams jsonData) := by
    refine closed_of_named fun streamName held listed => ?_
    obtain ⟨stream, mem, name⟩ := named_mem.mp listed
    rcases mem_listed.mp mem with first | later
    · exact named_mem.mpr ⟨stream, first, name⟩
    · exact (regular.later stream later).2 streamName name held
  have unlisted := unlisted_unlisted (streamsRead (entriesOf jsonData)) pulled
  have fresh : ∀ stream ∈ (firstStreams jsonData).filter session.room.isNew,
      stream.uid.text.isSome ∧ (stream.nickName.isNil ∨ stream.nickName.text.isSome) ∧
        ¬ stream.role.isNil := by
    intro stream mem
    obtain ⟨mem, fresh⟩ := List.mem_filter.mp mem
    exact regular.new stream mem fresh
  have roles : ∀ stream ∈ session.room.reportedOf (streamsRead (entriesOf jsonData)),
      stream.role.toInteger.isSome := by
    intro stream mem
    exact (role_read (mem_reportedOf.mp mem).1).mpr (fresh stream (news ▸ mem)).2.2
  rw [(listback_apply jsonData pulled).1 regular.list regular.readable roles]
  rw [closed] at unlisted ⊢
  constructor
  case ends => rfl
  case closed =>
    intro entry mem
    rw [tellMembers_parties, unlisted.closed entry mem]
  case pulls =>
    intro streamName
    rw [tellMembers_room, unlisted.pulls, closed_name]
  case pushes => rw [tellMembers_room, unlisted.pushes]
  case others =>
    intro party stays
    rw [tellMembers_parties, tellMembers_handlePartyTable]
    refine ⟨unlisted.parties party stays, fun key filed => ?_⟩
    rw [unlisted.handles, if_neg, filed]
    rintro ⟨entry, mem, same, nil⟩
    exact (regular.handles entry mem key party filed same).elim nil stays
  case told =>
    rw [tellMembers_history, unlisted.history, membersMessage_room unlisted.name.1, news, members]
  case given =>
    intro stream mem
    have given := fresh stream (members ▸ mem)
    exact ⟨given.1, given.2.1⟩

/-! ### Every state that is reached -/

namespace Pulled

theorem aside (pulled : Pulled before) (aside : Aside before after) : Pulled after :=
  pulled.turn (aside.turn 0)

theorem leaves {choice : Party → Int → Prop} {table : VideoRoom → AList fun _ : Text => Nat}
    (pulled : Pulled before) (leaves : Leaves table choice before after) : Pulled after := by
  induction leaves with
  | done => exact pulled
  | leaves listed chosen rest ih => exact ih (pulled.turn (shut_turn ..))

theorem made (pulled : Pulled session) (party : Party)
    (held : session.room.pullStreamPartyTable.lookup streamName = some other) :
    other < (session.make party).made ∧ ((session.make party).parties other).type = .remoteParty ∧
      ((session.make party).parties other).streamNameDisplay = streamName := by
  obtain ⟨small, type, name⟩ := pulled _ _ held
  have same : (session.make party).parties other = session.parties other :=
    if_neg (Nat.ne_of_lt small)
  rw [same]
  exact ⟨Nat.lt_succ_of_lt small, type, name⟩

theorem makePull (pulled : Pulled session) (newborn : Newborn .remoteParty streamName party) :
    Pulled ((session.make party).updateRoom (·.addPull streamName session.made)) := by
  intro name other held
  rcases lookup_of_insert held with old | ⟨rfl, rfl⟩
  · exact pulled.made party old
  · have own : (session.make party).parties session.made = party := if_pos rfl
    refine ⟨Nat.lt_succ_self _, ?_, ?_⟩
    · exact (congrArg Party.type own).trans newborn.type
    · exact (congrArg Party.streamNameDisplay own).trans newborn.streamName

theorem makePush (pulled : Pulled session) (party : Party) (streamName : Text) (number : Nat) :
    Pulled ((session.make party).updateRoom (·.addPush streamName number)) :=
  fun _ _ held => pulled.made party held

end Pulled

theorem course_pulled {session : Session} {happening : Happening} (pulled : Pulled session)
    (course : Course session happening after) : Pulled after := by
  cases course with
  | aside aside => exact pulled.aside aside
  | getsOn _ _ drifts aside => exact (pulled.turn drifts.turn).aside aside
  | refuses _ _ _ drifts _ aside =>
    exact ((pulled.turn drifts.turn).turn (fail_turn ..)).aside aside
  | iceFails => exact pulled.turn (fail_turn ..)
  | halfReady => exact pulled.turn (readied_turn ..)
  | @welcome party channel =>
    have readied := pulled.turn (readied_turn session party channel)
    exact readied.turn ((notify_turn _ party _).trans (update_turn _ party (fun _ => rfl) fun _ => rfl))
  | @announce party channel middle all _ _ _ _ aside =>
    have readied := pulled.turn (readied_turn session party channel)
    have announced := (readied.turn (announce_turn _ party)).aside aside
    exact announced.turn (update_turn middle party (fun _ => rfl) fun _ => rfl)
  | detaches => exact pulled.turn (shut_turn ..)
  | leaves _ _ _ aside pushes pulls => exact ((pulled.aside aside).leaves pushes).leaves pulls
  | unlists _ aside pulls behind => exact ((pulled.aside aside).leaves pulls).aside behind
  | abandonsLeaving _ _ _ aside => exact (pulled.aside aside).turn (abandon_turn ..)
  | abandons => exact pulled.turn (abandon_turn ..)
  | joins _ _ aside newborn drifts ends =>
    have made := ((pulled.aside aside).makePush _ _ _).turn drifts.turn
    rcases ends with behind | ⟨_, ec, _, behind⟩
    · exact made.aside behind
    · exact (made.turn (fail_turn ..)).aside behind
  | connects _ _ newborn drifts ends =>
    have made := (pulled.makePull newborn).turn drifts.turn
    rcases ends with behind | ⟨_, _, rfl⟩
    · exact made.aside behind
    · exact made.turn (fail_turn ..)

theorem step_pulled (pulled : Pulled session) (taken : step session request = some (ended, after)) :
    Pulled after := by
  have start : Pulled { session with calls := request.calls } := pulled
  exact course_pulled start (step_course taken)

/-- In every state the script reaches, exactly the regular lists are reconciled. -/
theorem list_reconciled_iff (ran : Runs.run step {} requests = some (replies, session))
    (jsonData : LuaValue) :
    Reconciled session jsonData (handleMediaSvcListback jsonData session).1
      (handleMediaSvcListback jsonData session).2 ↔ Regular session jsonData := by
  have pulled : Pulled session :=
    Runs.run_preserves Pulled (fun _ _ _ _ pulled taken => step_pulled pulled taken)
      (fun _ _ held => by cases held) ran
  exact ⟨regular_of_reconciled pulled rfl, reconciled_of_regular pulled⟩

/-- Two streams of a room are pulled. -/
def twoPulled : List Request := ["camera", "desk"].map fun streamName => { happening := .connectStream {
  roomName := some "room".toList, streamName := some streamName.toList, uid := some "7".toList } }

/-- An entry with one stream. -/
def listedEntry (uid streamName : String) : LuaValue := .object [
  ("uid".toList, .string uid.toList), ("type".toList, .string "stu".toList),
  ("outinfo".toList, .object [("name".toList, .string "guest".toList)]),
  ("media".toList, .array [.object [("streamname".toList, .string streamName.toList),
    ("type".toList, .string "video".toList)]])]

def listedStream (uid streamName : String) : Stream where
  uid := .string uid.toList
  nickName := .string "guest".toList
  role := .integer eVideoRoomRole_Party
  streamName := .string streamName.toList
  mediaType := .string "video".toList

/-- One of the two streams and a third. -/
def cameraListed : LuaValue := .object [
  ("list".toList, .array [listedEntry "7" "camera", listedEntry "8" "screen"])]

theorem camera_listed_regular : ∃ result, Runs.run step {} twoPulled = some result ∧
    result.2.unlisted (listedStreams cameraListed) = [("desk".toList, 1)] ∧
    ((listedStreams cameraListed).filter result.2.room.isNew).map (·.uid) = [.string "8".toList] ∧
    Regular result.2 cameraListed := by
  have listed : entriesOf cameraListed = [listedEntry "7" "camera", listedEntry "8" "screen"] := rfl
  have streams : firstStreams cameraListed = [listedStream "7" "camera", listedStream "8" "screen"] := rfl
  refine ⟨_, rfl, rfl, rfl, ?_⟩
  constructor
  case list => rfl
  case readable =>
    rintro entry mem
    simp only [listed, List.mem_cons, List.not_mem_nil, or_false] at mem
    rcases mem with rfl | rfl <;> exact .inr ⟨rfl, .inr rfl, .inr rfl, .inr rfl⟩
  case named =>
    rintro entry mem
    simp only [listed, List.mem_cons, List.not_mem_nil, or_false] at mem
    rcases mem with rfl | rfl <;> exact .inr rfl
  case new =>
    rintro stream mem new
    simp only [streams, List.mem_cons, List.not_mem_nil, or_false] at mem
    rcases mem with rfl | rfl <;> exact ⟨rfl, .inr rfl, by rintro ⟨⟩⟩
  case own =>
    rintro stream mem aside
    simp only [streams, List.mem_cons, List.not_mem_nil, or_false] at mem
    rcases mem with rfl | rfl <;> decide
  case later =>
    rintro stream mem
    cases mem
  case handles =>
    rintro entry mem key party filed
    cases filed

/-- The stream that is not listed is closed, and the new one reported. -/
theorem camera_listed_reconciled : ∃ replies session,
    Runs.run step {} twoPulled = some (replies, session) ∧
    session.unlisted (listedStreams cameraListed) = [("desk".toList, 1)] ∧
    ((listedStreams cameraListed).filter session.room.isNew).map (·.uid) = [.string "8".toList] ∧
    Reconciled session cameraListed (handleMediaSvcListback cameraListed session).1
      (handleMediaSvcListback cameraListed session).2 := by
  obtain ⟨⟨replies, session⟩, ran, unlisted, new, regular⟩ := camera_listed_regular
  exact ⟨replies, session, ran, unlisted, new, (list_reconciled_iff ran cameraListed).mpr regular⟩

/-- A message without a list ends in an error. -/
theorem no_list_unreconciled :
    ¬ ∀ (requests : List Request) (replies : List Bool) (session : Session)
      (jsonData : LuaValue), Runs.run step {} requests = some (replies, session) →
      Reconciled session jsonData (handleMediaSvcListback jsonData session).1
        (handleMediaSvcListback jsonData session).2 := by
  intro all
  have ends := (all [] [] {} (.object []) rfl).ends
  cases ends

end BeeSdk.Signalling
