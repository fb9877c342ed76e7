import BeeSdk.ListReconciled

/-! The lists that are reconciled are the regular ones: what the script reads of an entry, what
closing the unlisted parties leaves of the session, and what is reported of the others. -/
namespace BeeSdk.Signalling
open HttpHeader (Text)
open Script VideoRoom

/-! ### Reading -/

theorem item_one {media : LuaValue} (indexable : media.indexable = true) :
    media.item 1 = some ((match media with
      | .array items => items
      | _ => [])[0]?.getD .nil) := by
  cases media <;> simp_all [LuaValue.indexable, LuaValue.item]

theorem fieldIfAny_apply (value : LuaValue) (key : String) (session : Session)
    (sound : value.isNil ∨ value.indexable) :
    fieldIfAny value key session = (some (value.get key), session) := by
  unfold fieldIfAny
  rw [if_apply]
  split
  · cases value <;> simp_all [LuaValue.isNil, LuaValue.get, LuaValue.field]
  · rename_i there
    rw [field_apply, LuaValue.field_of_indexable (sound.resolve_left there)]

theorem fieldIfAny_raises (value : LuaValue) (key : String) (session : Session)
    (unsound : ¬ (value.isNil ∨ value.indexable)) :
    fieldIfAny value key session = (none, session) := by
  simp only [not_or, Bool.not_eq_true] at unsound
  unfold fieldIfAny
  rw [if_apply, if_neg (by simp [unsound.1]), field_apply,
    LuaValue.field_of_not_indexable unsound.2]

/-- What is read of an entry behind the fields of its own. -/
def readBehind (entry : LuaValue) : Lua VideoRoom.Stream := do
  let nickName ← fieldIfAny (entry.get "outinfo") "name"
  let media ← itemIfAny (entry.get "media") 1
  let streamName ← fieldIfAny media "streamname"
  let mediaType ← if streamName.isNil then pure .nil else field media "type"
  return {
    uid := entry.get "uid"
    nickName := nickName
    role := roleOf (entry.get "type")
    streamName := streamName
    mediaType := mediaType }

theorem readStream_apply (entry : LuaValue) (session : Session) (there : entry.isNil = false) :
    (Readable entry → readStream entry session =
      (some (streamFrom entry (firstMedium entry)), session)) ∧
    (¬ Readable entry → readStream entry session = (none, session)) := by
  by_cases indexable : entry.indexable = true
  swap
  · have closed : entry.indexable = false := by simpa using indexable
    have unread : readStream entry session = (none, session) := by
      simp [readStream, LuaValue.field_of_not_indexable closed]
    exact ⟨fun readable => by simp [Readable, there, closed] at readable, fun _ => unread⟩
  have fields := LuaValue.field_of_indexable indexable
  have start : readStream entry session = readBehind entry session := by
    simp [readStream, readBehind, fields]
  rw [start]
  unfold readBehind
  by_cases outinfo : (entry.get "outinfo").isNil ∨ (entry.get "outinfo").indexable
  swap
  · refine ⟨fun readable => ?_, fun _ => ?_⟩
    · rcases readable with none | ⟨_, sound, _⟩
      · simp [there] at none
      · exact absurd sound outinfo
    · rw [bind_apply, fieldIfAny_raises _ _ _ outinfo]
  rw [bind_apply, fieldIfAny_apply _ _ _ outinfo]
  dsimp only
  by_cases media : (entry.get "media").isNil ∨ (entry.get "media").indexable
  swap
  · refine ⟨fun readable => ?_, fun _ => ?_⟩
    · rcases readable with none | ⟨_, _, sound, _⟩
      · simp [there] at none
      · exact absurd sound media
    · have unsound : itemIfAny (entry.get "media") 1 session = (none, session) := by
        simp only [not_or, Bool.not_eq_true] at media
        unfold itemIfAny
        rw [if_apply, if_neg (by simp [media.1]), ofOption_apply]
        cases held : entry.get "media" <;> simp_all [LuaValue.indexable, LuaValue.item]
      rw [bind_apply, unsound]
  have taken : itemIfAny (entry.get "media") 1 session = (some (firstMedium entry), session) := by
    unfold itemIfAny
    rw [if_apply]
    split
    · rename_i none
      cases held : entry.get "media" <;> simp_all [LuaValue.isNil, firstMedium, mediaOf]
    · rename_i there
      rw [ofOption_apply, item_one (media.resolve_left there)]
      rfl
  rw [bind_apply, taken]
  dsimp only
  by_cases first : (firstMedium entry).isNil ∨ (firstMedium entry).indexable
  swap
  · refine ⟨fun readable => ?_, fun _ => ?_⟩
    · rcases readable with none | ⟨_, _, _, sound⟩
      · simp [there] at none
      · exact absurd sound first
    · rw [bind_apply, fieldIfAny_raises _ _ _ first]
  rw [bind_apply, fieldIfAny_apply _ _ _ first]
  dsimp only
  refine ⟨fun _ => ?_, fun unread => absurd (.inr ⟨indexable, outinfo, media, first⟩) unread⟩
  rw [if_apply]
  split
  · rename_i none
    simp [streamFrom, none]
  · rename_i named
    have there : (firstMedium entry).indexable = true := by
      refine first.resolve_left fun none => named ?_
      cases held : firstMedium entry <;> simp_all [LuaValue.isNil, LuaValue.get, LuaValue.field]
    simp [LuaValue.field_of_indexable there, streamFrom, named]

/-- What is read of the entries that are not nil. -/
def streamsRead (entries : List LuaValue) : List VideoRoom.Stream :=
  (entries.filter fun entry => ¬ entry.isNil).map fun entry =>
    streamFrom entry (firstMedium entry)

theorem readStreams_apply (entries : List LuaValue) (session : Session) :
    ((∀ entry ∈ entries, Readable entry) →
      readStreams entries session = (some (streamsRead entries), session)) ∧
    ((¬ ∀ entry ∈ entries, Readable entry) → readStreams entries session = (none, session)) := by
  induction entries with
  | nil => exact ⟨fun _ => rfl, fun unread => absurd (by simp) unread⟩
  | cons entry entries ih =>
    rw [List.forall_mem_cons]
    unfold readStreams
    rw [if_apply]
    cases there : entry.isNil with
    | true =>
      have readable : Readable entry := .inl there
      have same : streamsRead (entry :: entries) = streamsRead entries := by
        simp [streamsRead, there]
      rw [if_pos rfl, same]
      exact ⟨fun all => ih.1 all.2, fun unread => ih.2 fun all => unread ⟨readable, all⟩⟩
    | false =>
      obtain ⟨reads, raises⟩ := readStream_apply entry session there
      have more : streamsRead (entry :: entries) =
          streamFrom entry (firstMedium entry) :: streamsRead entries := by
        simp [streamsRead, there]
      rw [if_neg (by simp), bind_apply, more]
      constructor
      · rintro ⟨readable, all⟩
        rw [reads readable]
        dsimp only
        rw [bind_apply, ih.1 all]
        rfl
      · intro unread
        by_cases readable : Readable entry
        · rw [reads readable]
          dsimp only
          rw [bind_apply, ih.2 fun all => unread ⟨readable, all⟩]
        · rw [raises readable]

/-- Of what is read, the streams with a name are those that come first. -/
theorem streamsRead_named (entries : List LuaValue) :
    (streamsRead entries).filter (fun stream => stream.streamName.text.isSome) =
      entries.flatMap fun entry => streamsOf entry ((mediaOf entry).take 1) := by
  induction entries with
  | nil => rfl
  | cons entry entries ih =>
    rw [List.flatMap_cons, ← ih]
    cases there : entry.isNil with
    | true =>
      have none : mediaOf entry = [] := by
        cases entry <;> simp_all [LuaValue.isNil, mediaOf, LuaValue.get, LuaValue.field]
      simp [streamsRead, there, none, streamsOf]
    | false =>
      have more : streamsRead (entry :: entries) =
          streamFrom entry (firstMedium entry) :: streamsRead entries := by
        simp [streamsRead, there]
      rw [more]
      cases media : mediaOf entry with
      | nil =>
        have unnamed : (streamFrom entry (firstMedium entry)).streamName.text = none := by
          simp [streamFrom, firstMedium, media, LuaValue.get, LuaValue.field, LuaValue.text]
        simp [unnamed, streamsOf]
      | cons medium rest =>
        have first : firstMedium entry = medium := by simp [firstMedium, media]
        simp only [streamsOf, first, List.take_succ_cons, List.take_zero, List.map_cons,
          List.map_nil, List.filter_cons, List.filter_nil]
        split <;> simp

/-! ### Closing what is not listed -/

/-- Every pulled party is a remote one under its own name. -/
def Pulled (session : Session) : Prop :=
  ∀ streamName party, session.room.pullStreamPartyTable.lookup streamName = some party →
    party < session.made ∧ (session.parties party).type = .remoteParty ∧
      (session.parties party).streamNameDisplay = streamName

/-- The parties are closed one after the other. -/
def Session.unlist (session : Session) : List (Text × Nat) → Session
  | [] => session
  | entry :: gone =>
    (session.shut entry.2 (unlistedReason (session.parties entry.2))).unlist gone

/-- What closing pulled parties leaves of the session. -/
structure Unlisted (before : Session) (gone : List (Text × Nat)) (after : Session) : Prop where
  closed : ∀ entry ∈ gone, after.parties entry.2 = (before.parties entry.2).closeConns.finish
  parties : ∀ party, party ∉ gone.map Prod.snd → after.parties party = before.parties party
  pulls : ∀ streamName, after.room.pullStreamPartyTable.lookup streamName =
    if streamName ∈ gone.map Prod.fst then none
    else before.room.pullStreamPartyTable.lookup streamName
  pushes : after.room.pushStreamPartyTable = before.room.pushStreamPartyTable
  name : after.room.roomName = before.room.roomName ∧
    after.room.streamNameDisplay = before.room.streamNameDisplay
  history : after.history = before.history ++ before.closings gone
  handles : ∀ key, after.handlePartyTable key =
    if ∃ entry ∈ gone, key.rawEqual (before.parties entry.2).handle ∧
      ¬ (before.parties entry.2).handle.isNil then none
    else before.handlePartyTable key

theorem shut_handlePartyTable (session : Session) (party : Nat) (ec : Int) (key : LuaValue) :
    (session.shut party ec).handlePartyTable key =
      if key.rawEqual (session.parties party).handle ∧ ¬ (session.parties party).handle.isNil then
        none
      else session.handlePartyTable key := by
  simp [Session.shut, Session.unfile, Session.forgetHandle, Session.enter, Session.updateParty,
    Session.updateRoom, Party.closeConns]

theorem shut_others (session : Session) {party other : Nat} (apart : other ≠ party) (ec : Int) :
    (session.shut party ec).parties other = session.parties other := by
  simp [Session.shut, Session.unfile, Session.forgetHandle, Session.enter, Session.updateParty,
    Session.updateRoom, apart]

theorem Pulled.turn (pulled : Pulled before) (turn : Turn party before after) : Pulled after := by
  intro streamName other held
  obtain ⟨small, type, name⟩ := pulled streamName other (turn.pulls _ _ held)
  by_cases same : other = party
  · rw [same] at small type name ⊢
    exact ⟨turn.made ▸ small, turn.type.trans type, turn.streamName.trans name⟩
  · have look := turn.look other same
    exact ⟨turn.made ▸ small, (congrArg Look.type look).trans type,
      (congrArg Look.streamNameDisplay look).trans name⟩

section
variable {before : Session} (pulled : Pulled before) {streamName : Text} {party : Nat}
  (held : before.room.pullStreamPartyTable.lookup streamName = some party) (ec : Int)
include pulled held

theorem shut_pulls (other : Text) :
    (before.shut party ec).room.pullStreamPartyTable.lookup other =
      if other = streamName then none else before.room.pullStreamPartyTable.lookup other := by
  obtain ⟨-, type, name⟩ := pulled streamName party held
  rw [shut_room, type, name]
  simp only [VideoRoom.drop]
  split
  · rename_i same
    rw [same, AList.lookup_erase]
  · rename_i apart
    rw [AList.lookup_erase_ne apart]

theorem shut_room_rest :
    (before.shut party ec).room.pushStreamPartyTable = before.room.pushStreamPartyTable ∧
      (before.shut party ec).room.roomName = before.room.roomName ∧
      (before.shut party ec).room.streamNameDisplay = before.room.streamNameDisplay := by
  obtain ⟨-, type, -⟩ := pulled streamName party held
  rw [shut_room, type]
  exact ⟨rfl, rfl, rfl⟩

end

theorem unlist_unlisted (gone : List (Text × Nat)) {before : Session} (pulled : Pulled before)
    (listed : ∀ entry ∈ gone, before.room.pullStreamPartyTable.lookup entry.1 = some entry.2)
    (nodup : (gone.map Prod.fst).Nodup) : Unlisted before gone (before.unlist gone) := by
  induction gone generalizing before with
  | nil => exact ⟨by simp, fun _ _ => rfl, by simp [Session.unlist], rfl, ⟨rfl, rfl⟩,
      by simp [Session.unlist, Session.closings], by simp [Session.unlist]⟩
  | cons entry gone ih =>
    obtain ⟨held, others⟩ := List.forall_mem_cons.mp listed
    obtain ⟨fresh, nodup⟩ := List.nodup_cons.mp nodup
    have apart : ∀ other ∈ gone, other.2 ≠ entry.2 := by
      intro other mem same
      have names := (pulled _ _ (others other mem)).2.2
      rw [same, (pulled _ _ held).2.2] at names
      exact fresh (names ▸ List.mem_map_of_mem mem)
    generalize reason : unlistedReason (before.parties entry.2) = ec
    have pulls := shut_pulls pulled held ec
    have rest := shut_room_rest pulled held ec
    have same : ∀ other ∈ gone, (before.shut entry.2 ec).parties other.2 = before.parties other.2 :=
      fun other mem => shut_others before (apart other mem) ec
    have behind : Unlisted (before.shut entry.2 ec) gone ((before.shut entry.2 ec).unlist gone) := by
      refine ih (pulled.turn (shut_turn before entry.2 ec)) (fun other mem => ?_) nodup
      have away : other.1 ≠ entry.1 := fun same => fresh (same ▸ List.mem_map_of_mem mem)
      rw [pulls, if_neg away, others other mem]
    have unlist : before.unlist (entry :: gone) = (before.shut entry.2 ec).unlist gone := by
      rw [← reason]
      rfl
    rw [unlist]
    constructor
    case closed =>
      rw [List.forall_mem_cons]
      constructor
      · have away : entry.2 ∉ gone.map Prod.snd := by
          intro mem
          obtain ⟨other, mem, same⟩ := List.mem_map.mp mem
          exact apart other mem same
        rw [behind.parties _ away, shut_parties]
      · intro other mem
        rw [behind.closed other mem, same other mem]
    case parties =>
      intro party away
      simp only [List.map_cons, List.mem_cons, not_or] at away
      rw [behind.parties party away.2, shut_others before away.1]
    case pulls =>
      intro streamName
      rw [behind.pulls, pulls]
      simp only [List.map_cons, List.mem_cons]
      by_cases first : streamName = entry.1 <;> by_cases later : streamName ∈ gone.map Prod.fst <;>
        simp [first, later]
    case pushes => exact behind.pushes.trans rest.1
    case name => exact ⟨behind.name.1.trans rest.2.1, behind.name.2.trans rest.2.2⟩
    case history =>
      have told : (before.shut entry.2 ec).closings gone = before.closings gone :=
        List.map_congr_left fun other mem => by rw [same other mem]
      rw [behind.history, told, shut_history, ← reason]
      simp [Session.closings]
    case handles =>
      intro key
      have later : (∃ other ∈ gone, key.rawEqual ((before.shut entry.2 ec).parties other.2).handle ∧
          ¬ ((before.shut entry.2 ec).parties other.2).handle.isNil) ↔
          ∃ other ∈ gone, key.rawEqual (before.parties other.2).handle ∧
            ¬ (before.parties other.2).handle.isNil := by
        constructor
        · rintro ⟨other, mem, found⟩
          exact ⟨other, mem, by rwa [same other mem] at found⟩
        · rintro ⟨other, mem, found⟩
          exact ⟨other, mem, by rwa [same other mem]⟩
      rw [behind.handles, shut_handlePartyTable]
      by_cases kept : ∃ other ∈ gone, key.rawEqual (before.parties other.2).handle ∧
          ¬ (before.parties other.2).handle.isNil
      · obtain ⟨other, mem, found⟩ := kept
        rw [if_pos (later.mpr ⟨other, mem, found⟩), if_pos ⟨other, .tail _ mem, found⟩]
      · rw [if_neg (kept ∘ later.mp)]
        by_cases first : key.rawEqual (before.parties entry.2).handle ∧
            ¬ (before.parties entry.2).handle.isNil
        · rw [if_pos first, if_pos ⟨entry, .head _, first⟩]
        · rw [if_neg first, if_neg]
          rintro ⟨other, mem, found⟩
          rcases List.mem_cons.mp mem with rfl | mem
          · exact first found
          · exact kept ⟨other, mem, found⟩

/-! ### Closing and reporting -/

/-- The entries of the table of pulled streams. -/
theorem pull_entries (session : Session) :
    ((session.room.pullStreamPartyTable.entries.map fun entry => (entry.1, entry.2)).map
      Prod.fst).Nodup ∧
    ∀ entry ∈ session.room.pullStreamPartyTable.entries.map fun entry => (entry.1, entry.2),
      session.room.pullStreamPartyTable.lookup entry.1 = some entry.2 := by
  constructor
  · rw [List.map_map]
    exact session.room.pullStreamPartyTable.nodupKeys
  · intro entry mem
    obtain ⟨⟨name, party⟩, there, rfl⟩ := List.mem_map.mp mem
    exact AList.mem_lookup_iff.mpr there

end BeeSdk.Signalling
