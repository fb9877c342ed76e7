import BeeSdk.PartyCourse

/-! What happens to one party leaves the others alone: each way a party can go on, be closed
or become ready is a turn of its own. -/
namespace BeeSdk.Signalling
open HttpHeader (Text)
open Script

/-- One party's turn: no other party is touched, nothing is made, and the tables only lose
entries. -/
structure Turn (party : Nat) (before after : Session) : Prop where
  made : after.made = before.made
  look : ∀ other, other ≠ party → (after.parties other).look = (before.parties other).look
  conns : ∀ other, other ≠ party → (after.parties other).conns = (before.parties other).conns
  told : ∀ other, other ≠ party → after.told other = before.told other
  known : ∀ other, after.Knows other → before.Knows other ∨ other = party
  type : (after.parties party).type = (before.parties party).type
  streamName : (after.parties party).streamNameDisplay = (before.parties party).streamNameDisplay
  pulls : ∀ streamName other, after.room.pullStreamPartyTable.lookup streamName = some other →
    before.room.pullStreamPartyTable.lookup streamName = some other
  pushes : ∀ streamName other, after.room.pushStreamPartyTable.lookup streamName = some other →
    before.room.pushStreamPartyTable.lookup streamName = some other

theorem Turn.trans (first : Turn party before middle) (second : Turn party middle after) :
    Turn party before after where
  made := second.made.trans first.made
  look other apart := (second.look other apart).trans (first.look other apart)
  conns other apart := (second.conns other apart).trans (first.conns other apart)
  told other apart := (second.told other apart).trans (first.told other apart)
  known other knows := (second.known other knows).elim (first.known other) .inr
  type := second.type.trans first.type
  streamName := second.streamName.trans first.streamName
  pulls _ _ held := first.pulls _ _ (second.pulls _ _ held)
  pushes _ _ held := first.pushes _ _ (second.pushes _ _ held)

theorem Aside.turn (aside : Aside before after) (party : Nat) : Turn party before after where
  made := aside.made
  look other _ := aside.look other
  conns other _ := aside.conns other
  told other _ := aside.told other
  known other knows := .inl (aside.known other knows)
  type := congrArg Look.type (aside.look party)
  streamName := congrArg Look.streamNameDisplay (aside.look party)
  pulls _ _ held := aside.pulls ▸ held
  pushes _ _ held := aside.pushes ▸ held

/-! ### Getting on -/

theorem told_append (before after : Session) (new : List Entry) (party : Nat)
    (history : after.history = before.history ++ new) :
    after.told party = before.told party ++ new.filterMap (Entry.report party) := by
  unfold Session.told
  rw [history, List.filterMap_append]

theorem Drifts.told (drifts : Drifts party opens new before after) (other : Nat) :
    after.told other = before.told other := by
  rw [told_append before after new other drifts.history]
  have silent : new.filterMap (Entry.report other) = [] := by
    rw [List.filterMap_eq_nil_iff]
    intro entry member
    rcases drifts.entries entry member with ⟨_, same⟩ | ⟨_, _, _, same⟩
    · rw [same]
      rfl
    · rw [same]
      rfl
  rw [silent, List.append_nil]

theorem Drifts.turn (drifts : Drifts party opens new before after) : Turn party before after where
  made := drifts.made
  look other apart := by rw [drifts.others other apart]
  conns other apart := by rw [drifts.others other apart]
  told other _ := drifts.told other
  known := drifts.known
  type := congrArg Look.type drifts.look
  streamName := congrArg Look.streamNameDisplay drifts.look
  pulls _ _ held := drifts.room ▸ held
  pushes _ _ held := drifts.room ▸ held

/-- A change of what a party is seen to be. -/
theorem update_turn (session : Session) (party : Nat) {change : Party → Party}
    (type : ∀ before, (change before).type = before.type)
    (streamName : ∀ before, (change before).streamNameDisplay = before.streamNameDisplay) :
    Turn party session (session.updateParty party change) where
  made := rfl
  look other apart := by rw [Session.updateParty_other _ _ _ apart]
  conns other apart := by rw [Session.updateParty_other _ _ _ apart]
  told _ _ := rfl
  known _ := .inl
  type := by rw [Session.updateParty_self, type]
  streamName := by rw [Session.updateParty_self, streamName]
  pulls _ _ := id
  pushes _ _ := id

/-! ### Closing -/

theorem lookup_of_erase {table : AList fun _ : Text => Nat} {erased name : Text} {party : Nat}
    (held : (table.erase erased).lookup name = some party) :
    table.lookup name = some party ∧ name ≠ erased := by
  by_cases same : name = erased
  · rw [same, AList.lookup_erase] at held
    cases held
  · rw [AList.lookup_erase_ne same] at held
    exact ⟨held, same⟩

theorem lookup_of_insert {table : AList fun _ : Text => Nat} {inserted name : Text} {party other : Nat}
    (held : (table.insert inserted party).lookup name = some other) :
    table.lookup name = some other ∨ name = inserted ∧ other = party := by
  by_cases same : name = inserted
  · rw [same, AList.lookup_insert] at held
    exact .inr ⟨same, (Option.some.inj held).symm⟩
  · rw [AList.lookup_insert_ne same] at held
    exact .inl held

theorem drop_pulls (room : VideoRoom) (type : PartyType) (erased : Text) :
    (room.drop type erased).pullStreamPartyTable = match type with
      | .localParty => room.pullStreamPartyTable
      | .remoteParty => room.pullStreamPartyTable.erase erased := by
  cases type <;> rfl

theorem drop_pushes (room : VideoRoom) (type : PartyType) (erased : Text) :
    (room.drop type erased).pushStreamPartyTable = match type with
      | .localParty => room.pushStreamPartyTable.erase erased
      | .remoteParty => room.pushStreamPartyTable := by
  cases type <;> rfl

/-- Nothing but the room's entry of a stream is dropped. -/
theorem drop_turn (session : Session) (party : Nat) (type : PartyType) (erased : Text) :
    Turn party session (session.updateRoom (·.drop type erased)) where
  made := rfl
  look _ _ := rfl
  conns _ _ := rfl
  told _ _ := rfl
  known _ := .inl
  type := rfl
  streamName := rfl
  pulls _ _ held := by
    rw [Session.updateRoom_room, drop_pulls] at held
    cases type with
    | localParty => exact held
    | remoteParty => exact (lookup_of_erase held).1
  pushes _ _ held := by
    rw [Session.updateRoom_room, drop_pushes] at held
    cases type with
    | localParty => exact (lookup_of_erase held).1
    | remoteParty => exact held

theorem forgetHandle_turn (session : Session) (party : Nat) (handle : LuaValue) :
    Turn party session (session.forgetHandle handle) where
  made := rfl
  look _ _ := rfl
  conns _ _ := rfl
  told _ _ := rfl
  known other knows := by
    rcases knows with ⟨key, filed⟩ | called
    · unfold Session.forgetHandle at filed
      dsimp only at filed
      split at filed
      · cases filed
      · exact .inl (.inl ⟨key, filed⟩)
    · exact .inl (.inr called)
  type := rfl
  streamName := rfl
  pulls _ _ := id
  pushes _ _ := id

theorem abandon_turn (session : Session) (party : Nat) : Turn party session (session.abandon party) := by
  have closed : Turn party session (session.updateParty party (·.closeConns)) :=
    update_turn session party (fun _ => rfl) fun _ => rfl
  exact closed.trans ((forgetHandle_turn ..).trans (drop_turn ..))

theorem notify_turn (session : Session) (party : Nat) (notification : Notification) :
    Turn party session (session.enter (.notifies (some party) notification)) where
  made := rfl
  look _ _ := rfl
  conns _ _ := rfl
  told other apart := by
    rw [told_append session _ _ other rfl]
    cases notification <;> simp [Entry.report, Ne.symm apart]
  known _ := .inl
  type := rfl
  streamName := rfl
  pulls _ _ := id
  pushes _ _ := id

theorem shut_turn (session : Session) (party : Nat) (ec : Int) :
    Turn party session (session.shut party ec) := by
  have finished : ∀ before : Session, Turn party before (before.updateParty party (·.finish)) :=
    fun before => update_turn before party (fun _ => rfl) fun _ => rfl
  exact ((abandon_turn session party).trans (notify_turn ..)).trans (finished _)

theorem fail_turn (session : Session) (party : Nat) (ec : Int) :
    Turn party session (session.fail party ec) := by
  unfold Session.fail
  split
  · exact shut_turn ..
  · exact (drop_turn ..).trans (shut_turn ..)

theorem shut_told (session : Session) (party : Nat) (ec : Int) :
    (session.shut party ec).told party =
      session.told party ++ [((session.parties party).closeType, ec)] := by
  rw [told_append session _ _ party (shut_history ..)]
  simp [Entry.report, Party.closing]

theorem fail_told (session : Session) (party : Nat) (ec : Int) :
    (session.fail party ec).told party =
      session.told party ++ [((session.parties party).closeType, ec)] := by
  rw [told_append session _ _ party (fail_history ..)]
  simp [Entry.report, Party.closing]

/-! ### Being ready -/

theorem readied_type (party : Party) (channel : Channel) :
    (party.readied channel).type = party.type := by
  cases channel <;> rfl

theorem readied_closed (party : Party) (channel : Channel) :
    (party.readied channel).closed = some true ↔ party.closed = some true := by
  cases channel with
  | signal => rfl
  | media => cases closed : party.closed <;> simp [Party.readied, closed]

theorem readied_turn (session : Session) (party : Nat) (channel : Channel) :
    Turn party session (session.updateParty party (·.readied channel)) :=
  update_turn session party (fun before => readied_type before channel)
    fun _ => by cases channel <;> rfl

theorem announce_parties (session : Session) (party : Nat) :
    (session.announce party).parties party = { session.parties party with created := true } :=
  Session.updateParty_self ..

theorem announce_turn (session : Session) (party : Nat) :
    Turn party session (session.announce party) := by
  have counted : Turn party session (session.updateRoom
      (·.countPush (session.parties party).streamNameInternal)) :=
    ⟨rfl, fun _ _ => rfl, fun _ _ => rfl, fun _ _ => rfl, fun _ => .inl, rfl, rfl, fun _ _ => id,
      fun _ _ => id⟩
  exact counted.trans (update_turn _ party (fun _ => rfl) fun _ => rfl)

end BeeSdk.Signalling
