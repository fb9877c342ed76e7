import BeeSdk.PartyTurn
import BeeSdk.Tally

/-! The numbers the room keeps of its parties beside their tables, and the connections that
leaving is to close. -/
namespace BeeSdk.Signalling
open HttpHeader (Text)
open Script Tally

/-- The connections that leaving is to close: the socket, the peer connection and the timer. -/
def Conn.watched : Conn → Bool
  | .janus | .rtc | .keepalive => true
  | _ => false

/-- One of these connections of the party is open. -/
def Session.Active (session : Session) (party : Nat) : Prop :=
  ∃ conn, conn.watched = true ∧ ((session.parties party).conns conn).isOpen = true

def VideoRoom.Lists (room : VideoRoom) (party : Nat) : Prop :=
  ∃ type streamName, (room.tableOf type).lookup streamName = some party

/-- Leaving for a reason that can be printed closes whatever is open. -/
def Session.Closable (session : Session) : Prop :=
  ∀ args calls ec ended after, args.valid = true → args.reason.toInteger = some ec →
    step session { happening := .leave args, calls := calls } = some (ended, after) →
      ∀ party, ¬ after.Active party

/-- The numbers are those of the tables, and no party that is on no list has anything open. -/
structure Accounted (session : Session) : Prop where
  pulls : session.room.pullStreamCount = session.room.pullStreamPartyTable.entries.length
  pushes : session.room.pushStreamCount =
    tally session.room.pushStreamPartyTable fun party => (session.parties party).created
  positive : 0 ≤ session.room.pullStreamCount ∧ 0 ≤ session.room.pushStreamCount
  listed : ∀ party, session.Active party → session.room.Lists party
  closable : session.Closable

/-- A party the room counts and finds: closing it leaves the numbers right. -/
def Session.Counts (session : Session) (party : Nat) : Prop :=
  session.Registered party ∧
    ((session.parties party).type = .localParty → (session.parties party).created = true)

/-- What the happenings must not do: a remote party must not fail, nor a local one before it
is created; a reply must not open what is held already, or for a party on no list; a local party
must not be ready twice or unlisted; parties must not be closed before they are counted; and
no name may be connected or pushed twice, nor a connection fail as soon as it is made. -/
structure Thrifty (session : Session) (happening : Happening) : Prop where
  refused : ∀ party reply, session.reply happening = some (party, reply) →
    reply.Refuses session party →
      (session.parties party).type = .localParty ∧ session.Counts party
  opened : ∀ party reply conn, session.reply happening = some (party, reply) →
    conn ∈ reply.opens session.calls → conn.watched = true →
      ((session.parties party).conns conn).held = false ∧
        (session.calls.opens conn = true → session.Registered party)
  iceFailed : ∀ party newState, happening = .callsBack party (.iceConnectionChange newState) →
    (session.parties party).closed = some false →
    newState = kIceConnectionFailed ∨ newState = kIceConnectionDisconnected ∨
      newState = kIceConnectionClosed →
      (session.parties party).type = .localParty ∧ session.Counts party
  ready : ∀ party channel, session.readies happening = some (party, channel) →
    (session.parties party).type = .localParty →
    ((session.parties party).readied channel).signalReady = true →
    ((session.parties party).readied channel).mediaReady = true →
      session.Registered party ∧ (session.parties party).created = false
  detached : ∀ party, session.detaches happening = some party → session.Counts party
  left : ∀ args streamName party, happening = .leave args → args.valid = true →
    session.room.pushStreamPartyTable.lookup streamName = some party →
      (session.parties party).created = true
  disconnected : ∀ args streamName party, happening = .disconnectStream args →
    args.target = some (.localParty, streamName) →
    session.room.pushStreamPartyTable.lookup streamName = some party →
      (session.parties party).created = true
  joined : ∀ args streamName, happening = .join args →
    args.pushes session.calls = some streamName →
      session.room.pushStreamPartyTable.lookup streamName = none ∧
        session.calls.rtcOpens = true ∧ session.calls.offers = true
  connected : ∀ args streamName, happening = .connectStream args → args.target = some streamName →
    session.room.pullStreamPartyTable.lookup streamName = none ∧
      (session.calls.httpOpens = true → session.calls.gets = true)

/-! ### The tables of a type -/

def VideoRoom.countOf (room : VideoRoom) : PartyType → Int
  | .localParty => room.pushStreamCount
  | .remoteParty => room.pullStreamCount

/-- The party is one of those its room counts. -/
def Party.counted (party : Party) : PartyType → Bool
  | .localParty => party.created
  | .remoteParty => true

theorem registered_iff (session : Session) (party : Nat) :
    session.Registered party ↔
      (session.room.tableOf (session.parties party).type).lookup
        (session.parties party).streamNameDisplay = some party := by
  unfold Session.Registered
  cases (session.parties party).type <;> rfl

theorem drop_tableOf (room : VideoRoom) (type other : PartyType) (streamName : Text) :
    (room.drop type streamName).tableOf other =
      if other = type then (room.tableOf other).erase streamName else room.tableOf other := by
  cases type <;> cases other <;> rfl

theorem drop_countOf (room : VideoRoom) (type other : PartyType) (streamName : Text) :
    (room.drop type streamName).countOf other =
      if other = type then room.countOf other - 1 else room.countOf other := by
  cases type <;> cases other <;> rfl

/-- What the accounts see of a party. -/
def Party.entry (party : Party) : PartyType × Text × Bool :=
  (party.type, party.streamNameDisplay, party.created)

theorem entry_of_look {left right : Party} (same : left.look = right.look) :
    left.entry = right.entry :=
  congrArg (fun look : Look => (look.type, look.streamNameDisplay, look.created)) same

theorem type_of_entry {left right : Party} (same : left.entry = right.entry) :
    left.type = right.type := congrArg Prod.fst same

theorem streamName_of_entry {left right : Party} (same : left.entry = right.entry) :
    left.streamNameDisplay = right.streamNameDisplay := congrArg (·.2.1) same

theorem created_of_entry {left right : Party} (same : left.entry = right.entry) :
    left.created = right.created := congrArg (·.2.2) same

theorem counted_of_entry {left right : Party} (same : left.entry = right.entry) (type : PartyType) :
    left.counted type = right.counted type := by
  cases type with
  | localParty => exact created_of_entry same
  | remoteParty => rfl

theorem registered_congr {before after : Session}
    (tables : after.room.tableOf = before.room.tableOf)
    (entry : (after.parties party).entry = (before.parties party).entry) :
    after.Registered party ↔ before.Registered party := by
  rw [registered_iff, registered_iff, tables, type_of_entry entry, streamName_of_entry entry]

/-! ### What is kept -/

/-- Every party of a table is there under its own name and type, and what it has open is held
by a party the room finds. -/
structure Filed (session : Session) : Prop where
  named : ∀ type streamName party, (session.room.tableOf type).lookup streamName = some party →
    party < session.made ∧ (session.parties party).type = type ∧
      (session.parties party).streamNameDisplay = streamName
  found : ∀ party conn, conn.watched = true →
    ((session.parties party).conns conn).lost = 0 ∧
      (((session.parties party).conns conn).held = true → session.Registered party)

structure Kept (session : Session) : Prop extends Filed session where
  counted : ∀ type, session.room.countOf type =
    tally (session.room.tableOf type) fun party => (session.parties party).counted type

theorem Filed.registered (filed : Filed session)
    (listed : (session.room.tableOf type).lookup streamName = some party) :
    session.Registered party := by
  obtain ⟨_, rfl, rfl⟩ := filed.named type streamName party listed
  rwa [registered_iff]

theorem Filed.active (filed : Filed session) (active : session.Active party) :
    session.Registered party := by
  obtain ⟨conn, watched, opened⟩ := active
  obtain ⟨none, registered⟩ := filed.found party conn watched
  refine registered ?_
  simpa [Slot.isOpen, none] using opened

/-! ### Nothing the accounts see -/

theorem Filed.same (filed : Filed before) (made : after.made = before.made)
    (tables : after.room.tableOf = before.room.tableOf)
    (entries : ∀ party, (after.parties party).entry = (before.parties party).entry)
    (found : ∀ party conn, conn.watched = true →
      ((after.parties party).conns conn).lost = 0 ∧
        (((after.parties party).conns conn).held = true → before.Registered party)) :
    Filed after where
  named type streamName party listed := by
    rw [tables] at listed
    rw [made, type_of_entry (entries party), streamName_of_entry (entries party)]
    exact filed.named type streamName party listed
  found party conn watched := by
    rw [registered_congr tables (entries party)]
    exact found party conn watched

theorem Kept.same (kept : Kept before) (made : after.made = before.made)
    (books : after.room.books = before.room.books)
    (entries : ∀ party, (after.parties party).entry = (before.parties party).entry)
    (found : ∀ party conn, conn.watched = true →
      ((after.parties party).conns conn).lost = 0 ∧
        (((after.parties party).conns conn).held = true → before.Registered party)) :
    Kept after where
  toFiled := by
    refine kept.toFiled.same made ?_ entries found
    funext type
    cases type with
    | localParty => exact congrArg Books.pushes books
    | remoteParty => exact congrArg Books.pulls books
  counted type := by
    have counts : after.room.countOf type = before.room.countOf type := by
      cases type with
      | localParty => exact congrArg Books.pushCount books
      | remoteParty => exact congrArg Books.pullCount books
    have table : after.room.tableOf type = before.room.tableOf type := by
      cases type with
      | localParty => exact congrArg Books.pushes books
      | remoteParty => exact congrArg Books.pulls books
    rw [counts, table, kept.counted type]
    simp only [counted_of_entry (entries _)]

theorem Filed.aside (filed : Filed before) (aside : Aside before after) : Filed after := by
  refine filed.same aside.made ?_ (fun party => entry_of_look (aside.look party)) ?_
  · funext type
    cases type with
    | localParty => exact aside.pushes
    | remoteParty => exact aside.pulls
  · intro party conn watched
    rw [aside.conns party]
    exact filed.found party conn watched

theorem Kept.aside (kept : Kept before) (aside : Aside before after) : Kept after := by
  refine kept.same aside.made aside.books (fun party => entry_of_look (aside.look party)) ?_
  intro party conn watched
  rw [aside.conns party]
  exact kept.found party conn watched

/-- A change of one party that the accounts do not see. -/
theorem Kept.update (kept : Kept session) (party : Nat) {change : Party → Party}
    (entry : ∀ before, (change before).entry = before.entry)
    (conns : ∀ before, (change before).conns = before.conns) :
    Kept (session.updateParty party change) := by
  refine kept.same rfl rfl (fun other => ?_) fun other conn watched => ?_
  · by_cases same : other = party
    · rw [same, Session.updateParty_self, entry]
    · rw [Session.updateParty_other _ _ _ same]
  · by_cases same : other = party
    · rw [same, Session.updateParty_self, conns]
      exact kept.found party conn watched
    · rw [Session.updateParty_other _ _ _ same]
      exact kept.found other conn watched

/-- What a reply opens is not held yet, and is that of a party the room finds. -/
theorem Kept.drifts (kept : Kept before) (drifts : Drifts party opens new before after)
    (opened : ∀ conn ∈ opens, conn.watched = true →
      ((before.parties party).conns conn).held = false ∧
        (before.calls.opens conn = true → before.Registered party)) : Kept after := by
  refine kept.same drifts.made (congrArg VideoRoom.books drifts.room) (fun other => ?_)
    fun other conn watched => ?_
  · by_cases same : other = party
    · rw [same]
      exact entry_of_look drifts.look
    · rw [drifts.others other same]
  · by_cases same : other = party
    · rw [same]
      rcases drifts.conns conn with kept' | ⟨listed, assigned⟩
      · rw [kept']
        exact kept.found party conn watched
      · obtain ⟨free, registered⟩ := opened conn listed watched
        rw [assigned]
        unfold Slot.assign
        rw [free]
        exact ⟨(kept.found party conn watched).1, registered⟩
    · rw [drifts.others other same]
      exact kept.found other conn watched

theorem Kept.enter (kept : Kept session) (entry : Entry) : Kept (session.enter entry) :=
  ⟨⟨kept.named, kept.found⟩, kept.counted⟩

theorem Kept.readied (kept : Kept session) (party : Nat) (channel : Channel) :
    Kept (session.updateParty party (·.readied channel)) :=
  kept.update party (fun _ => by cases channel <;> rfl) fun _ => by cases channel <;> rfl

/-! ### Closing -/

/-- A party is closed, and its entry is dropped. -/
structure Closes (party : Nat) (before after : Session) : Prop where
  made : after.made = before.made
  books : after.room.books = (before.room.drop (before.parties party).type
    (before.parties party).streamNameDisplay).books
  entries : ∀ other, (after.parties other).entry = (before.parties other).entry
  others : ∀ other, other ≠ party → (after.parties other).conns = (before.parties other).conns
  closed : ∀ conn, (after.parties party).conns conn = ((before.parties party).conns conn).close

theorem shut_closes (session : Session) (party : Nat) (ec : Int) :
    Closes party session (session.shut party ec) where
  made := rfl
  books := by rw [shut_room]
  entries other := by
    by_cases same : other = party
    · rw [same, shut_parties]
      rfl
    · exact entry_of_look ((shut_turn session party ec).look other same)
  others other apart := (shut_turn session party ec).conns other apart
  closed conn := by
    rw [shut_parties]
    rfl

theorem abandon_closes (session : Session) (party : Nat) :
    Closes party session (session.abandon party) := by
  have own : (session.updateParty party (·.closeConns)).parties party =
    (session.parties party).closeConns := Session.updateParty_self ..
  refine ⟨rfl, ?_, fun other => ?_, fun other => (abandon_turn session party).conns other, ?_⟩
  · unfold Session.abandon Session.unfile
    rw [own]
    rfl
  · by_cases same : other = party
    · rw [same]
      have entry : ((session.abandon party).parties party).entry =
        (session.parties party).closeConns.entry := congrArg Party.entry own
      exact entry
    · exact entry_of_look ((abandon_turn session party).look other same)
  · exact fun conn => congrArg (fun closed : Party => closed.conns conn) own

theorem Closes.tableOf (closes : Closes party before after) (type : PartyType) :
    after.room.tableOf type = if type = (before.parties party).type
      then (before.room.tableOf type).erase (before.parties party).streamNameDisplay
      else before.room.tableOf type := by
  rw [← drop_tableOf]
  cases type with
  | localParty => exact congrArg Books.pushes closes.books
  | remoteParty => exact congrArg Books.pulls closes.books

theorem Closes.countOf (closes : Closes party before after) (type : PartyType) :
    after.room.countOf type = if type = (before.parties party).type
      then before.room.countOf type - 1 else before.room.countOf type := by
  rw [← drop_countOf _ _ _ (before.parties party).streamNameDisplay]
  cases type with
  | localParty => exact congrArg Books.pushCount closes.books
  | remoteParty => exact congrArg Books.pullCount closes.books

/-- The tables only lose entries. -/
theorem Closes.listed (closes : Closes party before after)
    (held : (after.room.tableOf type).lookup streamName = some other) :
    (before.room.tableOf type).lookup streamName = some other := by
  rw [closes.tableOf] at held
  split at held
  · exact (lookup_of_erase held).1
  · exact held

/-- What closing drops is the party's own entry. -/
theorem Filed.closes (filed : Filed before) (closes : Closes party before after)
    (registered : before.Registered party) : Filed after where
  named type streamName other listed := by
    rw [closes.made, type_of_entry (closes.entries other), streamName_of_entry (closes.entries other)]
    exact filed.named type streamName other (closes.listed listed)
  found other conn watched := by
    obtain ⟨none, found⟩ := filed.found other conn watched
    by_cases same : other = party
    · subst same
      rw [closes.closed]
      exact ⟨none, fun held => by cases held⟩
    · rw [closes.others other same]
      refine ⟨none, fun held => ?_⟩
      have registered' := found held
      rw [registered_iff] at registered registered' ⊢
      rw [type_of_entry (closes.entries other), streamName_of_entry (closes.entries other),
        closes.tableOf]
      split
      · rename_i type
        rw [AList.lookup_erase_ne]
        · exact registered'
        · intro name
          rw [type, name, registered] at registered'
          exact same (Option.some.inj registered').symm
      · exact registered'

theorem Session.Counts.weight (counts : Session.Counts session party) :
    weight (fun other => (session.parties other).counted (session.parties party).type) party = 1 := by
  unfold Tally.weight
  cases type : (session.parties party).type with
  | localParty => exact if_pos (counts.2 type)
  | remoteParty => rfl

theorem Kept.closes (kept : Kept before) (closes : Closes party before after)
    (counts : before.Counts party) : Kept after where
  toFiled := kept.toFiled.closes closes counts.1
  counted type := by
    have registered := counts.1
    rw [registered_iff] at registered
    rw [closes.countOf, closes.tableOf]
    simp only [counted_of_entry (closes.entries _)]
    split
    · rename_i same
      rw [kept.counted type, same, tally_erase registered, counts.weight]
      omega
    · exact kept.counted type

theorem Kept.shut (kept : Kept session) (counts : session.Counts party) (ec : Int) :
    Kept (session.shut party ec) := kept.closes (shut_closes session party ec) counts

/-- A local party that fails is closed like any other. -/
theorem Kept.fail (kept : Kept session) (type : (session.parties party).type = .localParty)
    (counts : session.Counts party) (ec : Int) : Kept (session.fail party ec) := by
  unfold Session.fail
  rw [type]
  exact kept.shut counts ec

theorem Filed.counts_remote (filed : Filed session)
    (listed : (session.room.tableOf .remoteParty).lookup streamName = some party) :
    session.Counts party := by
  refine ⟨filed.registered listed, fun type => ?_⟩
  rw [(filed.named _ _ _ listed).2.1] at type
  cases type

theorem Filed.counts_local (filed : Filed session)
    (listed : (session.room.tableOf .localParty).lookup streamName = some party)
    (created : (session.parties party).created = true) : session.Counts party :=
  ⟨filed.registered listed, fun _ => created⟩

/-- Parties of one table that are all counted are left one after the other. -/
theorem Kept.leaves {choice : Party → Int → Prop}
    (leaves : Leaves (fun room => room.tableOf type) choice before after) (kept : Kept before)
    (created : type = .localParty → ∀ streamName party,
      (before.room.tableOf type).lookup streamName = some party →
        (before.parties party).created = true) : Kept after := by
  induction leaves with
  | done => exact kept
  | leaves listed chosen rest ih =>
    refine ih ?_ fun same streamName other listed' => ?_
    · cases type with
      | localParty => exact kept.shut (kept.counts_local listed (created rfl _ _ listed)) _
      | remoteParty => exact kept.shut (kept.counts_remote listed) _
    · rw [created_of_entry ((shut_closes ..).entries other)]
      exact created same _ _ ((shut_closes ..).listed listed')

/-! ### Being created and being made -/

theorem announce_kept (kept : Kept session) (registered : session.Registered party)
    (type : (session.parties party).type = .localParty)
    (early : (session.parties party).created = false) : Kept (session.announce party) := by
  have own : (session.announce party).parties party =
    { session.parties party with created := true } := announce_parties session party
  have other : ∀ other, other ≠ party → (session.announce party).parties other =
    session.parties other := fun _ apart => if_neg apart
  have face : ∀ other, ((session.announce party).parties other).type = (session.parties other).type ∧
      ((session.announce party).parties other).streamNameDisplay =
        (session.parties other).streamNameDisplay ∧
      ((session.announce party).parties other).conns = (session.parties other).conns := by
    intro other'
    by_cases same : other' = party
    · rw [same, own]
      exact ⟨rfl, rfl, rfl⟩
    · rw [other other' same]
      exact ⟨rfl, rfl, rfl⟩
  have tables : (session.announce party).room.tableOf = session.room.tableOf := by
    funext type
    cases type <;> rfl
  refine ⟨⟨fun type' streamName other' listed => ?_, fun other' conn watched => ?_⟩, fun type' => ?_⟩
  · rw [tables] at listed
    rw [(face other').1, (face other').2.1]
    exact kept.named type' streamName other' listed
  · rw [registered_iff, tables, (face other').1, (face other').2.1, (face other').2.2,
      ← registered_iff]
    exact kept.found other' conn watched
  · rw [tables]
    cases type' with
    | remoteParty => exact kept.counted .remoteParty
    | localParty =>
      rw [registered_iff, type] at registered
      have counted : session.room.pushStreamCount = _ := kept.counted .localParty
      have created : ((session.announce party).parties party).created = true := by rw [own]
      have more : tally session.room.pushStreamPartyTable
            (fun other => ((session.announce party).parties other).created) =
          tally session.room.pushStreamPartyTable
            (fun other => (session.parties other).created) + 1 := by
        refine tally_count registered early created fun name other' apart listed => ?_
        have differ : other' ≠ party := by
          rintro rfl
          exact apart (kept.named .localParty _ _ listed).2.2.symm
        rw [other other' differ]
      calc session.room.pushStreamCount + 1
          = ((tally session.room.pushStreamPartyTable
              fun other => (session.parties other).created) + 1 : Nat) := by
            rw [counted]
            rfl
        _ = _ := congrArg Int.ofNat more.symm

/-- A party is made and filed under a name that was free. -/
theorem make_kept (kept : Kept session) (newborn : Newborn type streamName party)
    (free : (session.room.tableOf type).lookup streamName = none) {change : VideoRoom → VideoRoom}
    (tables : ∀ other, (change session.room).tableOf other = if other = type
      then (session.room.tableOf other).insert streamName session.made
      else session.room.tableOf other)
    (counts : ∀ other, (change session.room).countOf other = if other = type
      then session.room.countOf other + weight (fun _ => party.counted type) party
      else session.room.countOf other) :
    Kept ((session.make party).updateRoom change) ∧
      ((session.make party).updateRoom change).Registered session.made := by
  have own : ((session.make party).updateRoom change).parties session.made = party := if_pos rfl
  have other : ∀ other, other ≠ session.made →
      ((session.make party).updateRoom change).parties other = session.parties other :=
    fun _ apart => if_neg apart
  have room : ((session.make party).updateRoom change).room = change session.room := rfl
  refine ⟨⟨⟨fun type' name other' listed => ?_, fun other' conn watched => ?_⟩, fun type' => ?_⟩, ?_⟩
  · rw [room, tables] at listed
    have old : (session.room.tableOf type').lookup name = some other' ∨
        type' = type ∧ name = streamName ∧ other' = session.made := by
      split at listed
      · rename_i same
        exact (lookup_of_insert listed).imp id fun ⟨name, party⟩ => ⟨same, name, party⟩
      · exact .inl listed
    rcases old with listed' | ⟨rfl, rfl, rfl⟩
    · obtain ⟨small, type, name⟩ := kept.named type' name other' listed'
      rw [other other' (Nat.ne_of_lt small)]
      exact ⟨Nat.lt_succ_of_lt small, type, name⟩
    · rw [own]
      exact ⟨Nat.lt_succ_self _, newborn.type, newborn.streamName⟩
  · by_cases same : other' = session.made
    · rw [same, own, newborn.conns conn]
      exact ⟨rfl, fun held => by cases held⟩
    · rw [other other' same]
      obtain ⟨none, found⟩ := kept.found other' conn watched
      refine ⟨none, fun held => ?_⟩
      have registered := found held
      rw [registered_iff] at registered ⊢
      rw [room, tables, other other' same]
      split
      · rename_i type'
        rw [AList.lookup_insert_ne]
        · exact registered
        · intro name
          rw [type', name, free] at registered
          cases registered
      · exact registered
  · have old : tally (session.room.tableOf type')
        (fun other' => (((session.make party).updateRoom change).parties other').counted type') =
        tally (session.room.tableOf type') fun other' => (session.parties other').counted type' := by
      refine tally_congr fun name other' listed => ?_
      rw [other other' (Nat.ne_of_lt (kept.named _ _ _ listed).1)]
    rw [room, tables, counts]
    split
    · rename_i same
      rw [same] at old ⊢
      rw [tally_insert free, old, kept.counted type]
      simp only [weight, own]
      omega
    · rw [old, kept.counted type']
  · rw [registered_iff, room, own, newborn.type, newborn.streamName, tables, if_pos rfl]
    exact AList.lookup_insert ..

theorem push_kept (kept : Kept session) (newborn : Newborn .localParty streamName party)
    (free : session.room.pushStreamPartyTable.lookup streamName = none) :
    Kept ((session.make party).updateRoom (·.addPush streamName session.made)) ∧
      ((session.make party).updateRoom (·.addPush streamName session.made)).Registered
        session.made := by
  refine make_kept kept newborn free (fun other => ?_) fun other => ?_
  · cases other <;> rfl
  · cases other with
    | localParty =>
      have uncounted : weight (fun _ => party.counted .localParty) party = 0 := by
        simp [weight, Party.counted, newborn.open.2]
      rw [if_pos rfl, uncounted]
      exact (Int.add_zero _).symm
    | remoteParty => rfl

theorem pull_kept (kept : Kept session) (newborn : Newborn .remoteParty streamName party)
    (free : session.room.pullStreamPartyTable.lookup streamName = none) :
    Kept ((session.make party).updateRoom (·.addPull streamName session.made)) := by
  refine (make_kept kept newborn free (fun other => ?_) fun other => ?_).1
  · cases other <;> rfl
  · cases other <;> rfl

/-! ### Leaving closes whatever is open -/

/-- The tables after one has been emptied. -/
theorem leaveParties_empties (filed : Filed session) (type : PartyType) (ec : Int) :
    ∃ after, VideoRoom.leaveParties (fun room => room.tableOf type) (some ec) session =
        (some (), after) ∧ Filed after ∧
      (∀ streamName, (after.room.tableOf type).lookup streamName = none) ∧
      ∀ other streamName party, (after.room.tableOf other).lookup streamName = some party →
        (session.room.tableOf other).lookup streamName = some party := by
  have each : ∀ (list : List ((_ : Text) × Nat)) (session : Session), Filed session →
      ∃ after, Script.each list (fun entry => do
          if ((← theRoom).tableOf type).lookup entry.1 = some entry.2 then
            Party.leave entry.2 (some ec) : (_ : Text) × Nat → Lua Unit) session =
          (some (), after) ∧ Filed after ∧
        (∀ entry ∈ list, (after.room.tableOf type).lookup entry.1 ≠ some entry.2) ∧
        ∀ other streamName party, (after.room.tableOf other).lookup streamName = some party →
          (session.room.tableOf other).lookup streamName = some party := by
    intro list
    induction list with
    | nil => exact fun session filed => ⟨session, rfl, filed, by simp, fun _ _ _ => id⟩
    | cons entry rest ih =>
      intro session filed
      by_cases listed : (session.room.tableOf type).lookup entry.1 = some entry.2
      · have closes := shut_closes session entry.2 ec
        obtain ⟨after, ran, filed', gone, fewer⟩ :=
          ih (session.shut entry.2 ec) (filed.closes closes (filed.registered listed))
        refine ⟨after, by simp [Script.each, listed, leave_some, ran], filed', ?_,
          fun _ _ _ held => closes.listed (fewer _ _ _ held)⟩
        intro other member held
        rcases List.mem_cons.mp member with rfl | later
        · have dropped := fewer _ _ _ held
          obtain ⟨_, same, name⟩ := filed.named _ _ _ listed
          rw [closes.tableOf, if_pos same.symm, name, AList.lookup_erase] at dropped
          cases dropped
        · exact gone other later held
      · obtain ⟨after, ran, filed', gone, fewer⟩ := ih session filed
        refine ⟨after, by simp [Script.each, listed, ran], filed', ?_, fewer⟩
        intro other member held
        rcases List.mem_cons.mp member with rfl | later
        · exact listed (fewer _ _ _ held)
        · exact gone other later held
  obtain ⟨after, ran, filed', gone, fewer⟩ := each (session.room.tableOf type).entries session filed
  refine ⟨after, by simp [VideoRoom.leaveParties, ran], filed', fun streamName => ?_, fewer⟩
  cases held : (after.room.tableOf type).lookup streamName with
  | none => rfl
  | some party =>
    have member : (⟨streamName, party⟩ : (_ : Text) × Nat) ∈ (session.room.tableOf type).entries :=
      List.of_mem_dlookup (fewer _ _ _ held)
    exact absurd held (gone _ member)

theorem leave_of_valid {args : LeaveArgs} (valid : args.valid = true) (session : Session) :
    VideoRoom.leave args session = VideoRoom.close args.reason.toInteger session := by
  obtain ⟨named, given⟩ := Bool.and_eq_true_iff.mp valid
  unfold VideoRoom.leave
  simp [named, given]

theorem Filed.closable (filed : Filed session) : session.Closable := by
  intro args calls ec ended after valid reason taken party active
  have start : Filed { session with calls := calls } := ⟨filed.named, filed.found⟩
  have begun : Filed (Session.updateRoom { session with calls := calls } (·.beginLeaving)) :=
    start.aside (.room _ fun _ => rfl)
  obtain ⟨middle, ran, filed', pushes, _⟩ := leaveParties_empties begun .localParty ec
  obtain ⟨final, ran', filed'', pulls, fewer⟩ := leaveParties_empties filed' .remoteParty ec
  have left : VideoRoom.leave args { session with calls := calls } = (some (), final) := by
    rw [leave_of_valid valid, reason]
    unfold VideoRoom.close
    have ran'' : VideoRoom.leaveParties (·.pushStreamPartyTable) (some ec)
      (Session.updateRoom { session with calls := calls } (·.beginLeaving)) = (some (), middle) := ran
    simp only [bind_apply, setRoom_apply, ran'']
    exact ran'
  have same : final = after := by
    have whole : step session { happening := .leave args, calls := calls } = some (true, final) := by
      unfold step
      split
      · simp only [Happening.run, left]
        rfl
      · rename_i never
        exact absurd trivial never
    rw [whole] at taken
    cases taken
    rfl
  have registered := filed''.active (same ▸ active)
  rw [registered_iff] at registered
  cases type : (final.parties party).type with
  | localParty =>
    rw [type] at registered
    have held := fewer _ _ _ registered
    rw [pushes] at held
    cases held
  | remoteParty =>
    rw [type, pulls] at registered
    cases registered

theorem Kept.accounted (kept : Kept session) : Accounted session := by
  have pulls : session.room.pullStreamCount = session.room.pullStreamPartyTable.entries.length :=
    (kept.counted .remoteParty).trans (congrArg Int.ofNat (tally_all _))
  have pushes : session.room.pushStreamCount = tally session.room.pushStreamPartyTable
    fun party => (session.parties party).created := kept.counted .localParty
  refine ⟨pulls, pushes, ⟨?_, ?_⟩, fun party active => ?_, kept.closable⟩
  · rw [pulls]
    exact Int.natCast_nonneg _
  · rw [pushes]
    exact Int.natCast_nonneg _
  · have registered := kept.active active
    rw [registered_iff] at registered
    exact ⟨_, _, registered⟩

/-! ### Runs -/

theorem course_kept (kept : Kept session) (thrifty : Thrifty session happening)
    (course : Course session happening after) : Kept after := by
  cases course with
  | aside aside => exact kept.aside aside
  | getsOn due reached drifts aside =>
    exact (kept.drifts drifts fun conn => thrifty.opened _ _ conn due).aside aside
  | refuses due reached refused drifts failure aside =>
    obtain ⟨type, registered, created⟩ := thrifty.refused _ _ due refused
    have middle := kept.drifts drifts fun conn => thrifty.opened _ _ conn due
    have entry := entry_of_look drifts.look
    have tables : _ = session.room.tableOf := congrArg VideoRoom.tableOf drifts.room
    refine (middle.fail ((type_of_entry entry).trans type) ⟨?_, fun _ => ?_⟩ _).aside aside
    · exact (registered_congr tables entry).mpr registered
    · exact (created_of_entry entry).trans (created type)
  | iceFails due reached alive failing =>
    obtain ⟨type, counts⟩ := thrifty.iceFailed _ _ due alive failing
    exact kept.fail type counts 51
  | halfReady due reached half => exact kept.readied _ _
  | welcome due reached type both =>
    exact ((kept.readied _ _).enter _).update _ (fun _ => rfl) fun _ => rfl
  | @announce party channel middle all due reached type both aside =>
    obtain ⟨registered, early⟩ := thrifty.ready _ _ due type both.1 both.2
    have own : (session.updateParty party (·.readied channel)).parties party =
      (session.parties party).readied channel := Session.updateParty_self ..
    have entry : ((session.parties party).readied channel).entry = (session.parties party).entry := by
      cases channel <;> rfl
    have entry' : ((session.updateParty party (·.readied channel)).parties party).entry =
      (session.parties party).entry := by rw [own, entry]
    refine ((announce_kept (kept.readied party channel) ?_ ?_ ?_).aside aside).update _
      (fun _ => rfl) fun _ => rfl
    · have tables : (session.updateParty party (·.readied channel)).room.tableOf =
        session.room.tableOf := rfl
      exact (registered_congr tables entry').mpr registered
    · exact (type_of_entry entry').trans type
    · exact (created_of_entry entry').trans early
  | detaches due known => exact kept.shut (thrifty.detached _ due) 0
  | @leaves args ec first second after due valid reason aside pushes pulls =>
    have begun := kept.aside aside
    have created : ∀ streamName party, (first.room.tableOf .localParty).lookup streamName = some party →
        (first.parties party).created = true := by
      intro streamName party listed
      rw [created_of_entry (entry_of_look (aside.look party))]
      exact thrifty.left args streamName party due valid (aside.pushes ▸ listed)
    have pushes : Leaves (fun room => room.tableOf .localParty) _ first second := pushes
    have pulls : Leaves (fun room => room.tableOf .remoteParty) _ second after := pulls
    refine Kept.leaves pulls (Kept.leaves pushes begun fun _ => created) fun same => ?_
    cases same
  | @unlists message first second after due aside pulls behind =>
    have pulls : Leaves (fun room => room.tableOf .remoteParty) _ first second := pulls
    refine (Kept.leaves pulls (kept.aside aside) fun same => ?_).aside behind
    cases same
  | @abandonsLeaving args middle type streamName party due valid reason aside listed =>
    have begun := kept.aside aside
    refine begun.closes (abandon_closes middle party) ?_
    cases type with
    | localParty =>
      refine begun.counts_local listed ?_
      rw [created_of_entry (entry_of_look (aside.look party))]
      exact thrifty.left args streamName party due valid (aside.pushes ▸ listed)
    | remoteParty => exact begun.counts_remote listed
  | @abandons args type streamName party due target listed =>
    refine kept.closes (abandon_closes session party) ?_
    cases type with
    | localParty =>
      exact kept.counts_local listed (thrifty.disconnected _ _ party due target listed)
    | remoteParty => exact kept.counts_remote listed
  | @joins args streamName first party new middle after due pushed aside newborn drifts ends =>
    obtain ⟨free, opened, offered⟩ := thrifty.joined _ _ due pushed
    have made := push_kept (kept.aside aside) newborn (aside.pushes ▸ free)
    rw [aside.made] at made
    have own : ((first.make party).updateRoom (·.addPush streamName session.made)).parties
      session.made = party := if_pos aside.made.symm
    have middle := made.1.drifts drifts fun conn listed watched =>
      ⟨by rw [own, newborn.conns conn], fun _ => made.2⟩
    rcases ends with behind | ⟨refused, _⟩
    · exact middle.aside behind
    · exact absurd ⟨opened, offered⟩ refused
  | connects due target newborn drifts ends =>
    obtain ⟨free, goes⟩ := thrifty.connected _ _ due target
    have made := pull_kept kept newborn free
    have middle := made.drifts drifts fun conn listed watched => by
      rw [List.mem_singleton.mp listed] at watched
      cases watched
    rcases ends with behind | ⟨opened, ungot, _⟩
    · exact middle.aside behind
    · rw [goes opened] at ungot
      cases ungot

theorem step_kept (kept : Kept session)
    (thrifty : Thrifty { session with calls := request.calls } request.happening)
    (taken : step session request = some (ended, after)) : Kept after := by
  have start : Kept { session with calls := request.calls } :=
    ⟨⟨kept.named, kept.found⟩, kept.counted⟩
  exact course_kept start thrifty (step_course taken)

theorem start_kept : Kept {} := by
  refine ⟨⟨fun type streamName party listed => ?_, fun party conn _ => ⟨rfl, fun held => ?_⟩⟩,
    fun type => ?_⟩
  · cases type <;> cases listed
  · cases held
  · cases type <;> rfl

end BeeSdk.Signalling
