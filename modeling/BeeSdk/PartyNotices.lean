import BeeSdk.PartyTurn

/-! What the application is told of the parties it pulls: one join, and at most one leaving
behind a join that succeeded. -/
namespace BeeSdk.Signalling
open HttpHeader (Text)
open Script

/-- All that may be told of one remote party. -/
inductive Tale : List (Nat × Int) → Prop where
  | silent : Tale []
  | joined : Tale [(eVideoConfNotify_Remote_Join, 0)]
  | leaved (ec : Int) : Tale [(eVideoConfNotify_Remote_Join, 0), (eVideoConfNotify_Remote_Leaved, ec)]
  | failed (failure : ec ≠ 0) : Tale [(eVideoConfNotify_Remote_Join, ec)]

/-- What has been told of every remote party is a tale, none is said to have joined before both
of its channels are ready, and the tale of one that is closed has come to its end. -/
structure Noticed (session : Session) : Prop where
  tale : ∀ party < session.made, (session.parties party).type = .remoteParty →
    Tale (session.told party)
  ready : ∀ party < session.made, (session.parties party).type = .remoteParty →
    (eVideoConfNotify_Remote_Join, 0) ∈ session.told party →
      (session.parties party).signalReady = true ∧ (session.parties party).mediaReady = true
  ended : ∀ party < session.made, (session.parties party).type = .remoteParty →
    (session.parties party).closed = some true →
      session.told party ≠ [] ∧ session.told party ≠ [(eVideoConfNotify_Remote_Join, 0)]

/-- The party has been made and its closing has not been told. -/
def Session.Live (session : Session) (party : Nat) : Prop :=
  party < session.made ∧ (session.parties party).closed ≠ some true

/-- An order to disconnect that names a live party ends with one more thing told of it. -/
def Answered (session : Session) (request : Request) (after : Session) : Prop :=
  ∀ args type streamName party, request.happening = .disconnectStream args →
    args.target = some (type, streamName) → session.Live party →
    (session.parties party).type = type → (session.parties party).streamNameDisplay = streamName →
      ∃ notice, after.told party = session.told party ++ [notice]

/-- What the steps must not do: a party already closed must not be refused, made ready or
detached, one that is all ready must not be made ready again, one that is not must not be left
or detached without an error, the reason for leaving must be an integer, and no live party
may be disconnected. -/
structure Orderly (session : Session) (request : Request) : Prop where
  refused : ∀ party reply, session.reply request.happening = some (party, reply) →
    (session.parties party).type = .remoteParty →
    reply.Refuses { session with calls := request.calls } party →
      (session.parties party).closed ≠ some true
  ready : ∀ party channel, session.readies request.happening = some (party, channel) →
    (session.parties party).type = .remoteParty →
    ((session.parties party).readied channel).signalReady = true →
    ((session.parties party).readied channel).mediaReady = true →
      (session.parties party).allReady = false ∧ (session.parties party).closed ≠ some true
  detached : ∀ party, session.detaches request.happening = some party →
    (session.parties party).type = .remoteParty →
      (session.parties party).allReady = true ∧ (session.parties party).closed ≠ some true
  left : ∀ args streamName party, request.happening = .leave args → args.valid = true →
    session.room.pullStreamPartyTable.lookup streamName = some party →
      ∃ ec, args.reason.toInteger = some ec ∧ (ec = 0 → (session.parties party).allReady = true)
  disconnected : ∀ args type streamName party, request.happening = .disconnectStream args →
    args.target = some (type, streamName) → session.Live party →
    (session.parties party).type = type → (session.parties party).streamNameDisplay ≠ streamName

/-! ### The story of a party -/

/-- What has been told of a party, and how it stands by then. -/
inductive Story (party : Party) : List (Nat × Int) → Prop where
  | silent (live : party.closed ≠ some true) (early : party.allReady = false) : Story party []
  | joined (live : party.closed ≠ some true) (ready : party.allReady = true)
      (both : party.signalReady = true ∧ party.mediaReady = true) :
      Story party [(eVideoConfNotify_Remote_Join, 0)]
  | leaved (ec : Int) (spent : party.closed = some true)
      (both : party.signalReady = true ∧ party.mediaReady = true) :
      Story party [(eVideoConfNotify_Remote_Join, 0), (eVideoConfNotify_Remote_Leaved, ec)]
  | failed (failure : ec ≠ 0) (spent : party.closed = some true) :
      Story party [(eVideoConfNotify_Remote_Join, ec)]

/-- Every remote party has its story, the table of those pulled holds live ones under their
own names, and nothing is told of a party before it is made, nor can anything reach it. -/
structure Sound (session : Session) : Prop where
  fresh : ∀ party, session.made ≤ party → session.told party = [] ∧ ¬ session.Reaches party
  story : ∀ party < session.made, (session.parties party).type = .remoteParty →
    Story (session.parties party) (session.told party)
  pulled : ∀ streamName party, session.room.pullStreamPartyTable.lookup streamName = some party →
    party < session.made ∧ (session.parties party).type = .remoteParty ∧
      (session.parties party).streamNameDisplay = streamName ∧
      (session.parties party).closed ≠ some true
  pushed : ∀ streamName party, session.room.pushStreamPartyTable.lookup streamName = some party →
    party < session.made ∧ (session.parties party).type = .localParty

theorem Story.of_look {before after : Party} (same : after.look = before.look)
    (story : Story before told) : Story after told := by
  have closed : after.closed = before.closed := congrArg Look.closed same
  have ready : after.allReady = before.allReady := congrArg Look.allReady same
  have signal : after.signalReady = before.signalReady := congrArg Look.signalReady same
  have media : after.mediaReady = before.mediaReady := congrArg Look.mediaReady same
  cases story with
  | silent live early => exact .silent (closed ▸ live) (ready.trans early)
  | joined live early both =>
    exact .joined (closed ▸ live) (ready.trans early) ⟨signal.trans both.1, media.trans both.2⟩
  | leaved ec spent both =>
    exact .leaved ec (closed.trans spent) ⟨signal.trans both.1, media.trans both.2⟩
  | failed failure spent => exact .failed failure (closed.trans spent)

/-- The last thing told of a remote party that was live. -/
theorem Story.close {party : Party} (story : Story party told) (type : party.type = .remoteParty)
    (live : party.closed ≠ some true) (reason : ec = 0 → party.allReady = true) :
    Story party.closeConns.finish (told ++ [(party.closeType, ec)]) := by
  cases story with
  | silent _ early =>
    have failure : ec ≠ 0 := fun none => by
      rw [reason none] at early
      cases early
    have join : party.closeType = eVideoConfNotify_Remote_Join := by
      simp [Party.closeType, early, type]
    rw [join]
    exact .failed failure rfl
  | joined _ ready both =>
    have leave : party.closeType = eVideoConfNotify_Remote_Leaved := by
      simp [Party.closeType, ready, type]
    rw [leave]
    exact .leaved ec rfl both
  | leaved _ spent => exact absurd spent live
  | failed _ spent => exact absurd spent live

theorem Story.tale (story : Story party told) : Tale told := by
  cases story with
  | silent => exact .silent
  | joined => exact .joined
  | leaved ec => exact .leaved ec
  | failed failure => exact .failed failure

theorem Story.ready (story : Story party told)
    (member : (eVideoConfNotify_Remote_Join, (0 : Int)) ∈ told) :
    party.signalReady = true ∧ party.mediaReady = true := by
  cases story with
  | silent => cases member
  | joined _ _ both => exact both
  | leaved _ _ both => exact both
  | failed failure _ => simp [Ne.symm failure] at member

theorem Story.ended (story : Story party told) (spent : party.closed = some true) :
    told ≠ [] ∧ told ≠ [(eVideoConfNotify_Remote_Join, 0)] := by
  cases story with
  | silent live => exact absurd spent live
  | joined live => exact absurd spent live
  | leaved ec _ _ => simp
  | failed failure _ => simp [failure]

theorem Sound.noticed (sound : Sound session) : Noticed session where
  tale party small type := (sound.story party small type).tale
  ready party small type member := (sound.story party small type).ready member
  ended party small type spent := (sound.story party small type).ended spent

/-! ### Turns -/

namespace Sound

theorem aside (sound : Sound before) (aside : Aside before after) : Sound after where
  fresh party large := by
    obtain ⟨silent, apart⟩ := sound.fresh party (aside.made ▸ large)
    refine ⟨(aside.told party).trans silent, fun reaches => apart ?_⟩
    rcases reaches with knows | ⟨conn, held⟩
    · exact .inl (aside.known party knows)
    · exact .inr ⟨conn, aside.conns party ▸ held⟩
  story party small type := by
    rw [aside.told party]
    have same : (after.parties party).type = (before.parties party).type :=
      congrArg Look.type (aside.look party)
    exact (sound.story party (aside.made ▸ small) (same.symm.trans type)).of_look (aside.look party)
  pulled streamName party held := by
    obtain ⟨small, type, name, live⟩ := sound.pulled streamName party (aside.pulls ▸ held)
    have look := aside.look party
    exact ⟨aside.made ▸ small, (congrArg Look.type look).trans type,
      (congrArg Look.streamNameDisplay look).trans name,
      fun spent => live ((congrArg Look.closed look).symm.trans spent)⟩
  pushed streamName party held := by
    obtain ⟨small, type⟩ := sound.pushed streamName party (aside.pushes ▸ held)
    exact ⟨aside.made ▸ small, (congrArg Look.type (aside.look party)).trans type⟩

/-- A turn of one party, whose own story goes on. -/
theorem turn (sound : Sound before) (turn : Turn party before after) (small : party < before.made)
    (story : (after.parties party).type = .remoteParty →
      Story (after.parties party) (after.told party))
    (gone : ∀ streamName, after.room.pullStreamPartyTable.lookup streamName = some party →
      (after.parties party).closed ≠ some true) : Sound after where
  fresh other large := by
    rw [turn.made] at large
    have apart : other ≠ party := by omega
    obtain ⟨silent, unreached⟩ := sound.fresh other large
    refine ⟨(turn.told other apart).trans silent, fun reaches => unreached ?_⟩
    rcases reaches with knows | ⟨conn, held⟩
    · exact .inl ((turn.known other knows).resolve_right apart)
    · exact .inr ⟨conn, turn.conns other apart ▸ held⟩
  story other small' type := by
    by_cases same : other = party
    · rw [same] at type ⊢
      exact story type
    · rw [turn.told other same]
      have look := turn.look other same
      exact (sound.story other (turn.made ▸ small')
        ((congrArg Look.type look).symm.trans type)).of_look look
  pulled streamName other held := by
    obtain ⟨small', type, name, live⟩ := sound.pulled streamName other (turn.pulls _ _ held)
    rw [turn.made]
    by_cases same : other = party
    · rw [same] at held type name ⊢
      exact ⟨small, turn.type.trans type, turn.streamName.trans name, gone streamName held⟩
    · have look := turn.look other same
      exact ⟨small', (congrArg Look.type look).trans type,
        (congrArg Look.streamNameDisplay look).trans name,
        fun spent => live ((congrArg Look.closed look).symm.trans spent)⟩
  pushed streamName other held := by
    obtain ⟨small', type⟩ := sound.pushed streamName other (turn.pushes _ _ held)
    rw [turn.made]
    by_cases same : other = party
    · rw [same] at type ⊢
      exact ⟨small, turn.type.trans type⟩
    · exact ⟨small', (congrArg Look.type (turn.look other same)).trans type⟩

theorem reached (sound : Sound session) (reaches : session.Reaches party) : party < session.made :=
  Nat.lt_of_not_le fun large => (sound.fresh party large).2 reaches

theorem drifts (sound : Sound before) (small : party < before.made)
    (drifts : Drifts party opens new before after) : Sound after := by
  refine sound.turn drifts.turn small (fun type => ?_) fun streamName held spent => ?_
  · rw [drifts.told party]
    exact (sound.story party small (drifts.turn.type.symm.trans type)).of_look drifts.look
  · obtain ⟨_, _, _, live⟩ := sound.pulled streamName party (drifts.turn.pulls _ _ held)
    exact live ((congrArg Look.closed drifts.look).symm.trans spent)

/-- A party that is not registered under its own name is not pulled. -/
theorem unpulled (sound : Sound before) (turn : Turn party before after)
    (unregistered : ¬ after.Registered party) (streamName : Text) :
    after.room.pullStreamPartyTable.lookup streamName ≠ some party := by
  intro held
  obtain ⟨_, type, name, _⟩ := sound.pulled streamName party (turn.pulls _ _ held)
  apply unregistered
  unfold Session.Registered
  rw [turn.type, type, turn.streamName, name]
  exact held

theorem shut (sound : Sound session) (small : party < session.made)
    (live : (session.parties party).type = .remoteParty →
      (session.parties party).closed ≠ some true ∧
        (ec = 0 → (session.parties party).allReady = true)) :
    Sound (session.shut party ec) := by
  have turn := shut_turn session party ec
  refine sound.turn turn small (fun type => ?_) fun streamName held =>
    absurd held (sound.unpulled turn (shut_unregistered session party ec) streamName)
  have remote := turn.type.symm.trans type
  rw [shut_parties, shut_told]
  exact (sound.story party small remote).close remote (live remote).1 (live remote).2

theorem fail (sound : Sound session) (small : party < session.made) (failure : ec ≠ 0)
    (live : (session.parties party).type = .remoteParty →
      (session.parties party).closed ≠ some true) :
    Sound (session.fail party ec) := by
  have turn := fail_turn session party ec
  refine sound.turn turn small (fun type => ?_) fun streamName held =>
    absurd held (sound.unpulled turn (fail_unregistered session party ec) streamName)
  have remote := turn.type.symm.trans type
  rw [fail_parties, fail_told]
  exact (sound.story party small remote).close remote (live remote) fun none => absurd none failure

theorem abandon (sound : Sound session) (small : party < session.made) :
    Sound (session.abandon party) := by
  have turn := abandon_turn session party
  have own : (session.abandon party).parties party = (session.parties party).closeConns :=
    Session.updateParty_self ..
  refine sound.turn turn small (fun type => ?_) fun streamName held => ?_
  · have told : (session.abandon party).told party = session.told party := rfl
    have look : (session.parties party).closeConns.look = (session.parties party).look := rfl
    rw [own, told]
    exact (sound.story party small (turn.type.symm.trans type)).of_look look
  · rw [own]
    exact (sound.pulled streamName party (turn.pulls _ _ held)).2.2.2

theorem readied (sound : Sound session) (small : party < session.made) (channel : Channel) :
    Sound (session.updateParty party (·.readied channel)) := by
  have turn := readied_turn session party channel
  refine sound.turn turn small (fun type => ?_) fun streamName held => ?_
  · have story := sound.story party small (turn.type.symm.trans type)
    rw [Session.updateParty_self]
    show Story _ (session.told party)
    generalize session.told party = told at story ⊢
    cases story with
    | silent live early =>
      exact .silent (mt (readied_closed _ _).mp live) (by cases channel <;> exact early)
    | joined live ready both =>
      exact .joined (mt (readied_closed _ _).mp live) (by cases channel <;> exact ready)
        (by cases channel <;> simp [Party.readied, both])
    | leaved ec spent both =>
      exact .leaved ec ((readied_closed _ _).mpr spent)
        (by cases channel <;> simp [Party.readied, both])
    | failed failure spent => exact .failed failure ((readied_closed _ _).mpr spent)
  · rw [Session.updateParty_self]
    exact mt (readied_closed _ _).mp (sound.pulled streamName party (turn.pulls _ _ held)).2.2.2

/-- A party is told to have joined the first time all of it is ready. -/
theorem welcome (sound : Sound session) (small : party < session.made)
    (type : (session.parties party).type = .remoteParty)
    (both : (session.parties party).signalReady = true ∧ (session.parties party).mediaReady = true)
    (early : (session.parties party).allReady = false)
    (live : (session.parties party).closed ≠ some true) : Sound (session.welcome party) := by
  have turn : Turn party session (session.welcome party) :=
    (notify_turn session party _).trans (update_turn _ party (fun _ => rfl) fun _ => rfl)
  have own : (session.welcome party).parties party =
    { session.parties party with allReady := true } := Session.updateParty_self ..
  have told : (session.welcome party).told party =
      session.told party ++ [(eVideoConfNotify_Remote_Join, 0)] := by
    rw [told_append session (session.welcome party) _ party rfl]
    simp [Entry.report]
  refine sound.turn turn small (fun _ => ?_) fun streamName held => ?_
  · rw [own, told]
    have story := sound.story party small type
    generalize session.told party = told at story ⊢
    cases story with
    | silent => exact .joined live rfl both
    | joined _ ready =>
      rw [early] at ready
      cases ready
    | leaved _ spent => exact absurd spent live
    | failed _ spent => exact absurd spent live
  · rw [own]
    exact live

theorem local_turn (sound : Sound before) (turn : Turn party before after)
    (small : party < before.made) (type : (before.parties party).type = .localParty) :
    Sound after := by
  refine sound.turn turn small (fun remote => ?_) fun streamName held => ?_
  · rw [turn.type, type] at remote
    cases remote
  · have remote := (sound.pulled streamName party (turn.pulls _ _ held)).2.1
    rw [type] at remote
    cases remote

/-! ### New parties -/

theorem make {table : VideoRoom → VideoRoom} (sound : Sound session)
    (newborn : Newborn type streamName party)
    (pulls : ∀ name other, (table session.room).pullStreamPartyTable.lookup name = some other →
      session.room.pullStreamPartyTable.lookup name = some other ∨
        type = .remoteParty ∧ name = streamName ∧ other = session.made)
    (pushes : ∀ name other, (table session.room).pushStreamPartyTable.lookup name = some other →
      session.room.pushStreamPartyTable.lookup name = some other ∨
        type = .localParty ∧ other = session.made) :
    Sound ((session.make party).updateRoom table) where
  fresh other large := by
    have old : session.made ≤ other := Nat.le_of_succ_le large
    have apart : other ≠ session.made := Nat.ne_of_gt large
    obtain ⟨silent, unreached⟩ := sound.fresh other old
    refine ⟨silent, fun reaches => unreached ?_⟩
    rcases reaches with knows | ⟨conn, held⟩
    · exact .inl knows
    · have same : ((session.make party).updateRoom table).parties other = session.parties other :=
        if_neg apart
      exact .inr ⟨conn, same ▸ held⟩
  story other small remote := by
    by_cases same : other = session.made
    · have own : ((session.make party).updateRoom table).parties other = party := if_pos same
      have silent := (sound.fresh other (Nat.le_of_eq same.symm)).1
      rw [own]
      show Story party (session.told other)
      rw [silent]
      exact .silent (by simp [newborn.open.1]) newborn.early.2.2
    · have own : ((session.make party).updateRoom table).parties other = session.parties other :=
        if_neg same
      have small' : other < session.made := Nat.lt_of_le_of_ne (Nat.le_of_lt_succ small) same
      rw [own] at remote ⊢
      exact sound.story other small' remote
  pulled name other held := by
    rcases pulls name other held with old | ⟨remote, named, rfl⟩
    · obtain ⟨small, type, name, live⟩ := sound.pulled name other old
      have own : ((session.make party).updateRoom table).parties other = session.parties other :=
        if_neg (Nat.ne_of_lt small)
      rw [own]
      exact ⟨Nat.lt_succ_of_lt small, type, name, live⟩
    · have own : ((session.make party).updateRoom table).parties session.made = party := if_pos rfl
      rw [own]
      exact ⟨Nat.lt_succ_self _, newborn.type.trans remote, newborn.streamName.trans named.symm,
        by simp [newborn.open.1]⟩
  pushed name other held := by
    rcases pushes name other held with old | ⟨own, rfl⟩
    · obtain ⟨small, type⟩ := sound.pushed name other old
      have same : ((session.make party).updateRoom table).parties other = session.parties other :=
        if_neg (Nat.ne_of_lt small)
      rw [same]
      exact ⟨Nat.lt_succ_of_lt small, type⟩
    · have same : ((session.make party).updateRoom table).parties session.made = party := if_pos rfl
      rw [same]
      exact ⟨Nat.lt_succ_self _, newborn.type.trans own⟩

theorem makePull (sound : Sound session) (newborn : Newborn .remoteParty streamName party) :
    Sound ((session.make party).updateRoom (·.addPull streamName session.made)) :=
  sound.make newborn
    (fun _ _ held => (lookup_of_insert held).imp id fun ⟨named, same⟩ => ⟨rfl, named, same⟩)
    fun _ _ => .inl

theorem makePush (sound : Sound session) (newborn : Newborn .localParty streamName party) :
    Sound ((session.make party).updateRoom (·.addPush streamName session.made)) :=
  sound.make newborn (fun _ _ => .inl)
    fun _ _ held => (lookup_of_insert held).imp id fun ⟨_, same⟩ => ⟨rfl, same⟩

/-- A party that fails as soon as it is made has not been closed before. -/
theorem newborn_fails (sound : Sound before) (newborn : Newborn type streamName made)
    (own : before.parties party = made) (small : party < before.made)
    (drifts : Drifts party opens new before middle) (failure : ec ≠ 0) :
    Sound (middle.fail party ec) := by
  refine (sound.drifts small drifts).fail (drifts.made ▸ small) failure fun _ spent => ?_
  have closed : (middle.parties party).closed = (before.parties party).closed :=
    congrArg Look.closed drifts.look
  rw [closed, own, newborn.open.1] at spent
  cases spent

/-! ### Leaving -/

/-- Where parties may be left without an error, those that are pulled are all ready. -/
def Ready (zero : Prop) (session : Session) : Prop :=
  zero → ∀ streamName party, session.room.pullStreamPartyTable.lookup streamName = some party →
    (session.parties party).allReady = true

theorem ready_shut {zero : Prop} (sound : Sound session) (ready : Ready zero session) (party : Nat)
    (ec : Int) : Ready zero (session.shut party ec) := by
  have turn := shut_turn session party ec
  intro free streamName other held
  have apart : other ≠ party := by
    rintro rfl
    exact sound.unpulled turn (shut_unregistered session other ec) streamName held
  exact (congrArg Look.allReady (turn.look other apart)).trans
    (ready free streamName other (turn.pulls _ _ held))

theorem leavesPushes {choice : Party → Int → Prop} {zero : Prop} {before after : Session}
    (leaves : Leaves (·.pushStreamPartyTable) choice before after) (sound : Sound before)
    (ready : Ready zero before) : Sound after ∧ Ready zero after := by
  induction leaves with
  | done => exact ⟨sound, ready⟩
  | leaves listed chosen rest ih =>
    obtain ⟨small, type⟩ := sound.pushed _ _ listed
    refine ih (sound.shut small fun remote => ?_) (ready_shut sound ready _ _)
    rw [type] at remote
    cases remote

theorem leavesPulls {choice : Party → Int → Prop} {zero : Prop} {before after : Session}
    (leaves : Leaves (·.pullStreamPartyTable) choice before after) (sound : Sound before)
    (ready : Ready zero before)
    (granted : ∀ party, choice party 0 → zero ∨ party.allReady = true) : Sound after := by
  induction leaves with
  | done => exact sound
  | leaves listed chosen rest ih =>
    obtain ⟨small, type, _, live⟩ := sound.pulled _ _ listed
    refine ih (sound.shut small fun _ => ⟨live, fun none => ?_⟩) (ready_shut sound ready _ _)
    rw [none] at chosen
    exact (granted _ chosen).elim (fun free => ready free _ _ listed) id

end Sound

/-! ### Runs -/

theorem course_sound {session : Session} {request : Request} (sound : Sound session)
    (orderly : Orderly session request) (calls : session.calls = request.calls)
    (course : Course session request.happening after) : Sound after := by
  cases course with
  | aside aside => exact sound.aside aside
  | getsOn due reached drifts aside => exact (sound.drifts (sound.reached reached) drifts).aside aside
  | @refuses party reply new middle ec _ due reached refused drifts failure aside =>
    have small := sound.reached reached
    refine ((sound.drifts small drifts).fail (drifts.made ▸ small) failure fun type spent => ?_).aside aside
    have same : { session with calls := request.calls } = session := by rw [← calls]
    exact orderly.refused party reply due (drifts.turn.type.symm.trans type) (same ▸ refused)
      ((congrArg Look.closed drifts.look).symm.trans spent)
  | iceFails due reached alive =>
    exact sound.fail (sound.reached reached) (by decide) fun _ => by simp [alive]
  | halfReady due reached half => exact sound.readied (sound.reached reached) _
  | @welcome party channel due reached type both =>
    have small := sound.reached reached
    have own : (session.updateParty party (·.readied channel)).parties party =
      (session.parties party).readied channel := Session.updateParty_self ..
    obtain ⟨early, live⟩ := orderly.ready party channel due type both.1 both.2
    refine (sound.readied small channel).welcome small ?_ ?_ ?_ ?_
    · rw [own, readied_type, type]
    · rw [own]
      exact both
    · rw [own]
      cases channel <;> exact early
    · rw [own]
      exact mt (readied_closed _ _).mp live
  | @announce party channel middle all due reached type both aside =>
    have small := sound.reached reached
    have readied := readied_turn session party channel
    have type' := readied.type.trans type
    have announced := announce_turn (session.updateParty party (·.readied channel)) party
    have told := ((sound.readied small channel).local_turn announced small type').aside aside
    exact told.local_turn (update_turn middle party (fun _ => rfl) fun _ => rfl) (aside.made ▸ small)
      ((congrArg Look.type (aside.look party)).trans (announced.type.trans type'))
  | detaches due known =>
    exact sound.shut (sound.reached (.inl known)) fun type =>
      ⟨(orderly.detached _ due type).2, fun _ => (orderly.detached _ due type).1⟩
  | @leaves args ec first second _ due valid reason aside pushes pulls =>
    have ready : Sound.Ready (ec = 0) first := by
      intro none streamName party held
      obtain ⟨ec', reason', ready⟩ := orderly.left args streamName party due valid (aside.pulls ▸ held)
      rw [reason] at reason'
      cases reason'
      exact (congrArg Look.allReady (aside.look party)).trans (ready none)
    obtain ⟨sound, ready⟩ := Sound.leavesPushes pushes (sound.aside aside) ready
    exact Sound.leavesPulls pulls sound ready fun _ none => .inl none.symm
  | unlists due aside pulls behind =>
    refine (Sound.leavesPulls pulls (sound.aside aside)
      (show Sound.Ready False _ from fun none => none.elim) fun party unlisted => .inr ?_).aside behind
    unfold UnlistedReason at unlisted
    cases ready : party.allReady with
    | true => rfl
    | false => simp [ready] at unlisted
  | @abandonsLeaving args middle type streamName party due valid reason aside listed =>
    have sound := sound.aside aside
    cases type with
    | localParty => exact sound.abandon (sound.pushed _ _ listed).1
    | remoteParty => exact sound.abandon (sound.pulled _ _ listed).1
  | @abandons args type streamName party due target listed =>
    cases type with
    | localParty => exact sound.abandon (sound.pushed _ _ listed).1
    | remoteParty => exact sound.abandon (sound.pulled _ _ listed).1
  | @joins args streamName first party new middle _ due pushed aside newborn drifts ends =>
    have made := (sound.aside aside).makePush newborn
    rw [aside.made] at made
    have small : session.made <
        ((first.make party).updateRoom (·.addPush streamName session.made)).made := by
      show session.made < first.made + 1
      rw [aside.made]
      exact Nat.lt_succ_self _
    rcases ends with behind | ⟨_, ec, failure, behind⟩
    · exact (made.drifts small drifts).aside behind
    · exact (made.newborn_fails newborn (if_pos aside.made.symm) small drifts failure).aside behind
  | connects due target newborn drifts ends =>
    have made := sound.makePull newborn
    rcases ends with behind | ⟨_, _, rfl⟩
    · exact (made.drifts (Nat.lt_succ_self _) drifts).aside behind
    · exact made.newborn_fails newborn (if_pos rfl) (Nat.lt_succ_self _) drifts (by decide)

theorem step_sound (sound : Sound session) (orderly : Orderly session request)
    (taken : step session request = some (ended, after)) : Sound after := by
  have start : Sound { session with calls := request.calls } :=
    ⟨sound.fresh, sound.story, sound.pulled, sound.pushed⟩
  exact course_sound start ⟨orderly.refused, orderly.ready, orderly.detached, orderly.left,
    orderly.disconnected⟩ rfl (step_course taken)

theorem start_sound : Sound {} where
  fresh party _ := by
    refine ⟨rfl, fun reaches => ?_⟩
    rcases reaches with (⟨key, filed⟩ | ⟨id, transaction, cb, filed, _⟩) | ⟨conn, held⟩
    · cases filed
    · cases filed
    · cases held
  story party small := absurd small (Nat.not_lt_zero party)
  pulled _ _ held := by cases held
  pushed _ _ held := by cases held

/-- Nothing is asked of an order that names no live party. -/
theorem step_answered (orderly : Orderly session request) : Answered session request after := by
  intro args type streamName party due target live same named
  exact absurd named (orderly.disconnected args type streamName party due target live same)

/-- Whatever it names, an order to disconnect tells nothing of any party. -/
theorem disconnect_silent (session : Session) (args : DisconnectArgs) (party : Nat) :
    (VideoRoom.disconnectStream args session).2.told party = session.told party := by
  have course := disconnect_course session args
  generalize (VideoRoom.disconnectStream args session).2 = after at course ⊢
  cases course with
  | aside aside => exact aside.told party
  | abandons => rfl
  | getsOn due => cases due
  | refuses due => cases due
  | iceFails due => cases due
  | halfReady due => cases due
  | welcome due => cases due
  | announce due => cases due
  | detaches due => cases due
  | leaves due => cases due
  | unlists due => cases due
  | abandonsLeaving due => cases due
  | joins due => cases due
  | connects due => cases due

/-- What brings a stream as far as asking its server for a handle. -/
def openings : List Request := [
  { happening := .connectStream {
    roomName := some "room".toList, streamName := some "camera".toList, uid := some "7".toList } },
  { happening := .callsBack 0 (.masterdReply 0 (some (.object [
    ("sche_url".toList, .string "s".toList)]))) },
  { happening := .callsBack 0 (.scheduledReply 0 (some (.object [
    ("code".toList, .integer 1),
    ("info".toList, .object [("webrtc_url".toList, .string "w".toList),
      ("stream_name".toList, .string "n".toList)])]))) },
  { happening := .callsBack 0 (.janusConnectResult true) }]

/-- A message of the server of the stream. -/
def serverSends (kind : String) (fields : List (Text × LuaValue)) : Request where
  happening := .callsBack 0 (.janusData (some (.object (("bee".toList, .string kind.toList) :: fields))))

/-- The server gives the stream its handle, which listens with it. -/
def handleGiven : Request := serverSends "success" [("transaction".toList, .string (transactionId 0)),
  ("data".toList, .object [("sid".toList, .integer 3), ("hid".toList, .integer 4)])]

/-- The stream is attached, both its channels become ready, and the room is left. -/
def joinedAndLeft : List Request := openings ++ [handleGiven,
  serverSends "success" [("transaction".toList, .string (transactionId 1)),
    ("plugindata".toList, .object [("data".toList,
      .object [("videoroom".toList, .string "attached".toList)])]),
    ("jsep".toList, .string "v".toList)],
  serverSends "webrtcup" [("session_id".toList, .integer 3), ("sender".toList, .integer 4)],
  { happening := .callsBack 0 .mediaReady },
  { happening := .leave { roomName := some "room".toList, reason := .integer 0 } }]


/-- A callback that finds its party live, and makes only such a one ready as is not yet. -/
theorem orderly_of_callback {session : Session} {request : Request}
    (live : ∀ party reply, session.reply request.happening = some (party, reply) →
      (session.parties party).closed ≠ some true)
    (early : ∀ party channel, session.readies request.happening = some (party, channel) →
      (session.parties party).allReady = false ∧ (session.parties party).closed ≠ some true)
    (attached : session.detaches request.happening = none)
    (called : ∃ party callback, request.happening = .callsBack party callback) :
    Orderly session request where
  refused party reply replies _ _ := live party reply replies
  ready party channel readies _ _ _ := early party channel readies
  detached party detaches := by
    rw [attached] at detaches
    cases detaches
  left _ _ _ leaves := by
    obtain ⟨_, _, calls⟩ := called
    rw [calls] at leaves
    cases leaves
  disconnected _ _ _ _ orders := by
    obtain ⟨_, _, calls⟩ := called
    rw [calls] at orders
    cases orders

theorem listed_alone {table : AList fun _ : Text => Nat} (listed : table.lookup streamName = some party)
    (alone : table.entries = [⟨name, other⟩]) : party = other := by
  have mem := List.of_mem_dlookup listed
  rw [alone, List.mem_singleton] at mem
  cases mem
  rfl

theorem joined_and_left_orderly : Runs.AllSteps step Orderly {} joinedAndLeft := by
  refine ⟨⟨?_, ?_, ?_, ?_, ?_⟩, fun _ _ taken => ?_⟩
  · rintro _ _ ⟨⟩
  · rintro _ _ ⟨⟩
  · rintro _ ⟨⟩
  · rintro _ _ _ ⟨⟩
  · rintro _ _ _ _ ⟨⟩
  iterate 5
    cases taken
    refine ⟨orderly_of_callback ?_ ?_ rfl ⟨_, _, rfl⟩, fun _ _ taken => ?_⟩
    · rintro _ _ ⟨⟩ ⟨⟩
    · rintro _ _ ⟨⟩
  iterate 2
    cases taken
    refine ⟨orderly_of_callback ?_ ?_ rfl ⟨_, _, rfl⟩, fun _ _ taken => ?_⟩
    · rintro _ _ ⟨⟩
    · rintro _ _ ⟨⟩
      exact ⟨rfl, by rintro ⟨⟩⟩
  cases taken
  refine ⟨⟨?_, ?_, ?_, ?_, ?_⟩, fun _ _ _ => trivial⟩
  · rintro _ _ ⟨⟩
  · rintro _ _ ⟨⟩
  · rintro _ ⟨⟩
  · rintro _ streamName party ⟨⟩ _ listed
    have first := @listed_alone streamName party "camera".toList 0 _ listed rfl
    clear listed
    subst first
    exact ⟨0, rfl, fun _ => rfl⟩
  · rintro _ _ _ _ ⟨⟩

end BeeSdk.Signalling
