import BeeSdk.TransactionLedgerProofs

/-! Candidates, from a party that gathers them to the messages they are sent in. Until it has a
list of its own a party queues in the table of the class, which all parties share: what one of
them has left there is found by the next one that publishes. -/
namespace BeeSdk.Signalling
open HttpHeader (Text)
open Script
open Runs

/-! ### Gathered and sent -/

namespace Entry

def gatheredBy (party : Nat) : Entry → Option Text
  | .gathers gatherer candidate => if gatherer = party then some candidate else none
  | _ => none

def sentBy (party : Nat) : Entry → Option Text
  | .trickles sender _ _ candidate => if sender = party then some candidate else none
  | _ => none

/-- No candidate has to do with it. -/
def Still (entry : Entry) : Prop :=
  ∀ party, entry.gatheredBy party = none ∧ entry.sentBy party = none

end Entry

namespace Session

/-- The candidates of a party in the order they are gathered in. The completed marker is gathered
like a candidate. -/
def gathered (session : Session) (party : Nat) : List Text :=
  session.history.filterMap (Entry.gatheredBy party)

/-- The candidates that are sent on behalf of a party. -/
def sent (session : Session) (party : Nat) : List Text :=
  session.history.filterMap (Entry.sentBy party)

def unsent (session : Session) (party : Nat) : List Text :=
  (session.gathered party).drop (session.sent party).length

end Session

/-- What is trickled carries the ids its party was given, as they were written. -/
def TricklesOwn (before after : Session) : Prop :=
  ∃ new, after.history = before.history ++ new ∧
    ∀ party sid hid candidate, .trickles party sid hid candidate ∈ new →
      (after.parties party).sessionId.written = some sid ∧
        (after.parties party).handle.written = some hid

/-- The claim of one step. What is sent for a party is the beginning of what it has gathered, and
all of it once the party has its handle. -/
structure Delivered (before after : Session) : Prop where
  order : ∀ party, after.sent party <+: after.gathered party
  whole : ∀ party, (after.parties party).wired = true → after.sent party = after.gathered party
  own : TricklesOwn before after

/-! ### What is asked of a step -/

/-- A party with a handle has ids that are printed as they were written, and its candidates are
written. -/
def Session.Sends (session : Session) (party : Nat) : Prop :=
  (session.parties party).wired = true →
    (session.parties party).printable = true ∧ (session.parties party).sessionId.kept = true ∧
      (session.parties party).handle.kept = true ∧ session.calls.trickles = true

/-- The reply gives the party a handle, and the party is not closed at once. -/
def Session.Granted (session : Session) (party : Nat) (body : LuaValue) : Prop :=
  body.indexable = true ∧ (body.get "data").indexable = true ∧
    ((session.handled party ((body.get "data").get "sid") ((body.get "data").get "hid")).parties
      party).wired = true ∧ handleVerdict session party true body ≠ .refuses 38

/-- A local party that queues in the table of the class finds there what it has gathered itself
and not yet sent, and what it publishes is written, with the ids as they were. Any other party has
nothing to publish. -/
def Session.FindsOwn (session : Session) (party : Nat) (body : LuaValue) : Prop :=
  if (session.parties party).type = .localParty ∧ handleVerdict session party true body ≠ .raises then
    ((session.parties party).candidateList = none → session.candidateList = session.unsent party) ∧
      (session.unsent party ≠ [] → session.calls.trickles = true ∧
        ((body.get "data").get "sid").kept = true ∧ ((body.get "data").get "hid").kept = true)
  else session.unsent party = []

namespace Happening

def Careful (session : Session) : Happening → Prop
  | .callsBack party (.iceCandidate _) => session.Sends party
  | .callsBack party (.iceGatheringChange newState) =>
    newState = eIceGathering_Completed → session.Sends party
  | .callsBack party (.scheduledReply ec1 body) =>
    scheduledVerdict session.calls ec1 body = .asks →
      (session.parties party).sessionId.truthy = true → (session.parties party).handle.truthy = true →
        session.unsent party = []
  | .callsBack _ (.janusData (some jsonData)) =>
    match session.janusReply jsonData with
    | some (party, .handle true body) => session.Granted party body → session.FindsOwn party body
    | _ => True
  | _ => True

end Happening

/-- The session as a request finds it. -/
def Session.facing (session : Session) (request : Request) : Session :=
  { session with calls := request.calls }

def Careful (session : Session) (request : Request) : Prop :=
  request.happening.Careful (session.facing request)

instance (session : Session) (party : Nat) : Decidable (session.Sends party) := by
  unfold Session.Sends
  infer_instance

instance (session : Session) (party : Nat) (body : LuaValue) :
    Decidable (session.Granted party body → session.FindsOwn party body) := by
  unfold Session.Granted Session.FindsOwn
  infer_instance

instance (session : Session) (request : Request) : Decidable (Careful session request) := by
  unfold Careful Happening.Careful
  split
  · infer_instance
  · infer_instance
  · infer_instance
  · split <;> infer_instance
  · infer_instance

/-! ### A party's share -/

/-- What holds of a party and its candidates between two steps. -/
structure Session.Fair (session : Session) (party : Nat) : Prop where
  order : session.sent party <+: session.gathered party
  whole : (session.parties party).wired = true → session.sent party = session.gathered party
  queued : ∀ list, (session.parties party).candidateList = some list →
    session.gathered party = session.sent party ++ list

def Stills (before after : Session) : Prop :=
  ∃ new, after.history = before.history ++ new ∧ ∀ entry ∈ new, entry.Still

section
variable {before after : Session} {new : List Entry} {party : Nat}

theorem sent_of_history (party : Nat)
    (history : after.history = before.history ++ new) :
    after.sent party = before.sent party ++ new.filterMap (Entry.sentBy party) := by
  unfold Session.sent
  rw [history, List.filterMap_append]

theorem gathered_of_history (party : Nat)
    (history : after.history = before.history ++ new) :
    after.gathered party = before.gathered party ++ new.filterMap (Entry.gatheredBy party) := by
  unfold Session.gathered
  rw [history, List.filterMap_append]

theorem Stills.sent (stills : Stills before after) (party : Nat) :
    after.sent party = before.sent party := by
  obtain ⟨new, history, still⟩ := stills
  rw [sent_of_history _ history, List.filterMap_eq_nil_iff.mpr fun entry member =>
    (still entry member party).2, List.append_nil]

theorem Stills.gathered (stills : Stills before after) (party : Nat) :
    after.gathered party = before.gathered party := by
  obtain ⟨new, history, still⟩ := stills
  rw [gathered_of_history _ history, List.filterMap_eq_nil_iff.mpr fun entry member =>
    (still entry member party).1, List.append_nil]

theorem Stills.tricklesOwn (stills : Stills before after) : TricklesOwn before after := by
  obtain ⟨new, history, still⟩ := stills
  refine ⟨new, history, fun party sid hid candidate member => ?_⟩
  have silent := (still _ member party).2
  simp [Entry.sentBy] at silent

theorem sentBy_trickles (list : List Text) (sender party : Nat) (sid hid : Int) :
    (list.map (Entry.trickles sender sid hid)).filterMap (Entry.sentBy party) =
      if sender = party then list else [] := by
  rw [List.filterMap_map]
  split
  · rename_i same
    simp [Entry.sentBy, same]
  · rename_i apart
    simp [Function.comp_def, Entry.sentBy, apart]

theorem gatheredBy_trickles (list : List Text) (sender party : Nat) (sid hid : Int) :
    (list.map (Entry.trickles sender sid hid)).filterMap (Entry.gatheredBy party) = [] := by
  rw [List.filterMap_map]
  simp [Function.comp_def, Entry.gatheredBy]

theorem sent_append_unsent (order : before.sent party <+: before.gathered party) :
    before.sent party ++ before.unsent party = before.gathered party :=
  List.prefix_iff_eq_append.mp order

/-- A party whose handle has not come up since, or that has nothing left to send. -/
theorem Session.Fair.of_stills (fair : before.Fair party) (stills : Stills before after)
    (own : ∀ list, (after.parties party).candidateList = some list →
      (before.parties party).candidateList = some list)
    (wired : (after.parties party).wired = true →
      (before.parties party).wired = true ∨ before.unsent party = []) : after.Fair party := by
  refine ⟨?_, fun after => ?_, fun list listed => ?_⟩
  · rw [stills.sent, stills.gathered]
    exact fair.order
  · rw [stills.sent, stills.gathered]
    rcases wired after with before | none
    · exact fair.whole before
    · rw [← sent_append_unsent fair.order, none, List.append_nil]
  · rw [stills.sent, stills.gathered]
    exact fair.queued list (own list listed)

theorem Session.Fair.of_same (fair : before.Fair party) (sent : after.sent party = before.sent party)
    (gathered : after.gathered party = before.gathered party)
    (parties : after.parties party = before.parties party) : after.Fair party := by
  refine ⟨?_, fun wired => ?_, fun list listed => ?_⟩
  · rw [sent, gathered]
    exact fair.order
  · rw [sent, gathered]
    exact fair.whole (parties ▸ wired)
  · rw [sent, gathered]
    exact fair.queued list (parties ▸ listed)

end

/-! ### Steps in which no candidate passes -/

/-- No candidate passes, no party gets a list, and none but those excepted a handle. -/
structure Quiet (but : Nat → Prop) (before after : Session) : Prop where
  stills : Stills before after
  own : ∀ party list, (after.parties party).candidateList = some list →
    (before.parties party).candidateList = some list
  wired : ∀ party, ¬ but party → (after.parties party).wired = true →
    (before.parties party).wired = true

instance quiet_frame (but : Nat → Prop) : Frame (Quiet but) where
  refl _ := ⟨⟨[], (List.append_nil _).symm, by simp⟩, fun _ _ => id, fun _ _ => id⟩
  trans first second := by
    obtain ⟨new, history, still⟩ := first.stills
    obtain ⟨new', history', still'⟩ := second.stills
    refine ⟨⟨new ++ new', by rw [history', history, List.append_assoc], fun entry member => ?_⟩,
      fun party list listed => first.own party list (second.own party list listed),
      fun party plain wired => first.wired party plain (second.wired party plain wired)⟩
    exact (List.mem_append.mp member).elim (still entry) (still' entry)

theorem Quiet.same {before after : Session} (history : after.history = before.history)
    (parties : after.parties = before.parties) : Quiet but before after :=
  ⟨⟨[], by rw [history, List.append_nil], by simp⟩, fun _ _ listed => parties ▸ listed,
    fun _ _ wired => parties ▸ wired⟩

theorem Mild.wired {before after : Party} (mild : Mild before after) (wired : after.wired = true) :
    before.wired = true := by
  have sessionId : after.sessionId = before.sessionId := congrArg Wires.sessionId mild.wires
  have handle : after.handle = before.handle := congrArg Wires.handle mild.wires
  simp only [Party.wired, Bool.and_eq_true, sessionId, handle] at wired ⊢
  exact ⟨⟨mild.janus wired.1.1, wired.1.2⟩, wired.2⟩

instance quiet_keeps (but : Nat → Prop) : Keeps (Quiet but) where
  room _ _ _ := .same rfl rfl
  party session party change mild := by
    refine ⟨⟨[], (List.append_nil _).symm, by simp⟩, fun other list listed => ?_, fun other _ wired => ?_⟩
    · by_cases same : other = party
      · rw [same, Session.updateParty_self] at listed
        rw [same]
        exact (congrArg Wires.candidateList (mild _).wires).symm.trans listed
      · rwa [Session.updateParty_other _ _ _ same] at listed
    · by_cases same : other = party
      · rw [same, Session.updateParty_self] at wired
        rw [same]
        exact (mild _).wired wired
      · rwa [Session.updateParty_other _ _ _ same] at wired
  make session party _ wires free := by
    refine ⟨⟨[], (List.append_nil _).symm, by simp⟩, fun other list listed => ?_, fun other _ wired => ?_⟩
    · by_cases same : other = session.made
      · have new : (session.make party).parties other = party := if_pos same
        have none : party.candidateList = none := congrArg Wires.candidateList wires
        rw [new, none] at listed
        cases listed
      · have old : (session.make party).parties other = session.parties other := if_neg same
        exact old ▸ listed
    · by_cases same : other = session.made
      · have new : (session.make party).parties other = party := if_pos same
        rw [new] at wired
        simp [Party.wired, free] at wired
      · have old : (session.make party).parties other = session.parties other := if_neg same
        exact old ▸ wired
  enter session entry plain := by
    refine ⟨⟨[entry], rfl, fun other member party => ?_⟩, fun _ _ => id, fun _ _ => id⟩
    rw [List.mem_singleton.mp member]
    cases entry with
    | gathers _ _ => exact plain.elim
    | trickles _ _ _ _ => exact plain.elim
    | _ => exact ⟨rfl, rfl⟩
  fileHandle _ _ _ := .same rfl rfl
  forgetHandle _ _ := .same rfl rfl
  ack _ _ _ _ := .same rfl rfl
  removeTransaction _ _ := .same rfl rfl

theorem transacts_quiet (but : Nat → Prop) : Transacts (Quiet but) := fun _ _ _ => .same rfl rfl

/-! ### Single steps -/

/-- What is sent carries the party's own ids, and every party is as it should be. -/
def Delivers (session after : Session) : Prop :=
  TricklesOwn session after ∧ ∀ party, after.Fair party

section
variable {session : Session} {party : Nat}

theorem Delivers.of_quiet (fair : ∀ party, session.Fair party) {after : Session}
    (quiet : Quiet but session after)
    (excepted : ∀ party, but party → (after.parties party).wired = true → session.unsent party = []) :
    Delivers session after := by
  refine ⟨quiet.stills.tricklesOwn, fun party => ?_⟩
  refine (fair party).of_stills quiet.stills (quiet.own party) fun wired => ?_
  by_cases plain : but party
  · exact .inr (excepted party plain wired)
  · exact .inl (quiet.wired party plain wired)

theorem Delivers.of_apart (fair : ∀ party, session.Fair party) {after : Session}
    (quiet : Quiet (fun _ => False) session after) : Delivers session after :=
  .of_quiet fair quiet fun _ none => False.elim none

/-- A party that gets on may open the connection to its server. -/
theorem Moves.quiet_but {after : Session} (moves : Moves party opens new session after) :
    Quiet (· = party) session after := by
  refine ⟨⟨new, moves.history, fun entry member => ?_⟩, fun other list listed => ?_,
    fun other apart wired => by rwa [moves.others other apart] at wired⟩
  · obtain ⟨request, rfl⟩ := moves.quiet entry member
    exact fun _ => ⟨rfl, rfl⟩
  · by_cases same : other = party
    · subst same
      exact (congrArg Wires.candidateList moves.wires).symm.trans listed
    · rwa [moves.others other same] at listed

theorem Moves.ids {after : Session} (moves : Moves party opens new session after) :
    (after.parties party).sessionId = (session.parties party).sessionId ∧
      (after.parties party).handle = (session.parties party).handle :=
  ⟨congrArg Wires.sessionId moves.wires, congrArg Wires.handle moves.wires⟩

theorem Moves.wired {after : Session} (moves : Moves party [] new session after) :
    (after.parties party).wired = (session.parties party).wired := by
  have janus := (moves.conns .janus).resolve_right (by simp)
  obtain ⟨sessionId, handle⟩ := moves.ids
  rw [Party.wired, Party.wired, janus, sessionId, handle]

theorem Moves.quiet_apart {after : Session} (moves : Moves party [] new session after) :
    Quiet (fun _ => False) session after where
  stills := moves.quiet_but.stills
  own := moves.quiet_but.own
  wired other _ wired := by
    by_cases same : other = party
    · subst same
      rwa [moves.wired] at wired
    · exact moves.quiet_but.wired other same wired

theorem fail_quiet (session : Session) (party : Nat) {ec : Int} (failure : ec ≠ 0) :
    Quiet but session (session.fail party ec) := by
  have kept : Quiet but session (VideoRoom.onPartyCreate ec party session).2 :=
    (VideoRoom.onPartyCreate_kept ec party).kept session
  rwa [onPartyCreate_fail session party failure] at kept

theorem fail_unwired (session : Session) (party : Nat) (ec : Int) :
    ((session.fail party ec).parties party).wired = false := by
  simp [Party.wired, fail_held]

theorem gathered_sends (sends : session.Sends party) (candidate : Text)
    (wired : (session.parties party).wired = true) :
    ∃ sid hid, Party.takeCandidate party candidate session =
        (some (), (session.enter (.gathers party candidate)).trickle party sid hid candidate) ∧
      (session.parties party).sessionId.written = some sid ∧
      (session.parties party).handle.written = some hid := by
  obtain ⟨printable, sidKept, hidKept, -⟩ := sends wired
  obtain ⟨sids, hids⟩ := (Bool.and_eq_true _ _).mp printable
  obtain ⟨sid, sids⟩ := Option.isSome_iff_exists.mp sids
  obtain ⟨hid, hids⟩ := Option.isSome_iff_exists.mp hids
  have held : ((session.parties party).conns .janus).held = true := by
    simp only [Party.wired, Bool.and_eq_true] at wired
    exact wired.1.1
  have own : (session.enter (.gathers party candidate)).parties = session.parties := rfl
  refine ⟨sid, hid, ?_, LuaValue.written_of_kept sidKept sids, LuaValue.written_of_kept hidKept hids⟩
  unfold Party.takeCandidate
  simp only [bind_apply, enter_apply, theParty_apply, own, if_apply, wired, if_true]
  exact sendCandidate_apply candidate sids hids held

/-- A party that has a list of its own queues there, any other in the table of the class. -/
theorem insertCandidate_queues (session : Session) (party : Nat) (candidate : Text) :
    ∃ after, Party.insertCandidate party candidate session = (some (), after) ∧
      after.history = session.history ∧
      (∀ other, other ≠ party → after.parties other = session.parties other) ∧
      (after.parties party).wired = (session.parties party).wired ∧
      (after.parties party).candidateList =
        (session.parties party).candidateList.map (· ++ [candidate]) := by
  unfold Party.insertCandidate
  rw [bind_apply, theParty_apply]
  dsimp only
  cases queued : (session.parties party).candidateList with
  | none => exact ⟨_, rfl, rfl, fun _ _ => rfl, rfl, queued⟩
  | some own =>
    refine ⟨_, rfl, rfl, fun other apart => Session.updateParty_other _ _ _ apart, ?_, ?_⟩
    · rw [Session.updateParty_self]
      rfl
    · rw [Session.updateParty_self]
      rfl

/-- A candidate of a party with a handle is sent at once, any other is queued. -/
theorem takeCandidate_delivers (fair : ∀ party, session.Fair party) (sends : session.Sends party)
    (candidate : Text) : Delivers session (Party.takeCandidate party candidate session).2 := by
  by_cases wired : (session.parties party).wired = true
  · obtain ⟨sid, hid, ran, sids, hids⟩ := gathered_sends sends candidate wired
    rw [ran]
    have shows := trickle_shows (session.enter (.gathers party candidate)) party sid hid candidate
    generalize (session.enter (.gathers party candidate)).trickle party sid hid candidate = after at shows
    have history : after.history =
        session.history ++ [.gathers party candidate, .trickles party sid hid candidate] := by
      have written : (session.enter (.gathers party candidate)).calls.trickles = true :=
        (sends wired).2.2.2
      rw [shows.history, Session.trickled, if_pos written, Session.enter_history, List.append_assoc]
      rfl
    have parties : after.parties = session.parties := shows.parties
    refine ⟨⟨_, history, ?_⟩, fun other => ?_⟩
    · intro sender sid' hid' candidate' member
      rw [parties]
      simp only [List.mem_cons, reduceCtorEq, Entry.trickles.injEq, List.not_mem_nil, or_false,
        false_or] at member
      obtain ⟨rfl, rfl, rfl, rfl⟩ := member
      exact ⟨sids, hids⟩
    · have sent := sent_of_history other history
      have gathered := gathered_of_history other history
      by_cases same : party = other
      · subst same
        have whole := (fair party).whole wired
        simp only [List.filterMap_cons, Entry.sentBy, Entry.gatheredBy, if_true, List.filterMap_nil]
          at sent gathered
        refine ⟨?_, fun _ => ?_, fun list listed => ?_⟩
        · rw [sent, gathered, whole]
        · rw [sent, gathered, whole]
        · have queued := (fair party).queued list (parties ▸ listed)
          rw [whole] at queued
          have empty : list = [] := List.append_right_eq_self.mp queued.symm
          rw [sent, gathered, whole, empty, List.append_nil]
      · refine (fair other).of_same ?_ ?_ (by rw [parties])
        · simpa [List.filterMap_cons, Entry.sentBy, same] using sent
        · simpa [List.filterMap_cons, Entry.gatheredBy, same] using gathered
  · have ran : Party.takeCandidate party candidate session =
        Party.insertCandidate party candidate (session.enter (.gathers party candidate)) := by
      have own : (session.enter (.gathers party candidate)).parties = session.parties := rfl
      unfold Party.takeCandidate
      simp only [bind_apply, enter_apply, theParty_apply, own, if_apply, if_neg wired]
    obtain ⟨after, queues, history, others, same, own⟩ :=
      insertCandidate_queues (session.enter (.gathers party candidate)) party candidate
    rw [ran, queues]
    rw [Session.enter_history] at history
    refine ⟨⟨_, history, by simp⟩, fun other => ?_⟩
    have sent := sent_of_history other history
    have gathered := gathered_of_history other history
    by_cases itself : party = other
    · subst itself
      have unwired : (after.parties party).wired = (session.parties party).wired := same
      simp only [List.filterMap_cons, Entry.sentBy, Entry.gatheredBy, if_true, List.filterMap_nil,
        List.append_nil] at sent gathered
      refine ⟨?_, fun held => absurd (unwired ▸ held) wired, fun list listed => ?_⟩
      · rw [sent, gathered]
        exact (fair party).order.trans (List.prefix_append _ _)
      · rw [own] at listed
        obtain ⟨list', before, rfl⟩ := Option.map_eq_some_iff.mp listed
        rw [sent, gathered, (fair party).queued list' before, List.append_assoc]
    · refine (fair other).of_same ?_ ?_ (others other fun same => itself same.symm)
      · simpa [List.filterMap_cons, Entry.sentBy] using sent
      · simpa [List.filterMap_cons, Entry.gatheredBy, itself] using gathered

/-- A scheduling reply opens the connection to a party's server. -/
theorem scheduled_delivers (fair : ∀ party, session.Fair party) {ec1 : Int} {body : Option LuaValue}
    (careful : (Happening.callsBack party (.scheduledReply ec1 body)).Careful session) :
    Delivers session (Party.onRequestScheduledSvr party ec1 body session).2 := by
  have outcome := onRequestScheduledSvr_outcome session party ec1 body
  obtain ⟨waits, stalls⟩ : scheduledVerdict session.calls ec1 body ≠ .rests ∧
      scheduledVerdict session.calls ec1 body ≠ .stalls := by
    unfold scheduledVerdict connectVerdict
    repeat' split
    all_goals simp
  have closed : scheduledVerdict session.calls ec1 body = .raises → scheduledOpens ec1 body = [] := by
    unfold scheduledVerdict connectVerdict scheduledOpens
    repeat' split
    all_goals simp_all
  have asks : scheduledVerdict session.calls ec1 body = .asks →
      (session.parties party).sessionId.truthy = true → (session.parties party).handle.truthy = true →
        session.unsent party = [] := careful
  generalize Party.onRequestScheduledSvr party ec1 body session = result at outcome ⊢
  generalize scheduledVerdict session.calls ec1 body = verdict at outcome waits stalls closed asks
  cases outcome with
  | asks moves asked =>
    refine .of_quiet fair moves.quiet_but ?_
    rintro _ rfl wired
    obtain ⟨sessionId, handle⟩ := moves.ids
    simp only [Party.wired, Bool.and_eq_true, sessionId, handle] at wired
    exact asks rfl wired.1.2 wired.2
  | rests => exact absurd rfl waits
  | stalls => exact absurd rfl stalls
  | @refuses new reached ec moves silent failure =>
    refine .of_quiet fair (Frame.trans moves.quiet_but (fail_quiet reached party failure)) ?_
    rintro _ rfl wired
    rw [fail_unwired] at wired
    cases wired
  | raises moves silent =>
    rw [closed rfl] at moves
    exact .of_apart fair moves.quiet_apart

/-! ### The handle -/

/-- What is published is what has not been sent. -/
theorem publish_delivers {reached : Session} (fair : ∀ other, other ≠ party → reached.Fair other)
    (order : reached.sent party <+: reached.gathered party)
    (finds : Party.candidates reached party = reached.unsent party)
    (writes : reached.unsent party ≠ [] → reached.calls.trickles = true)
    (own : reached.unsent party ≠ [] → (reached.parties party).sessionId.written = some sid ∧
      (reached.parties party).handle.written = some hid) :
    Delivers reached (reached.publish party sid hid) := by
  have all := sent_append_unsent order
  unfold Session.publish
  rw [finds]
  by_cases empty : reached.unsent party = []
  · rw [if_pos empty]
    rw [empty, List.append_nil] at all
    refine .of_apart (fun other => ?_) (Frame.refl reached)
    by_cases same : other = party
    · subst same
      refine ⟨order, fun _ => all, fun list listed => ?_⟩
      have own : Party.candidates reached other = list := by rw [Party.candidates, listed]; rfl
      rw [finds, empty] at own
      rw [← own, List.append_nil, all]
    · exact fair other same
  · rw [if_neg empty]
    have shows := trickleAll_shows reached party sid hid (reached.unsent party)
    generalize reached.trickleAll party sid hid (reached.unsent party) = told at shows
    have history : (told.updateParty party fun before => { before with candidateList := some [] }).history =
        reached.history ++ (reached.unsent party).map (.trickles party sid hid) := by
      rw [Session.updateParty_history, shows.history, Session.trickled, if_pos (writes empty)]
    refine ⟨⟨_, history, fun sender sid' hid' candidate member => ?_⟩, fun other => ?_⟩
    · obtain ⟨_, _, same⟩ := List.mem_map.mp member
      cases same
      rw [Session.updateParty_self, shows.parties]
      exact own empty
    · have sent := sent_of_history other history
      have gathered := gathered_of_history other history
      rw [gatheredBy_trickles, List.append_nil] at gathered
      rw [sentBy_trickles] at sent
      by_cases same : party = other
      · subst same
        rw [if_pos rfl, all] at sent
        refine ⟨by rw [sent, gathered], fun _ => by rw [sent, gathered], fun list listed => ?_⟩
        rw [Session.updateParty_self] at listed
        cases listed
        rw [sent, gathered, List.append_nil]
      · rw [if_neg same, List.append_nil] at sent
        refine (fair other fun itself => same itself.symm).of_same sent gathered ?_
        rw [Session.updateParty_other _ _ _ fun itself => same itself.symm, shows.parties]

theorem ids_quiet (session : Session) (party : Nat) (sid hid : LuaValue) :
    Quiet (· = party) session (session.updateParty party fun before =>
      { before with sessionId := sid, handle := hid }) := by
  refine ⟨⟨[], (List.append_nil _).symm, by simp⟩, fun other list listed => ?_,
    fun other apart wired => by rwa [Session.updateParty_other _ _ _ apart] at wired⟩
  by_cases same : other = party
  · subst same
    rwa [Session.updateParty_self] at listed
  · rwa [Session.updateParty_other _ _ _ same] at listed

theorem handled_quiet (session : Session) (party : Nat) (sid hid : LuaValue) :
    Quiet (· = party) session (session.handled party sid hid) :=
  Frame.trans (ids_quiet session party sid hid) (.same rfl rfl)

theorem Delivers.behind {reached after : Session} (stills : Stills session reached)
    (delivers : Delivers reached after) : Delivers session after := by
  obtain ⟨new, history, still⟩ := stills
  obtain ⟨⟨new', history', own⟩, fair⟩ := delivers
  refine ⟨⟨new ++ new', by rw [history', history, List.append_assoc], ?_⟩, fair⟩
  intro sender sid hid candidate member
  rcases List.mem_append.mp member with early | late
  · have silent := (still _ early sender).2
    simp [Entry.sentBy] at silent
  · exact own sender sid hid candidate late

/-- The table a party publishes from holds what it has not sent, when its own ids have been
stored and its offer been seen to. -/
theorem publishCandidates_delivers (fair : ∀ party, session.Fair party) {reached : Session}
    {sid hid : LuaValue} (sids : sid.toInteger.isSome = true) (hids : hid.toInteger.isSome = true)
    (moves : Moves party [] new (session.handled party sid hid) reached)
    (finds : (reached.parties party).wired = true →
      ((session.parties party).candidateList = none → session.candidateList = session.unsent party) ∧
        (session.unsent party ≠ [] → session.calls.trickles = true ∧ sid.kept = true ∧ hid.kept = true)) :
    Delivers session (Party.publishCandidates party reached).2 := by
  have quiet : Quiet (· = party) session reached :=
    Frame.trans (handled_quiet session party sid hid) moves.quiet_but
  cases wired : (reached.parties party).wired with
  | false =>
    rw [publishCandidates_unwired wired]
    refine .of_quiet fair quiet ?_
    rintro _ rfl wired'
    rw [wired] at wired'
    cases wired'
  | true =>
    obtain ⟨queue, writes⟩ := finds wired
    obtain ⟨sid', sids⟩ := Option.isSome_iff_exists.mp sids
    obtain ⟨hid', hids⟩ := Option.isSome_iff_exists.mp hids
    have held : ((reached.parties party).conns .janus).held = true := by
      simp only [Party.wired, Bool.and_eq_true] at wired
      exact wired.1.1
    have stored := handled_parties session party sid hid
    obtain ⟨sessionId, handle⟩ := moves.ids
    rw [stored] at sessionId handle
    have sids' : (reached.parties party).sessionId.toInteger = some sid' := by rw [sessionId, sids]
    have hids' : (reached.parties party).handle.toInteger = some hid' := by rw [handle, hids]
    have own : (reached.parties party).candidateList = (session.parties party).candidateList := by
      have kept : (reached.parties party).candidateList = _ := congrArg Wires.candidateList moves.wires
      rw [kept, stored]
      rfl
    have unsent : reached.unsent party = session.unsent party := by
      rw [Session.unsent, quiet.stills.sent, quiet.stills.gathered, Session.unsent]
    rw [publishCandidates_apply sids' hids' held]
    refine .behind quiet.stills (publish_delivers (fun other apart => ?_) ?_ ?_ ?_ ?_)
    · exact (fair other).of_stills quiet.stills (quiet.own other) fun wired =>
        .inl (quiet.wired other apart wired)
    · rw [quiet.stills.sent, quiet.stills.gathered]
      exact (fair party).order
    · rw [unsent, Party.candidates, own, moves.candidateList]
      cases listed : (session.parties party).candidateList with
      | none => exact queue listed
      | some list =>
        rw [Session.unsent, (fair party).queued list listed, List.drop_left]
        rfl
    · rw [unsent, moves.calls]
      exact fun some => (writes some).1
    · rw [unsent, sessionId, handle]
      exact fun some => ⟨LuaValue.written_of_kept (writes some).2.1 sids,
        LuaValue.written_of_kept (writes some).2.2 hids⟩

theorem handled_publishes (session : Session) (party : Nat) {sid hid : LuaValue}
    (sids : sid.toInteger.isSome = true) (hids : hid.toInteger.isSome = true) :
    publishVerdict (session.handled party sid hid) party ≠ .raises := by
  unfold publishVerdict sendOfferVerdict Party.printable
  rw [handled_parties]
  simp only [sids, hids, Bool.and_self, not_true_eq_false, if_false]
  repeat' split
  all_goals simp

/-- A local party publishes its offer and its candidates, if it is not closed over the offer. -/
theorem useHandle_local_delivers (fair : ∀ party, session.Fair party) {sid hid : LuaValue}
    (sids : sid.toInteger.isSome = true) (hids : hid.toInteger.isSome = true)
    (type : (session.parties party).type = .localParty)
    (finds : ((session.handled party sid hid).parties party).wired = true →
      publishVerdict (session.handled party sid hid) party ≠ .refuses 38 →
        ((session.parties party).candidateList = none → session.candidateList = session.unsent party) ∧
          (session.unsent party ≠ [] → session.calls.trickles = true ∧ sid.kept = true ∧ hid.kept = true)) :
    Delivers session (Party.useHandle party (session.handled party sid hid)).2 := by
  have stored := handled_parties session party sid hid
  have run : Party.useHandle party (session.handled party sid hid) =
      (do Party.publishLocalOffer party; Party.publishCandidates party : Lua Unit)
        (session.handled party sid hid) := by
    unfold Party.useHandle
    simp only [bind_apply, theParty_apply, stored, type]
  have printable := handled_publishes session party sids hids
  have published := publishLocalOffer_outcome (session.handled party sid hid) party
  rw [run, bind_apply]
  generalize Party.publishLocalOffer party (session.handled party sid hid) = result at published ⊢
  generalize publishVerdict (session.handled party sid hid) party = verdict at published printable finds
  have goes : ∀ {new reached}, Moves party [] new (session.handled party sid hid) reached →
      verdict ≠ .refuses 38 → Delivers session (Party.publishCandidates party reached).2 :=
    fun moves kept => publishCandidates_delivers fair sids hids moves fun wired =>
      finds (moves.wired ▸ wired) kept
  cases published with
  | asks moves _ => exact goes moves (by simp)
  | rests moves _ _ => exact goes moves (by simp)
  | stalls moves _ _ => exact goes moves (by simp)
  | raises => exact absurd rfl printable
  | @refuses new reached ec moves silent failure =>
    dsimp only
    rw [publishCandidates_unwired (fail_unwired reached party ec)]
    refine .of_quiet fair (Frame.trans (handled_quiet session party sid hid)
      (Frame.trans moves.quiet_but (fail_quiet reached party failure))) ?_
    rintro _ rfl wired
    rw [fail_unwired] at wired
    cases wired

/-- A remote party listens, and sends nothing. -/
theorem useHandle_remote_delivers (fair : ∀ party, session.Fair party) {sid hid : LuaValue}
    (sids : sid.toInteger.isSome = true) (hids : hid.toInteger.isSome = true)
    (type : (session.parties party).type = .remoteParty)
    (nothing : ((session.handled party sid hid).parties party).wired = true →
      listenVerdict session.calls (session.parties party) ≠ .refuses 38 → session.unsent party = []) :
    Delivers session (Party.useHandle party (session.handled party sid hid)).2 := by
  have stored := handled_parties session party sid hid
  have listens : ∀ but, Quiet but (session.handled party sid hid)
      (Party.useHandle party (session.handled party sid hid)).2 := by
    intro but
    have script : Within (Quiet but) (do
        if ¬ (← Party.listen party) then VideoRoom.onPartyCreate 38 party : Lua Unit) :=
      (Party.listen_kept (transacts_quiet but) party).bind fun _ =>
        .branch (fun _ => VideoRoom.onPartyCreate_kept _ _) fun _ => .pure ()
    have kept := script.kept (session.handled party sid hid)
    unfold Party.useHandle
    simp only [bind_apply, theParty_apply, stored, type] at kept ⊢
    exact kept
  obtain ⟨sid', sids⟩ := Option.isSome_iff_exists.mp sids
  obtain ⟨hid', hids⟩ := Option.isSome_iff_exists.mp hids
  have outcome : Outcome party (Drifts party []) (fun _ => False) (session.handled party sid hid) _ _ :=
    useHandle_remote (by rw [stored]; exact sids) (by rw [stored]; exact hids) (by rw [stored]; exact type)
  have same : listenVerdict (session.handled party sid hid).calls
      ((session.handled party sid hid).parties party) =
        listenVerdict session.calls (session.parties party) := by
    rw [stored]
    rfl
  rw [same] at outcome
  refine .of_quiet fair (Frame.trans (handled_quiet session party sid hid) (listens _)) ?_
  rintro _ rfl wired
  refine nothing ((listens fun _ => False).wired _ id wired) fun refused => ?_
  rw [refused] at outcome
  generalize Party.useHandle _ _ = result at outcome wired
  cases outcome
  rw [fail_unwired] at wired
  cases wired

theorem handle_delivers (fair : ∀ party, session.Fair party) {body : LuaValue}
    (careful : session.Granted party body → session.FindsOwn party body) :
    Delivers session (Party.onCreateHandleEx party true body session).2 := by
  cases indexable : body.indexable with
  | false =>
    simp only [Party.onCreateHandleEx, not_true_eq_false, if_false, bind_apply, field_apply,
      LuaValue.field_of_not_indexable indexable]
    exact .of_apart fair (Frame.refl session)
  | true =>
    cases held : (body.get "data").indexable with
    | false =>
      simp only [Party.onCreateHandleEx, not_true_eq_false, if_false, bind_apply, field_apply,
        LuaValue.field_of_indexable indexable, LuaValue.field_of_not_indexable held]
      exact .of_apart fair (Frame.refl session)
    | true =>
      rw [handled_run session party indexable held rfl rfl]
      have granted : ((session.handled party ((body.get "data").get "sid")
          ((body.get "data").get "hid")).parties party).wired = true →
          handleVerdict session party true body ≠ .refuses 38 → session.FindsOwn party body :=
        fun wired kept => careful ⟨indexable, held, wired, kept⟩
      unfold Session.FindsOwn handleVerdict at granted
      simp only [indexable, held, and_self, not_true_eq_false, if_false] at granted
      generalize (body.get "data").get "sid" = sid at granted ⊢
      generalize (body.get "data").get "hid" = hid at granted ⊢
      by_cases missing : hid.isNil = true
      · rw [if_pos missing]
        refine .of_quiet fair (ids_quiet session party sid hid) ?_
        rintro _ rfl wired
        rw [Session.updateParty_self] at wired
        cases hid <;> simp_all [Party.wired, LuaValue.truthy, LuaValue.isNil]
      rw [if_neg missing]
      by_cases printed : sid.toInteger.isSome = true ∧ hid.toInteger.isSome = true
      · rw [if_neg (not_not.mpr printed)]
        simp only [printed, and_self, not_true_eq_false, if_false] at granted
        cases type : (session.parties party).type with
        | localParty =>
          simp only [type, true_and] at granted
          refine useHandle_local_delivers fair printed.1 printed.2 type fun wired kept => ?_
          have finds := granted wired kept
          rwa [if_pos (handled_publishes session party printed.1 printed.2)] at finds
        | remoteParty =>
          simp only [type, reduceCtorEq, false_and, if_false] at granted
          exact useHandle_remote_delivers fair printed.1 printed.2 type granted
      · rw [if_pos printed]
        simp only [printed, not_false_eq_true, if_true, ne_eq, reduceCtorEq, not_true_eq_false, and_false,
          if_false, forall_const] at granted
        refine .of_quiet fair (handled_quiet session party sid hid) ?_
        rintro _ rfl wired
        exact granted wired

end

theorem run_delivers {session : Session} (fair : ∀ party, session.Fair party) {happening : Happening}
    (careful : happening.Careful session) : Delivers session (happening.run session).2 := by
  have quiet : (∀ party callback, happening = .callsBack party callback → ¬ callback.Wiring) →
      Delivers session (happening.run session).2 := fun apart =>
    .of_apart fair ((happening.run_apart (transacts_quiet _) apart).kept session)
  by_cases apart : ∀ party callback, happening = .callsBack party callback → ¬ callback.Wiring
  · exact quiet apart
  · push Not at apart
    obtain ⟨party, callback, rfl, wiring⟩ := apart
    cases callback with
    | scheduledReply ec1 body => exact scheduled_delivers fair careful
    | iceCandidate candidate => exact takeCandidate_delivers fair careful candidate
    | iceGatheringChange newState =>
      show Delivers session (Party.onIceGatheringChange party newState session).2
      unfold Party.onIceGatheringChange
      rw [if_apply]
      split
      · rename_i completed
        exact takeCandidate_delivers fair (careful completed) _
      · exact .of_apart fair (Frame.refl session)
    | janusData message =>
      refine VideoRoom.handleJanusData_of session (fun after kept => .of_apart fair kept) ?_ message ?_
      · intro reached id delivers
        exact ⟨delivers.1, fun party => (delivers.2 party).of_same rfl rfl rfl⟩
      · rintro jsonData party' body rfl reply
        refine handle_delivers fair ?_
        simp only [Happening.Careful, reply] at careful
        exact careful
    | _ => exact wiring.elim

theorem step_delivers {session after : Session} {request : Request}
    (fair : ∀ party, session.Fair party) (careful : Careful session request)
    (taken : step session request = some (ended, after)) :
    Delivered session after ∧ ∀ party, after.Fair party := by
  have facing : ∀ party, (session.facing request).Fair party :=
    fun party => (fair party).of_same rfl rfl rfl
  have delivers := run_delivers facing careful
  unfold step at taken
  split at taken
  · change Delivers session (request.happening.run { session with calls := request.calls }).2 at delivers
    generalize request.happening.run { session with calls := request.calls } = result at delivers taken
    cases taken
    obtain ⟨own, fair⟩ := delivers
    exact ⟨⟨fun party => (fair party).order, fun party => (fair party).whole, own⟩, fair⟩
  · cases taken

def joinArgs : JoinArgs where
  roomName := some "room".toList
  create := some true
  uid := some "7".toList
  nickName := some "n".toList
  token := some "t".toList
  role := some 1
  push := some { streamName := some "camera".toList, video := some { present := some true, source := some 1 } }

/-- A party goes from its named server to its handle, with the transaction of that number. -/
def settingUp (party transaction : Nat) : List Request :=
  [{ happening := .callsBack party (.namedReply 0 (some (.object [
      ("stream_name".toList, .string "n".toList), ("sche_url".toList, .string "s".toList)]))) },
    { happening := .callsBack party (.scheduledReply 0 (some (.object [
      ("code".toList, .integer 1),
      ("info".toList, .object [("webrtc_url".toList, .string "w".toList),
        ("stream_name".toList, .string "n".toList)])]))) },
    { happening := .callsBack party (.janusConnectResult true) },
    { happening := .callsBack party (.janusData (some (.object [
      ("bee".toList, .string "success".toList),
      ("transaction".toList, .string (transactionId transaction)),
      ("data".toList, .object [("sid".toList, .integer 3), ("hid".toList, .integer 4)])]))) }]

def join : Request := { happening := .join joinArgs }

def gathers (party : Nat) (candidate : String) : Request :=
  { happening := .callsBack party (.iceCandidate candidate.toList) }

/-- A candidate comes ahead of the handle, another one and the completed marker behind it. -/
def early : List Request :=
  [join, gathers 0 "a"] ++ settingUp 0 0 ++
    [gathers 0 "b", { happening := .callsBack 0 (.iceGatheringChange eIceGathering_Completed) }]

example : (run step {} early).map (fun ran => (ran.2.sent 0, ran.2.unsent 0)) =
    some (["a".toList, "b".toList, Party.completedMsg], []) := by decide +kernel

/-- A room is left before the handle of its party has come, and joined again. -/
def rejoined : List Request :=
  [join, gathers 0 "a",
    { happening := .leave { roomName := some "room".toList, reason := .integer 1 } }, join] ++ settingUp 1 0

end BeeSdk.Signalling
