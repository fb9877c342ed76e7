import BeeSdk.PartyOutcomes

/-! The reply that gives a party its handle: what is sent then, and of what the callback
comes to. -/
namespace BeeSdk.Signalling
open HttpHeader (Text)
open Script

/-! ### Sending what is queued -/

namespace Session

/-- The session once a candidate has been written, or could not be. -/
def trickle (session : Session) (party : Nat) (sid hid : Int) (candidate : Text) : Session :=
  if session.calls.trickles then
    (session.transact false none).enter (.trickles party sid hid candidate)
  else session.transact false none

def trickleAll (session : Session) (party : Nat) (sid hid : Int) : List Text → Session
  | [] => session
  | candidate :: rest => (session.trickle party sid hid candidate).trickleAll party sid hid rest

/-- The messages that come through. -/
def trickled (session : Session) (party : Nat) (sid hid : Int) (list : List Text) : List Entry :=
  if session.calls.trickles then list.map (.trickles party sid hid) else []

end Session

/-- The session moves on, and all it shows are the entries. -/
structure Shows (new : List Entry) (before after : Session) : Prop where
  history : after.history = before.history ++ new
  room : after.room = before.room
  parties : after.parties = before.parties
  calls : after.calls = before.calls
  made : after.made = before.made
  candidateList : after.candidateList = before.candidateList
  known : ∀ other, after.Knows other → before.Knows other

theorem trickle_shows (session : Session) (party : Nat) (sid hid : Int) (candidate : Text) :
    Shows (session.trickled party sid hid [candidate]) session
      (session.trickle party sid hid candidate) := by
  have known : ∀ other, (session.transact false none).Knows other → session.Knows other := by
    intro other knows
    rcases transact_known session false none other knows with old | ⟨called, none, _⟩
    · exact old
    · cases none
  unfold Session.trickle Session.trickled
  split
  · exact ⟨rfl, rfl, rfl, rfl, rfl, rfl, known⟩
  · exact ⟨(List.append_nil _).symm, rfl, rfl, rfl, rfl, rfl, known⟩

theorem trickleAll_shows (session : Session) (party : Nat) (sid hid : Int) (list : List Text) :
    Shows (session.trickled party sid hid list) session (session.trickleAll party sid hid list) := by
  induction list generalizing session with
  | nil => exact ⟨by simp [Session.trickled, Session.trickleAll], rfl, rfl, rfl, rfl, rfl, fun _ => id⟩
  | cons candidate rest ih =>
    have first := trickle_shows session party sid hid candidate
    have others := ih (session.trickle party sid hid candidate)
    refine ⟨?_, others.room.trans first.room, others.parties.trans first.parties,
      others.calls.trans first.calls, others.made.trans first.made,
      others.candidateList.trans first.candidateList,
      fun other knows => first.known other (others.known other knows)⟩
    rw [Session.trickleAll, others.history, first.history]
    simp only [Session.trickled, first.calls]
    split <;> simp

section
variable {session : Session} {party : Nat} {sid hid : Int}

theorem sendCandidate_apply (candidate : Text)
    (sids : (session.parties party).sessionId.toInteger = some sid)
    (hids : (session.parties party).handle.toInteger = some hid)
    (held : ((session.parties party).conns .janus).held = true) :
    Party.sendCandidate party candidate session =
      (some (), session.trickle party sid hid candidate) := by
  have own : (session.transact false none).parties = session.parties := rfl
  have calls : (session.transact false none).calls = session.calls := rfl
  unfold Party.sendCandidate Session.trickle
  simp only [bind_apply, discard_apply, createTransaction_apply, theParty_apply, own,
    formatInteger_apply, sids, hids, assert_apply, held, if_true, theCalls_apply, calls]
  rw [if_apply]
  split <;> rfl

theorem each_sendCandidate (list : List Text)
    (sids : (session.parties party).sessionId.toInteger = some sid)
    (hids : (session.parties party).handle.toInteger = some hid)
    (held : ((session.parties party).conns .janus).held = true) :
    each list (Party.sendCandidate party) session =
      (some (), session.trickleAll party sid hid list) := by
  induction list generalizing session with
  | nil => rfl
  | cons candidate rest ih =>
    have shows := trickle_shows session party sid hid candidate
    simp only [each, bind_apply, sendCandidate_apply candidate sids hids held]
    apply ih
    · rw [shows.parties, sids]
    · rw [shows.parties, hids]
    · rw [shows.parties, held]

/-- The session once the queue of a party has been sent; an empty queue is left alone. -/
def Session.publish (session : Session) (party : Nat) (sid hid : Int) : Session :=
  if Party.candidates session party = [] then session
  else (session.trickleAll party sid hid (Party.candidates session party)).updateParty party
    fun before => { before with candidateList := some [] }

theorem publishCandidates_apply
    (sids : (session.parties party).sessionId.toInteger = some sid)
    (hids : (session.parties party).handle.toInteger = some hid)
    (held : ((session.parties party).conns .janus).held = true) :
    Party.publishCandidates party session = (some (), session.publish party sid hid) := by
  have wired : (session.parties party).wired = true := by
    simp [Party.wired, held, LuaValue.truthy_of_toInteger sids, LuaValue.truthy_of_toInteger hids]
  unfold Party.publishCandidates Session.publish
  by_cases empty : Party.candidates session party = []
  · simp [empty]
  · simp [empty, wired, each_sendCandidate _ sids hids held]

theorem publishCandidates_unwired (unwired : (session.parties party).wired = false) :
    Party.publishCandidates party session = (some (), session) := by
  unfold Party.publishCandidates
  simp [unwired]

theorem publish_drifts (session : Session) (party : Nat) (sid hid : Int) :
    ∃ new, ¬ Asked party new ∧ Drifts party [] new session (session.publish party sid hid) := by
  have shows := trickleAll_shows session party sid hid (Party.candidates session party)
  have sent : ∀ entry ∈ session.trickled party sid hid (Party.candidates session party),
      ∃ candidate, entry = .trickles party sid hid candidate := by
    intro entry member
    unfold Session.trickled at member
    split at member
    · obtain ⟨candidate, _, rfl⟩ := List.mem_map.mp member
      exact ⟨candidate, rfl⟩
    · cases member
  unfold Session.publish
  split
  · exact ⟨[], not_asked_nil, (Moves.refl session).toDrifts⟩
  · refine ⟨_, ?_, ⟨shows.history, ?_, shows.room, shows.calls, shows.made, ?_, ?_, ?_,
      fun other knows => .inl (shows.known other knows)⟩⟩
    · rintro ⟨request, member⟩
      obtain ⟨_, same⟩ := sent _ member
      cases same
    · intro entry member
      obtain ⟨candidate, same⟩ := sent entry member
      exact .inr ⟨sid, hid, candidate, same⟩
    · intro other apart
      rw [Session.updateParty_other _ _ _ apart, shows.parties]
    · rw [Session.updateParty_self, shows.parties]
      rfl
    · intro conn
      left
      rw [Session.updateParty_self, shows.parties]

/-- Whatever the queue comes to, the party is not seen to move, and its offer is left alone. -/
theorem publishCandidates_drifts
    (sids : (session.parties party).sessionId.toInteger = some sid)
    (hids : (session.parties party).handle.toInteger = some hid) :
    ∃ new after, Party.publishCandidates party session = (some (), after) ∧ ¬ Asked party new ∧
      Drifts party [] new session after ∧ (AwaitsOffer party after ↔ AwaitsOffer party session) := by
  cases held : ((session.parties party).conns .janus).held with
  | false =>
    refine ⟨[], session, publishCandidates_unwired ?_, not_asked_nil,
      (Moves.refl session).toDrifts, Iff.rfl⟩
    simp [Party.wired, held]
  | true =>
    obtain ⟨new, silent, drifts⟩ := publish_drifts session party sid hid
    refine ⟨new, _, publishCandidates_apply sids hids held, silent, drifts, ?_⟩
    have shows := trickleAll_shows session party sid hid (Party.candidates session party)
    unfold Session.publish AwaitsOffer
    split
    · exact Iff.rfl
    · simp [shows.parties]

end

/-! ### The reply -/

theorem fail_held (session : Session) (party : Nat) (ec : Int) (conn : Conn) :
    (((session.fail party ec).parties party).conns conn).held = false := by
  rw [fail_parties]
  rfl

/-- The session with the ids of a handle stored and filed. -/
def Session.handled (session : Session) (party : Nat) (sid hid : LuaValue) : Session :=
  (session.updateParty party fun before => { before with sessionId := sid, handle := hid }).fileHandle
    hid party

theorem handled_parties (session : Session) (party : Nat) (sid hid : LuaValue) :
    (session.handled party sid hid).parties party =
      { session.parties party with sessionId := sid, handle := hid } := if_pos rfl

theorem handled_drifts (session : Session) (party : Nat) (sid hid : LuaValue) :
    Drifts party [] [] session (session.handled party sid hid) where
  history := (List.append_nil _).symm
  entries := by simp
  room := rfl
  calls := rfl
  made := rfl
  others _ apart := if_neg apart
  look := by
    rw [handled_parties]
    rfl
  conns conn := .inl (by rw [handled_parties])
  known other knows := by
    rcases knows with ⟨key, filed⟩ | called
    · unfold Session.handled Session.fileHandle at filed
      dsimp only at filed
      split at filed
      · exact .inr (Option.some.inj filed).symm
      · exact .inl (.inl ⟨key, filed⟩)
    · exact .inl (.inr called)

def listenVerdict (calls : Calls) (party : Party) : Verdict :=
  if ¬ (party.conns .janus).held then .raises
  else if calls.writes then .asks
  else .refuses 38

def handleVerdict (session : Session) (party : Nat) (success : Bool) (jsonData : LuaValue) : Verdict :=
  let sid := (jsonData.get "data").get "sid"
  let hid := (jsonData.get "data").get "hid"
  if ¬ success then .refuses 35
  else if ¬ (jsonData.indexable ∧ (jsonData.get "data").indexable) then .raises
  else if ¬ (sid.toInteger.isSome ∧ hid.toInteger.isSome) then .raises
  else
    match (session.parties party).type with
    | .localParty => publishVerdict (session.handled party sid hid) party
    | .remoteParty => listenVerdict session.calls (session.parties party)

/-- What a party of either type does with its handle. -/
def Party.useHandle (party : Nat) : Lua Unit := do
  match (← theParty party).type with
  | .localParty =>
    publishLocalOffer party
    publishCandidates party
  | .remoteParty => if ¬ (← listen party) then VideoRoom.onPartyCreate 38 party

/-- What is done with the ids of a handle: a missing handle cannot be filed, and ids that are
no integers cannot be printed. -/
theorem handled_run (session : Session) (party : Nat) {jsonData sid hid : LuaValue}
    (indexable : jsonData.indexable = true) (held : (jsonData.get "data").indexable = true)
    (sidFound : (jsonData.get "data").get "sid" = sid) (hidFound : (jsonData.get "data").get "hid" = hid) :
    Party.onCreateHandleEx party true jsonData session =
      if hid.isNil then (none, session.updateParty party fun before =>
        { before with sessionId := sid, handle := hid })
      else if ¬ (sid.toInteger.isSome ∧ hid.toInteger.isSome) then
        (none, session.handled party sid hid)
      else Party.useHandle party (session.handled party sid hid) := by
  unfold Party.onCreateHandleEx VideoRoom.onPartyHandleCreated
  cases missing : hid.isNil with
  | true => simp [LuaValue.field_of_indexable indexable, LuaValue.field_of_indexable held, sidFound,
      hidFound, missing]
  | false =>
    cases sids : sid.toInteger with
    | none => simp [LuaValue.field_of_indexable indexable, LuaValue.field_of_indexable held, sidFound,
        hidFound, missing, sids, Session.handled]
    | some sid' =>
      cases hids : hid.toInteger with
      | none => simp [LuaValue.field_of_indexable indexable, LuaValue.field_of_indexable held, sidFound,
          hidFound, missing, sids, hids, Session.handled]
      | some hid' =>
        simp only [LuaValue.field_of_indexable indexable, LuaValue.field_of_indexable held, sidFound,
          hidFound, missing, sids, hids, bind_apply, field_apply, setParty_apply, assert_apply,
          modify_apply, discard_apply, formatInteger_apply, if_true, if_false,
          Option.isSome_some, and_self, not_true_eq_false, Bool.false_eq_true, not_false_eq_true,
          decide_true, if_apply]
        rfl

section
variable {session : Session} {party : Nat} {sid hid : Int}

theorem useHandle_local (sids : (session.parties party).sessionId.toInteger = some sid)
    (hids : (session.parties party).handle.toInteger = some hid)
    (type : (session.parties party).type = .localParty) :
    Outcome party (Drifts party []) (AwaitsOffer party) session (publishVerdict session party)
      (Party.useHandle party session) := by
  have run : Party.useHandle party session =
      (do Party.publishLocalOffer party; Party.publishCandidates party : Lua Unit) session := by
    unfold Party.useHandle
    simp only [bind_apply, theParty_apply, type]
  have published := publishLocalOffer_outcome session party
  rw [run, bind_apply]
  generalize Party.publishLocalOffer party session = result at published ⊢
  generalize publishVerdict session party = verdict at published ⊢
  have wiring : ∀ {new after}, Moves party [] new session after →
      (after.parties party).sessionId.toInteger = some sid ∧
        (after.parties party).handle.toInteger = some hid := by
    intro new after moves
    have sessionId := congrArg Wires.sessionId moves.wires
    have handle := congrArg Wires.handle moves.wires
    exact ⟨(congrArg LuaValue.toInteger sessionId).trans sids,
      (congrArg LuaValue.toInteger handle).trans hids⟩
  cases published with
  | asks moves asked =>
    obtain ⟨new, last, ran, silent, drifts, awaits⟩ :=
      publishCandidates_drifts (wiring moves).1 (wiring moves).2
    simp only [ran]
    obtain ⟨request, member⟩ := asked
    exact .asks (moves.toDrifts.trans drifts (by simp)) ⟨request, by simp [member]⟩
  | rests moves quiet resting =>
    obtain ⟨new, last, ran, silent, drifts, awaits⟩ :=
      publishCandidates_drifts (wiring moves).1 (wiring moves).2
    simp only [ran]
    refine .rests (moves.toDrifts.trans drifts (by simp)) ?_ (awaits.mpr resting)
    rintro ⟨request, member⟩
    rcases List.mem_append.mp member with before | later
    · exact quiet ⟨request, before⟩
    · exact silent ⟨request, later⟩
  | @refuses new reached ec moves quiet failure =>
    have idle : Party.publishCandidates party (reached.fail party ec) =
      (some (), reached.fail party ec) := publishCandidates_unwired (by simp [Party.wired, fail_held])
    simp only [idle]
    exact .refuses moves.toDrifts quiet failure
  | raises moves quiet => exact .raises moves.toDrifts quiet
  | stalls moves quiet restless =>
    obtain ⟨new, last, ran, silent, drifts, awaits⟩ :=
      publishCandidates_drifts (wiring moves).1 (wiring moves).2
    simp only [ran]
    refine .stalls (moves.toDrifts.trans drifts (by simp)) ?_ fun resting => restless (awaits.mp resting)
    rintro ⟨request, member⟩
    rcases List.mem_append.mp member with before | later
    · exact quiet ⟨request, before⟩
    · exact silent ⟨request, later⟩

theorem useHandle_remote (sids : (session.parties party).sessionId.toInteger = some sid)
    (hids : (session.parties party).handle.toInteger = some hid)
    (type : (session.parties party).type = .remoteParty) :
    Outcome party (Drifts party []) rest session (listenVerdict session.calls (session.parties party))
      (Party.useHandle party session) := by
  have transacted : Moves party [] [] session _ := .transact session (.onListened party)
  have own : (session.transact true (some (.onListened party))).parties = session.parties := rfl
  unfold Party.useHandle Party.listen listenVerdict
  by_cases held : ((session.parties party).conns .janus).held
  · by_cases written : session.calls.writes
    · simpa [type, held, written, createTransaction_apply, own, sids, hids, transacted.calls] using
        Outcome.asks (transacted.asking _).toDrifts (asked_last ..)
    · simpa [type, held, written, createTransaction_apply, own, sids, hids, transacted.calls,
        onPartyCreate_fail] using
        Outcome.refuses transacted.toDrifts not_asked_nil (show (38 : Int) ≠ 0 by decide)
  · simpa [type, held, createTransaction_apply, own, sids, hids] using
      Outcome.raises transacted.toDrifts not_asked_nil

end

theorem onCreateHandleEx_outcome (session : Session) (party : Nat) (success : Bool)
    (jsonData : LuaValue) :
    Outcome party (Drifts party []) (AwaitsOffer party) session
      (handleVerdict session party success jsonData)
      (Party.onCreateHandleEx party success jsonData session) := by
  have still : Drifts party [] [] session session := (Moves.refl session).toDrifts
  unfold handleVerdict
  cases success with
  | false =>
    simpa [Party.onCreateHandleEx, onPartyCreate_fail] using
      Outcome.refuses still not_asked_nil (show (35 : Int) ≠ 0 by decide)
  | true =>
    cases indexable : jsonData.indexable with
    | false =>
      simpa [Party.onCreateHandleEx, LuaValue.field_of_not_indexable indexable] using
        Outcome.raises still not_asked_nil
    | true =>
      cases held : (jsonData.get "data").indexable with
      | false =>
        simpa [Party.onCreateHandleEx, LuaValue.field_of_indexable indexable,
          LuaValue.field_of_not_indexable held] using Outcome.raises still not_asked_nil
      | true =>
        generalize sidFound : (jsonData.get "data").get "sid" = sid
        generalize hidFound : (jsonData.get "data").get "hid" = hid
        have stored := handled_drifts session party sid hid
        have named : Drifts party [] [] session (session.updateParty party fun before =>
            { before with sessionId := sid, handle := hid }) := { stored with known := fun _ => .inl }
        rw [handled_run session party indexable held sidFound hidFound]
        cases missing : hid.isNil with
        | true =>
          have unprinted : hid.toInteger = none := by
            cases hid <;> simp_all [LuaValue.isNil, LuaValue.toInteger]
          simpa [unprinted] using Outcome.raises named not_asked_nil
        | false =>
          cases sids : sid.toInteger with
          | none => simpa [sids] using Outcome.raises stored not_asked_nil
          | some sid' =>
            cases hids : hid.toInteger with
            | none => simpa [sids, hids] using Outcome.raises stored not_asked_nil
            | some hid' =>
              have leads := fun new after (next : Drifts party [] new _ after) =>
                stored.trans next (by simp)
              have own := handled_parties session party sid hid
              cases type : (session.parties party).type with
              | localParty =>
                have used := useHandle_local (by rw [own]; exact sids) (by rw [own]; exact hids)
                  (by rw [own]; exact type)
                simpa [sids, hids] using used.behind leads
              | remoteParty =>
                have used : Outcome party (Drifts party []) (AwaitsOffer party) _ _ _ :=
                  useHandle_remote (by rw [own]; exact sids) (by rw [own]; exact hids)
                    (by rw [own]; exact type)
                simpa [sids, hids, own, stored.calls, listenVerdict] using used.behind leads

end BeeSdk.Signalling
