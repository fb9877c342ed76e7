import BeeSdk.VideoRoomScript

/-! What the callbacks of a party's setting up can come to: the next request, a party closed
with an error, an error of the script, or nothing at all. -/
namespace BeeSdk.Signalling
open HttpHeader (Text)
open Script

/-! ### Closing -/

def Party.finish (party : Party) : Party := { party with closed := some true }

/-- The message a party is closed with. -/
def Party.closing (party : Party) (ec : Int) : Notification :=
  .ofParty party.closeType ec party.roomName party.streamNameDisplay party.uid

namespace Session

/-- The session without the entries of a party in the tables. -/
def unfile (session : Session) (party : Nat) : Session :=
  (session.forgetHandle (session.parties party).handle).updateRoom
    (·.drop (session.parties party).type (session.parties party).streamNameDisplay)

/-- The session once a party has been closed with a reason that can be printed. -/
def shut (session : Session) (party : Nat) (ec : Int) : Session :=
  (((session.updateParty party (·.closeConns)).unfile party).enter
    (.notifies (some party) ((session.parties party).closing ec))).updateParty party (·.finish)

/-- The session once the failure of a party has been reported to the room, which drops a
remote party before it closes it. -/
def fail (session : Session) (party : Nat) (ec : Int) : Session :=
  match (session.parties party).type with
  | .localParty => session.shut party ec
  | .remoteParty =>
    (session.updateRoom (·.drop .remoteParty (session.parties party).streamNameDisplay)).shut party ec

end Session

@[simp] theorem unfile_parties (session : Session) (party : Nat) :
    (session.unfile party).parties = session.parties := rfl

theorem onPartyClosed_apply (session : Session) (party : Nat) :
    VideoRoom.onPartyClosed party session = (some (), session.unfile party) := rfl

theorem close_some (session : Session) (party : Nat) (ec : Int) :
    Party.close party (some ec) session = (some (), session.shut party ec) := by
  unfold Party.close
  simp [onPartyClosed_apply, Party.reportClose, VideoRoom.reportData]
  rfl

@[simp] theorem shut_parties (session : Session) (party : Nat) (ec : Int) :
    (session.shut party ec).parties party = (session.parties party).closeConns.finish := by
  simp [Session.shut]

@[simp] theorem shut_room (session : Session) (party : Nat) (ec : Int) :
    (session.shut party ec).room =
      session.room.drop (session.parties party).type (session.parties party).streamNameDisplay := by
  unfold Session.shut Session.unfile Session.updateRoom
  simp [Session.forgetHandle, Party.closeConns]

@[simp] theorem shut_history (session : Session) (party : Nat) (ec : Int) :
    (session.shut party ec).history =
      session.history ++ [.notifies (some party) ((session.parties party).closing ec)] := rfl

theorem fail_parties (session : Session) (party : Nat) (ec : Int) :
    (session.fail party ec).parties party = (session.parties party).closeConns.finish := by
  unfold Session.fail
  split <;> rw [shut_parties]
  rfl

theorem fail_history (session : Session) (party : Nat) (ec : Int) :
    (session.fail party ec).history =
      session.history ++ [.notifies (some party) ((session.parties party).closing ec)] := by
  unfold Session.fail
  split <;> rw [shut_history]
  rfl

theorem onPartyCreate_fail {ec : Int} (session : Session) (party : Nat) (failure : ec ≠ 0) :
    VideoRoom.onPartyCreate ec party session = (some (), session.fail party ec) := by
  unfold VideoRoom.onPartyCreate Session.fail
  cases type : (session.parties party).type with
  | localParty => simp [type, failure, close_some]
  | remoteParty => simp [type, failure, close_some]

/-! ### Moving on -/

/-- What the room and its tables see of a party. -/
structure Look where
  type : PartyType
  uid : Option Text
  roomName : Option Text
  streamNameDisplay : Text
  signalReady : Bool
  mediaReady : Bool
  allReady : Bool
  closed : Option Bool
  created : Bool

def Party.look (party : Party) : Look where
  type := party.type
  uid := party.uid
  roomName := party.roomName
  streamNameDisplay := party.streamNameDisplay
  signalReady := party.signalReady
  mediaReady := party.mediaReady
  allReady := party.allReady
  closed := party.closed
  created := party.created

/-- What the candidates of a party are sent with, and where they are queued. -/
structure Wires where
  sessionId : LuaValue
  handle : LuaValue
  candidateList : Option (List Text)

def Party.wires (party : Party) : Wires where
  sessionId := party.sessionId
  handle := party.handle
  candidateList := party.candidateList

/-- What a party asks for, and what it sends of its candidates. -/
def Entry.OfParty (party : Nat) (entry : Entry) : Prop :=
  (∃ request, entry = .asks party request) ∨ ∃ sid hid candidate, entry = .trickles party sid hid candidate

/-- A table of the room leads to the party, as the sender of a message or as the one whom a
transaction calls back. -/
def Session.Knows (session : Session) (party : Nat) : Prop :=
  (∃ key, session.handlePartyTable key = some party) ∨
    ∃ id transaction cb, session.transactionTable id = some transaction ∧
      transaction.cb = some cb ∧ cb.party = party

/-- A party gets on without the room or another party noticing, and opens no connections but
those listed. -/
structure Drifts (party : Nat) (opens : List Conn) (new : List Entry) (before after : Session) :
    Prop where
  history : after.history = before.history ++ new
  entries : ∀ entry ∈ new, entry.OfParty party
  room : after.room = before.room
  calls : after.calls = before.calls
  made : after.made = before.made
  others : ∀ other, other ≠ party → after.parties other = before.parties other
  look : (after.parties party).look = (before.parties party).look
  conns : ∀ conn, (after.parties party).conns conn = (before.parties party).conns conn ∨
    (conn ∈ opens ∧ (after.parties party).conns conn =
      ((before.parties party).conns conn).assign (before.calls.opens conn))
  known : ∀ other, after.Knows other → before.Knows other ∨ other = party

theorem Drifts.trans (first : Drifts party opens new before middle)
    (second : Drifts party opens' new' middle after) (apart : ∀ conn ∈ opens, conn ∉ opens') :
    Drifts party (opens ++ opens') (new ++ new') before after where
  history := by rw [second.history, first.history, List.append_assoc]
  entries := by
    intro entry member
    rcases List.mem_append.mp member with old | new
    · exact first.entries entry old
    · exact second.entries entry new
  room := second.room.trans first.room
  calls := second.calls.trans first.calls
  made := second.made.trans first.made
  others other others := (second.others other others).trans (first.others other others)
  look := second.look.trans first.look
  conns conn := by
    rcases first.conns conn with same | ⟨listed, assigned⟩
    · rw [← same, ← first.calls]
      rcases second.conns conn with same' | ⟨listed, assigned⟩
      · exact .inl same'
      · exact .inr ⟨by simp [listed], assigned⟩
    · rcases second.conns conn with same' | ⟨listed', _⟩
      · exact .inr ⟨by simp [listed], same'.trans assigned⟩
      · exact absurd listed' (apart conn listed)
  known other knows := (second.known other knows).elim (first.known other) .inr

/-- A party gets on without touching its candidates: all that passes is what it asks for. -/
structure Moves (party : Nat) (opens : List Conn) (new : List Entry) (before after : Session) :
    Prop extends Drifts party opens new before after where
  quiet : ∀ entry ∈ new, ∃ request, entry = .asks party request
  candidateList : after.candidateList = before.candidateList
  wires : (after.parties party).wires = (before.parties party).wires

namespace Moves
variable {party : Nat} {before middle after : Session}

theorem refl (session : Session) : Moves party [] [] session session :=
  ⟨⟨(List.append_nil _).symm, by simp, rfl, rfl, rfl, fun _ _ => rfl, rfl, fun _ => .inl rfl,
    fun _ => .inl⟩, by simp, rfl, rfl⟩

theorem trans (first : Moves party opens new before middle)
    (second : Moves party opens' new' middle after)
    (apart : ∀ conn ∈ opens, conn ∉ opens') :
    Moves party (opens ++ opens') (new ++ new') before after where
  toDrifts := first.toDrifts.trans second.toDrifts apart
  quiet := by
    intro entry member
    rcases List.mem_append.mp member with old | new
    · exact first.quiet entry old
    · exact second.quiet entry new
  candidateList := second.candidateList.trans first.candidateList
  wires := second.wires.trans first.wires

theorem within (moves : Moves party opens new before after) (listed : opens ⊆ opens') :
    Moves party opens' new before after :=
  { moves with
    conns := fun conn => (moves.conns conn).imp id fun ⟨member, assigned⟩ => ⟨listed member, assigned⟩ }

/-- The party asks for something once it has moved. -/
theorem asking (moves : Moves party opens new before after) (request : PartyRequest) :
    Moves party opens (new ++ [.asks party request]) before
      (after.enter (.asks party request)) where
  history := by rw [Session.enter_history, moves.history, List.append_assoc]
  entries := by
    intro entry member
    rcases List.mem_append.mp member with old | new
    · exact moves.entries entry old
    · exact .inl ⟨request, List.mem_singleton.mp new⟩
  quiet := by
    intro entry member
    rcases List.mem_append.mp member with old | new
    · exact moves.quiet entry old
    · exact ⟨request, List.mem_singleton.mp new⟩
  room := moves.room
  candidateList := moves.candidateList
  calls := moves.calls
  made := moves.made
  others := moves.others
  look := moves.look
  wires := moves.wires
  conns := moves.conns
  known := moves.known

theorem update (session : Session) (change : Party → Party)
    (look : (change (session.parties party)).look = (session.parties party).look)
    (wires : (change (session.parties party)).wires = (session.parties party).wires)
    (conns : (change (session.parties party)).conns = (session.parties party).conns) :
    Moves party [] [] session (session.updateParty party change) where
  history := (List.append_nil _).symm
  entries := by simp
  quiet := by simp
  room := rfl
  candidateList := rfl
  calls := rfl
  made := rfl
  others _ apart := Session.updateParty_other session party change apart
  look := by rw [Session.updateParty_self, look]
  wires := by rw [Session.updateParty_self, wires]
  conns conn := .inl (by rw [Session.updateParty_self, conns])
  known _ := .inl

theorem assign (session : Session) (conn : Conn) (opened : Bool)
    (goes : session.calls.opens conn = opened) :
    Moves party [conn] [] session (session.updateParty party (·.assignConn conn opened)) where
  history := (List.append_nil _).symm
  entries := by simp
  quiet := by simp
  room := rfl
  candidateList := rfl
  calls := rfl
  made := rfl
  others _ apart := Session.updateParty_other session party _ apart
  look := by rw [Session.updateParty_self]; rfl
  wires := by rw [Session.updateParty_self]; rfl
  conns other := by
    rw [Session.updateParty_self]
    by_cases same : other = conn
    · exact .inr ⟨by simp [same], by simp [Party.assignConn, same, goes]⟩
    · exact .inl (by simp [Party.assignConn, same])
  known _ := .inl

end Moves

namespace Session

/-- The session with one more transaction. -/
def transact (session : Session) (hasRsp : Bool) (cb : Option TransactionCallback) : Session :=
  session.draw.fileTransaction (transactionId session.drawn) { hasRsp := hasRsp, cb := cb }

end Session

theorem transact_known (session : Session) (hasRsp : Bool) (cb : Option TransactionCallback)
    (other : Nat) (knows : (session.transact hasRsp cb).Knows other) :
    session.Knows other ∨ ∃ called, cb = some called ∧ called.party = other := by
  rcases knows with handle | ⟨id, transaction, called, filed, calls, same⟩
  · exact .inl (.inl handle)
  · unfold Session.transact Session.fileTransaction at filed
    dsimp only at filed
    split at filed
    · cases filed
      exact .inr ⟨called, calls, same⟩
    · exact .inl (.inr ⟨id, transaction, called, filed, calls, same⟩)

/-- A transaction that calls back the party itself. -/
theorem Moves.transact (session : Session) (cb : TransactionCallback) :
    Moves cb.party [] [] session (session.transact true (some cb)) :=
  ⟨⟨(List.append_nil _).symm, by simp, rfl, rfl, rfl, fun _ _ => rfl, rfl, fun _ => .inl rfl,
    fun other knows => (transact_known session true (some cb) other knows).imp id
      fun ⟨_, same, calls⟩ => calls ▸ Option.some.inj same ▸ rfl⟩, by simp, rfl, rfl⟩

theorem createTransaction_apply (session : Session) (hasRsp : Bool)
    (cb : Option TransactionCallback) :
    VideoRoom.createTransaction hasRsp cb session =
      (some (transactionId session.drawn), session.transact hasRsp cb) := rfl

/-! ### What a callback comes to -/

/-- A callback asks for the next step, rests because the next step is another callback's or
there is none, closes the party with an error, stops in an error of the script, or does
nothing of all that. -/
inductive Verdict where
  | asks
  | rests
  | refuses (ec : Int)
  | raises
  | stalls
  deriving DecidableEq

def Asked (party : Nat) (new : List Entry) : Prop := ∃ request, Entry.asks party request ∈ new

theorem not_asked_nil : ¬ Asked party [] := by
  rintro ⟨_, member⟩
  cases member

/-- What the script has come to, as the verdict says. `way` is how the party has got on by
then, and `rest` is what lets it rest. -/
inductive Outcome (party : Nat) (way : List Entry → Session → Session → Prop)
    (rest : Session → Prop) (before : Session) : Verdict → Option Unit × Session → Prop where
  | asks (moves : way new before after) (asked : Asked party new) :
      Outcome party way rest before .asks (some (), after)
  | rests (moves : way new before after) (silent : ¬ Asked party new) (resting : rest after) :
      Outcome party way rest before .rests (some (), after)
  | refuses (moves : way new before reached) (silent : ¬ Asked party new) (failure : ec ≠ 0) :
      Outcome party way rest before (.refuses ec) (some (), reached.fail party ec)
  | raises (moves : way new before after) (silent : ¬ Asked party new) :
      Outcome party way rest before .raises (none, after)
  | stalls (moves : way new before after) (silent : ¬ Asked party new) (restless : ¬ rest after) :
      Outcome party way rest before .stalls (some (), after)

/-- What comes behind a stretch of way that leads into it. -/
theorem Outcome.behind {before middle : Session} {way way' : List Entry → Session → Session → Prop}
    (leads : ∀ new after, way new middle after → way' new before after)
    (outcome : Outcome party way rest middle verdict result) :
    Outcome party way' rest before verdict result := by
  cases outcome with
  | asks moves asked => exact .asks (leads _ _ moves) asked
  | rests moves silent resting => exact .rests (leads _ _ moves) silent resting
  | refuses moves silent failure => exact .refuses (leads _ _ moves) silent failure
  | raises moves silent => exact .raises (leads _ _ moves) silent
  | stalls moves silent restless => exact .stalls (leads _ _ moves) silent restless

theorem Moves.leads {before middle : Session} (moves : Moves party [] [] before middle)
    (new : List Entry) (after : Session) (next : Moves party opens new middle after) :
    Moves party opens new before after :=
  moves.trans next (by simp)

/-- A failure reported at once. -/
theorem Outcome.fails {session : Session} {ec : Int} (failure : ec ≠ 0)
    (moves : Moves party opens [] before session) :
    Outcome party (Moves party opens) rest before (.refuses ec)
      (VideoRoom.onPartyCreate ec party session) := by
  rw [onPartyCreate_fail session party failure]
  exact .refuses moves not_asked_nil failure

/-! ### From the servers to the handle -/

/-- What connecting to a server opens, which takes an address. -/
def janusOpens (janusSvr : LuaValue) : List Conn := if janusSvr.truthy then [.janus] else []

def connectVerdict (calls : Calls) (janusSvr : LuaValue) : Verdict :=
  if janusSvr.truthy ∧ calls.wsOpens ∧ janusSvr.isString ∧ calls.connects then .asks
  else .refuses 23

theorem asked_last (new : List Entry) (request : PartyRequest) :
    Asked party (new ++ [.asks party request]) :=
  ⟨request, by simp⟩

theorem connectJanusSvr_outcome (session : Session) (party : Nat) (janusSvr : LuaValue) :
    Outcome party (Moves party (janusOpens janusSvr)) rest session
      (connectVerdict session.calls janusSvr) (Party.connectJanusSvr party janusSvr session) := by
  unfold Party.connectJanusSvr connectVerdict janusOpens
  by_cases given : janusSvr.truthy
  · simp only [given, bind_apply, theCalls_apply, setConn_apply, if_true, true_and,
      Session.updateParty_calls]
    rw [if_apply]
    split
    · exact .asks ((Moves.assign _ _ _ rfl).asking _) (asked_last ..)
    · exact .fails (by decide) (Moves.assign _ _ _ rfl)
  · simp only [given, if_false, false_and, Bool.false_eq_true]
    exact .fails (by decide) ((Moves.refl _).within (by simp))

def scheduledRequestVerdict (calls : Calls) (scheduledSvr : LuaValue) : Verdict :=
  if ¬ scheduledSvr.truthy then .refuses 23
  else if ¬ calls.httpOpens then .raises
  else if scheduledSvr.isString ∧ calls.gets then .asks
  else .stalls

theorem requestScheduledSvr_outcome (session : Session) (party : Nat) (scheduledSvr : LuaValue) :
    Outcome party (Moves party [.scheduled]) (fun _ => False) session
      (scheduledRequestVerdict session.calls scheduledSvr)
      (Party.requestScheduledSvr party scheduledSvr session) := by
  unfold Party.requestScheduledSvr scheduledRequestVerdict
  by_cases given : scheduledSvr.truthy
  · by_cases opened : session.calls.httpOpens
    · simp only [given, opened, bind_apply, theCalls_apply, setConn_apply, assert_apply, if_true,
        not_true_eq_false, if_false, Session.updateParty_calls]
      rw [if_apply]
      split
      · exact .asks ((Moves.assign session .scheduled _ opened).asking _) (asked_last ..)
      · exact .stalls (Moves.assign session .scheduled _ opened) not_asked_nil not_false
    · simp only [given, opened, bind_apply, theCalls_apply, setConn_apply, assert_apply, if_true,
        not_true_eq_false, if_false, not_false_eq_true, Bool.false_eq_true]
      exact .raises (Moves.assign session .scheduled _ (eq_false_of_ne_true opened)) not_asked_nil
  · simp only [given, if_false, if_true, not_false_eq_true, Bool.false_eq_true]
    exact .fails (by decide) ((Moves.refl _).within (by simp))

/-- The level and the time of the log can be used. -/
def logReadable (jsonData : LuaValue) : Bool :=
  ((jsonData.get "log_level").isNil || (jsonData.get "log_level").isNumber) &&
    ((jsonData.get "log_base_time").isNil || (jsonData.get "log_base_time").isNumber)

/-- The reply of a server that names the scheduling server. -/
def namingVerdict (calls : Calls) (ec1 : Int) (body : Option LuaValue) : Verdict :=
  if ec1 ≠ 0 then .refuses ec1
  else
    match body with
    | none => .raises
    | some jsonData =>
      if jsonData.indexable ∧ logReadable jsonData then
        scheduledRequestVerdict calls (jsonData.get "sche_url")
      else .raises

theorem configNetLog_apply (session : Session) (jsonData : LuaValue) :
    Party.configNetLog (jsonData.get "log_level") (jsonData.get "log_base_time") session =
      if logReadable jsonData then (some (), session) else (none, session) :=
  assert_apply ..

theorem onRequestMasterdSvr_outcome (session : Session) (party : Nat) (ec1 : Int)
    (body : Option LuaValue) :
    Outcome party (Moves party [.scheduled]) (fun _ => False) session (namingVerdict session.calls ec1 body)
      (Party.onRequestMasterdSvr party ec1 body session) := by
  have still : Moves party [.scheduled] [] session session := (Moves.refl _).within (by simp)
  unfold Party.onRequestMasterdSvr namingVerdict
  by_cases well : ec1 = 0
  · cases body with
    | none => simpa [well] using Outcome.raises still not_asked_nil
    | some jsonData =>
      cases indexable : jsonData.indexable with
      | false =>
        simpa [well, indexable, LuaValue.field_of_not_indexable] using
          Outcome.raises still not_asked_nil
      | true =>
        by_cases readable : logReadable jsonData
        · simpa [well, indexable, LuaValue.field_of_indexable, configNetLog_apply, readable] using
            requestScheduledSvr_outcome session party (jsonData.get "sche_url")
        · simpa [well, indexable, LuaValue.field_of_indexable, configNetLog_apply, readable] using
            Outcome.raises still not_asked_nil
  · simp only [well, if_false, ne_eq, not_false_eq_true, if_true]
    exact .fails well still

theorem onRequestNamedSvr_outcome (session : Session) (party : Nat) (ec1 : Int)
    (body : Option LuaValue) :
    Outcome party (Moves party [.scheduled]) (fun _ => False) session (namingVerdict session.calls ec1 body)
      (Party.onRequestNamedSvr party ec1 body session) := by
  have still : Moves party [.scheduled] [] session session := (Moves.refl _).within (by simp)
  unfold Party.onRequestNamedSvr namingVerdict
  by_cases well : ec1 = 0
  · cases body with
    | none => simpa [well] using Outcome.raises still not_asked_nil
    | some jsonData =>
      cases indexable : jsonData.indexable with
      | false =>
        simpa [well, indexable, LuaValue.field_of_not_indexable] using
          Outcome.raises still not_asked_nil
      | true =>
        have named : Moves party [] [] session (session.updateParty party fun before =>
            { before with streamNameInternal := jsonData.get "stream_name" }) := .update _ _ rfl rfl rfl
        simpa [well, indexable, LuaValue.field_of_indexable, Party.onRequestMasterdSvr,
          namingVerdict] using
          (onRequestMasterdSvr_outcome _ party 0 (some jsonData)).behind named.leads
  · simp only [well, if_false, ne_eq, not_false_eq_true, if_true]
    exact .fails well still

/-- The reply of the scheduling server. -/
def scheduledVerdict (calls : Calls) (ec1 : Int) (body : Option LuaValue) : Verdict :=
  if ec1 ≠ 0 then .refuses ec1
  else
    match body with
    | none => .raises
    | some jsonData =>
      if ¬ jsonData.indexable then .raises
      else if (jsonData.get "code").rawEqual (.integer 1) then
        if (jsonData.get "info").indexable then
          connectVerdict calls ((jsonData.get "info").get "webrtc_url")
        else .raises
      else if (jsonData.get "code").toInteger.isSome then .refuses 35
      else .raises

/-- What the reply of the scheduling server opens. -/
def scheduledOpens (ec1 : Int) (body : Option LuaValue) : List Conn :=
  match body with
  | none => []
  | some jsonData =>
    if ec1 = 0 ∧ jsonData.indexable ∧ (jsonData.get "code").rawEqual (.integer 1) ∧
        (jsonData.get "info").indexable then
      janusOpens ((jsonData.get "info").get "webrtc_url")
    else []

theorem onRequestScheduledSvr_outcome (session : Session) (party : Nat) (ec1 : Int)
    (body : Option LuaValue) :
    Outcome party (Moves party (scheduledOpens ec1 body)) (fun _ => False) session
      (scheduledVerdict session.calls ec1 body)
      (Party.onRequestScheduledSvr party ec1 body session) := by
  have still : Moves party (scheduledOpens ec1 body) [] session session :=
    (Moves.refl _).within (by simp)
  unfold Party.onRequestScheduledSvr scheduledVerdict
  by_cases well : ec1 = 0
  · cases body with
    | none => simpa [well] using Outcome.raises still not_asked_nil
    | some jsonData =>
      cases indexable : jsonData.indexable with
      | false =>
        simpa [well, indexable, LuaValue.field_of_not_indexable] using
          Outcome.raises still not_asked_nil
      | true =>
        by_cases granted : (jsonData.get "code").rawEqual (.integer 1)
        · cases informed : (jsonData.get "info").indexable with
          | false =>
            simpa [well, indexable, granted, informed, LuaValue.field_of_indexable,
              LuaValue.field_of_not_indexable] using Outcome.raises still not_asked_nil
          | true =>
            have named : Moves party [] [] session (session.updateParty party fun before =>
                { before with streamNameInternal := (jsonData.get "info").get "stream_name" }) :=
              .update _ _ rfl rfl rfl
            simpa [well, indexable, granted, informed, LuaValue.field_of_indexable, scheduledOpens] using
              (connectJanusSvr_outcome _ party ((jsonData.get "info").get "webrtc_url")).behind named.leads
        · cases printed : (jsonData.get "code").toInteger with
          | none =>
            simpa [well, indexable, granted, printed, LuaValue.field_of_indexable] using
              Outcome.raises still not_asked_nil
          | some code =>
            simpa [well, indexable, granted, printed, LuaValue.field_of_indexable] using
              Outcome.fails (show (35 : Int) ≠ 0 by decide) still
  · simp only [well, if_false, ne_eq, not_false_eq_true, if_true]
    exact .fails well still

def createHandleVerdict (session : Session) (party : Nat) : Verdict :=
  if ((session.parties party).conns .janus).held ∧ session.calls.writes then .asks
  else .refuses 38

theorem createHandleEx_outcome (session : Session) (party : Nat) :
    Outcome party (Moves party []) (fun _ => False) session (createHandleVerdict session party)
      (Party.createHandleEx party session) := by
  unfold Party.createHandleEx createHandleVerdict
  by_cases held : ((session.parties party).conns .janus).held
  · have transacted : Moves party [] [] session _ := .transact session (.onCreateHandleEx party)
    by_cases written : session.calls.writes
    · simpa [held, written, createTransaction_apply, transacted.calls] using
        Outcome.asks (transacted.asking _) (asked_last ..)
    · simpa [held, written, createTransaction_apply, transacted.calls] using
        Outcome.fails (show (38 : Int) ≠ 0 by decide) transacted
  · simp only [held, bind_apply, theParty_apply, if_false, false_and, Bool.false_eq_true]
    exact .fails (by decide) (.refl _)

def janusConnectVerdict (session : Session) (party : Nat) (res : Bool) : Verdict :=
  if res then createHandleVerdict session party else .refuses 23

theorem onJanusConnectResult_outcome (session : Session) (party : Nat) (res : Bool) :
    Outcome party (Moves party []) (fun _ => False) session (janusConnectVerdict session party res)
      (Party.onJanusConnectResult party res session) := by
  cases res with
  | true => exact createHandleEx_outcome session party
  | false => exact .fails (by decide) (.refl _)

/-! ### Offer and answer -/

/-- The ids of a party are printed with `%d`. -/
def Party.printable (party : Party) : Bool :=
  party.sessionId.toInteger.isSome && party.handle.toInteger.isSome

def sendOfferVerdict (calls : Calls) (party : Party) : Verdict :=
  if ¬ (party.conns .janus).held then .refuses 38
  else if ¬ party.printable then .raises
  else if calls.writes then .asks
  else .refuses 38

theorem sendOfferVerdict_moves (calls : Calls) (party : Party) :
    sendOfferVerdict calls party ≠ .rests ∧ sendOfferVerdict calls party ≠ .stalls := by
  unfold sendOfferVerdict
  repeat' split
  all_goals simp

def publishVerdict (session : Session) (party : Nat) : Verdict :=
  if ¬ (session.parties party).localOfferCreated then .rests
  else if (session.parties party).localOfferSdp = [] then .stalls
  else sendOfferVerdict session.calls (session.parties party)

/-- The handle waits for the offer. -/
def AwaitsOffer (party : Nat) (session : Session) : Prop :=
  (session.parties party).localOfferCreated = false ∧
    (session.parties party).sendLocalOfferPending = true

theorem publishLocalOffer_outcome (session : Session) (party : Nat) :
    Outcome party (Moves party []) (AwaitsOffer party) session (publishVerdict session party)
      (Party.publishLocalOffer party session) := by
  unfold Party.publishLocalOffer publishVerdict sendOfferVerdict
  cases created : (session.parties party).localOfferCreated with
  | false =>
    have waiting : Moves party [] [] session (session.updateParty party fun before =>
        { before with sendLocalOfferPending := true }) := .update _ _ rfl rfl rfl
    simpa [created] using Outcome.rests waiting not_asked_nil (by simp [AwaitsOffer, created])
  | true =>
    by_cases empty : (session.parties party).localOfferSdp = []
    · simpa [created, empty] using
        Outcome.stalls (Moves.refl session) not_asked_nil (by simp [AwaitsOffer, created])
    · by_cases held : ((session.parties party).conns .janus).held
      · have transacted : Moves party [] [] session _ := .transact session (.onOfferAnswered party)
        have own : (session.transact true (some (.onOfferAnswered party))).parties =
          session.parties := rfl
        cases sid : (session.parties party).sessionId.toInteger with
        | none =>
          simpa [created, empty, held, Party.sendLocalOffer, createTransaction_apply, own, sid,
            Party.printable] using Outcome.raises transacted not_asked_nil
        | some sid' =>
          cases hid : (session.parties party).handle.toInteger with
          | none =>
            simpa [created, empty, held, Party.sendLocalOffer, createTransaction_apply, own, sid, hid,
              Party.printable] using Outcome.raises transacted not_asked_nil
          | some hid' =>
            by_cases written : session.calls.writes
            · simpa [created, empty, held, Party.sendLocalOffer, createTransaction_apply, own, sid,
                hid, Party.printable, transacted.calls, written] using
                Outcome.asks (transacted.asking _) (asked_last ..)
            · simpa [created, empty, held, Party.sendLocalOffer, createTransaction_apply, own, sid,
                hid, Party.printable, transacted.calls, written] using
                Outcome.fails (show (38 : Int) ≠ 0 by decide) transacted
      · simpa [created, empty, held, Party.sendLocalOffer] using
          Outcome.fails (show (38 : Int) ≠ 0 by decide) (Moves.refl session)

/-- Where the script neither rests nor stalls, nothing is asked of what lets it rest. -/
theorem Outcome.settled (outcome : Outcome party way rest before verdict result)
    (busy : verdict ≠ .rests) (moving : verdict ≠ .stalls) :
    Outcome party way rest' before verdict result := by
  cases outcome with
  | asks moves asked => exact .asks moves asked
  | rests => exact absurd rfl busy
  | refuses moves silent failure => exact .refuses moves silent failure
  | raises moves silent => exact .raises moves silent
  | stalls => exact absurd rfl moving

/-- The session with the offer a peer connection has created. -/
def Session.offered (session : Session) (party : Nat) (jsep : Text) : Session :=
  session.updateParty party fun before => { before with
    localOfferSdp := jsep
    localOfferCreated := true }

def offerVerdict (session : Session) (party : Nat) (jsep : Text) : Verdict :=
  if jsep = [] then .refuses 41
  else if (session.parties party).sendLocalOfferPending then
    sendOfferVerdict session.calls (session.parties party)
  else if (session.parties party).handle.isNil then .rests
  else .stalls

/-- The offer waits for the handle. -/
def AwaitsHandle (party : Nat) (jsep : Text) (session : Session) : Prop :=
  (session.parties party).localOfferCreated = true ∧
    (session.parties party).localOfferSdp = jsep ∧ (session.parties party).handle.isNil = true

theorem onCreateOffer_outcome (session : Session) (party : Nat) (jsep : Text) :
    Outcome party (Moves party []) (AwaitsHandle party jsep) session (offerVerdict session party jsep)
      (Party.onCreateOffer party jsep session) := by
  have offered : Moves party [] [] session (session.offered party jsep) := .update _ _ rfl rfl rfl
  have own : (session.offered party jsep).parties party = { session.parties party with
    localOfferSdp := jsep, localOfferCreated := true } := Session.updateParty_self ..
  have run : Party.onCreateOffer party jsep session =
      if jsep = [] then VideoRoom.onPartyCreate 41 party (session.offered party jsep)
      else if (session.parties party).sendLocalOfferPending then
        Party.publishLocalOffer party (session.offered party jsep)
      else (some (), session.offered party jsep) := by
    unfold Party.onCreateOffer
    rw [bind_apply, setParty_apply]
    show (if jsep = [] then VideoRoom.onPartyCreate 41 party else _) (session.offered party jsep) = _
    simp [own]
  rw [run, offerVerdict]
  by_cases empty : jsep = []
  · rw [if_pos empty, if_pos empty]
    exact .fails (by decide) offered
  · rw [if_neg empty, if_neg empty]
    by_cases pending : (session.parties party).sendLocalOfferPending
    · rw [if_pos pending, if_pos pending]
      have published := publishLocalOffer_outcome (session.offered party jsep) party
      have verdict : publishVerdict (session.offered party jsep) party =
          sendOfferVerdict session.calls (session.parties party) := by
        simp [publishVerdict, own, empty, sendOfferVerdict, Party.printable, offered.calls]
      rw [verdict] at published
      obtain ⟨busy, moving⟩ := sendOfferVerdict_moves session.calls (session.parties party)
      exact (published.settled busy moving).behind offered.leads
    · rw [if_neg pending, if_neg pending]
      by_cases fresh : (session.parties party).handle.isNil
      · rw [if_pos fresh]
        exact .rests offered not_asked_nil (by simp [AwaitsHandle, own, fresh])
      · rw [if_neg fresh]
        exact .stalls offered not_asked_nil (by simp [AwaitsHandle, own, fresh])

/-- What the message holds under `plugindata.data`. -/
def pluginData (jsonData : LuaValue) : LuaValue := (jsonData.get "plugindata").get "data"

/-- What `attachedJsep` finds in a message, or nothing where it raises an error. -/
def attached (jsonData : LuaValue) : Option LuaValue :=
  if ¬ (jsonData.indexable ∧ (jsonData.get "plugindata").indexable ∧
      (pluginData jsonData).indexable) then none
  else if ((pluginData jsonData).get "videoroom").rawEqual (.string "attached".toList) then
    some (jsonData.get "jsep")
  else some .nil

theorem attachedJsep_apply (session : Session) (jsonData : LuaValue) :
    Party.attachedJsep jsonData session = (attached jsonData, session) := by
  unfold Party.attachedJsep attached pluginData
  cases indexable : jsonData.indexable with
  | false => simp only [bind_apply, field_apply, LuaValue.field_of_not_indexable indexable,
      Bool.false_eq_true, false_and, not_false_eq_true, if_true]
  | true =>
    cases plugged : (jsonData.get "plugindata").indexable with
    | false => simp only [bind_apply, field_apply, LuaValue.field_of_indexable indexable,
        LuaValue.field_of_not_indexable plugged, Bool.false_eq_true, false_and, and_false,
        not_false_eq_true, if_true]
    | true =>
      cases held : ((jsonData.get "plugindata").get "data").indexable with
      | false => simp only [bind_apply, field_apply, LuaValue.field_of_indexable indexable,
          LuaValue.field_of_indexable plugged, LuaValue.field_of_not_indexable held,
          Bool.false_eq_true, and_false, not_false_eq_true, if_true]
      | true =>
        simp only [bind_apply, field_apply, LuaValue.field_of_indexable indexable,
          LuaValue.field_of_indexable plugged, LuaValue.field_of_indexable held, and_self,
          not_true_eq_false, if_false]
        rw [if_apply]
        split
        · rw [field_apply, LuaValue.field_of_indexable indexable]
        · rfl

def listenedVerdict (calls : Calls) (jsonData : LuaValue) : Verdict :=
  match attached jsonData with
  | none => .raises
  | some jsep =>
    if jsep.isNil then .refuses 35
    else if ¬ calls.rtcOpens then .raises
    else if calls.answers then .asks
    else .stalls

/-- What the reply to the order to listen opens. -/
def listenedOpens (calls : Calls) (jsonData : LuaValue) : List Conn :=
  match attached jsonData with
  | none => []
  | some jsep => if jsep.isNil then [] else if calls.rtcOpens then [.rtc, .keepalive] else [.rtc]

theorem onListened_outcome (session : Session) (party : Nat) (jsonData : LuaValue) :
    Outcome party (Moves party (listenedOpens session.calls jsonData)) (fun _ => False) session
      (listenedVerdict session.calls jsonData) (Party.onListened party jsonData session) := by
  have still : Moves party (listenedOpens session.calls jsonData) [] session session :=
    (Moves.refl _).within (by simp)
  unfold Party.onListened listenedVerdict
  cases found : attached jsonData with
  | none => simpa [attachedJsep_apply, found] using Outcome.raises still not_asked_nil
  | some jsep =>
    by_cases missing : jsep.isNil
    · simpa [attachedJsep_apply, found, missing] using
        Outcome.fails (show (35 : Int) ≠ 0 by decide) still
    · by_cases opened : session.calls.rtcOpens
      · have listed : listenedOpens session.calls jsonData = [.rtc, .keepalive] := by
          simp [listenedOpens, found, missing, opened]
        have connected : Moves party [.rtc] [] session
            (session.updateParty party (·.assignConn .rtc true)) := .assign _ _ _ opened
        by_cases answered : session.calls.answers
        · have asking := (connected.asking (.createAnswer jsep)).trans
            (.assign _ .keepalive session.calls.timerOpens rfl) (by simp)
          simpa [attachedJsep_apply, found, missing, opened, answered] using
            Outcome.asks (asking.within (by simp [listed])) ⟨.createAnswer jsep, by simp⟩
        · have silent :=
            connected.trans (.assign _ .keepalive session.calls.timerOpens rfl) (by simp)
          simpa [attachedJsep_apply, found, missing, opened, answered] using
            Outcome.stalls (silent.within (by simp [listed])) not_asked_nil not_false
      · have listed : listenedOpens session.calls jsonData = [.rtc] := by
          simp [listenedOpens, found, missing, opened]
        have unopened : Moves party [.rtc] [] session
            (session.updateParty party (·.assignConn .rtc false)) :=
          .assign _ _ _ (eq_false_of_ne_true opened)
        simpa [attachedJsep_apply, found, missing, opened] using
          Outcome.raises (unopened.within (by simp [listed])) not_asked_nil

def answerVerdict (calls : Calls) (party : Party) (jsep : Text) : Verdict :=
  if jsep = [] then .stalls
  else if ¬ (party.conns .janus).held then .stalls
  else if ¬ party.printable then .raises
  else if calls.writes then .asks
  else .stalls

theorem onCreateAnswer_outcome (session : Session) (party : Nat) (jsep : Text) :
    Outcome party (Moves party []) (fun _ => False) session
      (answerVerdict session.calls (session.parties party) jsep)
      (Party.onCreateAnswer party jsep session) := by
  unfold Party.onCreateAnswer answerVerdict
  by_cases empty : jsep = []
  · simpa [empty] using Outcome.stalls (Moves.refl session) not_asked_nil not_false
  · by_cases held : ((session.parties party).conns .janus).held
    · have transacted : Moves party [] [] session _ := .transact session (.onAnswerAcked party)
      have own : (session.transact true (some (.onAnswerAcked party))).parties =
        session.parties := rfl
      cases sid : (session.parties party).sessionId.toInteger with
      | none =>
        simpa [empty, held, Party.sendRemoteAnswer, createTransaction_apply, own, sid,
          Party.printable] using Outcome.raises transacted not_asked_nil
      | some sid' =>
        cases hid : (session.parties party).handle.toInteger with
        | none =>
          simpa [empty, held, Party.sendRemoteAnswer, createTransaction_apply, own, sid, hid,
            Party.printable] using Outcome.raises transacted not_asked_nil
        | some hid' =>
          by_cases written : session.calls.writes
          · simpa [empty, held, Party.sendRemoteAnswer, createTransaction_apply, own, sid, hid,
              Party.printable, transacted.calls, written] using
              Outcome.asks (transacted.asking _) (asked_last ..)
          · simpa [empty, held, Party.sendRemoteAnswer, createTransaction_apply, own, sid, hid,
              Party.printable, transacted.calls, written] using
              Outcome.stalls transacted not_asked_nil not_false
    · simpa [empty, held, Party.sendRemoteAnswer] using
        Outcome.stalls (Moves.refl session) not_asked_nil not_false

/-- The answer of the server to the offer. -/
def offerAnsweredVerdict (calls : Calls) (party : Party) (jsonData : LuaValue) : Verdict :=
  if ¬ jsonData.indexable then .raises
  else if ¬ (jsonData.get "jsep").isNil ∧ ¬ (jsonData.get "jsep").rawEqual (.string []) then
    if ¬ (party.conns .rtc).held then .raises
    else if calls.answers then .asks
    else .stalls
  else .refuses 43

/-- What the answer to the offer opens. -/
def answeredOpens (jsonData : LuaValue) : List Conn :=
  if jsonData.indexable ∧ ¬ (jsonData.get "jsep").isNil ∧
    ¬ (jsonData.get "jsep").rawEqual (.string []) then [.keepalive] else []

theorem onOfferAnswered_outcome (session : Session) (party : Nat) (jsonData : LuaValue) :
    Outcome party (Moves party (answeredOpens jsonData)) (fun _ => False) session
      (offerAnsweredVerdict session.calls (session.parties party) jsonData)
      (Party.onOfferAnswered party jsonData session) := by
  have still : Moves party (answeredOpens jsonData) [] session session :=
    (Moves.refl _).within (by simp)
  unfold Party.onOfferAnswered offerAnsweredVerdict
  cases indexable : jsonData.indexable with
  | false =>
    simpa [LuaValue.field_of_not_indexable, indexable] using Outcome.raises still not_asked_nil
  | true =>
    by_cases given : ¬ (jsonData.get "jsep").isNil ∧ ¬ (jsonData.get "jsep").rawEqual (.string [])
    · have listed : answeredOpens jsonData = [.keepalive] := if_pos ⟨indexable, given⟩
      have timed : Moves party (answeredOpens jsonData) [] session (session.updateParty party
          (·.assignConn .keepalive session.calls.timerOpens)) := listed ▸ .assign _ _ _ rfl
      have same : (((session.parties party).assignConn .keepalive
          session.calls.timerOpens).conns .rtc) = ((session.parties party).conns .rtc) := rfl
      by_cases held : ((session.parties party).conns .rtc).held
      · by_cases answered : session.calls.answers
        · simpa [LuaValue.field_of_indexable indexable, given, same, held, answered] using
            Outcome.asks (timed.asking (.setRemoteDesc (jsonData.get "jsep"))) (asked_last ..)
        · simpa [LuaValue.field_of_indexable indexable, given, same, held, answered] using
            Outcome.stalls timed not_asked_nil not_false
      · simpa [LuaValue.field_of_indexable indexable, given, same, held] using
          Outcome.raises timed not_asked_nil
    · simp only [given, LuaValue.field_of_indexable indexable, bind_apply, field_apply, if_false,
        not_true_eq_false]
      exact .fails (by decide) still

/-- What `startedOk` makes of a message, or nothing where it raises an error. -/
def started (jsonData : LuaValue) : Option Bool :=
  if jsonData.isNil then some false
  else if ¬ jsonData.indexable then none
  else if (jsonData.get "plugindata").isNil then some false
  else if ¬ (jsonData.get "plugindata").indexable then none
  else if (pluginData jsonData).isNil then some false
  else if ¬ (pluginData jsonData).indexable then none
  else some (((pluginData jsonData).get "started").rawEqual (.string "ok".toList))

def ackedVerdict (jsonData : LuaValue) : Verdict :=
  match started jsonData with
  | none => .raises
  | some true => .rests
  | some false => .refuses 35

theorem startedOk_apply (session : Session) (jsonData : LuaValue) :
    Party.startedOk jsonData session = (started jsonData, session) := by
  unfold Party.startedOk started pluginData
  cases missing : jsonData.isNil with
  | true => simp
  | false =>
    cases indexable : jsonData.indexable with
    | false => simp [LuaValue.field_of_not_indexable indexable]
    | true =>
      cases unplugged : (jsonData.get "plugindata").isNil with
      | true => simp [LuaValue.field_of_indexable indexable, unplugged]
      | false =>
        cases plugged : (jsonData.get "plugindata").indexable with
        | false =>
          simp [LuaValue.field_of_indexable indexable, unplugged,
            LuaValue.field_of_not_indexable plugged]
        | true =>
          cases empty : ((jsonData.get "plugindata").get "data").isNil with
          | true =>
            simp [LuaValue.field_of_indexable indexable, unplugged,
              LuaValue.field_of_indexable plugged, empty]
          | false =>
            cases held : ((jsonData.get "plugindata").get "data").indexable with
            | false =>
              simp [LuaValue.field_of_indexable indexable, unplugged,
                LuaValue.field_of_indexable plugged, empty, LuaValue.field_of_not_indexable held]
            | true =>
              simp [LuaValue.field_of_indexable indexable, unplugged,
                LuaValue.field_of_indexable plugged, empty, LuaValue.field_of_indexable held]

theorem onAnswerAcked_outcome (session : Session) (party : Nat) (jsonData : LuaValue) :
    Outcome party (Moves party []) (fun _ => started jsonData = some true) session (ackedVerdict jsonData)
      (Party.onAnswerAcked party jsonData session) := by
  unfold Party.onAnswerAcked ackedVerdict
  cases found : started jsonData with
  | none => simpa [startedOk_apply, found] using Outcome.raises (Moves.refl session) not_asked_nil
  | some ok =>
    cases ok with
    | true =>
      simpa [startedOk_apply, found] using Outcome.rests (Moves.refl session) not_asked_nil trivial
    | false =>
      simpa [startedOk_apply, found] using
        Outcome.fails (show (35 : Int) ≠ 0 by decide) (Moves.refl session)

end BeeSdk.Signalling
