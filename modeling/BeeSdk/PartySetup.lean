import BeeSdk.PartyHandle

/-! The setting up of a stream: whatever a step of it replies, the party is to ask for the
next step or to be closed as a join that failed. -/
namespace BeeSdk.Signalling
open HttpHeader (Text)
open Script

/-- A reply that the setting up of a party waits for. -/
inductive SetupReply where
  | named (ec1 : Int) (body : Option LuaValue)
  | masterd (ec1 : Int) (body : Option LuaValue)
  | scheduled (ec1 : Int) (body : Option LuaValue)
  | janusConnect (res : Bool)
  | handle (success : Bool) (jsonData : LuaValue)
  | offer (jsep : Text)
  | offerAnswered (jsonData : LuaValue)
  | listened (jsonData : LuaValue)
  | answer (jsep : Text)
  | acked (jsonData : LuaValue)

namespace SetupReply

def run (party : Nat) : SetupReply → Lua Unit
  | .named ec1 body => Party.onRequestNamedSvr party ec1 body
  | .masterd ec1 body => Party.onRequestMasterdSvr party ec1 body
  | .scheduled ec1 body => Party.onRequestScheduledSvr party ec1 body
  | .janusConnect res => Party.onJanusConnectResult party res
  | .handle success jsonData => Party.onCreateHandleEx party success jsonData
  | .offer jsep => Party.onCreateOffer party jsep
  | .offerAnswered jsonData => Party.onOfferAnswered party jsonData
  | .listened jsonData => Party.onListened party jsonData
  | .answer jsep => Party.onCreateAnswer party jsep
  | .acked jsonData => Party.onAnswerAcked party jsonData

/-- The connections the next step opens. -/
def opens (calls : Calls) : SetupReply → List Conn
  | .named _ _ | .masterd _ _ => [.scheduled]
  | .scheduled ec1 body => scheduledOpens ec1 body
  | .listened jsonData => listenedOpens calls jsonData
  | .offerAnswered jsonData => answeredOpens jsonData
  | _ => []

/-- The next step is not this reply's to ask for: of the offer and the handle the second to
come asks, and a subscription that has started is the last step. -/
def Rests (party : Nat) (session : Session) : SetupReply → Prop
  | .handle _ _ => AwaitsOffer party session
  | .offer jsep => AwaitsHandle party jsep session
  | .acked jsonData => started jsonData = some true
  | _ => False

end SetupReply

/-- The room finds the party under the name of its stream. -/
def Session.Registered (session : Session) (party : Nat) : Prop :=
  let table := match (session.parties party).type with
    | .localParty => session.room.pushStreamPartyTable
    | .remoteParty => session.room.pullStreamPartyTable
  table.lookup (session.parties party).streamNameDisplay = some party

/-- What is told of a join that fails. -/
def Party.joinFailure (party : Party) (ec : Int) : Notification :=
  let type := match party.type with
    | .localParty => eVideoConfNotify_Local_Join
    | .remoteParty => eVideoConfNotify_Remote_Join
  .ofParty type ec party.roomName party.streamNameDisplay party.uid

/-- Something is told of a party. -/
def Told (party : Nat) (new : List Entry) : Prop :=
  ∃ notification, Entry.notifies (some party) notification ∈ new

/-- The next step is under way, and nothing is told. -/
structure Advanced (party : Nat) (rests : Session → Prop) (new : List Entry) (after : Session) :
    Prop where
  onward : Asked party new ∨ rests after
  untold : ¬ Told party new

/-- The party is gone, and the one thing told of it is the join that failed. -/
structure Refused (party : Nat) (before : Session) (new : List Entry) (after : Session) : Prop where
  unasked : ¬ Asked party new
  told : ∃ quiet ec, ec ≠ 0 ∧ ¬ Told party quiet ∧
    new = quiet ++ [.notifies (some party) ((before.parties party).joinFailure ec)]
  unregistered : ¬ after.Registered party
  shut : ∀ conn, ((after.parties party).conns conn).held = false

/-- No dead end: a callback gets through, and the party is under way to the next step or
closed with the failure told. -/
def Resolved (party : Nat) (rests : Session → Prop) (before : Session)
    (result : Option Unit × Session) : Prop :=
  result.1 = some () ∧ ∃ new, result.2.history = before.history ++ new ∧
    (Advanced party rests new result.2 ∨ Refused party before new result.2)

/-! ### What an outcome comes to -/

theorem untold_of_entries (entries : ∀ entry ∈ new, Entry.OfParty party entry) :
    ¬ Told party new := by
  rintro ⟨notification, member⟩
  rcases entries _ member with ⟨_, same⟩ | ⟨_, _, _, same⟩
  · cases same
  · cases same

theorem shut_unregistered (session : Session) (party : Nat) (ec : Int) :
    ¬ (session.shut party ec).Registered party := by
  unfold Session.Registered
  rw [shut_parties, shut_room]
  cases type : (session.parties party).type with
  | localParty => simp [Party.finish, Party.closeConns, type, VideoRoom.drop]
  | remoteParty => simp [Party.finish, Party.closeConns, type, VideoRoom.drop]

theorem fail_unregistered (session : Session) (party : Nat) (ec : Int) :
    ¬ (session.fail party ec).Registered party := by
  unfold Session.fail
  split
  · exact shut_unregistered _ party ec
  · exact shut_unregistered _ party ec

/-- The message a party is closed with says that its join failed, unless it is all ready. -/
theorem closing_eq_joinFailure (party : Party) (ec ec' : Int) :
    party.closing ec = party.joinFailure ec' ↔ ec = ec' ∧ party.allReady = false := by
  unfold Party.closing Party.joinFailure Party.closeType
  cases party.allReady <;> cases party.type <;>
    simp [eVideoConfNotify_Local_Join, eVideoConfNotify_Remote_Join, eVideoConfNotify_Local_Leaved,
      eVideoConfNotify_Remote_Leaved]

theorem closing_of_look {left right : Party} (same : left.look = right.look) (ec : Int) :
    left.closing ec = right.closing ec := by
  have type := congrArg Look.type same
  have ready := congrArg Look.allReady same
  have roomName := congrArg Look.roomName same
  have display := congrArg Look.streamNameDisplay same
  have uid := congrArg Look.uid same
  simp only [Party.look] at type ready roomName display uid
  simp [Party.closing, Party.closeType, type, ready, roomName, display, uid]

/-- A party that gets on and is then refused has been told of once. -/
theorem refused_resolved (drifts : Drifts party opens new before reached)
    (silent : ¬ Asked party new) (failure : ec ≠ 0) :
    Resolved party rests before (some (), reached.fail party ec) ↔
      (before.parties party).allReady = false := by
  have quiet := untold_of_entries drifts.entries
  have history : (reached.fail party ec).history = before.history ++
      (new ++ [.notifies (some party) ((before.parties party).closing ec)]) := by
    rw [fail_history, drifts.history, closing_of_look drifts.look, List.append_assoc]
  constructor
  · rintro ⟨_, new', history', outcome⟩
    have same := List.append_cancel_left (history'.symm.trans history)
    rcases outcome with advanced | refused
    · exact absurd ⟨(before.parties party).closing ec, by simp [same]⟩ advanced.untold
    · obtain ⟨quiet', ec', _, _, told⟩ := refused.told
      have last := (List.append_inj' (told.symm.trans same) rfl).2
      have told' : (before.parties party).closing ec = (before.parties party).joinFailure ec' := by
        simpa using last.symm
      exact ((closing_eq_joinFailure _ _ _).mp told').2
  · intro early
    have told := (closing_eq_joinFailure (before.parties party) ec ec).mpr ⟨rfl, early⟩
    refine ⟨rfl, _, history, .inr ⟨?_, ⟨new, ec, failure, quiet, by rw [told]⟩,
      fail_unregistered reached party ec, fail_held reached party ec⟩⟩
    rintro ⟨request, member⟩
    rcases List.mem_append.mp member with asked | told
    · exact silent ⟨request, asked⟩
    · simp at told

theorem stalled_unresolved (drifts : Drifts party opens new before after)
    (silent : ¬ Asked party new) (restless : ¬ rests after) :
    ¬ Resolved party rests before (some (), after) := by
  rintro ⟨_, new', history', outcome⟩
  have same := List.append_cancel_left (history'.symm.trans drifts.history)
  rcases outcome with advanced | refused
  · rw [same] at advanced
    exact advanced.onward.elim silent restless
  · obtain ⟨quiet, ec, _, _, told⟩ := refused.told
    refine untold_of_entries drifts.entries ⟨(before.parties party).joinFailure ec, ?_⟩
    rw [← same, told]
    simp

theorem outcome_resolved
    (outcome : Outcome party (Drifts party opens) rests before verdict result) :
    Resolved party rests before result ↔
      verdict = .asks ∨ verdict = .rests ∨
        (∃ ec, verdict = .refuses ec) ∧ (before.parties party).allReady = false := by
  cases outcome with
  | @asks new after drifts asked =>
    simp only [true_or, iff_true]
    exact ⟨rfl, new, drifts.history, .inl ⟨.inl asked, untold_of_entries drifts.entries⟩⟩
  | @rests new after drifts silent resting =>
    simp only [true_or, or_true, iff_true]
    exact ⟨rfl, new, drifts.history, .inl ⟨.inr resting, untold_of_entries drifts.entries⟩⟩
  | @refuses new reached ec drifts silent failure =>
    simpa using refused_resolved drifts silent failure
  | @raises new after drifts silent => simp [Resolved]
  | @stalls new after drifts silent restless =>
    simpa using stalled_unresolved drifts silent restless

/-! ### Every reply -/

namespace SetupReply

/-- What each reply comes to. -/
def verdict (session : Session) (party : Nat) : SetupReply → Verdict
  | .named ec1 body | .masterd ec1 body => namingVerdict session.calls ec1 body
  | .scheduled ec1 body => scheduledVerdict session.calls ec1 body
  | .janusConnect res => janusConnectVerdict session party res
  | .handle success jsonData => handleVerdict session party success jsonData
  | .offer jsep => offerVerdict session party jsep
  | .offerAnswered jsonData =>
    offerAnsweredVerdict session.calls (session.parties party) jsonData
  | .listened jsonData => listenedVerdict session.calls jsonData
  | .answer jsep => answerVerdict session.calls (session.parties party) jsep
  | .acked jsonData => ackedVerdict jsonData

theorem run_outcome (session : Session) (party : Nat) (reply : SetupReply) :
    Outcome party (Drifts party (reply.opens session.calls)) (reply.Rests party) session
      (reply.verdict session party) (reply.run party session) := by
  have moved : ∀ {opens} (new : List Entry) (after : Session),
      Moves party opens new session after → Drifts party opens new session after :=
    fun _ _ moves => moves.toDrifts
  cases reply with
  | named ec1 body => exact (onRequestNamedSvr_outcome session party ec1 body).behind moved
  | masterd ec1 body => exact (onRequestMasterdSvr_outcome session party ec1 body).behind moved
  | scheduled ec1 body => exact (onRequestScheduledSvr_outcome session party ec1 body).behind moved
  | janusConnect res => exact (onJanusConnectResult_outcome session party res).behind moved
  | handle success jsonData => exact onCreateHandleEx_outcome session party success jsonData
  | offer jsep => exact (onCreateOffer_outcome session party jsep).behind moved
  | offerAnswered jsonData => exact (onOfferAnswered_outcome session party jsonData).behind moved
  | listened jsonData => exact (onListened_outcome session party jsonData).behind moved
  | answer jsep => exact (onCreateAnswer_outcome session party jsep).behind moved
  | acked jsonData => exact (onAnswerAcked_outcome session party jsonData).behind moved

/-! ### When a reply leads on, and when it is refused -/

/-- A server's reply names a scheduling server, and the log can be set as it says. -/
def Names (body : Option LuaValue) (address : LuaValue) : Prop :=
  ∃ jsonData, body = some jsonData ∧ jsonData.indexable = true ∧ logReadable jsonData = true ∧
    address = jsonData.get "sche_url"

/-- The scheduling server's reply has a code, and information where the code is one. -/
def Schedules (body : Option LuaValue) (granted : Bool) (address : LuaValue) : Prop :=
  ∃ jsonData, body = some jsonData ∧ jsonData.indexable = true ∧
    granted = (jsonData.get "code").rawEqual (.integer 1) ∧
    (granted = true → (jsonData.get "info").indexable = true) ∧
    (granted = false → (jsonData.get "code").toInteger.isSome = true) ∧
    address = (jsonData.get "info").get "webrtc_url"

/-- Messages of the party reach its server. -/
def Writes (session : Session) (party : Nat) : Prop :=
  ((session.parties party).conns .janus).held = true ∧ session.calls.writes = true

/-- A reply to the creation of the handle has both ids. -/
def Handles (success : Bool) (jsonData : LuaValue) : Prop :=
  success = true ∧ jsonData.indexable = true ∧ (jsonData.get "data").indexable = true ∧
    ((jsonData.get "data").get "sid").toInteger.isSome = true ∧
    ((jsonData.get "data").get "hid").toInteger.isSome = true

/-- The answer to the offer holds a description. -/
def Describes (jsonData : LuaValue) : Prop :=
  (jsonData.get "jsep").isNil = false ∧ (jsonData.get "jsep").rawEqual (.string []) = false

/-- The reply lets the setting up go on. -/
def Continues (session : Session) (party : Nat) : SetupReply → Prop
  | .named ec1 body | .masterd ec1 body => ec1 = 0 ∧ ∃ address, Names body address ∧
    address.isString = true ∧ session.calls.httpOpens = true ∧ session.calls.gets = true
  | .scheduled ec1 body => ec1 = 0 ∧ ∃ address, Schedules body true address ∧
    address.isString = true ∧ session.calls.wsOpens = true ∧ session.calls.connects = true
  | .janusConnect res => res = true ∧ Writes session party
  | .handle success jsonData => Handles success jsonData ∧
    match (session.parties party).type with
    | .localParty => (session.parties party).localOfferCreated = true →
      (session.parties party).localOfferSdp ≠ [] ∧ Writes session party
    | .remoteParty => Writes session party
  | .offer jsep => jsep ≠ [] ∧
    if (session.parties party).sendLocalOfferPending = true then
      (session.parties party).printable = true ∧ Writes session party
    else (session.parties party).handle.isNil = true
  | .offerAnswered jsonData => jsonData.indexable = true ∧ Describes jsonData ∧
    ((session.parties party).conns .rtc).held = true ∧ session.calls.answers = true
  | .listened jsonData => ∃ jsep, attached jsonData = some jsep ∧ jsep.isNil = false ∧
    session.calls.rtcOpens = true ∧ session.calls.answers = true
  | .answer jsep => jsep ≠ [] ∧ (session.parties party).printable = true ∧ Writes session party
  | .acked jsonData => started jsonData = some true

/-- The reply ends the setting up, and the script sees it. -/
def Refuses (session : Session) (party : Nat) : SetupReply → Prop
  | .named ec1 body | .masterd ec1 body => ec1 ≠ 0 ∨
    ∃ address, Names body address ∧ address.truthy = false
  | .scheduled ec1 body => ec1 ≠ 0 ∨ ∃ granted address, Schedules body granted address ∧
    (granted = true → ¬ (address.isString = true ∧ session.calls.wsOpens = true ∧
      session.calls.connects = true))
  | .janusConnect res => ¬ (res = true ∧ Writes session party)
  | .handle success jsonData => success = false ∨ Handles success jsonData ∧
    match (session.parties party).type with
    | .localParty => (session.parties party).localOfferCreated = true ∧
      (session.parties party).localOfferSdp ≠ [] ∧ ¬ Writes session party
    | .remoteParty => ((session.parties party).conns .janus).held = true ∧
      session.calls.writes = false
  | .offer jsep => jsep = [] ∨ (session.parties party).sendLocalOfferPending = true ∧
    (((session.parties party).conns .janus).held = false ∨
      (session.parties party).printable = true ∧ session.calls.writes = false)
  | .offerAnswered jsonData => jsonData.indexable = true ∧ ¬ Describes jsonData
  | .listened jsonData => ∃ jsep, attached jsonData = some jsep ∧ jsep.isNil = true
  | .answer _ => False
  | .acked jsonData => started jsonData = some false

/-- What a verdict says, in the words of the reply. -/
def Reads (verdict : Verdict) (continues refuses : Prop) : Prop :=
  (verdict = .asks ∨ verdict = .rests ↔ continues) ∧ ((∃ ec, verdict = .refuses ec) ↔ refuses)

theorem naming_reads (calls : Calls) (ec1 : Int) (body : Option LuaValue) :
    Reads (namingVerdict calls ec1 body)
      (ec1 = 0 ∧ ∃ address, Names body address ∧ address.isString = true ∧
        calls.httpOpens = true ∧ calls.gets = true)
      (ec1 ≠ 0 ∨ ∃ address, Names body address ∧ address.truthy = false) := by
  unfold Reads namingVerdict
  by_cases well : ec1 = 0
  · cases body with
    | none => simp [well, Names]
    | some jsonData =>
      by_cases readable : jsonData.indexable ∧ logReadable jsonData
      · have string := @LuaValue.truthy_of_isString (jsonData.get "sche_url")
        simp [well, Names, readable, scheduledRequestVerdict]
        grind
      · simp [well, Names, readable]
  · simp [well]

theorem scheduled_reads (calls : Calls) (ec1 : Int) (body : Option LuaValue) :
    Reads (scheduledVerdict calls ec1 body)
      (ec1 = 0 ∧ ∃ address, Schedules body true address ∧ address.isString = true ∧
        calls.wsOpens = true ∧ calls.connects = true)
      (ec1 ≠ 0 ∨ ∃ granted address, Schedules body granted address ∧
        (granted = true → ¬ (address.isString = true ∧ calls.wsOpens = true ∧
          calls.connects = true))) := by
  unfold Reads scheduledVerdict
  by_cases well : ec1 = 0
  · cases body with
    | none => simp [well, Schedules]
    | some jsonData =>
      cases indexable : jsonData.indexable with
      | false => simp [well, Schedules, indexable]
      | true =>
        have string := @LuaValue.truthy_of_isString ((jsonData.get "info").get "webrtc_url")
        cases granted : (jsonData.get "code").rawEqual (.integer 1) with
        | true =>
          simp [well, Schedules, indexable, granted, connectVerdict]
          grind
        | false =>
          simp [well, Schedules, indexable, granted]
          grind
  · simp [well]

theorem handle_reads (session : Session) (party : Nat) (success : Bool) (jsonData : LuaValue) :
    Reads (handleVerdict session party success jsonData)
      (Continues session party (.handle success jsonData))
      (Refuses session party (.handle success jsonData)) := by
  unfold Reads handleVerdict Continues Refuses Handles Writes
  cases success with
  | false => simp
  | true =>
    by_cases given : (jsonData.indexable ∧ (jsonData.get "data").indexable) ∧
        ((jsonData.get "data").get "sid").toInteger.isSome ∧
          ((jsonData.get "data").get "hid").toInteger.isSome
    · obtain ⟨⟨indexable, held⟩, sid, hid⟩ := given
      cases type : (session.parties party).type with
      | localParty =>
        have calls : ∀ sid hid, (session.handled party sid hid).calls = session.calls := fun _ _ => rfl
        simp only [indexable, held, sid, hid, publishVerdict, sendOfferVerdict, handled_parties,
          Party.printable, calls]
        grind
      | remoteParty =>
        simp only [indexable, held, sid, hid, listenVerdict]
        grind
    · grind

theorem offer_reads (session : Session) (party : Nat) (jsep : Text) :
    Reads (offerVerdict session party jsep) (Continues session party (.offer jsep))
      (Refuses session party (.offer jsep)) := by
  unfold Reads offerVerdict Continues Refuses Writes sendOfferVerdict
  grind

theorem verdict_reads (session : Session) (party : Nat) (reply : SetupReply) :
    Reads (reply.verdict session party) (reply.Continues session party)
      (reply.Refuses session party) := by
  cases reply with
  | named ec1 body => exact naming_reads session.calls ec1 body
  | masterd ec1 body => exact naming_reads session.calls ec1 body
  | scheduled ec1 body => exact scheduled_reads session.calls ec1 body
  | janusConnect res =>
    unfold Reads verdict Continues Refuses Writes janusConnectVerdict createHandleVerdict
    grind
  | handle success jsonData => exact handle_reads session party success jsonData
  | offer jsep => exact offer_reads session party jsep
  | offerAnswered jsonData =>
    unfold Reads verdict Continues Refuses Describes offerAnsweredVerdict
    grind
  | listened jsonData =>
    unfold Reads verdict Continues Refuses listenedVerdict
    cases attached jsonData <;> grind
  | answer jsep =>
    unfold Reads verdict Continues Refuses Writes answerVerdict
    grind
  | acked jsonData =>
    unfold Reads verdict Continues Refuses ackedVerdict
    grind

end SetupReply

end BeeSdk.Signalling
