import BeeSdk.PartyNotices
import BeeSdk.TransactionLedger

/-! In every run that does none of the things a ledger must not see, each transaction is called
back at most once, by its own message, and goes with its last message. -/
namespace BeeSdk.Signalling
open HttpHeader (Text)
open Script

/-! ### What a happening files -/

theorem transactionId_injective {left right : Nat} (same : transactionId left = transactionId right) :
    left = right := by
  unfold transactionId at same
  rw [← @Nat.ofDigitChars_ten_toDigits left, same, Nat.ofDigitChars_ten_toDigits]

section
variable {session : Session} {jsonData : LuaValue}

theorem indexable_of_kind {said : String} (kind : Session.kindOf jsonData = some said) :
    jsonData.indexable = true := by
  cases jsonData <;> simp_all [Session.kindOf, LuaValue.get, LuaValue.field, LuaValue.text,
    LuaValue.indexable]

/-- A message that is processed for a transaction does what the transaction does. -/
theorem janusData_answered (found : session.answered jsonData = some (entry, success)) :
    VideoRoom.handleJanusData (some jsonData) session =
      VideoRoom.finishTransaction success jsonData entry session := by
  unfold Session.answered at found
  unfold VideoRoom.handleJanusData
  have result : ∀ {success}, jsonData.indexable = true →
      session.transactionOf jsonData = some entry →
      VideoRoom.processTransactionResult success jsonData session =
        VideoRoom.finishTransaction success jsonData entry session := by
    intro success indexable found
    unfold VideoRoom.processTransactionResult
    rw [bind_apply, lookupTransaction_apply indexable, found]
    rfl
  split at found
  · rename_i kind
    have indexable := indexable_of_kind kind
    obtain ⟨found, mem, same⟩ := Option.map_eq_some_iff.mp found
    cases same
    simp only [bind_apply, ofOption_apply, field_apply, LuaValue.field_of_indexable indexable]
    rw [show (jsonData.get "bee").text.map String.ofList = some "success" from kind]
    exact result indexable mem
  · rename_i kind
    have indexable := indexable_of_kind kind
    obtain ⟨found, mem, same⟩ := Option.map_eq_some_iff.mp found
    cases same
    simp only [bind_apply, ofOption_apply, field_apply, LuaValue.field_of_indexable indexable]
    rw [show (jsonData.get "bee").text.map String.ofList = some "error" from kind]
    exact result indexable mem
  · rename_i kind
    have indexable := indexable_of_kind kind
    split at found
    · rename_i known
      obtain ⟨found, mem, same⟩ := Option.map_eq_some_iff.mp found
      cases same
      simp only [bind_apply, ofOption_apply, field_apply, LuaValue.field_of_indexable indexable]
      rw [show (jsonData.get "bee").text.map String.ofList = some "event" from kind]
      unfold VideoRoom.processEvent
      simp only [bind_apply, field_apply, LuaValue.field_of_indexable indexable, get_apply]
      rw [if_apply, if_pos known, bind_apply, lookupTransaction_apply indexable, mem]
      rfl
    · cases found
  · cases found

theorem janusReply_of_answered (session : Session) (jsonData : LuaValue) :
    session.janusReply jsonData = (session.answered jsonData).bind fun found =>
      found.1.2.cb.map fun cb => (cb.party, cb.reply found.2 jsonData) := by
  unfold Session.janusReply Session.answered Session.called
  generalize Session.kindOf jsonData = kind
  split
  · cases session.transactionOf jsonData <;> rfl
  · cases session.transactionOf jsonData <;> rfl
  · split
    · cases session.transactionOf jsonData <;> rfl
    · rfl
  · simp_all

/-- A happening files transactions for its drawer only. -/
theorem run_files (session : Session) (happening : Happening) :
    Files (∃ party, session.drawer happening = some party) session (happening.run session).2 := by
  cases happening with
  | join args => exact (VideoRoom.join_kept args).kept session
  | leave args => exact (VideoRoom.leave_kept args).kept session
  | connectStream args => exact (VideoRoom.connectStream_kept args).kept session
  | disconnectStream args => exact (VideoRoom.disconnectStream_kept args).kept session
  | namedReply ec1 body => exact (VideoRoom.onRequestNamedSvrForMediaSvc_kept ec1 body).kept session
  | mediaSvcConnect res => exact (VideoRoom.handleMediaSvcConnect_kept res).kept session
  | mediaSvcData message => exact (VideoRoom.handleMediaSvcData_kept message).kept session
  | mediaSvcError => exact VideoRoom.handleMediaSvcError_kept.kept session
  | mediaSvcTimeout => exact VideoRoom.handleMediaSvcTimeout_kept.kept session
  | callsBack party callback =>
    cases callback with
    | namedReply ec1 body => exact (Party.onRequestNamedSvr_kept party ec1 body).kept session
    | masterdReply ec1 body => exact (Party.onRequestMasterdSvr_kept party ec1 body).kept session
    | scheduledReply ec1 body => exact (Party.onRequestScheduledSvr_kept party ec1 body).kept session
    | janusConnectResult res =>
      cases res with
      | false => exact (VideoRoom.onPartyCreate_kept 23 party).kept session
      | true =>
        refine (Party.createHandleEx_files party session).mono fun held => ⟨party, ?_⟩
        simp [Session.drawer, held]
    | janusData message =>
      refine VideoRoom.handleJanusData_of session (fun _ files => files)
        (fun _ id files => files.trans (.removeTransaction _ id)) message
        fun jsonData party body told reply => ?_
      cases told
      refine ((Party.onCreateHandleEx_files party true body).kept session).mono fun _ => ⟨party, ?_⟩
      simp [Session.drawer, reply]
    | offerCreated jsep =>
      refine (Party.onCreateOffer_files party jsep session).mono fun draws => ⟨party, ?_⟩
      simp [Session.drawer, draws]
    | answerCreated jsep =>
      refine (Party.onCreateAnswer_files party jsep session).mono fun draws => ⟨party, ?_⟩
      simp [Session.drawer, draws]
    | iceCandidate candidate =>
      refine (Party.takeCandidate_files party candidate session).mono fun wired => ⟨party, ?_⟩
      simp [Session.drawer, wired]
    | iceGatheringChange newState =>
      show Files _ session (Party.onIceGatheringChange party newState session).2
      unfold Party.onIceGatheringChange
      rw [if_apply]
      split
      · rename_i completed
        refine (Party.takeCandidate_files party _ session).mono fun wired => ⟨party, ?_⟩
        simp [Session.drawer, completed, wired]
      · exact .refl session
    | iceConnectionChange newState => exact (Party.onIceConnectionChange_kept party newState).kept session
    | mediaReady => exact (Party.onMediaReady_kept party).kept session
    | janusTimeout => exact (Party.handleJanusTimeout_kept (transacts_files ⟨party, rfl⟩) party).kept session

end

/-! ### What becomes of a message -/

section
variable {session : Session} {happening : Happening} {jsonData : LuaValue} {party : Nat}
  {reply : SetupReply}

/-- A reply that is not one the script stops at gets through. -/
theorem ran_of_unraised (unraised : reply.verdict session party ≠ .raises) :
    (reply.run party session).1 = some () := by
  have outcome := reply.run_outcome session party
  generalize reply.verdict session party = verdict at outcome unraised
  generalize reply.run party session = result at outcome ⊢
  cases outcome with
  | raises => exact absurd rfl unraised
  | _ => rfl

theorem message_run (message : happening.message = some jsonData) :
    happening.run session = VideoRoom.handleJanusData (some jsonData) session := by
  unfold Happening.message at message
  split at message
  · cases message
    rfl
  · cases message

/-- Once its callback gets through, a transaction is gone. -/
theorem finish_removed {entry : Text × Transaction} {success : Bool}
    (unraised : ∀ cb, entry.2.cb = some cb →
      (cb.reply success jsonData).verdict session cb.party ≠ .raises) :
    (VideoRoom.finishTransaction success jsonData entry session).2.transactionTable entry.1 = none := by
  have ran : (VideoRoom.processTransaction entry.2 success jsonData session).1 = some () := by
    cases calls : entry.2.cb with
    | none =>
      unfold VideoRoom.processTransaction
      rw [calls]
      rfl
    | some cb =>
      rw [processTransaction_run calls]
      exact ran_of_unraised (unraised cb calls)
  unfold VideoRoom.finishTransaction
  rw [bind_apply]
  generalize VideoRoom.processTransaction entry.2 success jsonData session = result at ran ⊢
  obtain ⟨ended, reached⟩ := result
  cases ran
  exact if_pos rfl

/-- An acknowledgement that is the last message removes its transaction. -/
theorem ack_removed {id : Text} {transaction : Transaction} (indexable : jsonData.indexable = true)
    (found : session.transactionOf jsonData = some (id, transaction))
    (last : transaction.hasRsp = false) :
    (VideoRoom.processAck jsonData session).2.transactionTable id = none := by
  unfold VideoRoom.processAck
  rw [bind_apply, lookupTransaction_apply indexable, found]
  simp only [bind_apply, modify_apply, last]
  exact if_pos rfl

/-- What is replied to is gone, where the callback gets through and an event's sender is known. -/
theorem replied_removed {id : Text} (replied : session.replied happening = some id)
    (unraised : ∀ jsonData party reply, happening.message = some jsonData →
      session.janusReply jsonData = some (party, reply) → reply.verdict session party ≠ .raises)
    (known : ∀ jsonData, happening.message = some jsonData →
      Session.kindOf jsonData = some "event" → (session.transactionOf jsonData).isSome →
        (session.handlePartyTable (jsonData.get "sender")).isSome) :
    (happening.run session).2.transactionTable id = none := by
  obtain ⟨jsonData, message, replied⟩ := Option.bind_eq_some_iff.mp replied
  obtain ⟨entry, found, replied⟩ := Option.bind_eq_some_iff.mp replied
  rw [message_run message]
  have finished : ∀ success, session.answered jsonData = some (entry, success) →
      (VideoRoom.handleJanusData (some jsonData) session).2.transactionTable entry.1 = none := by
    intro success answered
    rw [janusData_answered answered]
    refine finish_removed fun cb calls => unraised jsonData cb.party _ message ?_
    rw [janusReply_of_answered, answered]
    simp [calls]
  split at replied
  · rename_i kind
    cases replied
    exact finished true (by simp [Session.answered, kind, found])
  · rename_i kind
    cases replied
    exact finished false (by simp [Session.answered, kind, found])
  · rename_i kind
    cases replied
    have sender := known jsonData message kind (by rw [found]; rfl)
    exact finished true (by simp [Session.answered, kind, found, sender])
  · rename_i kind
    obtain ⟨id', transaction⟩ := entry
    split at replied
    · cases replied
    · rename_i last
      cases replied
      have indexable := indexable_of_kind kind
      unfold VideoRoom.handleJanusData
      simp only [bind_apply, ofOption_apply, field_apply, LuaValue.field_of_indexable indexable]
      rw [show (jsonData.get "bee").text.map String.ofList = some "ack" from kind]
      exact ack_removed indexable found (by simpa using last)
  · cases replied

/-- An error message that is refused is reported. -/
theorem failure_reported (failed : session.failure happening = some (party, reply))
    (refused : reply.Refuses session party) :
    ∃ new ec, ec ≠ 0 ∧ (happening.run session).2.history = session.history ++ new ∧
      Entry.notifies (some party) ((session.parties party).closing ec) ∈ new := by
  obtain ⟨jsonData, message, failed⟩ := Option.bind_eq_some_iff.mp failed
  split at failed
  case isFalse => cases failed
  rename_i kind
  unfold Session.called at failed
  obtain ⟨entry, found, failed⟩ := Option.bind_eq_some_iff.mp failed
  obtain ⟨cb, calls, same⟩ := Option.map_eq_some_iff.mp failed
  cases same
  have answered : session.answered jsonData = some (entry, false) := by
    simp [Session.answered, kind, found]
  rw [message_run message, janusData_answered answered]
  unfold VideoRoom.finishTransaction
  rw [bind_apply, processTransaction_run calls]
  have outcome := (cb.reply false jsonData).run_outcome session cb.party
  obtain ⟨ec, verdict⟩ := ((cb.reply false jsonData).verdict_reads session cb.party).2.mpr refused
  rw [verdict] at outcome
  generalize (cb.reply false jsonData).run cb.party session = result at outcome
  cases outcome with
  | @refuses new reached _ drifts silent failure =>
    refine ⟨new ++ [.notifies (some cb.party) ((session.parties cb.party).closing ec)], ec, failure,
      ?_, by simp⟩
    show (reached.fail cb.party ec).history = _
    rw [fail_history, drifts.history, closing_of_look drifts.look, List.append_assoc]

end

/-! ### Parties that stay -/

namespace Session.Alive
variable {before after : Session} {party other : Nat}

theorem aside (alive : before.Alive party) (aside : Aside before after) : after.Alive party := by
  obtain ⟨small, held, live⟩ := alive
  refine ⟨aside.made ▸ small, by rw [aside.conns]; exact held, ?_⟩
  rw [show (after.parties party).closed = (before.parties party).closed from
    congrArg Look.closed (aside.look party)]
  exact live

theorem turn (alive : before.Alive party) (turn : Turn other before after) (apart : party ≠ other) :
    after.Alive party := by
  obtain ⟨small, held, live⟩ := alive
  refine ⟨turn.made ▸ small, by rw [turn.conns party apart]; exact held, ?_⟩
  rw [show (after.parties party).closed = (before.parties party).closed from
    congrArg Look.closed (turn.look party apart)]
  exact live

/-- A party that gets on stays, unless it is its socket that is opened and fails. -/
theorem drifts (alive : before.Alive party) (drifts : Drifts other opens new before after)
    (opened : party = other → .janus ∈ opens → before.calls.wsOpens = true) : after.Alive party := by
  by_cases own : party = other
  · obtain ⟨small, held, live⟩ := alive
    subst own
    refine ⟨drifts.made ▸ small, ?_, ?_⟩
    · rcases drifts.conns .janus with same | ⟨listed, assigned⟩
      · rw [same]
        exact held
      · rw [assigned]
        exact opened rfl listed
    · rw [show (after.parties party).closed = (before.parties party).closed from
        congrArg Look.closed drifts.look]
      exact live
  · exact alive.turn drifts.turn own

theorem readied (alive : before.Alive party) (other : Nat) (channel : Channel) :
    (before.updateParty other (·.readied channel)).Alive party := by
  by_cases own : party = other
  · subst own
    obtain ⟨small, held, live⟩ := alive
    refine ⟨small, ?_, ?_⟩
    · rw [Session.updateParty_self]
      cases channel <;> exact held
    · rw [Session.updateParty_self]
      exact mt (readied_closed _ _).mp live
  · exact alive.turn (readied_turn before other channel) own

/-- A change of a party that leaves its connections and its end alone. -/
theorem update (alive : before.Alive party) (other : Nat) {change : Party → Party}
    (conns : ∀ party, (change party).conns = party.conns)
    (closed : ∀ party, (change party).closed = party.closed) :
    (before.updateParty other change).Alive party := by
  obtain ⟨small, held, live⟩ := alive
  by_cases own : party = other
  · subst own
    refine ⟨small, ?_, ?_⟩
    · rw [Session.updateParty_self, conns]
      exact held
    · rw [Session.updateParty_self, closed]
      exact live
  · have same : (before.updateParty other change).parties party = before.parties party :=
      Session.updateParty_other _ _ _ own
    refine ⟨small, ?_, ?_⟩
    · rw [same]
      exact held
    · rw [same]
      exact live

theorem welcome (alive : before.Alive party) (other : Nat) : (before.welcome other).Alive party := by
  have entered : (before.enter (.notifies (some other) (.ofParty eVideoConfNotify_Remote_Join 0
    (before.parties other).roomName (before.parties other).streamNameDisplay
    (before.parties other).uid))).Alive party := alive
  unfold Session.welcome
  exact entered.update other (fun _ => rfl) fun _ => rfl

theorem announce (alive : before.Alive party) (other : Nat) :
    (before.announce other).Alive party := by
  have counted : (before.updateRoom
    (·.countPush (before.parties other).streamNameInternal)).Alive party := alive
  unfold Session.announce
  exact counted.update other (fun _ => rfl) fun _ => rfl

/-- Parties of a table are left, and the one that is not in it stays. -/
theorem leaves {table : VideoRoom → AList fun _ : Text => Nat} {choice : Party → Int → Prop}
    (leaves : Leaves table choice before after) (alive : before.Alive party)
    (unlisted : ∀ streamName, (table before.room).lookup streamName ≠ some party)
    (shrinks : ∀ {first second : Session} {other : Nat}, Turn other first second →
      ∀ streamName party, (table second.room).lookup streamName = some party →
        (table first.room).lookup streamName = some party) : after.Alive party := by
  induction leaves with
  | done => exact alive
  | leaves listed chosen rest ih =>
    refine ih (alive.turn (shut_turn ..) ?_) fun streamName held =>
      unlisted streamName (shrinks (shut_turn ..) _ _ held)
    rintro rfl
    exact unlisted _ listed

end Session.Alive

/-- A party of the session is not the one that is made next. -/
theorem made_alive {session : Session} {party : Nat} (alive : session.Alive party) (newborn : Party)
    {table : VideoRoom → VideoRoom} : ((session.make newborn).updateRoom table).Alive party := by
  obtain ⟨small, held, live⟩ := alive
  have same : ((session.make newborn).updateRoom table).parties party = session.parties party :=
    if_neg (Nat.ne_of_lt small)
  refine ⟨Nat.lt_succ_of_lt small, ?_, ?_⟩
  · rw [same]
    exact held
  · rw [same]
    exact live

/-- A reply that opens the socket and is not refused has opened it. -/
theorem opens_janus {session : Session} {party : Nat} {reply : SetupReply}
    (listed : Conn.janus ∈ reply.opens session.calls) (granted : ¬ reply.Refuses session party) :
    session.calls.wsOpens = true := by
  cases reply with
  | scheduled ec1 body =>
    by_contra closed
    refine granted (.inr ⟨true, ?_⟩)
    simp only [SetupReply.opens, scheduledOpens] at listed
    split at listed
    · cases listed
    · rename_i jsonData
      split at listed
      · rename_i given
        have schedules : SetupReply.Schedules (some jsonData) true
            ((jsonData.get "info").get "webrtc_url") :=
          ⟨jsonData, rfl, given.2.1, given.2.2.1.symm, fun _ => given.2.2.2, by simp, rfl⟩
        exact ⟨_, schedules, fun _ opened => closed opened.2.1⟩
      · cases listed
  | listened jsonData =>
    simp only [SetupReply.opens, listenedOpens] at listed
    split at listed
    · cases listed
    · split at listed
      · cases listed
      · split at listed <;> simp at listed
  | offerAnswered jsonData =>
    simp only [SetupReply.opens, answeredOpens] at listed
    split at listed <;> simp at listed
  | _ => simp [SetupReply.opens] at listed

/-- The tables only lose parties while parties are left. -/
theorem leaves_pulls {table : VideoRoom → AList fun _ : Text => Nat} {choice : Party → Int → Prop}
    {before after : Session} (leaves : Leaves table choice before after)
    (held : after.room.pullStreamPartyTable.lookup streamName = some party) :
    before.room.pullStreamPartyTable.lookup streamName = some party := by
  induction leaves with
  | done => exact held
  | leaves listed chosen rest ih => exact (shut_turn ..).pulls _ _ (ih held)

theorem lists_of_aside {session middle : Session} (aside : Aside session middle)
    (listed : (middle.room.tableOf type).lookup streamName = some party) :
    session.room.Lists party := by
  have same : middle.room.tableOf type = session.room.tableOf type := by
    cases type with
    | localParty => exact aside.pushes
    | remoteParty => exact aside.pulls
  exact ⟨type, streamName, same ▸ listed⟩

theorem course_alive {session after : Session} {happening : Happening} {party : Nat}
    (course : Course session happening after) (alive : session.Alive party)
    (stays : ¬ session.Ends happening party)
    (other : ∀ message, happening ≠ .mediaSvcData message) : after.Alive party := by
  cases course with
  | aside aside => exact alive.aside aside
  | @getsOn actor reply new middle _ due reached drifts aside =>
    refine (alive.drifts drifts fun own listed => ?_).aside aside
    exact opens_janus listed fun refused => stays (.inl ⟨reply, own ▸ due, own ▸ refused⟩)
  | @refuses actor reply new middle ec _ due reached refused drifts failure aside =>
    have apart : party ≠ actor := by
      rintro rfl
      exact stays (.inl ⟨reply, due, refused⟩)
    exact ((alive.turn drifts.turn apart).turn (fail_turn ..) apart).aside aside
  | iceFails due reached live failing =>
    refine alive.turn (fail_turn ..) ?_
    rintro rfl
    exact stays (.inr (.inl ⟨_, due, live, failing⟩))
  | halfReady => exact alive.readied _ _
  | welcome => exact (alive.readied _ _).welcome _
  | @announce actor channel middle all due reached type both aside =>
    have announced := ((alive.readied actor channel).announce actor).aside aside
    exact announced.update actor (fun _ => rfl) fun _ => rfl
  | detaches due known =>
    refine alive.turn (shut_turn ..) ?_
    rintro rfl
    exact stays (.inr (.inr (.inl due)))
  | @leaves args ec first second _ due valid reason aside pushes pulls =>
    have unlisted : ¬ session.room.Lists party := fun listed =>
      stays (.inr (.inr (.inr (.inl ⟨args, due, valid, listed⟩))))
    have absent : ∀ type streamName, (first.room.tableOf type).lookup streamName ≠ some party :=
      fun type streamName held => unlisted (lists_of_aside aside held)
    have unpushed := absent .localParty
    have unpulled : ∀ streamName, second.room.pullStreamPartyTable.lookup streamName ≠ some party :=
      fun streamName held => absent .remoteParty streamName (leaves_pulls pushes held)
    exact ((alive.aside aside).leaves pushes unpushed fun turn => turn.pushes).leaves pulls unpulled
      fun turn => turn.pulls
  | unlists due => exact absurd due (other _)
  | @abandonsLeaving args middle type streamName left due valid reason aside listed =>
    refine (alive.aside aside).turn (abandon_turn ..) ?_
    rintro rfl
    exact stays (.inr (.inr (.inr (.inl ⟨args, due, valid, lists_of_aside aside listed⟩))))
  | abandons due target listed =>
    refine alive.turn (abandon_turn ..) ?_
    rintro rfl
    exact stays (.inr (.inr (.inr (.inr (.inl ⟨_, _, _, due, target, listed⟩)))))
  | @joins args streamName first newborn new middle _ due pushed aside born drifts ends =>
    have apart : party ≠ session.made := Nat.ne_of_lt alive.1
    have made := (made_alive (alive.aside aside) newborn).turn drifts.turn apart
    rcases ends with behind | ⟨_, ec, _, behind⟩
    · exact made.aside behind
    · exact (made.turn (fail_turn ..) apart).aside behind
  | connects due target born drifts ends =>
    have apart : party ≠ session.made := Nat.ne_of_lt alive.1
    have made := (made_alive alive _).turn drifts.turn apart
    rcases ends with behind | ⟨_, _, rfl⟩
    · exact made.aside behind
    · exact made.turn (fail_turn ..) apart

theorem unlist_alive (gone : List (Text × Nat)) {session : Session} {party : Nat}
    (alive : session.Alive party) (stays : party ∉ gone.map Prod.snd) :
    (session.unlist gone).Alive party := by
  induction gone generalizing session with
  | nil => exact alive
  | cons entry gone ih =>
    simp only [List.map_cons, List.mem_cons, not_or] at stays
    exact ih (alive.turn (shut_turn ..) stays.1) stays.2

theorem listback_alive {session : Session} {jsonData : LuaValue} {party : Nat}
    (pulled : Pulled session) (alive : session.Alive party)
    (stays : (jsonData.get "list").length.isSome → (∀ entry ∈ entriesOf jsonData, Readable entry) →
      party ∉ (session.unlisted (streamsRead (entriesOf jsonData))).map Prod.snd) :
    (VideoRoom.handleMediaSvcListback jsonData session).2.Alive party := by
  obtain ⟨checks, raises⟩ := checkParties_apply jsonData pulled
  unfold VideoRoom.handleMediaSvcListback
  rw [bind_apply]
  by_cases sound : (jsonData.get "list").length.isSome ∧
      ∀ entry ∈ entriesOf jsonData, Readable entry
  · rw [checks sound.1 sound.2]
    have left := unlist_alive _ alive (stays sound.1 sound.2)
    refine left.aside (Within.kept ?_ _)
    exact .branch (fun _ => VideoRoom.reportMembers_steady _) fun _ => .pure ()
  · have none := raises sound
    rcases checkParties_cases jsonData session with ⟨-, kept⟩ | ⟨streams, _, after, -, -, ran⟩
    · generalize VideoRoom.checkParties jsonData session = result at none kept
      obtain ⟨ended, reached⟩ := result
      cases none
      exact alive.aside kept
    · rw [ran] at none
      cases none

theorem text_of_said {value : LuaValue} {said : String}
    (same : value.text.map String.ofList = some said) : value.text = some said.toList := by
  obtain ⟨text, held, same⟩ := Option.map_eq_some_iff.mp same
  rw [held, ← same, String.toList_ofList]

/-- What a message of the media service does to a party it does not close. -/
theorem mediaSvcData_alive {session : Session} {message : Option LuaValue} {party : Nat}
    (pulled : Pulled session) (alive : session.Alive party)
    (stays : ¬ session.Ends (.mediaSvcData message) party) :
    (VideoRoom.handleMediaSvcData message session).2.Alive party := by
  unfold VideoRoom.handleMediaSvcData
  rw [bind_apply, ofOption_apply]
  cases message with
  | none => exact alive
  | some jsonData =>
    cases indexable : jsonData.indexable with
    | false =>
      simp only [bind_apply, field_apply, LuaValue.field_of_not_indexable indexable]
      exact alive
    | true =>
      simp only [bind_apply, field_apply, LuaValue.field_of_indexable indexable]
      rw [if_apply]
      split
      · exact alive.aside (VideoRoom.handleMediaSvcError_steady.kept session)
      · rename_i fine
        simp only [bind_apply, field_apply, LuaValue.field_of_indexable indexable]
        generalize said : (jsonData.get "cmd").text.map String.ofList = cmd
        split
        · exact alive.aside (VideoRoom.handleMediaSvcCreateback_steady.kept session)
        · exact alive.aside (VideoRoom.handleMediaSvcJoinback_steady.kept session)
        · refine listback_alive pulled alive fun list readable gone => stays ?_
          refine .inr (.inr (.inr (.inr (.inr ⟨jsonData, rfl, ?_, ?_, list, readable, gone⟩))))
          · by_contra failing
            simp only [not_or] at failing
            exact fine failing
          · exact text_of_said said
        · refine alive.aside (Within.kept ?_ session)
          exact (field_steady ..).bind fun _ => VideoRoom.handleMediaSvcReceiveback_steady _
        · exact alive

/-! ### Runs of the ledger -/

namespace Ledger

/-- What every happening keeps: the ids are ones that have been drawn, and what has been called
back is off the table. -/
structure Balanced (ledger : Ledger) : Prop extends Kept ledger where
  pulled : Pulled ledger.session
  drawn : ∀ id, (ledger.session.transactionTable id).isSome →
    ∃ number < ledger.session.drawn, id = transactionId number
  done : ∀ id ∈ ledger.called, ledger.session.transactionTable id = none ∧
    ∃ number < ledger.session.drawn, id = transactionId number

section
variable {ledger after : Ledger} {request : Request} {ended : Bool}

theorem step_run (taken : ledger.step request = some (ended, after)) :
    after.session = (request.happening.run (ledger.facing request)).2 ∧
    after.owner = (fun id =>
      if (ledger.session.transactionTable id).isNone ∧ (after.session.transactionTable id).isSome then
        (ledger.facing request).drawer request.happening
      else ledger.owner id) ∧
    after.called = ledger.called ++
      ((ledger.facing request).invoked request.happening).toList.map Prod.fst ∧
    Signalling.step ledger.session request = some (ended, after.session) := by
  obtain ⟨⟨ended', reached⟩, ran, same⟩ := Option.map_eq_some_iff.mp taken
  cases same
  refine ⟨?_, rfl, rfl, ran⟩
  unfold Signalling.step at ran
  split at ran
  · cases ran
    rfl
  · cases ran

/-- What is processed is on the table. -/
theorem answered_found {session : Session} {jsonData : LuaValue}
    (answered : session.answered jsonData = some (entry, success)) :
    session.transactionOf jsonData = some entry := by
  have taken : ∀ {success'}, (session.transactionOf jsonData).map (·, success') = some (entry, success) →
      session.transactionOf jsonData = some entry := by
    intro success' found
    obtain ⟨found', mem, same⟩ := Option.map_eq_some_iff.mp found
    cases same
    exact mem
  unfold Session.answered at answered
  split at answered
  · exact taken answered
  · exact taken answered
  · split at answered
    · exact taken answered
    · cases answered
  · cases answered

/-- The transaction that is called back is on the table, and its message is its last. -/
theorem invoked_filed {session : Session} {happening : Happening} {id : Text}
    {cb : TransactionCallback} (invoked : session.invoked happening = some (id, cb)) :
    (session.transactionTable id).isSome ∧ session.replied happening = some id ∧
      ∃ jsonData, happening.message = some jsonData ∧
        (jsonData.get "transaction").text = some id := by
  obtain ⟨jsonData, message, invoked⟩ := Option.bind_eq_some_iff.mp invoked
  obtain ⟨⟨⟨id', entry⟩, success⟩, answered, invoked⟩ := Option.bind_eq_some_iff.mp invoked
  obtain ⟨cb', calls, same⟩ := Option.map_eq_some_iff.mp invoked
  cases same
  have found := answered_found answered
  refine ⟨by rw [transactionOf_filed found]; rfl, ?_, jsonData, message, ?_⟩
  · unfold Session.replied
    rw [message, Option.bind_some, found, Option.bind_some]
    unfold Session.answered at answered
    split at answered <;> simp_all
  · obtain ⟨id, text, found⟩ := Option.bind_eq_some_iff.mp found
    obtain ⟨transaction, -, same⟩ := Option.map_eq_some_iff.mp found
    cases same
    exact text

/-- A happening that is due leaves alive whom it does not close. -/
theorem step_alive {session reached : Session} {party : Nat} (pulled : Pulled session)
    (taken : Signalling.step session request = some (ended, reached)) (alive : session.Alive party)
    (stays : ¬ ({ session with calls := request.calls } : Session).Ends request.happening party) :
    reached.Alive party := by
  have facing : ({ session with calls := request.calls } : Session).Alive party := alive
  by_cases list : ∃ message, request.happening = .mediaSvcData message
  · obtain ⟨message, same⟩ := list
    unfold Signalling.step at taken
    split at taken
    · cases taken
      rw [same] at stays ⊢
      exact mediaSvcData_alive pulled facing stays
    · cases taken
  · exact course_alive (step_course taken) facing stays fun message same => list ⟨message, same⟩

/-- A smooth step keeps the ledger balanced. -/
theorem step_balanced (balanced : ledger.Balanced) (smooth : ledger.Smooth request)
    (taken : ledger.step request = some (ended, after)) : after.Balanced := by
  obtain ⟨ran, owners, calls, stepped⟩ := step_run taken
  have files := run_files (ledger.facing request) request.happening
  rw [← ran] at files
  have gone : ∀ id, (ledger.facing request).replied request.happening = some id →
      after.session.transactionTable id = none := by
    intro id replied
    rw [ran]
    exact replied_removed replied smooth.unraised smooth.known
  -- What is called back was on the table, so it has not been called back before.
  have off : ∀ id, (∃ number < ledger.session.drawn, id = transactionId number) →
      ledger.session.transactionTable id = none → after.session.transactionTable id = none := by
    rintro id ⟨number, early, rfl⟩ absent
    by_contra filed
    rcases files.filed _ (Option.isSome_iff_ne_none.mpr filed) with old | ⟨_, other, late, _, same⟩
    · have absent : (ledger.facing request).transactionTable (transactionId number) = none := absent
      rw [absent] at old
      cases old
    · have same := transactionId_injective same
      have late : ledger.session.drawn ≤ other := late
      omega
  have invoked : ∀ id ∈ ((ledger.facing request).invoked request.happening).toList.map Prod.fst,
      (ledger.session.transactionTable id).isSome ∧
        (ledger.facing request).replied request.happening = some id := by
    intro id mem
    obtain ⟨⟨id', cb⟩, there, rfl⟩ := List.mem_map.mp mem
    have filed := invoked_filed (Option.mem_toList.mp there)
    exact ⟨filed.1, filed.2.1⟩
  constructor
  case toKept =>
    constructor
    · rw [calls, List.nodup_append']
      refine ⟨balanced.once, ?_, fun id mem mem' => ?_⟩
      · cases (ledger.facing request).invoked request.happening <;> simp
      · have filed := (invoked id mem').1
        rw [(balanced.done id mem).1] at filed
        cases filed
    · intro id filed
      rw [owners]
      dsimp only
      cases old : ledger.session.transactionTable id with
      | none =>
        rw [if_pos ⟨rfl, filed⟩]
        rcases files.filed id filed with there | ⟨⟨party, draws⟩, _⟩
        · have absent : (ledger.facing request).transactionTable id = none := old
          rw [absent] at there
          cases there
        · obtain ⟨alive, stays⟩ := smooth.filed party draws
          exact ⟨party, draws, step_alive balanced.pulled stepped alive stays⟩
      | some transaction =>
        rw [if_neg (by simp)]
        obtain ⟨party, owner, alive⟩ := balanced.owned id (by rw [old]; rfl)
        refine ⟨party, owner, step_alive balanced.pulled stepped alive fun ends => ?_⟩
        rw [gone id (smooth.ended party ends id (by rw [old]; rfl) owner)] at filed
        cases filed
  case pulled => exact step_pulled balanced.pulled stepped
  case drawn =>
    intro id filed
    rcases files.filed id filed with old | ⟨_, number, _, early, same⟩
    · obtain ⟨number, early, same⟩ := balanced.drawn id old
      exact ⟨number, Nat.lt_of_lt_of_le early files.drawn, same⟩
    · exact ⟨number, early, same⟩
  case done =>
    intro id mem
    rw [calls] at mem
    rcases List.mem_append.mp mem with old | new
    · obtain ⟨absent, number, early, same⟩ := balanced.done id old
      exact ⟨off id ⟨number, early, same⟩ absent, number, Nat.lt_of_lt_of_le early files.drawn, same⟩
    · obtain ⟨filed, replied⟩ := invoked id new
      obtain ⟨number, early, same⟩ := balanced.drawn id filed
      exact ⟨gone id replied, number, Nat.lt_of_lt_of_le early files.drawn, same⟩

theorem step_processed (smooth : ledger.Smooth request)
    (taken : ledger.step request = some (ended, after)) :
    Processed (ledger.facing request) request.happening after.session := by
  obtain ⟨ran, -⟩ := step_run taken
  rw [ran]
  constructor
  · intro id cb invoked
    exact (invoked_filed invoked).2.2
  · exact fun party reply failed => failure_reported failed (smooth.refused party reply failed)
  · exact fun id replied => replied_removed replied smooth.unraised smooth.known

end

theorem start_balanced : Balanced {} where
  once := List.nodup_nil
  owned _ filed := by cases filed
  pulled _ _ held := by cases held
  drawn _ filed := by cases filed
  done _ mem := by cases mem

/-- Nothing is on the table, and no message has come. -/
theorem smooth_of_empty {ledger : Ledger} {request : Request}
    (empty : ∀ id, ledger.session.transactionTable id = none)
    (silent : request.happening.message = none)
    (filed : ∀ party, (ledger.facing request).drawer request.happening = some party →
      ledger.session.Alive party ∧ ¬ (ledger.facing request).Ends request.happening party) :
    ledger.Smooth request where
  unraised jsonData _ _ message := by
    rw [silent] at message
    cases message
  refused party reply failed := by
    unfold Session.failure at failed
    rw [silent] at failed
    cases failed
  known jsonData message := by
    rw [silent] at message
    cases message
  ended party _ id there := by
    rw [empty] at there
    cases there
  filed := filed

/-- A reply that is not refused closes nobody. -/
theorem stays_of_accepted {session : Session} {happening : Happening} {reply : SetupReply}
    (called : session.reply happening = some (0, reply)) (accepted : ¬ reply.Refuses session 0)
    (attached : session.detaches happening = none) (party : Nat) :
    ¬ session.Ends happening party := by
  rintro (⟨_, refused, refuses⟩ | ⟨_, rfl, _⟩ | detached | ⟨_, rfl, _⟩ | ⟨_, _, _, rfl, _⟩ | ⟨_, rfl, _⟩)
  · rw [called] at refused
    cases refused
    exact accepted refuses
  · cases called
  · rw [attached] at detached
    cases detached
  · cases called
  · cases called
  · cases called

theorem handle_given_smooth : Runs.AllSteps step Smooth {} (openings ++ [handleGiven]) := by
  refine ⟨smooth_of_empty (fun _ => rfl) rfl ?_, fun reply next taken => ?_⟩
  · rintro _ ⟨⟩
  cases taken
  refine ⟨smooth_of_empty (fun _ => rfl) rfl ?_, fun reply next taken => ?_⟩
  · rintro _ ⟨⟩
  cases taken
  refine ⟨smooth_of_empty (fun _ => rfl) rfl ?_, fun reply next taken => ?_⟩
  · rintro _ ⟨⟩
  cases taken
  refine ⟨smooth_of_empty (fun _ => rfl) rfl ?_, fun reply next taken => ?_⟩
  · rintro party drawn
    cases drawn
    refine ⟨⟨by decide, by decide, by decide⟩, stays_of_accepted rfl ?_ rfl 0⟩
    exact not_not_intro ⟨rfl, rfl, rfl⟩
  cases taken
  refine ⟨⟨?_, ?_, ?_, ?_, ?_⟩, fun _ _ _ => trivial⟩
  · rintro _ party reply ⟨⟩ called
    cases called
    rintro ⟨⟩
  · rintro party reply failed
    cases failed
  · rintro _ ⟨⟩ event _
    exact absurd event (by decide)
  · refine fun party ends => absurd ends (stays_of_accepted rfl ?_ rfl party)
    rintro (failed | ⟨_, _, failed⟩) <;> cases failed
  · rintro party drawn
    cases drawn
    refine ⟨⟨by decide, by decide, by decide⟩, stays_of_accepted rfl ?_ rfl 0⟩
    rintro (failed | ⟨_, _, failed⟩) <;> cases failed

end Ledger

end BeeSdk.Signalling
