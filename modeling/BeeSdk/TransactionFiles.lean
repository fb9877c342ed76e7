import BeeSdk.MethodsKept

/-! What the script does to the table of transactions: entries are filed under ids that have
just been drawn, and by some happenings only. -/
namespace BeeSdk.Signalling
open HttpHeader (Text)
open Script

/-- Every transaction on the table was there before, or has been filed where that may be, under
an id drawn since. -/
structure Files (may : Prop) (before after : Session) : Prop where
  drawn : before.drawn ≤ after.drawn
  filed : ∀ id, (after.transactionTable id).isSome → (before.transactionTable id).isSome ∨
    may ∧ ∃ number, before.drawn ≤ number ∧ number < after.drawn ∧ id = transactionId number

instance files_frame (may : Prop) : Frame (Files may) where
  refl session := ⟨Nat.le_refl _, fun _ => .inl⟩
  trans first second := by
    refine ⟨Nat.le_trans first.drawn second.drawn, fun id filed => ?_⟩
    rcases second.filed id filed with old | ⟨may, number, late, early, same⟩
    · rcases first.filed id old with old | ⟨may, number, late, early, same⟩
      · exact .inl old
      · exact .inr ⟨may, number, late, Nat.lt_of_lt_of_le early second.drawn, same⟩
    · exact .inr ⟨may, number, Nat.le_trans first.drawn late, early, same⟩

theorem Files.refl (session : Session) : Files may session session := Frame.refl session

theorem Files.trans (first : Files may before middle) (second : Files may middle after) :
    Files may before after := Frame.trans first second

theorem Files.mono (files : Files may before after) (weaker : may → may') :
    Files may' before after :=
  ⟨files.drawn, fun other filed =>
    (files.filed other filed).imp id fun ⟨may, late⟩ => ⟨weaker may, late⟩⟩

/-- Neither the table nor the number of the draws changes. -/
theorem Files.same {before after : Session}
    (table : after.transactionTable = before.transactionTable) (drawn : after.drawn = before.drawn) :
    Files may before after :=
  ⟨Nat.le_of_eq drawn.symm, fun _ filed => .inl (table ▸ filed)⟩

theorem Files.transact (session : Session) (hasRsp : Bool) (cb : Option TransactionCallback)
    (allowed : may) : Files may session (session.transact hasRsp cb) := by
  refine ⟨Nat.le_succ _, fun id filed => ?_⟩
  by_cases same : id = transactionId session.drawn
  · exact .inr ⟨allowed, session.drawn, Nat.le_refl _, Nat.lt_succ_self _, same⟩
  · have old : (session.transact hasRsp cb).transactionTable id = session.transactionTable id :=
      if_neg same
    exact .inl (old ▸ filed)

theorem Files.removeTransaction (session : Session) (id : Text) :
    Files may session (session.removeTransaction id) := by
  refine ⟨Nat.le_refl _, fun other filed => .inl ?_⟩
  by_cases same : other = id
  · have gone : (session.removeTransaction id).transactionTable other = none := if_pos same
    rw [gone] at filed
    cases filed
  · have old : (session.removeTransaction id).transactionTable other = session.transactionTable other :=
      if_neg same
    exact old ▸ filed

theorem Files.ack (session : Session) (id : Text) (transaction : Transaction)
    (filed : (session.transactionTable id).isSome) :
    Files may session (session.fileTransaction id transaction) := by
  refine ⟨Nat.le_refl _, fun other there => .inl ?_⟩
  by_cases same : other = id
  · rw [same]
    exact filed
  · have old : (session.fileTransaction id transaction).transactionTable other =
      session.transactionTable other := if_neg same
    exact old ▸ there

instance files_kept (may : Prop) : KeepsCandidates (Files may) where
  room _ _ _ := .same rfl rfl
  party _ _ _ _ := .same rfl rfl
  make _ _ _ _ _ := .same rfl rfl
  enter _ _ _ := .same rfl rfl
  fileHandle _ _ _ := .same rfl rfl
  forgetHandle _ _ := .same rfl rfl
  ack := Files.ack
  removeTransaction := Files.removeTransaction
  wires _ _ _ _ := .same rfl rfl
  gathers _ _ _ := .same rfl rfl
  trickles _ _ _ _ _ := .same rfl rfl
  insertCandidate _ _ := .same rfl rfl

theorem transacts_files (allowed : may) : Transacts (Files may) :=
  fun session hasRsp cb => .transact session hasRsp cb allowed

/-! ### Callbacks that file a transaction -/

namespace Party

theorem takeCandidate_files (party : Nat) (candidate : Text) (session : Session) :
    Files ((session.parties party).wired = true) session (takeCandidate party candidate session).2 := by
  by_cases wired : (session.parties party).wired = true
  · exact (takeCandidate_kept (transacts_files wired) party candidate).kept session
  · unfold takeCandidate
    rw [bind_apply, enter_apply]
    dsimp only
    rw [bind_apply, theParty_apply]
    dsimp only
    rw [if_apply, Session.enter_parties, if_neg wired]
    have entered : Files ((session.parties party).wired = true) session
      (session.enter (.gathers party candidate)) := .same rfl rfl
    exact entered.trans ((insertCandidate_kept party candidate).kept _)

theorem createHandleEx_files (party : Nat) (session : Session) :
    Files (((session.parties party).conns .janus).held = true) session
      (createHandleEx party session).2 := by
  by_cases held : ((session.parties party).conns .janus).held = true
  · exact (createHandleEx_kept (transacts_files held) party).kept session
  · unfold createHandleEx
    rw [bind_apply, theParty_apply]
    dsimp only
    rw [if_apply, if_neg held]
    exact (VideoRoom.onPartyCreate_kept _ _).kept session

theorem sendLocalOffer_files (party : Nat) (jsep : Text) (session : Session) :
    Files (((session.parties party).conns .janus).held = true) session
      (sendLocalOffer party jsep session).2 := by
  by_cases held : ((session.parties party).conns .janus).held = true
  · exact (sendLocalOffer_kept (transacts_files held) party jsep).kept session
  · unfold sendLocalOffer
    rw [bind_apply, theParty_apply]
    dsimp only
    rw [if_apply, if_neg held]
    exact .refl session

theorem publishLocalOffer_files (party : Nat) (session : Session) :
    Files (((session.parties party).conns .janus).held = true) session
      (publishLocalOffer party session).2 := by
  unfold publishLocalOffer
  rw [bind_apply, theParty_apply]
  dsimp only
  rw [if_apply]
  split
  · rw [if_apply]
    split
    · have sent := sendLocalOffer_files party (session.parties party).localOfferSdp session
      rw [bind_apply]
      generalize sendLocalOffer party (session.parties party).localOfferSdp session = result at sent ⊢
      obtain ⟨_ | went, reached⟩ := result
      · exact sent
      · refine sent.trans (Within.kept ?_ reached)
        exact .branch (fun _ => VideoRoom.onPartyCreate_kept _ _) fun _ => .pure ()
    · exact .refl session
  · exact .same rfl rfl

/-- A failure files nothing. -/
theorem onCreateHandleEx_files (party : Nat) (success : Bool) (jsonData : LuaValue) :
    Within (Files (success = true)) (onCreateHandleEx party success jsonData) := by
  cases success with
  | false => exact VideoRoom.onPartyCreate_kept _ _
  | true => exact onCreateHandleEx_kept (transacts_files rfl) party true jsonData

theorem onCreateOffer_files (party : Nat) (jsep : Text) (session : Session) :
    Files (jsep ≠ [] ∧ (session.parties party).sendLocalOfferPending = true ∧
      ((session.parties party).conns .janus).held = true) session
      (onCreateOffer party jsep session).2 := by
  unfold onCreateOffer
  rw [bind_apply, setParty_apply]
  dsimp only
  have stored : Files (jsep ≠ [] ∧ (session.parties party).sendLocalOfferPending = true ∧
      ((session.parties party).conns .janus).held = true) session
      (session.updateParty party fun before => { before with
        localOfferSdp := jsep
        localOfferCreated := true }) := .same rfl rfl
  rw [if_apply]
  split
  · exact stored.trans ((VideoRoom.onPartyCreate_kept _ _).kept _)
  · rename_i given
    rw [bind_apply, theParty_apply]
    dsimp only
    rw [if_apply, Session.updateParty_self]
    split
    · rename_i pending
      refine stored.trans ((publishLocalOffer_files party _).mono fun held => ?_)
      rw [Session.updateParty_self] at held
      exact ⟨given, pending, held⟩
    · exact stored

theorem onCreateAnswer_files (party : Nat) (jsep : Text) (session : Session) :
    Files (jsep ≠ [] ∧ ((session.parties party).conns .janus).held = true) session
      (onCreateAnswer party jsep session).2 := by
  by_cases sends : jsep ≠ [] ∧ ((session.parties party).conns .janus).held = true
  · exact (onCreateAnswer_kept (transacts_files sends) party jsep).kept session
  · unfold onCreateAnswer sendRemoteAnswer
    rw [if_apply]
    split
    · rename_i given
      rw [bind_apply, theParty_apply]
      dsimp only
      rw [if_apply, if_neg fun held => sends ⟨given, held⟩]
      exact .refl session
    · exact .refl session

end Party
end BeeSdk.Signalling
