import BeeSdk.CaClient
import Mathlib.Data.List.Forall2

/-! What `done` can come to in each state of the client: it posts the next state, or
the handler is told once how the request ends. The handlers of the replies come
first, then the routers and transforms, and last the one case analysis of
`switch_to_next`. -/
namespace BeeSdk.CaClientDone
open CaReplies CaClient CaSignature Logged StateMachine

variable {Rsa Endpoint : Type}

/-! ### The handlers of the replies -/

/-- The reply that is asked for next. -/
def follows : Reply → Option Reply
  | .pubKey => some .signature
  | .signature => some .shareKey
  | .shareKey => some .lua
  | .lua => none

/-- How the handler of a reply ends: it breaks off, it names the state that asks for
the next reply, or it has told the handler that the request is at its end. -/
inductive Answered (crypto : Crypto Rsa) (reply : Reply) (client : CAClient Rsa) (ev : Received)
    (handled : Handled Rsa) : Prop where
  | breaks (ends : handled.next = kInvalidState) (untold : handled.told = [])
      (error : handled.ec1 = ev.ec1 ∨ handled.ec1 ≠ .stateMachineFinished)
  | goesOn (next : Reply) (after : follows reply = some next)
      (names : handled.next = (CAState.send next).id)
      (proves : Proves crypto reply (.replied reply client ev))
      (asked : ∀ told ∈ handled.told, ∃ md5, told = .checkLuaMd5 md5 false)
  | same (md5 : List UInt8) (names : handled.next = kFinishedState)
      (told : handled.told = [.checkLuaMd5 md5 true])
  | delivers (last : reply = .lua) (ec2 : ErrorCode) (lua md5 gslbKey : List UInt8) (gslbTs : Nat)
      (names : handled.next = kFinishedState)
      (told : handled.told = [.handleCaData .success ec2 lua md5 gslbKey gslbTs])

/-- The client keeps the key it has generated. -/
def SameKey (client other : CAClient Rsa) : Prop :=
  other.clientRsa = client.clientRsa ∧ other.clientPublicKey = client.clientPublicKey

/-- What the handler of a reply can come to. -/
def Handles (crypto : Crypto Rsa) (reply : Reply) (client : CAClient Rsa) (ev : Received)
    (handled : Handled Rsa) : Prop :=
  Answered crypto reply client ev handled ∧ SameKey client handled.client

variable {crypto : Crypto Rsa} {client : CAClient Rsa} {ev : Received}

theorem breaks_handles {reply : Reply} {other : CAClient Rsa} (key : SameKey client other)
    (error : ec1 = ev.ec1 ∨ ec1 ≠ .stateMachineFinished) :
    Handles crypto reply client ev (other.breaks ec1) :=
  ⟨.breaks rfl rfl error, key⟩

/-- A handler with a message whose header has been checked. -/
theorem always_handles (reply : Reply) {handle : List UInt8 → Access (Handled Rsa)}
    {lengthSize code : Nat} {rest : List UInt8 → Access (Handled Rsa)}
    (checked : ∀ memory, handle memory = do
      match ← checkHeader memory lengthSize code with
      | some ec1 => pure (client.breaks ec1)
      | none => rest memory)
    (answered : ∀ memory, ev.rcvBuffer = some memory →
      Always (rest memory) (Handles crypto reply client ev)) :
    Always (withMessage client ev handle) (Handles crypto reply client ev) := by
  rw [withMessage]
  split
  · rw [always_pure]
    exact breaks_handles ⟨rfl, rfl⟩ (.inl rfl)
  · cases held : ev.rcvBuffer with
    | none =>
      dsimp only
      rw [always_pure]
      exact breaks_handles ⟨rfl, rfl⟩ (.inr (by simp))
    | some memory =>
      dsimp only
      rw [checked memory, always_bind]
      have header : Always (checkHeader memory lengthSize code) fun found =>
          found = none ∨ ∃ ec1, found = some ec1 ∧ ec1 ≠ .stateMachineFinished := by
        rw [checkHeader, always_bind]
        intro _ mark _
        split
        · rw [always_pure]
          exact .inr ⟨_, rfl, by simp⟩
        · rw [always_bind]
          intro _ found _
          split
          · rw [always_pure]
            exact .inr ⟨_, rfl, by simp⟩
          · rw [always_pure]
            exact .inl rfl
      refine header.imp ?_
      rintro _ (rfl | ⟨ec1, rfl, error⟩)
      · exact answered memory held
      · dsimp only
        rw [always_pure]
        exact breaks_handles ⟨rfl, rfl⟩ (.inr error)

theorem pubKey_handles (seedp : UInt32) :
    Always (handleRcvPubKey crypto seedp client ev) (Handles crypto .pubKey client ev) := by
  refine always_handles .pubKey (fun memory => rfl) fun memory held => ?_
  rw [always_bind]
  intro _ pubKey read
  dsimp only [CAClient.processServerRsaKey]
  split
  · rw [always_pure]
    exact breaks_handles ⟨rfl, rfl⟩ (.inr (by simp))
  · rename_i accepted
    rw [always_bind]
    intro _ made _
    split
    · rw [always_pure]
      exact breaks_handles ⟨rfl, rfl⟩ (.inr (by simp))
    · rw [always_pure]
      have proves : Proves crypto .pubKey (.replied .pubKey client ev) :=
        .pubKey held read (Decidable.not_not.mp accepted)
      exact ⟨.goesOn .signature rfl rfl proves (by simp), rfl, rfl⟩

theorem signature_handles :
    Always (handleRcvSignature crypto client ev) (Handles crypto .signature client ev) := by
  refine always_handles .signature (fun memory => rfl) fun memory held => ?_
  rw [always_bind]
  intro _ found decrypted
  cases found with
  | none =>
    dsimp only
    rw [always_pure]
    exact breaks_handles ⟨rfl, rfl⟩ (.inr (by simp))
  | some found =>
    dsimp only
    rw [always_bind, always_lift]
    intro accepted checked
    split
    · rw [always_pure]
      exact breaks_handles ⟨rfl, rfl⟩ (.inr (by simp))
    · rename_i right
      rw [Bool.not_eq_true, Bool.not_eq_false] at right
      rw [always_pure]
      have proves : Proves crypto .signature (.replied .signature client ev) :=
        .signature held decrypted (right ▸ checked)
      exact ⟨.goesOn .shareKey rfl rfl proves (by simp), rfl, rfl⟩

theorem shareKey_handles (handler : CAHandler) :
    Always (handleRcvShareKey crypto (some handler) client ev)
      (Handles crypto .shareKey client ev) := by
  refine always_handles .shareKey (fun memory => rfl) fun memory held => ?_
  rw [always_bind]
  intro _ found decrypted
  cases found with
  | none =>
    dsimp only
    rw [always_pure]
    exact breaks_handles ⟨rfl, rfl⟩ (.inr (by simp))
  | some found =>
    dsimp only
    rw [always_bind, always_use, always_bind]
    intro _ rs _
    rw [always_pure]
    cases version : handler.checkLuaMd5 (rs.drop (8 + ENCRYPT_KEY_SIZE)) with
    | true => exact ⟨.same _ (by rw [if_pos rfl]) rfl, rfl, rfl⟩
    | false =>
      have proves : Proves crypto .shareKey (.replied .shareKey client ev) :=
        .shareKey held decrypted
      refine ⟨.goesOn .lua rfl (by rw [if_neg Bool.false_ne_true]; rfl) proves ?_, rfl, rfl⟩
      intro told member
      exact ⟨_, List.mem_singleton.mp member⟩

theorem lua_handles (handler : CAHandler) :
    Always (handleRcvLua crypto (some handler) client ev) (Handles crypto .lua client ev) := by
  refine always_handles .lua (fun memory => rfl) fun memory held => ?_
  simp only [always_bind, always_use, always_pure]
  intro _ length _ _ input _ _ written _ _ field _
  rw [CAClient.finishLua]
  split
  · exact breaks_handles ⟨rfl, rfl⟩ (.inr (by simp))
  · exact ⟨.delivers rfl _ _ _ _ _ rfl rfl, rfl, rfl⟩

theorem reply_handles (seedp : UInt32) (handler : CAHandler) (reply : Reply) :
    Always (reply.handle crypto seedp (some handler) client ev) (Handles crypto reply client ev) := by
  cases reply with
  | pubKey => exact pubKey_handles seedp
  | signature => exact signature_handles
  | shareKey => exact shareKey_handles handler
  | lua => exact lua_handles handler

/-! ### The log -/

/-- The handler is given a script. -/
def Delivers (entry : Entry Rsa) : Prop :=
  ∃ ec2 lua md5 gslbKey gslbTs, entry = .told (.handleCaData .success ec2 lua md5 gslbKey gslbTs)

theorem passed_append {replies : List Reply} {log : List (Entry Rsa)}
    (passed : Passed crypto replies log) (more : List (Entry Rsa)) :
    Passed crypto replies (log ++ more) := by
  obtain ⟨entries, held, proves⟩ := passed
  exact ⟨entries, held.trans (List.sublist_append_left log more), proves⟩

theorem passed_nil {log : List (Entry Rsa)} : Passed crypto [] log :=
  ⟨[], List.nil_sublist log, .nil⟩

theorem passed_next {replies : List Reply} {log : List (Entry Rsa)} {entry : Entry Rsa}
    (passed : Passed crypto replies log) (proves : Proves crypto reply entry)
    (more : List (Entry Rsa)) : Passed crypto (replies ++ [reply]) (log ++ entry :: more) := by
  obtain ⟨entries, held, earlier⟩ := passed
  refine ⟨entries ++ [entry], held.append ?_, List.rel_append earlier (.cons proves .nil)⟩
  exact List.singleton_sublist.mpr List.mem_cons_self

/-- Behind a verified log a script may follow only when everything has passed. -/
theorem verified_append {log more : List (Entry Rsa)} (verified : VerifiedFirst crypto log)
    (passed : (∃ entry ∈ more, Delivers entry) → Passed crypto [.pubKey, .signature, .shareKey] log) :
    VerifiedFirst crypto (log ++ more) := by
  intro before after ec2 lua md5 gslbKey gslbTs same
  rcases List.append_eq_append_iff.mp same with ⟨middle, rfl, behind⟩ | ⟨middle, rfl, behind⟩
  · refine passed_append (passed ⟨_, ?_, ec2, lua, md5, gslbKey, gslbTs, rfl⟩) middle
    rw [behind]
    exact List.mem_append_right _ List.mem_cons_self
  · cases middle with
    | nil =>
      rw [List.append_nil] at passed
      apply passed
      rw [List.nil_append] at behind
      refine ⟨_, ?_, ec2, lua, md5, gslbKey, gslbTs, rfl⟩
      rw [← behind]
      exact List.mem_cons_self
    | cons entry middle =>
      obtain ⟨rfl, _⟩ := List.cons.inj behind
      exact verified before middle ec2 lua md5 gslbKey gslbTs rfl

/-- The replies that have passed once a state is reached. -/
def milestones : CAState → List Reply
  | .resolve | .connectCA => []
  | .send .pubKey | .rcv .pubKey => []
  | .send .signature | .rcv .signature => [.pubKey]
  | .send .shareKey | .rcv .shareKey => [.pubKey, .signature]
  | .send .lua | .rcv .lua => [.pubKey, .signature, .shareKey]

theorem milestones_follows (after_it : follows reply = some next) :
    milestones (.send next) = milestones (.rcv reply) ++ [reply] := by
  cases reply <;> cases after_it <;> rfl

/-! ### What stays as it is -/

/-- The data of a sending state lies at the front of a small block, and there is some
once the state is set up. -/
structure Packed (send : SendState) : Prop where
  front : send.data.beginOffset = 0
  small : send.data.capacity ≤ 1024
  filled : send.setup = true → send.data.empty = false

/-- A generated key has a text. -/
def Keyed (client : CAClient Rsa) : Prop :=
  client.clientRsa.isSome = true → client.clientPublicKey ≠ []

theorem SameKey.keyed {other : CAClient Rsa} (same : SameKey client other) (keyed : Keyed client) :
    Keyed other := by
  intro generated
  rw [same.1] at generated
  rw [same.2]
  exact keyed generated

/-- What the operations of the client leave alone: the timers, how often it was asked,
that it has been started, that data is packed and a key has its text, and the log but
for entries behind it that do not report; none delivers what is not verified. -/
structure Held (crypto : Crypto Rsa) (passed : List Reply) (before after : Exchange Rsa Endpoint) :
    Prop where
  timers : after.timers = before.timers
  requests : after.requests = before.requests
  started : before.currentStateId ≠ -1 → after.currentStateId ≠ -1
  packed : (∀ reply, Packed (before.sends reply)) → ∀ reply, Packed (after.sends reply)
  keyed : Keyed before.client → Keyed after.client
  reported : after.Reported ↔ before.Reported
  grows : before.log <+: after.log
  verified : Passed crypto passed before.log → VerifiedFirst crypto before.log →
    VerifiedFirst crypto after.log

theorem passed_earlier {replies : List Reply} {log longer : List (Entry Rsa)}
    (passed : Passed crypto replies log) (grows : log <+: longer) : Passed crypto replies longer := by
  obtain ⟨more, rfl⟩ := grows
  exact passed_append passed more

/-- A change that leaves the log as it is. -/
theorem Held.of_log {replies : List Reply} {before after : Exchange Rsa Endpoint}
    (log : after.log = before.log) (timers : after.timers = before.timers)
    (requests : after.requests = before.requests)
    (started : before.currentStateId ≠ -1 → after.currentStateId ≠ -1)
    (keyed : Keyed before.client → Keyed after.client)
    (packed : (∀ reply, Packed (before.sends reply)) → ∀ reply, Packed (after.sends reply)) :
    Held crypto replies before after where
  timers := timers
  requests := requests
  started := started
  packed := packed
  keyed := keyed
  reported := by rw [Exchange.Reported, log, Exchange.Reported]
  grows := ⟨[], (List.append_nil _).trans log.symm⟩
  verified := fun _ verified => log ▸ verified

/-- A change of the log, by entries that do not report. -/
theorem Held.of_more {replies : List Reply} {before after : Exchange Rsa Endpoint}
    {more : List (Entry Rsa)} (log : after.log = before.log ++ more)
    (timers : after.timers = before.timers) (requests : after.requests = before.requests)
    (started : after.currentStateId = before.currentStateId)
    (sends : after.sends = before.sends) (keyed : Keyed before.client → Keyed after.client)
    (silent : ∀ entry ∈ more, entry.reports = false)
    (passed : (∃ entry ∈ more, Delivers entry) → replies = [.pubKey, .signature, .shareKey]) :
    Held crypto replies before after where
  timers := timers
  requests := requests
  started := fun begun => started ▸ begun
  packed := fun packed reply => sends ▸ packed reply
  keyed := keyed
  reported := by
    have quiet : more.any Entry.reports = false := by
      rw [List.any_eq_false]
      intro entry member
      rw [silent entry member]
      exact Bool.false_ne_true
    rw [Exchange.Reported, log, List.any_append, quiet, Bool.or_false, Exchange.Reported]
  grows := ⟨more, log.symm⟩
  verified := fun given verified => by
    rw [log]
    exact verified_append verified fun delivers => passed delivers ▸ given

theorem Held.trans {replies : List Reply} {before middle after : Exchange Rsa Endpoint}
    (first : Held crypto replies before middle) (second : Held crypto replies middle after) :
    Held crypto replies before after where
  timers := second.timers.trans first.timers
  requests := second.requests.trans first.requests
  started := fun begun => second.started (first.started begun)
  packed := fun packed => second.packed (first.packed packed)
  keyed := fun keyed => second.keyed (first.keyed keyed)
  reported := second.reported.trans first.reported
  grows := first.grows.trans second.grows
  verified := fun passed verified =>
    second.verified (passed_earlier passed first.grows) (first.verified passed verified)

/-- What a call of `done` leaves alone: the sockets and their caches too. -/
structure Kept (crypto : Crypto Rsa) (replies : List Reply) (before after : Exchange Rsa Endpoint) :
    Prop extends Held crypto replies before after where
  fsm : after.fsm = before.fsm

theorem Kept.of_log {replies : List Reply} {before after : Exchange Rsa Endpoint}
    (log : after.log = before.log) (fsm : after.fsm = before.fsm)
    (timers : after.timers = before.timers) (requests : after.requests = before.requests)
    (started : before.currentStateId ≠ -1 → after.currentStateId ≠ -1)
    (keyed : Keyed before.client → Keyed after.client)
    (packed : (∀ reply, Packed (before.sends reply)) → ∀ reply, Packed (after.sends reply)) :
    Kept crypto replies before after :=
  ⟨.of_log log timers requests started keyed packed, fsm⟩

theorem Kept.refl (crypto : Crypto Rsa) (replies : List Reply) (exchange : Exchange Rsa Endpoint) :
    Kept crypto replies exchange exchange :=
  .of_log rfl rfl rfl rfl id id id

theorem Kept.trans {replies : List Reply} {before middle after : Exchange Rsa Endpoint}
    (first : Kept crypto replies before middle) (second : Kept crypto replies middle after) :
    Kept crypto replies before after :=
  ⟨first.toHeld.trans second.toHeld, second.fsm.trans first.fsm⟩

/-- Where only a send state is replaced, by one that is packed. -/
theorem setSend_packed {exchange : Exchange Rsa Endpoint} {reply : Reply} {send : SendState}
    (replaced : Packed send) (packed : ∀ reply, Packed (exchange.sends reply)) :
    ∀ other, Packed ((exchange.setSend reply send).sends other) := by
  intro other
  simp only [Exchange.setSend]
  split
  · exact replaced
  · exact packed other

theorem setOutputEvent_kept (crypto : Crypto Rsa) (exchange : Exchange Rsa Endpoint)
    (replies : List Reply) (state : CAState) (event : StateEvent) :
    Kept crypto replies exchange (exchange.setOutputEvent state event) := by
  cases state with
  | resolve => exact .of_log rfl rfl rfl rfl id id id
  | connectCA => exact .of_log rfl rfl rfl rfl id id id
  | rcv reply => exact .of_log rfl rfl rfl rfl id id id
  | send reply =>
    refine .of_log rfl rfl rfl rfl id id fun packed => setSend_packed ?_ packed
    exact ⟨(packed reply).front, (packed reply).small, (packed reply).filled⟩

@[simp] theorem setOutputEvent_pending (exchange : Exchange Rsa Endpoint) (state : CAState)
    (event : StateEvent) : (exchange.setOutputEvent state event).pending = exchange.pending := by
  cases state <;> rfl

@[simp] theorem setOutputEvent_log (exchange : Exchange Rsa Endpoint) (state : CAState)
    (event : StateEvent) : (exchange.setOutputEvent state event).log = exchange.log := by
  cases state <;> rfl

@[simp] theorem setOutputEvent_client (exchange : Exchange Rsa Endpoint) (state : CAState)
    (event : StateEvent) : (exchange.setOutputEvent state event).client = exchange.client := by
  cases state <;> rfl

theorem notified_same {before after : Exchange Rsa Endpoint} (log : after.log = before.log) :
    after.notified = before.notified := by
  rw [Exchange.notified, log, Exchange.notified]

/-- An error is told, and no script with it. -/
theorem output_tells (event : StateEvent) (exchange : Exchange Rsa Endpoint)
    (error : event.ec1 ≠ .success ∧ event.ec1 ≠ .stateMachineFinished) (replies : List Reply) :
    Kept crypto replies exchange (Exchange.output event exchange) ∧
      (Exchange.output event exchange).pending = exchange.pending ∧
      (Exchange.output event exchange).notified = exchange.notified + 1 := by
  rw [Exchange.output, if_pos error]
  refine ⟨⟨.of_more rfl rfl rfl rfl rfl id ?_ ?_, rfl⟩, rfl, ?_⟩
  · intro entry member
    rw [List.mem_singleton.mp member]
    rfl
  · rintro ⟨entry, member, _, _, _, _, _, rfl⟩
    injection List.mem_singleton.mp member with told
    injection told with success
    exact absurd success.symm error.1
  · simp [Exchange.notified, Exchange.note, Entry.notifies]

theorem output_finished {event : StateEvent} (exchange : Exchange Rsa Endpoint)
    (finished : event.ec1 = .stateMachineFinished) : Exchange.output event exchange = exchange := by
  rw [Exchange.output, if_neg (fun both => both.2 finished)]

/-! ### The routers -/

/-- The state a state switches to; `RcvLua` is the last. -/
def ahead : CAState → Option CAState
  | .resolve => some .connectCA
  | .connectCA => some (.send .pubKey)
  | .send reply => some (.rcv reply)
  | .rcv reply => (follows reply).map .send

/-- What a router can come to: the end without a word, the end with one, or the name
of the state ahead. -/
inductive Routed (crypto : Crypto Rsa) (state : CAState) (event : StateEvent)
    (before : Exchange Rsa Endpoint) (next : Int) (left : StateEvent)
    (after : Exchange Rsa Endpoint) : Prop where
  | stops (ends : next = kInvalidState)
      (error : left.ec1 = event.ec1 ∨ left.ec1 ≠ .stateMachineFinished)
      (untold : after.notified = before.notified)
  | finishes (ends : next = kFinishedState) (told : after.notified = before.notified + 1)
  | goes (target : CAState) (after_it : ahead state = some target) (names : next = target.id)
      (fine : ∀ reply, state = .send reply → event.ec1 = .success)
      (untold : after.notified = before.notified)
      (passes : Passed crypto (milestones state) before.log →
        Passed crypto (milestones target) after.log)
      (generated : state = .connectCA → after.client.clientRsa.isSome = true)

/-- Generating a key changes the client only; there is a key once it has succeeded. -/
private theorem generated_client (exchange : Exchange Rsa Endpoint) (answers : Answers Rsa) :
    ∃ client, (exchange.generateClientRsaKey answers).2 = { exchange with client } ∧
      (Keyed exchange.client → Keyed client) ∧
      ((exchange.generateClientRsaKey answers).1 = true → client.clientRsa.isSome = true) := by
  unfold Exchange.generateClientRsaKey
  split
  · rename_i held
    exact ⟨exchange.client, rfl, id, fun _ => held⟩
  · split
    · exact ⟨exchange.client, rfl, id, fun generated => by cases generated⟩
    · rename_i key _
      refine ⟨_, rfl, fun _ _ empty => ?_, fun _ => rfl⟩
      have long := key.long
      have empty : key.publicKey = [] := empty
      rw [empty, List.length_nil] at long
      omega

private theorem handleConnectCA_routed {answers : Answers Rsa} {event left : StateEvent}
    {before after : Exchange Rsa Endpoint}
    (made : Exchange.handleConnectCA answers event before = (next, left, after)) :
    Routed crypto .connectCA event before next left after ∧ Kept crypto (milestones .connectCA) before after ∧
      after.pending = before.pending := by
  obtain ⟨client, replaced, keyed, generates⟩ := generated_client before answers
  unfold Exchange.handleConnectCA at made
  split at made
  · cases made
    exact ⟨.stops rfl (.inl rfl) rfl, .refl _ _ _, rfl⟩
  · dsimp only at made
    rw [replaced] at made
    split at made
    · cases made
      exact ⟨.stops rfl (.inr (by simp)) rfl, .of_log rfl rfl rfl rfl id keyed id, rfl⟩
    · rename_i generated
      have generated := generates (Decidable.not_not.mp generated)
      split at made <;>
      · cases made
        exact ⟨.goes (.send .pubKey) rfl rfl (by simp) rfl id fun _ => generated,
          .of_log rfl rfl rfl rfl id keyed id, rfl⟩

private theorem sentRouter_routed {event left : StateEvent} (reply : Reply)
    {before after : Exchange Rsa Endpoint}
    (made : Exchange.sentRouter reply event before = (next, left, after)) :
    Routed crypto (.send reply) event before next left after ∧
      Kept crypto (milestones (.send reply)) before after ∧ after.pending = before.pending := by
  have shared : Exchange.handleSent (CAState.rcv reply).id event before = (next, left, after) := by
    rw [← made]
    cases reply <;> rfl
  unfold Exchange.handleSent at shared
  split at shared
  · cases shared
    exact ⟨.stops rfl (.inl rfl) rfl, .refl _ _ _, rfl⟩
  · rename_i fine
    cases shared
    refine ⟨.goes (.rcv reply) rfl rfl ?_ rfl ?_ (fun other => by cases other), .refl _ _ _, rfl⟩
    · exact fun _ _ => Decidable.not_not.mp fun error => fine (.inl error)
    · cases reply <;> exact id

/-- The notifications behind the handler of a reply. -/
private theorem replied_notified {before after : Exchange Rsa Endpoint} {entry : Entry Rsa}
    {told : List Told} (log : after.log = before.log ++ entry :: told.map .told)
    (silent : entry.notifies = false) :
    after.notified =
      before.notified + (told.map (Entry.told : Told → Entry Rsa)).countP Entry.notifies := by
  rw [Exchange.notified, log, List.countP_append, List.countP_cons, silent]
  rfl

private theorem handleRcv_routed {surroundings : Surroundings Rsa Endpoint} {answers : Answers Rsa}
    {event left : StateEvent} (reply : Reply) {before after : Exchange Rsa Endpoint}
    (made : Exchange.handleRcv surroundings answers reply event before = some (next, left, after)) :
    Routed surroundings.crypto (.rcv reply) event before next left after ∧
      Kept surroundings.crypto (milestones (.rcv reply)) before after ∧ after.pending = before.pending := by
  obtain ⟨⟨uses, handled⟩, ran, same⟩ := Option.map_eq_some_iff.mp made
  cases same
  obtain ⟨answered, key⟩ := reply_handles _ _ reply _ _ ran
  have silent : ∀ entry ∈ Entry.replied reply before.client (before.received reply event) ::
      handled.told.map .told, entry.reports = false := by
    intro entry member
    rcases List.mem_cons.mp member with rfl | told
    · rfl
    · obtain ⟨_, _, rfl⟩ := List.mem_map.mp told
      rfl
  have delivers : (∃ entry ∈ Entry.replied reply before.client (before.received reply event) ::
      handled.told.map .told, Delivers entry) →
        ∃ ec2 lua md5 gslbKey gslbTs,
          Told.handleCaData .success ec2 lua md5 gslbKey gslbTs ∈ handled.told := by
    rintro ⟨entry, member, ec2, lua, md5, gslbKey, gslbTs, rfl⟩
    rcases List.mem_cons.mp member with differs | told
    · cases differs
    · obtain ⟨told, held, same⟩ := List.mem_map.mp told
      cases same
      exact ⟨ec2, lua, md5, gslbKey, gslbTs, held⟩
  cases answered with
  | breaks ends untold error =>
    refine ⟨.stops ends error ?_, ⟨.of_more rfl rfl rfl rfl rfl key.keyed silent ?_, rfl⟩, rfl⟩
    · rw [replied_notified rfl rfl, untold]
      rfl
    · intro some
      obtain ⟨_, _, _, _, _, held⟩ := delivers some
      rw [untold] at held
      cases held
  | goesOn target after_it names proves asked =>
    refine ⟨.goes (.send target) (by rw [ahead, after_it]; rfl) names (by simp) ?_ ?_
      (fun other => by cases other), ⟨.of_more rfl rfl rfl rfl rfl key.keyed silent ?_, rfl⟩, rfl⟩
    · rw [replied_notified rfl rfl, List.countP_eq_zero.mpr]
      · rfl
      · intro entry member
        obtain ⟨told, held, rfl⟩ := List.mem_map.mp member
        obtain ⟨md5, rfl⟩ := asked told held
        exact Bool.false_ne_true
    · intro passed
      rw [milestones_follows after_it]
      exact passed_next passed proves _
    · intro some
      obtain ⟨_, _, _, _, _, held⟩ := delivers some
      obtain ⟨_, differs⟩ := asked _ held
      cases differs
  | same md5 names told =>
    refine ⟨.finishes names ?_, ⟨.of_more rfl rfl rfl rfl rfl key.keyed silent ?_, rfl⟩, rfl⟩
    · rw [replied_notified rfl rfl, told]
      rfl
    · intro some
      obtain ⟨_, _, _, _, _, held⟩ := delivers some
      rw [told] at held
      cases List.mem_singleton.mp held
  | delivers last ec2 lua md5 gslbKey gslbTs names told =>
    subst last
    refine ⟨.finishes names ?_, ⟨.of_more rfl rfl rfl rfl rfl key.keyed silent (fun _ => rfl), rfl⟩, rfl⟩
    rw [replied_notified rfl rfl, told]
    rfl

theorem router_routed {surroundings : Surroundings Rsa Endpoint} {answers : Answers Rsa}
    {state : CAState} {event left : StateEvent} {before after : Exchange Rsa Endpoint}
    (made : Exchange.router surroundings answers state event before = some (next, left, after)) :
    Routed surroundings.crypto state event before next left after ∧
      Kept surroundings.crypto (milestones state) before after ∧ after.pending = before.pending := by
  cases state with
  | resolve =>
    cases made
    refine ⟨.goes .connectCA rfl rfl (by simp) ?_ ?_ (fun other => by cases other), ?_, ?_⟩
    · split <;> rfl
    · split <;> exact id
    · split <;> exact .of_log rfl rfl rfl rfl id id id
    · split <;> rfl
  | connectCA => exact handleConnectCA_routed (Option.some.inj made)
  | send reply => exact sentRouter_routed reply (Option.some.inj made)
  | rcv reply => exact handleRcv_routed reply made

/-! ### The transforms -/

theorem id_valid (state : CAState) : state.id ≠ kInvalidState ∧ state.id ≠ kFinishedState := by
  cases state with
  | resolve => decide
  | connectCA => decide
  | send reply => cases reply <;> decide
  | rcv reply => cases reply <;> decide

theorem post_started (exchange : Exchange Rsa Endpoint) (state : CAState) :
    (exchange.post state).currentStateId ≠ -1 :=
  (id_valid state).1

/-- What a transform can come to: the state ahead is posted, or an error is named. -/
inductive Transformed (state : CAState) (before : Exchange Rsa Endpoint) (agrees : Bool)
    (left : StateEvent) (after : Exchange Rsa Endpoint) : Prop where
  | posts (target : CAState) (after_it : ahead state = some target) (agreed : agrees = true)
      (pending : after.pending = before.pending ++ [.execute target])
  | fails (refused : agrees = false) (pending : after.pending = before.pending)
      (error : left.ec1 ≠ .success ∧ left.ec1 ≠ .stateMachineFinished)

/-- Data that lies at the front of a small block, and some of it. -/
structure Filled (data : IOBuffer) : Prop where
  front : data.beginOffset = 0
  small : data.capacity ≤ 1024
  some : data.empty = false

theorem Filled.packed {send : SendState} (filled : Filled send.data) : Packed send :=
  ⟨filled.front, filled.small, fun _ => filled.some⟩

theorem roomyData_filled {send : SendState} (packed : Packed send) :
    Filled (Exchange.roomyData send.data) := by
  unfold Exchange.roomyData
  split
  · refine ⟨rfl, ?_, ?_⟩
    · rw [IOBuffer.ofCapacity_capacity]
    · rw [IOBuffer.empty, IOBuffer.ofCapacity, IOBuffer.ofBytes, List.length_replicate]
      rfl
  · rename_i roomy
    refine ⟨packed.front, packed.small, ?_⟩
    rw [IOBuffer.size, packed.front] at roomy
    rw [IOBuffer.empty, packed.front, decide_eq_false_iff_not]
    intro nothing
    rw [← nothing] at roomy
    exact roomy (by decide)

theorem Filled.overwritten {data : IOBuffer} {buffer : List UInt8} (filled : Filled data)
    (size : buffer.length = data.buffer.length) : Filled { data with buffer } where
  front := filled.front
  small := (Nat.le_of_eq size).trans filled.small
  some := filled.some

theorem Filled.resized {data : IOBuffer} {length : Nat} (filled : Filled data)
    (positive : 0 < length) (fits : length ≤ data.capacity) : Filled (data.resize length) := by
  have stays : data.beginOffset + length ≤ data.capacity := by
    rw [filled.front, Nat.zero_add]
    exact fits
  rw [IOBuffer.resize, if_pos stays]
  refine ⟨filled.front, filled.small, ?_⟩
  rw [IOBuffer.empty, filled.front, decide_eq_false_iff_not]
  dsimp only
  omega

private theorem transformEncrypted_transformed {surroundings : Surroundings Rsa Endpoint}
    {reply : Reply} {code : Nat} {plain : List UInt8} {event left : StateEvent}
    {before after : Exchange Rsa Endpoint} {state : CAState}
    (after_it : ahead state = some (.send reply))
    (made : Exchange.transformEncrypted surroundings reply code plain event before =
      some (agrees, left, after)) :
    Transformed state before agrees left after ∧ Kept crypto (milestones state) before after ∧
      after.log = before.log := by
  unfold Exchange.transformEncrypted at made
  dsimp only at made
  split at made
  · cases made
    refine ⟨.fails rfl rfl ⟨by simp, by simp⟩, .of_log rfl rfl rfl rfl id id fun packed => ?_, rfl⟩
    have filled := roomyData_filled (packed reply)
    exact setSend_packed filled.packed packed
  · rename_i out _
    obtain ⟨buffer, copied, rest⟩ := Option.bind_eq_some_iff.mp made
    obtain ⟨whole, headed, same⟩ := Option.map_eq_some_iff.mp rest
    cases same
    refine ⟨.posts _ after_it rfl rfl, .of_log rfl rfl rfl rfl (fun _ => post_started _ _) id fun packed => ?_, rfl⟩
    refine setSend_packed (Filled.packed ?_) packed
    have filled := roomyData_filled (packed reply)
    have small := filled.small
    obtain ⟨inside, size⟩ := RingMemory.copyIn_inside copied
    obtain ⟨_, size'⟩ := RingMemory.copyIn_inside headed
    have written := filled.overwritten (size'.trans size)
    split
    · rename_i shorter
      rw [filled.front] at inside
      have header : kCAHeaderLen = 7 := rfl
      have whole : (kCAHeaderLen + out.length) % 2 ^ 16 = kCAHeaderLen + out.length := by
        apply Nat.mod_eq_of_lt
        rw [IOBuffer.capacity] at small
        omega
      exact written.resized (by omega) (Nat.le_of_lt shorter)
    · exact written

private theorem transformRcvShareKeyToRequestLua_transformed {event left : StateEvent}
    {before after : Exchange Rsa Endpoint}
    (made : Exchange.transformRcvShareKeyToRequestLua event before = some (agrees, left, after)) :
    Transformed (.rcv .shareKey) before agrees left after ∧
      Kept crypto (milestones (.rcv .shareKey)) before after ∧ after.log = before.log := by
  obtain ⟨buffer, headed, same⟩ := Option.map_eq_some_iff.mp made
  cases same
  refine ⟨.posts _ rfl rfl rfl, .of_log rfl rfl rfl rfl (fun _ => post_started _ _) id fun packed => ?_, rfl⟩
  refine setSend_packed (Filled.packed ?_) packed
  have filled := roomyData_filled (packed .lua)
  obtain ⟨inside, size⟩ := RingMemory.copyIn_inside headed
  rw [filled.front] at inside
  refine (filled.overwritten size).resized (by decide) ?_
  have seven : (Exchange.header kCAHeaderLen CLIENT_REQUEST_LUA).length = kCAHeaderLen := by
    simp [Exchange.header, kCAHeaderLen]
  rw [IOBuffer.capacity, size]
  omega

private theorem transformConnectCAToSendPubKey_transformed {event left : StateEvent}
    {before after : Exchange Rsa Endpoint} (keyed : before.client.clientPublicKey ≠ [])
    (made : Exchange.transformConnectCAToSendPubKey event before = some (agrees, left, after)) :
    Transformed .connectCA before agrees left after ∧ Kept crypto (milestones .connectCA) before after ∧
      after.log = before.log := by
  unfold Exchange.transformConnectCAToSendPubKey at made
  rw [if_neg keyed] at made
  obtain ⟨buffer, copied, same⟩ := Option.map_eq_some_iff.mp made
  cases same
  refine ⟨.posts _ rfl rfl rfl, .of_log rfl rfl rfl rfl (fun _ => post_started _ _) id fun packed => ?_, rfl⟩
  refine setSend_packed (Filled.packed ?_) packed
  obtain ⟨_, size⟩ := RingMemory.copyIn_inside copied
  have whole : (IOBuffer.ofCapacity kClientPubPkgLen).capacity = kClientPubPkgLen :=
    IOBuffer.ofCapacity_capacity _
  refine ⟨rfl, ?_, ?_⟩
  · rw [IOBuffer.capacity, size]
    exact (Nat.le_of_eq whole).trans (by decide)
  · rw [IOBuffer.empty, IOBuffer.ofCapacity, IOBuffer.ofBytes, List.length_replicate]
    rfl

theorem transform_transformed {surroundings : Surroundings Rsa Endpoint} {state : CAState}
    {event left : StateEvent} {before after : Exchange Rsa Endpoint}
    (found : Exchange.transform surroundings state = some (target, act))
    (made : act event before = some (agrees, left, after))
    (keyed : state = .connectCA → before.client.clientPublicKey ≠ []) :
    Transformed state before agrees left after ∧ Kept crypto (milestones state) before after ∧
      after.log = before.log := by
  cases state with
  | resolve =>
    cases found
    cases made
    exact ⟨.posts _ rfl rfl rfl, .of_log rfl rfl rfl rfl (fun _ => post_started _ _) id id, rfl⟩
  | connectCA =>
    cases found
    exact transformConnectCAToSendPubKey_transformed (keyed rfl) made
  | send reply =>
    cases found
    cases made
    exact ⟨.posts _ rfl rfl rfl, .of_log rfl rfl rfl rfl (fun _ => post_started _ _) id id, rfl⟩
  | rcv reply =>
    cases reply with
    | pubKey =>
      cases found
      exact transformEncrypted_transformed rfl made
    | signature =>
      cases found
      exact transformEncrypted_transformed rfl made
    | shareKey =>
      cases found
      exact transformRcvShareKeyToRequestLua_transformed made
    | lua => cases found

/-! ### Switching to the next state -/

/-- What `switch_to_next` comes to before `output`: the next state is posted, the
handler is still to be told, or has been told by the router. -/
inductive Switched (crypto : Crypto Rsa) (state : CAState) (ec1 : BeeErrorCode)
    (before : Exchange Rsa Endpoint) (advanced : Bool) (left : StateEvent)
    (after : Exchange Rsa Endpoint) : Prop where
  | posts (target : CAState) (after_it : ahead state = some target) (switched : advanced = true)
      (fine : ∀ reply, state = .send reply → ec1 = .success)
      (pending : after.pending = before.pending ++ [.execute target])
      (untold : after.notified = before.notified)
      (passes : Passed crypto (milestones state) before.log →
        Passed crypto (milestones target) after.log)
  | fails (stays : advanced = false) (pending : after.pending = before.pending)
      (error : left.ec1 ≠ .success ∧ left.ec1 ≠ .stateMachineFinished)
      (untold : after.notified = before.notified)
  | finishes (stays : advanced = false) (pending : after.pending = before.pending)
      (finished : left.ec1 = .stateMachineFinished) (told : after.notified = before.notified + 1)

/-- The event is one a state calls `done` with: set up unless it is an error, and not
yet finished. -/
structure Ending (event : StateEvent) : Prop where
  failed : event.setup = false → event.ec1 ≠ .success
  unfinished : event.ec1 ≠ .stateMachineFinished

theorem transform_of_ahead (surroundings : Surroundings Rsa Endpoint) {state target : CAState}
    (after_it : ahead state = some target) :
    ∃ act, Exchange.transform surroundings state = some (target.id, act) := by
  cases state with
  | resolve =>
    cases after_it
    exact ⟨_, rfl⟩
  | connectCA =>
    cases after_it
    exact ⟨_, rfl⟩
  | send reply =>
    cases after_it
    exact ⟨_, rfl⟩
  | rcv reply => cases reply <;> cases after_it <;> exact ⟨_, rfl⟩

theorem onDefined_some {Answer : Type} {otherwise answer : Answer} {event left : StateEvent}
    {act : StateEvent → Exchange Rsa Endpoint → Option (Answer × StateEvent × Exchange Rsa Endpoint)}
    {before after : Exchange Rsa Endpoint} (made : act event before = some (answer, left, after)) :
    Exchange.onDefined otherwise act event (some before) = (answer, left, some after) := by
  rw [Exchange.onDefined, Option.bind_some, made]

theorem onDefined_none {Answer : Type} (otherwise : Answer) {event : StateEvent}
    {act : StateEvent → Exchange Rsa Endpoint → Option (Answer × StateEvent × Exchange Rsa Endpoint)}
    {before : Exchange Rsa Endpoint} (undefined : act event before = none) :
    Exchange.onDefined otherwise act event (some before) = (otherwise, event, none) := by
  rw [Exchange.onDefined, Option.bind_some, undefined]

private theorem route_switched {surroundings : Surroundings Rsa Endpoint} {answers : Answers Rsa}
    {state : CAState} {event left : StateEvent} {before after : Exchange Rsa Endpoint}
    (ending : Ending event) (keyed : Keyed before.client)
    (made : route (Exchange.wiring surroundings answers state) event (some before) =
      (advanced, left, some after)) :
    Switched surroundings.crypto state event.ec1 before advanced left after ∧
      Kept surroundings.crypto (milestones state) before after := by
  cases set : event.setup with
  | false =>
    rw [route_unset set] at made
    cases made
    exact ⟨.fails rfl rfl ⟨ending.failed set, ending.unfinished⟩ rfl, .refl _ _ _⟩
  | true =>
    cases routed : Exchange.router surroundings answers state event before with
    | none =>
      rw [route_set set rfl (onDefined_none _ routed)] at made
      cases made
    | some result =>
      obtain ⟨next, named, middle⟩ := result
      rw [route_set set rfl (onDefined_some routed)] at made
      obtain ⟨routes, kept, pending⟩ := router_routed routed
      cases routes with
      | stops ends error untold =>
        rw [if_pos ends] at made
        cases made
        refine ⟨.fails rfl pending ⟨?_, ?_⟩ untold, kept⟩
        · dsimp only
          split
          · simp
          · assumption
        · dsimp only
          split
          · simp
          · rcases error with same | other
            · rw [same]
              exact ending.unfinished
            · exact other
      | finishes ends told =>
        rw [ends, if_neg (by decide), if_pos rfl] at made
        cases made
        exact ⟨.finishes rfl pending rfl told, kept⟩
      | goes target after_it names fine untold passes generated =>
        obtain ⟨valid, unfinished⟩ := id_valid target
        obtain ⟨act, found⟩ := transform_of_ahead surroundings after_it
        have looked : (Exchange.wiring surroundings answers state).transform target.id =
            some (Exchange.onDefined false act) := by
          simp only [Exchange.wiring, found, Option.bind_some, if_true]
        rw [names, if_neg valid, if_neg unfinished, looked] at made
        dsimp only at made
        cases acted : act named middle with
        | none =>
          rw [onDefined_none _ acted] at made
          cases made
        | some result =>
          obtain ⟨agrees, last, final⟩ := result
          rw [onDefined_some acted] at made
          cases made
          obtain ⟨transformed, kept', log⟩ := transform_transformed found acted fun connects =>
            kept.keyed keyed (generated connects)
          have untold := (notified_same log).trans untold
          refine ⟨?_, kept.trans kept'⟩
          cases transformed with
          | posts target' after_it' agreed pending' =>
            rw [after_it] at after_it'
            cases after_it'
            rw [pending] at pending'
            exact .posts target after_it agreed fine pending' untold fun passed => log ▸ passes passed
          | fails refused pending' error =>
            exact .fails refused (pending'.trans pending) error untold

/-- How `done` ends: the state ahead is posted, or the handler has been told. -/
inductive Ended (crypto : Crypto Rsa) (state : CAState) (ec1 : BeeErrorCode)
    (before after : Exchange Rsa Endpoint) : Prop where
  | posts (target : CAState) (after_it : ahead state = some target)
      (fine : ∀ reply, state = .send reply → ec1 = .success)
      (pending : after.pending = before.pending ++ [.execute target])
      (untold : after.notified = before.notified)
      (passes : Passed crypto (milestones state) before.log →
        Passed crypto (milestones target) after.log)
  | tells (pending : after.pending = before.pending) (told : after.notified = before.notified + 1)

theorem doneSetUp_ended {surroundings : Surroundings Rsa Endpoint} {answers : Answers Rsa}
    {state : CAState} {before after : Exchange Rsa Endpoint}
    (ending : Ending (before.outputEvent state)) (keyed : Keyed before.client)
    (made : before.doneSetUp surroundings answers state = some after) :
    Ended surroundings.crypto state (before.outputEvent state).ec1 before after ∧
      Kept surroundings.crypto (milestones state) before after := by
  obtain ⟨routed, shape⟩ : ∃ result, result =
      route (Exchange.wiring surroundings answers state) (before.outputEvent state) (some before) :=
    ⟨_, rfl⟩
  obtain ⟨advanced, left, machine⟩ := routed
  unfold Exchange.doneSetUp switchToNext at made
  rw [← shape] at made
  cases machine with
  | none => cases advanced <;> cases made
  | some middle =>
    obtain ⟨switched, kept⟩ := route_switched ending keyed shape.symm
    cases switched with
    | posts target after_it switched fine pending untold passes =>
      subst switched
      cases made
      refine ⟨.posts target after_it fine ?_ ?_ ?_, kept.trans (setOutputEvent_kept _ _ _ _ _)⟩
      · rw [setOutputEvent_pending, pending]
      · rw [notified_same (setOutputEvent_log _ _ _), untold]
      · rw [setOutputEvent_log]
        exact passes
    | fails stays pending error untold =>
      subst stays
      cases made
      obtain ⟨kept', pending', told⟩ := output_tells left middle error (milestones state)
      refine ⟨.tells ?_ ?_, (kept.trans kept').trans (setOutputEvent_kept _ _ _ _ _)⟩
      · rw [setOutputEvent_pending, pending', pending]
      · rw [notified_same (setOutputEvent_log _ _ _), told, untold]
    | finishes stays pending finished told =>
      subst stays
      cases made
      rw [output_finished middle finished]
      refine ⟨.tells ?_ ?_, kept.trans (setOutputEvent_kept _ _ _ _ _)⟩
      · rw [setOutputEvent_pending, pending]
      · rw [notified_same (setOutputEvent_log _ _ _), told]

theorem setOutputEvent_event (exchange : Exchange Rsa Endpoint) (state : CAState)
    (ec1 : BeeErrorCode) (ec2 : ErrorCode) :
    (exchange.setOutputEvent state { exchange.outputEvent state with ec1, ec2 }).outputEvent state =
      { exchange.outputEvent state with ec1, ec2 } := by
  cases state with
  | resolve => rfl
  | connectCA => rfl
  | send reply => simp [Exchange.setOutputEvent, Exchange.outputEvent, Exchange.setSend]
  | rcv reply => simp [Exchange.setOutputEvent, Exchange.outputEvent, Exchange.setRcv]

/-- What `done(ec1, ec2)` comes to in any state. -/
theorem done_ended {surroundings : Surroundings Rsa Endpoint} {answers : Answers Rsa}
    {state : CAState} {ec1 : BeeErrorCode} {ec2 : ErrorCode} {before after : Exchange Rsa Endpoint}
    (failed : (before.outputEvent state).setup = false → ec1 ≠ .success)
    (unfinished : ec1 ≠ .stateMachineFinished) (keyed : Keyed before.client)
    (made : before.done surroundings answers state ec1 ec2 = some after) :
    Ended surroundings.crypto state ec1 before after ∧
      Kept surroundings.crypto (milestones state) before after := by
  obtain ⟨ended, kept⟩ := doneSetUp_ended
    (by rw [setOutputEvent_event]; exact ⟨failed, unfinished⟩)
    (by rw [setOutputEvent_client]; exact keyed) made
  refine ⟨?_, (setOutputEvent_kept _ _ _ _ _).trans kept⟩
  cases ended with
  | posts target after_it fine pending untold passes =>
    rw [setOutputEvent_event] at fine
    rw [setOutputEvent_pending] at pending
    rw [setOutputEvent_log] at passes
    exact .posts target after_it fine pending
      (untold.trans (notified_same (setOutputEvent_log _ _ _))) passes
  | tells pending told =>
    rw [setOutputEvent_pending] at pending
    rw [notified_same (setOutputEvent_log _ _ _)] at told
    exact .tells pending told

end BeeSdk.CaClientDone
