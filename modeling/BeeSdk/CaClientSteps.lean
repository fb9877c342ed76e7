import BeeSdk.CaClientDone
import BeeSdk.ConnectAttemptsProofs
import BeeSdk.SendQueueProofs

/-! What a step of the client can do: an operation is followed by one other, or the
handler is told; while the client connects, the connect state goes on by itself until
it reports. -/
namespace BeeSdk.CaClientSteps
open CaReplies CaClient CaClientDone StateMachine TcpConnect

variable {Rsa Endpoint : Type} {surroundings : Surroundings Rsa Endpoint} {answers : Answers Rsa}

/-- A request, and what is done for it before the client connects, while it does and
afterwards. -/
inductive Phase where
  | asking
  | resolving
  | connecting
  | exchanging
  deriving DecidableEq

def phase : Operation → Phase
  | .requestCore .. => .asking
  | .resolve | .execute .resolve | .execute .connectCA => .resolving
  | .connect _ => .connecting
  | .execute (.send _) | .execute (.rcv _) | .write _ | .readLength _ | .readData _ => .exchanging

/-- The replies that have passed once an operation is waited for. -/
def reached : Operation → List Reply
  | .execute state => milestones state
  | .write reply => milestones (.send reply)
  | .readLength reply | .readData reply => milestones (.rcv reply)
  | .requestCore .. | .resolve | .connect _ => []

/-- Nothing waits to be written. -/
def Clear (fsm : SendQueue.TcpStateMachine) : Prop :=
  fsm.cwiobuff.empty = true ∧ fsm.qwiobuff = []

/-- The client is ready for an operation to complete: nothing waits to be written but
what a write has been handed, and resolving has not failed before it begins. -/
def Ready (exchange : Exchange Rsa Endpoint) : Operation → Prop
  | .execute .resolve => exchange.resolve.outputEvent.ec1 = .success ∧ Clear exchange.fsm
  | .write _ => exchange.fsm.qwiobuff = []
  | _ => Clear exchange.fsm

theorem Ready.carried {before after : Exchange Rsa Endpoint} {operation : Operation}
    (ready : Ready before operation)
    (resolved : after.resolve.outputEvent = before.resolve.outputEvent)
    (clear : Clear before.fsm → Clear after.fsm)
    (drained : before.fsm.qwiobuff = [] → after.fsm.qwiobuff = []) : Ready after operation := by
  cases operation with
  | execute state => cases state with
    | resolve =>
      rw [Ready, resolved]
      exact ⟨ready.1, clear ready.2⟩
    | _ => exact clear ready
  | write reply => exact drained ready
  | _ => exact clear ready

/-- What the client promises whatever it waits for: data is packed, a key has its text,
and no script is given that is not verified. -/
structure Sound (crypto : Crypto Rsa) (exchange : Exchange Rsa Endpoint) : Prop where
  packed : ∀ reply, Packed (exchange.sends reply)
  keyed : Keyed exchange.client
  verified : VerifiedFirst crypto exchange.log

theorem Sound.kept {crypto : Crypto Rsa} {before after : Exchange Rsa Endpoint}
    (sound : Sound crypto before) (held : Held crypto replies before after)
    (passed : Passed crypto replies before.log) : Sound crypto after :=
  ⟨held.packed sound.packed, held.keyed sound.keyed, held.verified passed sound.verified⟩

/-- Two clients with one log, one count of requests and the same key and data. -/
structure Alike (before after : Exchange Rsa Endpoint) : Prop where
  log : after.log = before.log
  client : after.client = before.client
  sends : after.sends = before.sends
  requests : after.requests = before.requests

theorem Alike.sound {crypto : Crypto Rsa} {before after : Exchange Rsa Endpoint}
    (alike : Alike before after) (sound : Sound crypto before) : Sound crypto after :=
  ⟨fun reply => alike.sends ▸ sound.packed reply, alike.client ▸ sound.keyed,
    alike.log ▸ sound.verified⟩

theorem Alike.reported {before after : Exchange Rsa Endpoint} (alike : Alike before after) :
    after.Reported ↔ before.Reported := by
  rw [Exchange.Reported, alike.log, Exchange.Reported]

theorem Alike.held {crypto : Crypto Rsa} {before after : Exchange Rsa Endpoint}
    (alike : Alike before after) (timers : after.timers = before.timers)
    (started : before.currentStateId ≠ -1 → after.currentStateId ≠ -1) (replies : List Reply) :
    Held crypto replies before after :=
  .of_log alike.log timers alike.requests started (fun keyed => alike.client ▸ keyed)
    fun packed => alike.sends ▸ packed

/-- An operation is followed by another of its phase, or by a word to the handler. -/
inductive Moved (crypto : Crypto Rsa) (operation : Operation) (before after : Exchange Rsa Endpoint) :
    Prop where
  | goes (next : Operation) (stays : phase next = phase operation)
      (pending : after.pending = before.pending ++ [next]) (untold : after.notified = before.notified)
      (passes : Passed crypto (reached operation) before.log → Passed crypto (reached next) after.log)
      (ready : Ready after next)
  | tells (pending : after.pending = before.pending) (told : after.notified = before.notified + 1)

theorem Moved.of_same {crypto : Crypto Rsa} {operation : Operation}
    {before middle after : Exchange Rsa Endpoint} (moved : Moved crypto operation middle after)
    (pending : middle.pending = before.pending) (log : middle.log = before.log) :
    Moved crypto operation before after := by
  cases moved with
  | goes next stays posted untold passes ready =>
    rw [pending] at posted
    rw [notified_same log] at untold
    rw [log] at passes
    exact .goes next stays posted untold passes ready
  | tells kept told =>
    rw [notified_same log] at told
    exact .tells (kept.trans pending) told

theorem ready_ahead {state target : CAState} {exchange : Exchange Rsa Endpoint}
    (after_it : ahead state = some target) (clear : Clear exchange.fsm) :
    Ready exchange (.execute target) := by
  cases target with
  | resolve => cases state with
    | rcv reply => cases reply <;> cases after_it
    | _ => cases after_it
  | _ => exact clear

/-- An operation that ends in a call of `done`, on a machine it has changed before. -/
theorem ended_moves {operation : Operation} {state : CAState} {ec1 : BeeErrorCode}
    {before middle after : Exchange Rsa Endpoint}
    (done : Ended surroundings.crypto state ec1 middle after ∧
      Kept surroundings.crypto (milestones state) middle after)
    (pending : middle.pending = before.pending) (log : middle.log = before.log)
    (same : reached operation = milestones state)
    (stays : ∀ target, ahead state = some target → phase (.execute target) = phase operation)
    (clear : (∀ reply, state = .send reply → ec1 = .success) → Clear middle.fsm)
    (held : Held surroundings.crypto (milestones state) before middle) :
    Moved surroundings.crypto operation before after ∧
      Held surroundings.crypto (milestones state) before after := by
  obtain ⟨ended, kept⟩ := done
  refine ⟨Moved.of_same ?_ pending log, held.trans kept.toHeld⟩
  cases ended with
  | posts target after_it fine posted untold passes =>
    refine .goes (.execute target) (stays target after_it) posted untold ?_ ?_
    · rw [same]
      exact passes
    · apply ready_ahead after_it
      rw [kept.fsm]
      exact clear fine
  | tells stays told => exact .tells stays told

/-- A state that refuses to be executed tells the handler. -/
theorem refused_moves {operation : Operation} {before : Exchange Rsa Endpoint} (state : CAState)
    {code : BeeErrorCode} (error : code ≠ .success ∧ code ≠ .stateMachineFinished)
    (replies : List Reply) {crypto : Crypto Rsa} {after : Exchange Rsa Endpoint}
    (made : after = Exchange.output { before.outputEvent state with ec1 := code }
      (before.setOutputEvent state { before.outputEvent state with ec1 := code })) :
    Moved crypto operation before after ∧ Held crypto replies before after := by
  subst made
  obtain ⟨kept, pending, told⟩ := output_tells { before.outputEvent state with ec1 := code }
    (before.setOutputEvent state { before.outputEvent state with ec1 := code }) error replies
  refine ⟨.tells ?_ ?_, ((setOutputEvent_kept _ _ _ _ _).trans kept).toHeld⟩
  · rw [pending, setOutputEvent_pending]
  · rw [told, notified_same (setOutputEvent_log _ _ _)]

/-! ### Asking and resolving -/

private theorem setupSocket_caches (fsm : SendQueue.TcpStateMachine) (paths : Bool) (new : Nat) :
    ((fsm.setupSocket false paths new).1 = true → Clear (fsm.setupSocket false paths new).2) ∧
      (Clear fsm → Clear (fsm.setupSocket false paths new).2) ∧
      (fsm.qwiobuff = [] → (fsm.setupSocket false paths new).2.qwiobuff = []) := by
  unfold SendQueue.TcpStateMachine.setupSocket
  split
  · exact ⟨fun opened => (by cases opened), id, id⟩
  · exact ⟨fun _ => ⟨rfl, rfl⟩, fun _ => ⟨rfl, rfl⟩, fun _ => rfl⟩

/-- What a request can come to: the machine starts with it, or the handler is told. -/
inductive Requested (before after : Exchange Rsa Endpoint) : Prop where
  | starts (fresh : before.currentStateId = -1) (started : after.currentStateId ≠ -1)
      (clear : Clear after.fsm) (pending : after.pending = before.pending ++ [.execute .resolve])
      (untold : after.notified = before.notified)
  | refuses (same : after.currentStateId = before.currentStateId)
      (pending : after.pending = before.pending) (told : after.notified = before.notified + 1)
      (clear : Clear before.fsm → Clear after.fsm)
      (drained : before.fsm.qwiobuff = [] → after.fsm.qwiobuff = [])

private theorem start_cases (before : Exchange Rsa Endpoint) (host service : String) :
    Alike before (before.start host service).2 ∧
      (before.start host service).2.timers = before.timers ∧
      (before.start host service).2.resolve.outputEvent = before.resolve.outputEvent ∧
      (((before.start host service).1 = true ∧ before.currentStateId = -1 ∧
        (before.start host service).2.currentStateId ≠ -1 ∧
        Clear (before.start host service).2.fsm ∧
        (before.start host service).2.pending = before.pending ++ [.execute .resolve]) ∨
      ((before.start host service).1 = false ∧
        (before.start host service).2.currentStateId = before.currentStateId ∧
        (Clear before.fsm → Clear (before.start host service).2.fsm) ∧
        (before.fsm.qwiobuff = [] → (before.start host service).2.fsm.qwiobuff = []) ∧
        (before.start host service).2.pending = before.pending)) := by
  obtain ⟨opens, clear, drained⟩ := setupSocket_caches before.fsm true before.sockets
  unfold Exchange.start
  dsimp only
  split
  · exact ⟨⟨rfl, rfl, rfl, rfl⟩, rfl, rfl, .inr ⟨rfl, rfl, clear, drained, rfl⟩⟩
  · rename_i opened
    unfold Exchange.active
    split
    · exact ⟨⟨rfl, rfl, rfl, rfl⟩, rfl, rfl, .inr ⟨rfl, rfl, clear, drained, rfl⟩⟩
    · dsimp only
      split
      · exact ⟨⟨rfl, rfl, rfl, rfl⟩, rfl, rfl, .inr ⟨rfl, rfl, clear, drained, rfl⟩⟩
      · rename_i free
        have fresh : before.currentStateId = -1 :=
          Decidable.not_not.mp fun begun => free (.inr begun)
        exact ⟨⟨rfl, rfl, rfl, rfl⟩, rfl, rfl, .inl ⟨rfl, fresh, post_started _ _,
          opens (Decidable.not_not.mp opened), rfl⟩⟩

theorem requestCore_cases (crypto : Crypto Rsa) (before : Exchange Rsa Endpoint)
    (host service : String) (timeout : Int) :
    Requested before (before.requestCore host service timeout) ∧
      (before.requestCore host service timeout).resolve.outputEvent = before.resolve.outputEvent ∧
      Held crypto [] before (before.requestCore host service timeout) := by
  obtain ⟨alike, timers, resolved, ends⟩ := start_cases { before with connectTimeout := timeout } host service
  have alike : Alike before (Exchange.start { before with connectTimeout := timeout } host service).2 :=
    ⟨alike.log, alike.client, alike.sends, alike.requests⟩
  unfold Exchange.requestCore
  dsimp only
  rcases ends with ⟨began, fresh, started, clear, pending⟩ | ⟨failed, same, clear, drained, pending⟩
  · rw [if_pos began]
    exact ⟨.starts fresh started clear pending (notified_same alike.log), resolved,
      alike.held timers (fun _ => started) []⟩
  · rw [if_neg (by rw [failed]; exact Bool.false_ne_true)]
    have started : before.currentStateId ≠ -1 →
        (Exchange.start { before with connectTimeout := timeout } host service).2.currentStateId ≠ -1 := by
      rw [same]
      exact id
    refine ⟨.refuses same pending ?_ clear drained, resolved,
      (alike.held timers started []).trans (.of_more rfl rfl rfl rfl rfl id ?_ ?_)⟩
    · rw [Exchange.notified, Exchange.note, alike.log]
      simp [Exchange.notified, Entry.notifies]
    · intro entry member
      rw [List.mem_singleton.mp member]
      rfl
    · rintro ⟨entry, member, _, _, _, _, _, rfl⟩
      cases List.mem_singleton.mp member

/-- A state is executed, and an error its `execute` returns goes to `output`. -/
theorem executeState_cases {before after : Exchange Rsa Endpoint} {state : CAState}
    (made : before.executeState surroundings answers state = some after) :
    ∃ code middle, (match state with
      | .resolve => before.executeResolve surroundings answers
      | .connectCA => before.executeConnect surroundings answers
      | .send reply => before.executeSend reply
      | .rcv reply => some (before.executeRcv reply)) = some (code, middle) ∧
      ((code = .success ∧ after = middle) ∨ (code ≠ .success ∧
        after = Exchange.output { middle.outputEvent state with ec1 := code }
          (middle.setOutputEvent state { middle.outputEvent state with ec1 := code }))) := by
  obtain ⟨⟨code, middle⟩, executed, rest⟩ := Option.map_eq_some_iff.mp made
  refine ⟨code, middle, executed, ?_⟩
  dsimp only at rest
  split at rest
  · rename_i error
    exact .inr ⟨error, rest.symm⟩
  · rename_i fine
    exact .inl ⟨Decidable.not_not.mp fine, rest.symm⟩

private theorem resolve_stays : ∀ target, ahead .resolve = some target →
    phase (.execute target) = .resolving := by
  intro target after_it
  cases after_it
  rfl

/-- A literal address is done with at once, a name is waited for. -/
theorem executeResolve_moves {before after : Exchange Rsa Endpoint} (keyed : Keyed before.client)
    (ready : Ready before (.execute .resolve))
    (made : before.executeState surroundings answers .resolve = some after) :
    Moved surroundings.crypto (.execute .resolve) before after ∧
      Held surroundings.crypto [] before after := by
  obtain ⟨fine, clear⟩ := ready
  obtain ⟨code, middle, executed, ends⟩ := executeState_cases made
  dsimp only at executed
  unfold Exchange.executeResolve at executed
  dsimp only at executed
  split at executed
  · cases executed
    rcases ends with ⟨differs, _⟩ | ⟨_, refused⟩
    · cases differs
    · exact refused_moves .resolve ⟨by simp, by simp⟩ [] refused
  · split at executed
    · obtain ⟨last, ran, same⟩ := Option.map_eq_some_iff.mp executed
      cases same
      rcases ends with ⟨_, rfl⟩ | ⟨differs, _⟩
      · refine ended_moves (doneSetUp_ended ⟨?_, ?_⟩ ?_ ran) rfl rfl rfl resolve_stays
          (fun _ => clear) (.of_log rfl rfl rfl id id id)
        · intro unset
          cases unset
        · dsimp only [Exchange.outputEvent]
          rw [fine]
          simp
        · exact keyed
      · exact absurd rfl differs
    · cases executed
      rcases ends with ⟨_, rfl⟩ | ⟨differs, _⟩
      · exact ⟨.goes .resolve rfl rfl rfl id clear, .of_log rfl rfl rfl id id id⟩
      · exact absurd rfl differs

theorem resolveHandled_moves {before after : Exchange Rsa Endpoint} {ec2 : ErrorCode}
    {endpoints : List Endpoint} (keyed : Keyed before.client) (ready : Ready before .resolve)
    (made : before.resolveHandled surroundings answers ec2 endpoints = some after) :
    Moved surroundings.crypto .resolve before after ∧ Held surroundings.crypto [] before after := by
  unfold Exchange.resolveHandled at made
  refine ended_moves (done_ended ?_ ?_ ?_ made) rfl rfl rfl resolve_stays (fun _ => ready)
    (.of_log rfl rfl rfl id id id)
  · intro unset
    cases unset
  · split <;> simp
  · exact keyed

/-! ### Sending -/

/-- What `execute` hands to the socket is waited for. -/
theorem executeSend_moves {before after : Exchange Rsa Endpoint} {reply : Reply}
    (packed : Packed (before.sends reply)) (clear : Ready before (.execute (.send reply)))
    (made : before.executeState surroundings answers (.send reply) = some after) :
    Moved surroundings.crypto (.execute (.send reply)) before after ∧
      Held surroundings.crypto (milestones (.send reply)) before after := by
  obtain ⟨code, middle, executed, ends⟩ := executeState_cases made
  dsimp only at executed
  unfold Exchange.executeSend at executed
  split at executed
  · cases executed
    rcases ends with ⟨differs, _⟩ | ⟨_, refused⟩
    · cases differs
    · exact refused_moves (.send reply) ⟨by simp, by simp⟩ _ refused
  · rename_i setup
    split at executed
    · cases executed
      rcases ends with ⟨differs, _⟩ | ⟨_, refused⟩
      · cases differs
      · exact refused_moves (.send reply) ⟨by simp, by simp⟩ _ refused
    · obtain ⟨⟨handed, fsm⟩, wrote, same⟩ := Option.map_eq_some_iff.mp executed
      cases same
      rcases ends with ⟨_, rfl⟩ | ⟨differs, _⟩
      · have filled := packed.filled (Decidable.not_not.mp setup)
        rw [SendQueue.TcpStateMachine.asyncWrite, SendQueueProofs.cache_hands filled clear.1] at wrote
        dsimp only at wrote
        rw [if_pos rfl] at wrote
        obtain ⟨socket, _, same⟩ := Option.map_eq_some_iff.mp wrote
        cases same
        exact ⟨.goes (.write reply) rfl rfl rfl id clear.2, .of_log rfl rfl rfl id id id⟩
      · exact absurd rfl differs

private theorem send_stays (reply : Reply) : ∀ target, ahead (.send reply) = some target →
    phase (.execute target) = .exchanging := by
  intro target after_it
  cases after_it
  rfl

/-- With an empty queue nothing is left to send, or the rest is handed elapsed again. -/
private theorem checkSendBuffer_cases {fsm : SendQueue.TcpStateMachine} (drained : fsm.qwiobuff = [])
    (bytes : Nat) :
    (fsm.checkSendBuffer bytes).2.qwiobuff = [] ∧
      (fsm.checkSendBuffer bytes).2.cwiobuff.empty = ! (fsm.checkSendBuffer bytes).1 := by
  unfold SendQueue.TcpStateMachine.checkSendBuffer
  dsimp only
  split <;> split <;> simp_all

/-- What a write completion can do with nothing queued. -/
private theorem handleWrite_cases {state : SendQueue.TcpSendState} {fsm : SendQueue.TcpStateMachine}
    {ec2 : ErrorCode} {bytes : Nat} {handled : SendQueue.Handled} (drained : fsm.qwiobuff = [])
    (made : state.handleWrite fsm ec2 bytes = some handled) :
    (handled.done = some ⟨.writeFail, ec2⟩ ∧ handled.handed = none) ∨
    (handled.done = none ∧ handled.handed.isSome = true ∧ handled.fsm.qwiobuff = []) ∨
    (handled.done = some ⟨.success, ec2⟩ ∧ handled.handed = none ∧
      handled.state.outputEvent.setup = true ∧ Clear handled.fsm) := by
  obtain ⟨queue, more⟩ := checkSendBuffer_cases drained bytes
  unfold SendQueue.TcpSendState.handleWrite at made
  split at made
  · cases made
    exact .inl ⟨rfl, rfl⟩
  · dsimp only at made
    split at made
    · rename_i some
      obtain ⟨⟨handed, left⟩, wrote, same⟩ := Option.map_eq_some_iff.mp made
      cases same
      rw [some] at more
      rw [SendQueue.TcpStateMachine.asyncWrite, SendQueueProofs.cache_hands_again _ rfl more] at wrote
      dsimp only at wrote
      rw [if_pos rfl] at wrote
      obtain ⟨socket, _, same⟩ := Option.map_eq_some_iff.mp wrote
      cases same
      exact .inr (.inl ⟨rfl, rfl, queue⟩)
    · rename_i none
      cases made
      rw [Bool.not_eq_true] at none
      rw [none] at more
      exact .inr (.inr ⟨rfl, rfl, rfl, more, queue⟩)

theorem handleWrite_moves {before after : Exchange Rsa Endpoint} {reply : Reply} {ec2 : ErrorCode}
    {bytes : Nat} (keyed : Keyed before.client) (ready : Ready before (.write reply))
    (made : before.handleWrite surroundings answers reply ec2 bytes = some after) :
    Moved surroundings.crypto (.write reply) before after ∧
      Held surroundings.crypto (milestones (.send reply)) before after := by
  obtain ⟨⟨done, handed, state, fsm⟩, wrote, rest⟩ := Option.bind_eq_some_iff.mp made
  have replaced : Held surroundings.crypto (milestones (.send reply)) before
      ({ before with fsm }.setSend reply { before.sends reply with state }) := by
    refine .of_log rfl rfl rfl id id fun packed => ?_
    exact setSend_packed ⟨(packed reply).front, (packed reply).small, (packed reply).filled⟩ packed
  rcases handleWrite_cases ready wrote with
    ⟨failed, unsent⟩ | ⟨goesOn, sent, queue⟩ | ⟨ended, unsent, setup, clear⟩
  · cases failed
    cases unsent
    refine ended_moves (done_ended ?_ ?_ ?_ rest) rfl rfl rfl (send_stays reply) ?_ replaced
    · simp
    · simp
    · exact keyed
    · intro fine
      cases fine reply rfl
  · cases goesOn
    rw [Exchange.hand, if_pos sent] at rest
    cases rest
    exact ⟨.goes (.write reply) rfl rfl rfl id queue, replaced.trans (.of_log rfl rfl rfl id id id)⟩
  · cases ended
    cases unsent
    refine ended_moves (done_ended ?_ ?_ ?_ rest) rfl rfl rfl (send_stays reply) (fun _ => clear)
      replaced
    · intro unset
      simp [Exchange.outputEvent, Exchange.setSend, Exchange.hand] at unset
      rw [unset] at setup
      cases setup
    · simp
    · exact keyed

/-! ### Receiving -/

private theorem rcv_stays (reply : Reply) : ∀ target, ahead (.rcv reply) = some target →
    phase (.execute target) = .exchanging := by
  intro target after_it
  cases reply <;> cases after_it <;> rfl

/-- Executing refuses, or asks for the bytes up to the length field. -/
private theorem execute_asks_or_refuses (state : ReceiveTlv.TcpReceiveTlvState)
    (fsm : ReceiveTlv.TcpStateMachine) :
    ((state.execute fsm).code = .success ∧ (state.execute fsm).read.isSome = true) ∨
    ((state.execute fsm).code ≠ .success ∧ (state.execute fsm).code ≠ .stateMachineFinished ∧
      (state.execute fsm).read = none) := by
  unfold ReceiveTlv.TcpReceiveTlvState.execute
  split
  · exact .inr ⟨by simp, by simp, rfl⟩
  · split
    · exact .inr ⟨by simp, by simp, rfl⟩
    · split
      · exact .inr ⟨by simp, by simp, rfl⟩
      · exact .inl ⟨rfl, rfl⟩

theorem executeRcv_moves {before after : Exchange Rsa Endpoint} {reply : Reply}
    (ready : Ready before (.execute (.rcv reply)))
    (made : before.executeState surroundings answers (.rcv reply) = some after) :
    Moved surroundings.crypto (.execute (.rcv reply)) before after ∧
      Held surroundings.crypto (milestones (.rcv reply)) before after := by
  obtain ⟨code, middle, executed, ends⟩ := executeState_cases made
  have held : Held surroundings.crypto (milestones (.rcv reply)) before
      (before.left reply ((before.rcvs reply).state.execute before.receiving)) :=
    .of_log rfl rfl rfl id id id
  cases executed
  rcases execute_asks_or_refuses (before.rcvs reply).state before.receiving with
    ⟨fine, asks⟩ | ⟨error, unfinished, unread⟩
  · rcases ends with ⟨_, rfl⟩ | ⟨differs, _⟩
    · rw [if_pos asks]
      exact ⟨.goes (.readLength reply) rfl rfl rfl id ready, held.trans (.of_log rfl rfl rfl id id id)⟩
    · exact absurd fine differs
  · rcases ends with ⟨fine, _⟩ | ⟨_, refused⟩
    · exact absurd fine error
    · rw [unread] at refused
      obtain ⟨moved, kept⟩ := refused_moves (.rcv reply) ⟨error, unfinished⟩ _ refused
      exact ⟨moved.of_same rfl rfl, held.trans kept⟩

/-- The first read is followed by the second, or the state is done with an error. -/
private theorem readLength_cases {state : ReceiveTlv.TcpReceiveTlvState} {fsm : ReceiveTlv.TcpStateMachine}
    {ec2 : ErrorCode} {bytes : Nat} {outcome : ReceiveTlv.Outcome}
    (made : state.handleReadLength fsm ec2 bytes = some outcome) :
    outcome.code ≠ .stateMachineFinished := by
  unfold ReceiveTlv.TcpReceiveTlvState.handleReadLength at made
  split at made
  · cases made
    simp
  · split at made
    · cases made
      simp
    · obtain ⟨_, _, rest⟩ := Option.bind_eq_some_iff.mp made
      obtain ⟨_, _, rest⟩ := Option.bind_eq_some_iff.mp rest
      split at rest
      · cases rest
        simp
      · obtain ⟨_, _, same⟩ := Option.map_eq_some_iff.mp rest
        cases same
        simp

private theorem readData_cases {state : ReceiveTlv.TcpReceiveTlvState} {fsm : ReceiveTlv.TcpStateMachine}
    {ec2 : ErrorCode} {bytes : Nat} {outcome : ReceiveTlv.Outcome}
    (made : state.handleReadData fsm ec2 bytes = some outcome) :
    (outcome.code = .success → outcome.state.outputEvent.setup = true) ∧
      outcome.code ≠ .stateMachineFinished := by
  unfold ReceiveTlv.TcpReceiveTlvState.handleReadData at made
  split at made
  · cases made
    simp
  · split at made
    · cases made
      simp
    · obtain ⟨_, _, same⟩ := Option.map_eq_some_iff.mp made
      cases same
      simp

theorem handleReadLength_moves {before after : Exchange Rsa Endpoint} {reply : Reply}
    {ec2 : ErrorCode} {bytes : List UInt8} (keyed : Keyed before.client)
    (ready : Ready before (.readLength reply))
    (made : before.handleReadLength surroundings answers reply ec2 bytes = some after) :
    Moved surroundings.crypto (.readLength reply) before after ∧
      Held surroundings.crypto (milestones (.rcv reply)) before after := by
  obtain ⟨outcome, read, rest⟩ := Option.bind_eq_some_iff.mp made
  dsimp only at rest
  split at rest
  · cases rest
    exact ⟨.goes (.readData reply) rfl rfl rfl id ready, .of_log rfl rfl rfl id id id⟩
  · rename_i error
    refine ended_moves (done_ended ?_ ?_ ?_ rest) rfl rfl rfl (rcv_stays reply) (fun _ => ready)
      (.of_log rfl rfl rfl id id id)
    · exact fun _ => error
    · exact readLength_cases read
    · exact keyed

theorem handleReadData_moves {before after : Exchange Rsa Endpoint} {reply : Reply}
    {ec2 : ErrorCode} {bytes : List UInt8} (keyed : Keyed before.client)
    (ready : Ready before (.readData reply))
    (made : before.handleReadData surroundings answers reply ec2 bytes = some after) :
    Moved surroundings.crypto (.readData reply) before after ∧
      Held surroundings.crypto (milestones (.rcv reply)) before after := by
  obtain ⟨outcome, read, rest⟩ := Option.bind_eq_some_iff.mp made
  obtain ⟨setup, unfinished⟩ := readData_cases read
  refine ended_moves (done_ended ?_ ?_ ?_ rest) rfl rfl rfl (rcv_stays reply) (fun _ => ready)
    (.of_log rfl rfl rfl id id id)
  · intro unset fine
    simp [Exchange.outputEvent, Exchange.setRcv, Exchange.left] at unset
    rw [setup fine] at unset
    cases unset
  · exact unfinished
  · exact keyed

/-! ### Connecting -/

/-- The connect state goes on by itself. -/
structure GoesOn (before after : Exchange Rsa Endpoint) : Prop extends Alike before after where
  timers : after.timers = before.timers
  current : after.currentStateId = before.currentStateId
  ready : ∀ operation, Ready before operation → Ready after operation
  pending : ∃ connects, after.pending = before.pending ++ connects ∧
    ∀ operation ∈ connects, phase operation = .connecting

/-- What the connect state leaves alone before it reports. -/
structure Unmoved (before middle : Exchange Rsa Endpoint) : Prop extends Alike before middle where
  current : middle.currentStateId = before.currentStateId
  pending : middle.pending = before.pending
  clear : Clear before.fsm → Clear middle.fsm

/-- The connect state calls `done`, with an event that is set up unless it is an error. -/
def CallsDone (surroundings : Surroundings Rsa Endpoint) (answers : Answers Rsa)
    (before after : Exchange Rsa Endpoint) : Prop :=
  ∃ ec1 ec2 middle, middle.performConnect surroundings answers (.done ec1 ec2) = some after ∧
    Unmoved before middle ∧ ((middle.outputEvent .connectCA).setup = false → ec1 ≠ .success) ∧
    ec1 ≠ .stateMachineFinished

private theorem resetSocket_caches (fsm : SendQueue.TcpStateMachine) (paths : Bool) (new : Nat) :
    (Clear fsm → Clear (fsm.resetSocket paths new)) ∧
      (fsm.qwiobuff = [] → (fsm.resetSocket paths new).qwiobuff = []) := by
  unfold SendQueue.TcpStateMachine.resetSocket
  dsimp only
  split
  · exact ⟨id, id⟩
  · split
    · exact ⟨fun _ => ⟨rfl, rfl⟩, fun _ => rfl⟩
    · split <;> exact ⟨fun _ => ⟨rfl, rfl⟩, fun _ => rfl⟩

private theorem retried_goesOn {before after : Exchange Rsa Endpoint} (state : TcpConnectState Endpoint)
    (made : before.afterConnect surroundings answers (ConnectAttemptsProofs.retried state) = some after) :
    GoesOn before after := by
  obtain ⟨clear, drained⟩ := resetSocket_caches before.fsm true before.sockets
  unfold ConnectAttemptsProofs.retried at made
  split at made <;>
  · cases made
    refine ⟨⟨rfl, rfl, rfl, rfl⟩, rfl, rfl, fun _ ready => ready.carried rfl clear drained,
      [.connect _], rfl, ?_⟩
    intro operation member
    rw [List.mem_singleton.mp member]
    rfl

private theorem quiet_goesOn {before after : Exchange Rsa Endpoint} (state : TcpConnectState Endpoint)
    (made : before.afterConnect surroundings answers (state, []) = some after) :
    GoesOn before after := by
  cases made
  exact ⟨⟨rfl, rfl, rfl, rfl⟩, rfl, rfl, fun _ ready => ready.carried rfl id id, [],
    (List.append_nil _).symm, fun _ member => by cases member⟩

/-- The calls of a handler are performed one after the other. -/
private theorem performed_inv {before after : Exchange Rsa Endpoint} {command : Command Endpoint}
    {commands : List (Command Endpoint)}
    (made : (command :: commands).foldlM (Exchange.performConnect surroundings answers) before =
      some after) :
    ∃ middle, before.performConnect surroundings answers command = some middle ∧
      commands.foldlM (Exchange.performConnect surroundings answers) middle = some after := by
  rw [List.foldlM_cons] at made
  exact Option.bind_eq_some_iff.mp made

private theorem succeeded_callsDone {before after : Exchange Rsa Endpoint}
    (state : TcpConnectState Endpoint) (ec : ErrorCode)
    (made : before.afterConnect surroundings answers (ConnectAttemptsProofs.succeeded state ec) =
      some after) : CallsDone surroundings answers before after := by
  unfold ConnectAttemptsProofs.succeeded TcpConnectState.cancelCheckTimer at made
  dsimp only at made
  obtain ⟨connected, ran, rest⟩ := performed_inv made
  cases ran
  cases held : state.checkTimer with
  | none =>
    rw [held] at rest
    obtain ⟨reported, ran, rest⟩ := performed_inv rest
    cases rest
    exact ⟨.success, ec, _, ran, ⟨⟨rfl, rfl, rfl, rfl⟩, rfl, rfl, id⟩, fun unset => (by cases unset), by simp⟩
  | some timer =>
    rw [held] at rest
    obtain ⟨cancelled, ran, rest⟩ := performed_inv rest
    cases ran
    obtain ⟨reported, ran, rest⟩ := performed_inv rest
    cases rest
    exact ⟨.success, ec, _, ran, ⟨⟨rfl, rfl, rfl, rfl⟩, rfl, rfl, id⟩, fun unset => (by cases unset), by simp⟩

/-- A connect that completes makes the state go on, or call `done`. -/
theorem connects_cases {before after : Exchange Rsa Endpoint} {tls : Bool} {ec2 : ErrorCode}
    {index : Nat}
    (made : before.afterConnect surroundings answers (before.connect.handleConnect tls ec2 index) =
      some after) :
    GoesOn before after ∨
      (¬ (index ≠ before.connect.index ∨ (ec2.isError = true ∧
        (before.connect.triedCount < before.connect.totalCount ∨ ec2 = .timedOut))) ∧
        CallsDone surroundings answers before after) := by
  rcases ConnectAttemptsProofs.handleConnect_cases before.connect tls ec2 index with
    ⟨_, same⟩ | ⟨_, _, _, same⟩ | ⟨rfl, error, none, other, same⟩ | ⟨_, _, _, same⟩ |
    ⟨rfl, fine, _, same⟩
  · rw [same] at made
    exact .inl (quiet_goesOn _ made)
  · rw [same] at made
    exact .inl (retried_goesOn _ made)
  · rw [same] at made
    refine .inr ⟨?_, ?_⟩
    · rintro (differs | ⟨_, more | timedOut⟩)
      · exact differs rfl
      · exact Nat.not_lt.mpr none more
      · exact other timedOut
    · obtain ⟨reported, ran, rest⟩ := performed_inv made
      cases rest
      exact ⟨.connectFail, ec2, before, ran, ⟨⟨rfl, rfl, rfl, rfl⟩, rfl, rfl, id⟩, fun _ => by simp, by simp⟩
  · rw [same] at made
    cases made
  · rw [same] at made
    refine .inr ⟨?_, succeeded_callsDone _ _ made⟩
    rintro (differs | ⟨error, _⟩)
    · exact differs rfl
    · rw [fine] at error
      cases error

/-- So does a tick. -/
theorem ticks_cases {before after : Exchange Rsa Endpoint} {tls : Bool} {outcome : Outcome Endpoint}
    (ticked : before.connect.handlePeriodTimeout tls = some outcome)
    (made : before.afterConnect surroundings answers outcome = some after) :
    GoesOn before after ∨
      (¬ before.connect.currentSpentTime + kTcpCheckConnectPeriod < before.connect.totalTimeout ∧
        CallsDone surroundings answers before after) := by
  rcases ConnectAttemptsProofs.handlePeriodTimeout_cases before.connect tls with
    ⟨elapsed, same⟩ | ⟨_, _, same⟩ | ⟨_, _, same⟩
  · rw [same] at ticked
    obtain ⟨timer, _, rfl⟩ := Option.map_eq_some_iff.mp ticked
    refine .inr ⟨Int.not_lt.mpr elapsed, ?_⟩
    obtain ⟨cancelled, ran, rest⟩ := performed_inv made
    cases ran
    obtain ⟨reported, ran, rest⟩ := performed_inv rest
    cases rest
    exact ⟨.timeout, .none, _, ran, ⟨⟨rfl, rfl, rfl, rfl⟩, rfl, rfl, id⟩, fun _ => by simp, by simp⟩
  · rw [same] at ticked
    cases ticked
    exact .inl (retried_goesOn _ made)
  · rw [same] at ticked
    cases ticked
    exact .inl (quiet_goesOn _ made)

/-- Connecting has begun. -/
structure Starts (before after : Exchange Rsa Endpoint) : Prop extends Alike before after where
  watched : after.timers ≠ []
  current : after.currentStateId = before.currentStateId
  fsm : after.fsm = before.fsm
  pending : ∃ index, after.pending = before.pending ++ [.connect index]

theorem executeConnect_cases {before after : Exchange Rsa Endpoint}
    (made : before.executeState surroundings answers .connectCA = some after) :
    Starts before after ∨ (Moved surroundings.crypto (.execute .connectCA) before after ∧
      Held surroundings.crypto [] before after) := by
  obtain ⟨code, middle, executed, ends⟩ := executeState_cases made
  dsimp only at executed
  unfold Exchange.executeConnect at executed
  by_cases ready : ConnectAttemptsProofs.Ready before.connect
  · rw [ConnectAttemptsProofs.execute_starts ready] at executed
    obtain ⟨last, ran, same⟩ := Option.map_eq_some_iff.mp executed
    cases same
    cases ran
    rcases ends with ⟨_, rfl⟩ | ⟨differs, _⟩
    · exact .inl ⟨⟨rfl, rfl, rfl, rfl⟩, List.cons_ne_nil _ _, rfl, rfl, _, rfl⟩
    · exact absurd rfl differs
  · rw [ConnectAttemptsProofs.execute_refuses ready] at executed
    cases executed
    rcases ends with ⟨differs, _⟩ | ⟨_, refused⟩
    · cases differs
    · obtain ⟨moved, held⟩ := refused_moves .connectCA ⟨by simp, by simp⟩ [] refused
      refine .inr ⟨moved.of_same rfl rfl, Held.trans ?_ held⟩
      exact .of_log rfl rfl rfl id id id

/-- What an operation beside the requests and connects comes to when it completes. -/
theorem complete_cases {operation : Operation} {completion : Completion Endpoint}
    {before after : Exchange Rsa Endpoint} (sound : Sound surroundings.crypto before)
    (ready : Ready before operation) (begun : phase operation ≠ .asking)
    (other : phase operation ≠ .connecting)
    (made : before.complete surroundings answers operation completion = some after) :
    (operation = .execute .connectCA ∧ Starts before after) ∨
      (Moved surroundings.crypto operation before after ∧
        Held surroundings.crypto (reached operation) before after) := by
  cases operation with
  | requestCore host service timeout => exact absurd rfl begun
  | execute state =>
    cases completion with
    | executed =>
      have made : before.executeState surroundings answers state = some after := made
      cases state with
      | resolve => exact .inr (executeResolve_moves sound.keyed ready made)
      | connectCA => exact (executeConnect_cases made).imp (⟨rfl, ·⟩) id
      | send reply => exact .inr (executeSend_moves (sound.packed reply) ready made)
      | rcv reply => exact .inr (executeRcv_moves ready made)
    | _ => cases made
  | resolve =>
    cases completion with
    | resolved ec2 endpoints => exact .inr (resolveHandled_moves sound.keyed ready made)
    | _ => cases made
  | connect index => exact absurd rfl other
  | write reply =>
    cases completion with
    | written ec2 bytes => exact .inr (handleWrite_moves sound.keyed ready made)
    | _ => cases made
  | readLength reply =>
    cases completion with
    | received ec2 bytes => exact .inr (handleReadLength_moves sound.keyed ready made)
    | _ => cases made
  | readData reply =>
    cases completion with
    | received ec2 bytes => exact .inr (handleReadData_moves sound.keyed ready made)
    | _ => cases made

/-- The report of the connect state: the client asks for the first reply, or tells the
handler. -/
theorem callsDone_reports {before after : Exchange Rsa Endpoint}
    (sound : Sound surroundings.crypto before) (made : CallsDone surroundings answers before after) :
    after.Reported ∧ Sound surroundings.crypto after ∧ after.requests = before.requests ∧
      (before.currentStateId ≠ -1 → after.currentStateId ≠ -1) ∧
      ((after.pending = before.pending ++ [.execute (.send .pubKey)] ∧
        after.notified = before.notified ∧ (Clear before.fsm → Clear after.fsm)) ∨
      (after.pending = before.pending ∧ after.notified = before.notified + 1)) := by
  obtain ⟨ec1, ec2, middle, ran, unmoved, failed, unfinished⟩ := made
  have noted : (middle.note (.connectDone ec1 ec2)).log = before.log ++ [.connectDone ec1 ec2] := by
    rw [Exchange.note, unmoved.log]
  have untold : (middle.note (.connectDone ec1 ec2)).notified = before.notified := by
    rw [Exchange.notified, noted, List.countP_append]
    rfl
  have sound' : Sound surroundings.crypto (middle.note (.connectDone ec1 ec2)) := by
    refine ⟨(unmoved.sound sound).packed, (unmoved.sound sound).keyed, ?_⟩
    rw [noted]
    refine verified_append sound.verified ?_
    rintro ⟨entry, member, _, _, _, _, _, rfl⟩
    cases List.mem_singleton.mp member
  have reported : (middle.note (.connectDone ec1 ec2)).Reported := by
    rw [Exchange.Reported, noted, List.any_append]
    simp [Entry.reports]
  have ran : (middle.note (.connectDone ec1 ec2)).done surroundings answers .connectCA ec1 ec2 =
      some after := ran
  obtain ⟨ended, kept⟩ := done_ended (by exact failed) unfinished sound'.keyed ran
  refine ⟨kept.reported.mpr reported, sound'.kept kept.toHeld passed_nil,
    kept.requests.trans unmoved.requests, fun begun => kept.started (unmoved.current ▸ begun), ?_⟩
  cases ended with
  | posts target after_it fine pending told passes =>
    cases after_it
    refine .inl ⟨?_, told.trans untold, fun clear => ?_⟩
    · rw [pending, Exchange.note, unmoved.pending]
    · rw [kept.fsm]
      exact unmoved.clear clear
  | tells pending told =>
    refine .inr ⟨?_, ?_⟩
    · rw [pending, Exchange.note, unmoved.pending]
    · rw [told, untold]

end BeeSdk.CaClientSteps
