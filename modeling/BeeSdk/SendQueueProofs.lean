import BeeSdk.SendQueue

/-! The send queue in every run. `cwiobuff_` holds what the write in flight was
handed; a call without bytes hands it over again, and a completion that comes
after the caches were cleared takes its bytes off whatever they hold by then. -/
namespace BeeSdk.SendQueueProofs
open Runs StateMachine SendQueue

/-- Both caches hold valid buffers, and the queue no empty ones. -/
structure Caches (fsm : TcpStateMachine) : Prop where
  valid : fsm.cwiobuff.Valid
  queue : ∀ buf ∈ fsm.qwiobuff, buf.Valid ∧ buf.empty = false

/-! ### What the caches do -/

@[simp] theorem socket_of_caches (fsm : TcpStateMachine) (cwiobuff : IOBuffer)
    (qwiobuff : List IOBuffer) :
    { fsm with cwiobuff, qwiobuff }.socket = fsm.socket := rfl

/-- Bytes are queued behind those in flight. -/
theorem cache_queues {fsm : TcpStateMachine} {data : IOBuffer} (some : data.empty = false)
    (busy : fsm.cwiobuff.empty = false) :
    fsm.cacheSendData data = (false, { fsm with qwiobuff := fsm.qwiobuff ++ [data] }) := by
  rw [TcpStateMachine.cacheSendData, if_pos ⟨by simp [some], by simp [busy]⟩]
  rfl

/-- With nothing in flight, bytes are handed over at once. -/
theorem cache_hands {fsm : TcpStateMachine} {data : IOBuffer} (some : data.empty = false)
    (idle : fsm.cwiobuff.empty = true) :
    fsm.cacheSendData data = (true, { fsm with cwiobuff := data }) := by
  rw [TcpStateMachine.cacheSendData, if_neg (by simp [idle])]
  simp [some, IOBuffer.clone_eq]

/-- A call without bytes hands over what is in flight. -/
theorem cache_hands_again {fsm : TcpStateMachine} (data : IOBuffer) (none : data.empty = true)
    (busy : fsm.cwiobuff.empty = false) : fsm.cacheSendData data = (true, fsm) := by
  rw [TcpStateMachine.cacheSendData, if_neg (by simp [none])]
  simp [none, busy]

theorem cache_nothing {fsm : TcpStateMachine} {data : IOBuffer} (none : data.empty = true)
    (idle : fsm.cwiobuff.empty = true) (drained : fsm.qwiobuff = []) :
    fsm.cacheSendData data = (false, fsm) := by
  rw [TcpStateMachine.cacheSendData, if_neg (by simp [none])]
  simp [none, idle, drained]

/-- Whatever is called, the caches stay in order, what is handed over is not empty,
and what is in flight stays in `cwiobuff_`. -/
theorem cache_keeps {fsm : TcpStateMachine} {data : IOBuffer} (caches : Caches fsm)
    (valid : data.Valid) :
    Caches (fsm.cacheSendData data).2 ∧ (fsm.cacheSendData data).2.socket = fsm.socket ∧
      ((fsm.cacheSendData data).1 = true → (fsm.cacheSendData data).2.cwiobuff.empty = false) ∧
      (fsm.cwiobuff.empty = false → (fsm.cacheSendData data).2.cwiobuff = fsm.cwiobuff) := by
  cases none : data.empty with
  | false =>
    cases idle : fsm.cwiobuff.empty with
    | false =>
      rw [cache_queues none idle]
      refine ⟨⟨caches.valid, ?_⟩, rfl, by simp, fun _ => rfl⟩
      intro buf member
      rcases List.mem_append.mp member with before | last
      · exact caches.queue buf before
      · rw [List.mem_singleton.mp last]
        exact ⟨valid, none⟩
    | true =>
      rw [cache_hands none idle]
      exact ⟨⟨valid, caches.queue⟩, rfl, fun _ => none, by simp⟩
  | true =>
    cases idle : fsm.cwiobuff.empty with
    | false =>
      rw [cache_hands_again data none idle]
      exact ⟨caches, rfl, fun _ => idle, fun _ => rfl⟩
    | true =>
      cases queue : fsm.qwiobuff with
      | nil =>
        rw [cache_nothing none idle queue]
        exact ⟨caches, rfl, by simp, by simp⟩
      | cons front rest =>
        have popped : fsm.cacheSendData data =
            (true, { fsm with cwiobuff := front, qwiobuff := rest }) := by
          rw [TcpStateMachine.cacheSendData, if_neg (by simp [none])]
          simp [none, idle, queue]
        have held := caches.queue
        rw [queue] at held
        rw [popped]
        refine ⟨⟨(held front (by simp)).1, fun buf member => held buf (by simp [member])⟩, rfl,
          fun _ => (held front (by simp)).2, by simp⟩

/-- All bytes in flight have been sent: the next buffer in the queue takes their
place, and there is more to send exactly when there is one. -/
theorem check_sent {fsm : TcpStateMachine} (caches : Caches fsm)
    (busy : fsm.cwiobuff.empty = false) :
    fsm.checkSendBuffer fsm.cwiobuff.size =
      match fsm.qwiobuff with
      | [] => (false, { fsm with cwiobuff := fsm.cwiobuff.consume fsm.cwiobuff.size })
      | front :: rest => (true, { fsm with cwiobuff := front, qwiobuff := rest }) := by
  have some : fsm.cwiobuff.size > 0 := by
    apply Nat.pos_of_ne_zero
    intro zero
    rw [caches.valid.empty_iff.mpr zero] at busy
    cases busy
  have sent := caches.valid.consume_all
  rw [TcpStateMachine.checkSendBuffer, if_pos some]
  cases queue : fsm.qwiobuff with
  | nil => simp [sent]
  | cons front rest =>
    have full := (caches.queue front (by rw [queue]; simp)).2
    simp [sent, full]

/-- After a completion the caches are in order and the socket is the same. -/
theorem check_keeps {fsm : TcpStateMachine} (caches : Caches fsm)
    (busy : fsm.cwiobuff.empty = false) :
    Caches (fsm.checkSendBuffer fsm.cwiobuff.size).2 ∧
      (fsm.checkSendBuffer fsm.cwiobuff.size).2.socket = fsm.socket ∧
      (fsm.checkSendBuffer fsm.cwiobuff.size).2.cwiobuff.empty =
        ! (fsm.checkSendBuffer fsm.cwiobuff.size).1 := by
  rw [check_sent caches busy]
  have held := caches.queue
  cases queue : fsm.qwiobuff with
  | nil =>
    dsimp only
    refine ⟨⟨caches.valid.consume (Nat.le_refl _), ?_⟩, socket_of_caches fsm _ _, ?_⟩
    · intro buf member
      cases member
    · rw [caches.valid.consume_all]
      rfl
  | cons front rest =>
    rw [queue] at held
    dsimp only
    exact ⟨⟨(held front (by simp)).1, fun buf member => held buf (by simp [member])⟩, rfl,
      (held front (by simp)).2⟩

theorem reset_keeps {fsm : TcpStateMachine} (caches : Caches fsm) : Caches fsm.resetCaches :=
  ⟨caches.valid.clear, fun _ member => by cases member⟩

/-! ### In call order -/

/-- What is in flight is in `cwiobuff_`, the rest of the calls in the queue. -/
structure InOrder (sending : Sending) : Prop where
  caches : Caches sending.fsm
  socket : sending.fsm.socket ≠ none
  order : sending.handed ++ sending.fsm.queued = sending.called
  flight : (sending.writes = [] ∧ sending.fsm.cwiobuff.empty = true ∧ sending.fsm.qwiobuff = []) ∨
    ∃ write, sending.writes = [write] ∧ sending.fsm.cwiobuff.empty = false ∧
      write.data.length = sending.fsm.cwiobuff.size

theorem InOrder.sends {sending : Sending} (ordered : InOrder sending) : SendsInOrder sending := by
  obtain ⟨_, _, order, ⟨rests, idle, drained⟩ | ⟨write, flies, _⟩⟩ := ordered
  · exact ⟨by simp [rests], order, fun _ => ⟨idle, drained⟩⟩
  · refine ⟨by simp [flies], order, fun rests => ?_⟩
    rw [rests] at flies
    cases flies

/-- `async_write` when it hands something over. -/
theorem write_hands {sending : Sending} {data : IOBuffer} {fsm : TcpStateMachine}
    (hands : sending.fsm.cacheSendData data = (true, fsm)) (open_ : fsm.socket = some socket) :
    sending.write data = some { sending with
      fsm, called := sending.called ++ data.data
      writes := sending.writes ++ [⟨socket, fsm.cwiobuff.data, sending.epoch⟩]
      handed := sending.handed ++ fsm.cwiobuff.data } := by
  simp [Sending.write, TcpStateMachine.asyncWrite, hands, open_, Sending.hand]

theorem write_caches {sending : Sending} {data : IOBuffer} {fsm : TcpStateMachine}
    (caches : sending.fsm.cacheSendData data = (false, fsm)) :
    sending.write data = some { sending with fsm, called := sending.called ++ data.data } := by
  simp [Sending.write, TcpStateMachine.asyncWrite, caches, Sending.hand]

/-- A successful completion when nothing is left to send. -/
theorem complete_done {sending : Sending} {write : Write} {fsm : TcpStateMachine}
    (flies : sending.writes[index]? = some write)
    (drained : sending.fsm.checkSendBuffer write.data.length = (false, fsm)) :
    ∃ state, sending.complete index .none = some (some ⟨.success, .none⟩, { sending with
      fsm, state, epoch := sending.epoch + 1, writes := sending.writes.eraseIdx index }) := by
  simp only [Sending.complete, flies, Option.bind_some, TcpSendState.handleWrite, drained]
  exact ⟨_, rfl⟩

/-- A successful completion when there is more: it is handed over at once. -/
theorem complete_more {sending : Sending} {write : Write} {fsm : TcpStateMachine}
    (flies : sending.writes[index]? = some write)
    (more : sending.fsm.checkSendBuffer write.data.length = (true, fsm))
    (busy : fsm.cwiobuff.empty = false) (opened : fsm.socket = some socket) :
    ∃ state, sending.complete index .none = some (none, { sending with
      fsm, state, epoch := sending.epoch + 1
      writes := sending.writes.eraseIdx index ++ [⟨socket, fsm.cwiobuff.data, sending.epoch + 1⟩]
      handed := sending.handed ++ fsm.cwiobuff.data }) := by
  have hands := cache_hands_again dummyBuffer rfl busy
  simp only [Sending.complete, flies, Option.bind_some, TcpSendState.handleWrite, more,
    TcpStateMachine.asyncWrite, hands, opened]
  exact ⟨_, rfl⟩

/-- A call keeps the order when it brings bytes or nothing is in flight. -/
theorem write_in_order {sending next : Sending} {data : IOBuffer} (ordered : InOrder sending)
    (valid : data.Valid) (fills : data.empty = true → sending.writes = [])
    (taken : sending.write data = some next) : InOrder next := by
  obtain ⟨caches, socket, order, flight⟩ := ordered
  obtain ⟨number, opened⟩ := Option.ne_none_iff_exists'.mp socket
  have kept := (cache_keeps caches valid).1
  rcases flight with ⟨rests, idle, drained⟩ | ⟨write, flies, busy, length⟩
  · cases none : data.empty with
    | true =>
      rw [write_caches (cache_nothing none idle drained)] at taken
      cases taken
      refine ⟨caches, socket, ?_, .inl ⟨rests, idle, drained⟩⟩
      rw [valid.data_eq_nil none, List.append_nil]
      exact order
    | false =>
      rw [cache_hands none idle] at kept
      rw [write_hands (cache_hands none idle) opened] at taken
      cases taken
      refine ⟨kept, socket, ?_, .inr
        ⟨⟨number, data.data, sending.epoch⟩, by simp [rests], none, valid.data_length⟩⟩
      simp only [TcpStateMachine.queued, drained] at order ⊢
      rw [← order]
      simp
  · cases none : data.empty with
    | true =>
      rw [fills none] at flies
      cases flies
    | false =>
      rw [cache_queues none busy] at kept
      rw [write_caches (cache_queues none busy)] at taken
      cases taken
      refine ⟨kept, socket, ?_, .inr ⟨write, flies, busy, length⟩⟩
      rw [← order]
      simp [TcpStateMachine.queued]

/-- The completion of the write in flight keeps the order. -/
theorem complete_in_order {sending next : Sending} (ordered : InOrder sending)
    (taken : sending.complete index .none = some (reply, next)) : InOrder next := by
  obtain ⟨caches, socket, order, flight⟩ := ordered
  obtain ⟨number, opened⟩ := Option.ne_none_iff_exists'.mp socket
  rcases flight with ⟨rests, _⟩ | ⟨write, flies, busy, length⟩
  · simp [Sending.complete, rests] at taken
  · cases index with
    | succ index => simp [Sending.complete, flies] at taken
    | zero =>
      have first : sending.writes[0]? = some write := by rw [flies]; rfl
      have kept := check_keeps caches busy
      have sent := check_sent caches busy
      rw [← length] at kept sent
      cases queue : sending.fsm.qwiobuff with
      | nil =>
        rw [queue] at sent
        rw [sent] at kept
        obtain ⟨state, completed⟩ := complete_done first sent
        rw [completed] at taken
        cases taken
        refine ⟨kept.1, socket, ?_, .inl ⟨by simp [flies], kept.2.2, rfl⟩⟩
        simp only [TcpStateMachine.queued, queue] at order
        exact order
      | cons front rest =>
        rw [queue] at sent
        rw [sent] at kept
        obtain ⟨state, completed⟩ := complete_more first sent kept.2.2 (kept.2.1.trans opened)
        rw [completed] at taken
        cases taken
        refine ⟨kept.1, socket, ?_, .inr ⟨⟨number, front.data, sending.epoch + 1⟩, by simp [flies],
          kept.2.2, kept.1.valid.data_length⟩⟩
        simp only [TcpStateMachine.queued, queue, List.flatMap_cons] at order
        simp only [TcpStateMachine.queued, List.append_assoc]
        exact order

/-- What is called and completed keeps the order, unless a call without bytes comes
while a write is in flight. -/
theorem step_in_order {sending next : Sending} {event : Event} (ordered : InOrder sending)
    (only : OnlySends event) (fills : NotEmptyInFlight sending event)
    (taken : step sending event = some (reply, next)) : InOrder next := by
  cases event with
  | asyncWrite data valid =>
    simp only [step, Option.map_eq_some_iff] at taken
    obtain ⟨after, written, same⟩ := taken
    cases same
    exact write_in_order ordered valid fills written
  | handleWrite index ec2 =>
    cases only
    exact complete_in_order ordered taken
  | connected => cases only
  | stop => cases only
  | setupSocket tls paths => cases only
  | resetSocket paths => cases only

/-- A call without bytes while a write is in flight starts a second one. -/
theorem empty_starts_second {sending next : Sending} {event : Event} (ordered : InOrder sending)
    (only : OnlySends event) (taken : step sending event = some (reply, next))
    (sends : SendsInOrder next) : NotEmptyInFlight sending event := by
  cases event with
  | asyncWrite data valid =>
    intro none
    obtain ⟨caches, socket, order, ⟨rests, _⟩ | ⟨write, flies, busy, length⟩⟩ := ordered
    · exact rests
    · obtain ⟨number, opened⟩ := Option.ne_none_iff_exists'.mp socket
      simp only [step, write_hands (cache_hands_again data none busy) opened] at taken
      cases taken
      have two := sends.one
      simp [flies] at two
  | handleWrite index ec2 => trivial
  | connected => cases only
  | stop => cases only
  | setupSocket tls paths => cases only
  | resetSocket paths => cases only

theorem opened_in_order (tls : Bool) : InOrder (opened tls) := by
  refine ⟨⟨IOBuffer.valid_nothing, fun _ member => by cases member⟩, ?_, rfl, .inl ⟨rfl, rfl, rfl⟩⟩
  cases tls <;> simp [opened, TcpStateMachine.socket]

/-- Along every run of calls and successful completions the queue sends in call
order, exactly when no call without bytes comes while a write is in flight. -/
theorem sends_in_order_iff (tls : Bool) (only : ∀ event ∈ events, OnlySends event)
    (ran : run step (opened tls) events = some (replies, final)) :
    (∀ made, made <+: events → ∀ replies reached,
      run step (opened tls) made = some (replies, reached) → SendsInOrder reached) ↔
      AllSteps step NotEmptyInFlight (opened tls) events := by
  apply all_reached_iff InOrder SendsInOrder OnlySends
  · intro sending event reply next ordered only fills taken
    exact step_in_order ordered only fills taken
  · intro sending event reply next ordered only taken sends
    exact empty_starts_second ordered only taken sends
  · exact fun sending ordered => ordered.sends
  · exact only
  · exact opened_in_order tls
  · exact ran

def callOf (bytes : List UInt8) (short : bytes.length < 2 ^ 64) : Event :=
  .asyncWrite (.ofBytes bytes) (IOBuffer.ofBytes_valid short)

/-- Two calls, the second while the first is in flight, and their completions. -/
def twoCalls : List Event :=
  [callOf [97, 98] (by decide), callOf [99] (by decide), .handleWrite 0 .none, .handleWrite 0 .none]

theorem two_calls_in_order : (∀ event ∈ twoCalls, OnlySends event) ∧
    ∀ made, made <+: twoCalls → ∀ replies reached,
      run step (opened false) made = some (replies, reached) → SendsInOrder reached := by
  have only : ∀ event ∈ twoCalls, OnlySends event := by simp [twoCalls, callOf, OnlySends]
  exact ⟨only, (sends_in_order_iff false only rfl).mpr (by decide)⟩

/-- A call without bytes while a write is in flight. -/
def callWithoutBytes : List Event :=
  [callOf [97, 98] (by decide), callOf [] (by decide)]

/-- The call without bytes hands the same bytes to the socket again. -/
theorem empty_call_hands_again : (∀ event ∈ callWithoutBytes, OnlySends event) ∧
    ∃ replies reached, run step (opened false) callWithoutBytes = some (replies, reached) ∧
      reached.handed = [97, 98, 97, 98] ∧ ¬ SendsInOrder reached := by
  refine ⟨by simp [callWithoutBytes, callOf, OnlySends], _, _, rfl, rfl, ?_⟩
  intro sends
  exact absurd sends.one (by decide)

/-! ### Each completion its own bytes -/

/-- The caches are in order, and a write handed over since bytes were last taken
off them is in `cwiobuff_` and went to the machine's socket. -/
structure Timely (sending : Sending) : Prop where
  caches : Caches sending.fsm
  current : ∀ write ∈ sending.writes, write.epoch ≤ sending.epoch ∧
    (write.epoch = sending.epoch → sending.fsm.cwiobuff.empty = false ∧
      write.data.length = sending.fsm.cwiobuff.size ∧ some write.socket = sending.fsm.socket)

/-- Once bytes have been taken off the caches no write in flight is current. -/
theorem timely_after {sending next : Sending} (timely : Timely sending) (caches : Caches next.fsm)
    (writes : next.writes = sending.writes) (later : next.epoch = sending.epoch + 1) :
    Timely next := by
  refine ⟨caches, fun write member => ?_⟩
  rw [writes] at member
  have before := (timely.current write member).1
  exact ⟨by omega, fun same => by omega⟩

/-- What is handed over is current, what was in flight stays as it was. -/
theorem hand_timely {sending : Sending} {fsm : TcpStateMachine} (called : List UInt8)
    (hands : Option (Nat × List UInt8))
    (timely : Timely sending) (caches : Caches fsm) (same : fsm.socket = sending.fsm.socket)
    (kept : sending.fsm.cwiobuff.empty = false → fsm.cwiobuff = sending.fsm.cwiobuff)
    (handed : ∀ socket data, hands = some (socket, data) →
      fsm.cwiobuff.empty = false ∧ data = fsm.cwiobuff.data ∧ some socket = fsm.socket) :
    Timely ({ sending with fsm, called }.hand hands) := by
  have before : ∀ write ∈ sending.writes, write.epoch ≤ sending.epoch ∧
      (write.epoch = sending.epoch → fsm.cwiobuff.empty = false ∧
        write.data.length = fsm.cwiobuff.size ∧ some write.socket = fsm.socket) := by
    intro write member
    obtain ⟨early, current⟩ := timely.current write member
    refine ⟨early, fun now => ?_⟩
    obtain ⟨busy, length, socket⟩ := current now
    rw [kept busy, same]
    exact ⟨busy, length, socket⟩
  cases hands with
  | none => exact ⟨caches, before⟩
  | some made =>
    obtain ⟨socket, data⟩ := made
    obtain ⟨busy, rfl, opened⟩ := handed socket data rfl
    refine ⟨caches, fun write member => ?_⟩
    rcases List.mem_append.mp member with old | new
    · exact before write old
    · rw [List.mem_singleton.mp new]
      exact ⟨Nat.le_refl _, fun _ => ⟨busy, caches.valid.data_length, opened⟩⟩

/-- `async_write` hands over what is in `cwiobuff_` by then. -/
theorem asyncWrite_handed {fsm after : TcpStateMachine} {data : IOBuffer} (caches : Caches fsm)
    (valid : data.Valid) (taken : fsm.asyncWrite data = some (hands, after)) :
    Caches after ∧ after.socket = fsm.socket ∧
      (fsm.cwiobuff.empty = false → after.cwiobuff = fsm.cwiobuff) ∧
      ∀ socket bytes, hands = some (socket, bytes) →
        after.cwiobuff.empty = false ∧ bytes = after.cwiobuff.data ∧ some socket = after.socket := by
  obtain ⟨kept, socket, filled, stays⟩ := cache_keeps caches valid
  cases made : fsm.cacheSendData data with
  | mk writes middle =>
    rw [made] at kept socket filled stays
    cases writes with
    | false =>
      simp only [TcpStateMachine.asyncWrite, made] at taken
      cases taken
      exact ⟨kept, socket, stays, fun _ _ none => by cases none⟩
    | true =>
      simp only [TcpStateMachine.asyncWrite, made, if_true, Option.map_eq_some_iff] at taken
      obtain ⟨number, opened, same⟩ := taken
      cases same
      refine ⟨kept, socket, stays, fun _ _ some => ?_⟩
      cases some
      exact ⟨filled rfl, rfl, opened.symm⟩

theorem timely_erased {sending : Sending} (timely : Timely sending) (index : Nat) :
    Timely { sending with writes := sending.writes.eraseIdx index } :=
  ⟨timely.caches, fun write member => timely.current write (List.mem_of_mem_eraseIdx member)⟩

/-- A completion in time takes off exactly what is in `cwiobuff_`. -/
theorem complete_timely {sending next : Sending} (timely : Timely sending)
    (inTime : ∀ write ∈ sending.writes[index]?, write.epoch = sending.epoch)
    (taken : sending.complete index .none = some (reply, next)) : Timely next := by
  cases flies : sending.writes[index]? with
  | none => simp [Sending.complete, flies] at taken
  | some write =>
    obtain ⟨busy, length, opened⟩ :=
      (timely.current write (List.mem_of_getElem? flies)).2 (inTime write flies)
    obtain ⟨kept, socket, left⟩ := check_keeps timely.caches busy
    rw [← length] at kept socket left
    cases checked : sending.fsm.checkSendBuffer write.data.length with
    | mk more fsm =>
      rw [checked] at kept socket left
      have erased : Timely { sending with
          fsm, epoch := sending.epoch + 1, writes := sending.writes.eraseIdx index } :=
        timely_after (timely_erased timely index) kept rfl rfl
      cases more with
      | false =>
        obtain ⟨state, completed⟩ := complete_done flies checked
        rw [completed] at taken
        cases taken
        exact ⟨kept, erased.current⟩
      | true =>
        obtain ⟨state, completed⟩ := complete_more flies checked left (socket.trans opened.symm)
        rw [completed] at taken
        cases taken
        have handed := hand_timely sending.called (some (write.socket, fsm.cwiobuff.data))
          erased kept rfl (fun _ => rfl) (by
            intro number data same
            cases same
            exact ⟨left, rfl, opened.trans socket.symm⟩)
        exact ⟨handed.caches, handed.current⟩

/-- Whatever happens, a write stays in time until bytes are taken off the caches,
as long as the completions come in time. -/
theorem step_timely {sending next : Sending} {event : Event} (timely : Timely sending)
    (inTime : CompletesInTime sending event) (taken : step sending event = some (reply, next)) :
    Timely next := by
  cases event with
  | asyncWrite data valid =>
    simp only [step, Sending.write, Option.map_map, Option.map_eq_some_iff] at taken
    obtain ⟨⟨hands, fsm⟩, written, same⟩ := taken
    cases same
    obtain ⟨caches, socket, stays, handed⟩ := asyncWrite_handed timely.caches valid written
    exact hand_timely _ hands timely caches socket stays handed
  | handleWrite index ec2 =>
    by_cases failed : ec2.isError
    · simp only [step, Sending.complete, TcpSendState.handleWrite, failed, if_true,
        Option.bind_eq_some_iff] at taken
      obtain ⟨write, flies, same⟩ := taken
      cases same
      exact timely_erased timely index
    · have none : ec2 = .none := by simpa [ErrorCode.isError] using failed
      subst none
      exact complete_timely timely (inTime rfl) taken
  | connected =>
    cases taken
    exact ⟨⟨timely.caches.valid, timely.caches.queue⟩, timely.current⟩
  | stop =>
    simp only [step, TcpStateMachine.stop, Option.map_eq_some_iff] at taken
    obtain ⟨fsm, stopped, same⟩ := taken
    cases same
    by_cases connected : sending.fsm.connected = true
    · simp only [connected, not_true_eq_false, if_false, Option.map_eq_some_iff] at stopped
      obtain ⟨_, _, same⟩ := stopped
      have cleared := reset_keeps timely.caches
      refine timely_after timely ?_ rfl (by simp [connected])
      subst same
      exact ⟨by split <;> exact cleared.valid, by split <;> exact cleared.queue⟩
    · simp only [connected] at stopped
      cases stopped
      simp only [connected]
      exact ⟨timely.caches, timely.current⟩
  | setupSocket tls paths =>
    cases taken
    by_cases ios : sending.fsm.ios = true
    · refine timely_after timely ?_ rfl (by simp [ios])
      have cleared := reset_keeps timely.caches
      simp only [TcpStateMachine.setupSocket, ios]
      cases tls <;> cases paths <;> exact ⟨cleared.valid, cleared.queue⟩
    · simp only [TcpStateMachine.setupSocket, ios]
      exact ⟨timely.caches, timely.current⟩
  | resetSocket paths =>
    cases taken
    by_cases ios : sending.fsm.ios = true
    · refine timely_after timely ?_ rfl (by simp [ios])
      have cleared := reset_keeps timely.caches
      simp only [TcpStateMachine.resetSocket, ios]
      cases sending.fsm.resetCaches.isTls <;> cases paths <;> exact ⟨cleared.valid, cleared.queue⟩
    · simp only [TcpStateMachine.resetSocket, ios]
      exact ⟨timely.caches, timely.current⟩

/-- A write in time takes off its own bytes. -/
theorem in_time_consumes_own {sending : Sending} {event : Event} (timely : Timely sending)
    (inTime : CompletesInTime sending event) : ConsumesOwn sending event := by
  cases event with
  | handleWrite index ec2 =>
    intro none write flies
    obtain ⟨_, length, opened⟩ :=
      (timely.current write (List.mem_of_getElem? flies)).2 (inTime none write flies)
    exact ⟨Nat.le_of_eq length, fun other => absurd opened other⟩
  | _ => trivial

/-- In every run whose successful completions are all of writes handed over since
bytes were last taken off the caches, no completion takes off more than `cwiobuff_`
holds or anything meant for another socket. -/
theorem consumes_own (inTime : AllSteps step CompletesInTime {} events) :
    AllSteps step ConsumesOwn {} events := by
  have start : Timely {} :=
    ⟨⟨IOBuffer.valid_nothing, fun _ member => by cases member⟩, fun _ member => by cases member⟩
  refine inTime.imp Timely (fun _ => True) ?_ ?_ (fun _ _ => trivial) start
  · intro sending event reply next timely _ inTime taken
    exact step_timely timely inTime taken
  · intro sending event timely _ inTime
    exact in_time_consumes_own timely inTime

/-- A write completes before the socket is replaced. -/
def completesFirst : List Event :=
  [.setupSocket false true, callOf [97, 98] (by decide), .handleWrite 0 .none, .resetSocket true]

theorem completes_first_consumes_own : AllSteps step ConsumesOwn {} completesFirst :=
  consumes_own (by decide)

/-- A write is in flight when the socket is replaced, and completes when the next
one has been handed to the new socket. -/
def lateCompletion : List Event :=
  [.setupSocket false true, callOf [97, 98, 99] (by decide), .resetSocket true,
    callOf [100] (by decide), .handleWrite 0 .none]

/-- The completion takes off three bytes where one lies, handed to another socket. -/
theorem late_completion_consumes_other :
    (run step {} lateCompletion).isSome ∧ ¬ AllSteps step ConsumesOwn {} lateCompletion := by
  decide

end BeeSdk.SendQueueProofs
