import BeeSdk.CaClientSteps

/-! Every request ends once, and no script is given that is not verified, in every run
in which the connect state does not report again. The stage the client is in carries
the proof: beside requests and connects it waits for one operation, or it only
connects, or it has told the handler. -/
namespace BeeSdk.CaClientProofs
open CaReplies CaClient CaClientDone CaClientSteps StateMachine TcpConnect

variable {Rsa Endpoint : Type} {surroundings : Surroundings Rsa Endpoint} {answers : Answers Rsa}

/-! ### The stages -/

/-- An operation beside the requests and connects. -/
def Proceeds (operation : Operation) : Prop :=
  phase operation = .resolving ∨ phase operation = .exchanging

instance (operation : Operation) : Decidable (Proceeds operation) :=
  inferInstanceAs (Decidable (_ ∨ _))

/-- What is waited for beside requests and connects. -/
def others (exchange : Exchange Rsa Endpoint) : List Operation :=
  exchange.pending.filter (Proceeds ·)

def Unconnected (exchange : Exchange Rsa Endpoint) : Prop :=
  ∀ operation ∈ exchange.pending, phase operation ≠ .connecting

/-- Where a client is on its way, with the number of requests it has begun and not
answered. -/
inductive Stage (crypto : Crypto Rsa) (exchange : Exchange Rsa Endpoint) : Nat → Prop where
  | unstarted (fresh : exchange.currentStateId = -1) (none : others exchange = [])
      (apart : Unconnected exchange) (idle : exchange.timers = []) (unreported : ¬ exchange.Reported)
      (fine : exchange.resolve.outputEvent.ec1 = .success) : Stage crypto exchange 0
  | resolving (operation : Operation) (started : exchange.currentStateId ≠ -1)
      (early : phase operation = .resolving) (only : others exchange = [operation])
      (apart : Unconnected exchange) (idle : exchange.timers = []) (unreported : ¬ exchange.Reported)
      (ready : Ready exchange operation) : Stage crypto exchange 1
  | connecting (started : exchange.currentStateId ≠ -1) (none : others exchange = [])
      (watched : exchange.timers ≠ []) (unreported : ¬ exchange.Reported)
      (clear : Clear exchange.fsm) : Stage crypto exchange 1
  | exchanging (operation : Operation) (started : exchange.currentStateId ≠ -1)
      (late : phase operation = .exchanging) (only : others exchange = [operation])
      (reported : exchange.Reported) (ready : Ready exchange operation)
      (passed : Passed crypto (reached operation) exchange.log) : Stage crypto exchange 1
  | ended (started : exchange.currentStateId ≠ -1) (none : others exchange = [])
      (settled : exchange.Reported ∨ Unconnected exchange ∧ exchange.timers = []) :
      Stage crypto exchange 0

/-- The client is at some stage, its requests are accounted for, and it is as it has
to be. -/
structure Once (crypto : Crypto Rsa) (exchange : Exchange Rsa Endpoint) (busy : Nat) : Prop where
  sound : Sound crypto exchange
  counted : exchange.notified + exchange.waiting + busy = exchange.requests
  stage : Stage crypto exchange busy

theorem Once.endsOnce {crypto : Crypto Rsa} {exchange : Exchange Rsa Endpoint}
    (once : Once crypto exchange busy) : exchange.EndsOnce := by
  obtain ⟨_, counted, stage⟩ := once
  refine ⟨by omega, fun nothing idle => ?_⟩
  rw [Exchange.waiting, nothing, List.countP_nil] at counted
  cases stage with
  | unstarted => exact counted
  | resolving operation started early only apart idle unreported ready =>
    rw [others, nothing] at only
    cases only
  | connecting started none watched unreported clear => exact absurd idle watched
  | exchanging operation started late only reported ready passed =>
    rw [others, nothing] at only
    cases only
  | ended => exact counted

/-! ### What is waited for -/

theorem asks_iff (operation : Operation) : operation.asks = true ↔ phase operation = .asking := by
  cases operation with
  | requestCore host service timeout => exact ⟨fun _ => rfl, fun _ => rfl⟩
  | execute state =>
    cases state <;> exact ⟨fun asks => (by cases asks), fun asking => by cases asking⟩
  | _ => exact ⟨fun asks => (by cases asks), fun asking => by cases asking⟩

theorem proceeds_not_asks {operation : Operation} (proceeds : Proceeds operation) :
    operation.asks = false := by
  rw [← Bool.not_eq_true, asks_iff]
  rintro asking
  rcases proceeds with same | same <;> rw [asking] at same <;> cases same

theorem others_behind {before after : Exchange Rsa Endpoint} {more : List Operation}
    (pending : after.pending = before.pending ++ more) :
    others after = others before ++ more.filter (Proceeds ·) := by
  rw [others, pending, List.filter_append, others]

theorem others_same {before after : Exchange Rsa Endpoint} (pending : after.pending = before.pending) :
    others after = others before := by
  rw [others, pending, others]

theorem waiting_behind {before after : Exchange Rsa Endpoint} {more : List Operation}
    (pending : after.pending = before.pending ++ more) :
    after.waiting = before.waiting + more.countP Operation.asks := by
  rw [Exchange.waiting, pending, List.countP_append, Exchange.waiting]

theorem waiting_same {before after : Exchange Rsa Endpoint} (pending : after.pending = before.pending) :
    after.waiting = before.waiting := by
  rw [Exchange.waiting, pending, Exchange.waiting]

/-- An operation that follows another. -/
theorem followed {before after : Exchange Rsa Endpoint} {next : Operation}
    (pending : after.pending = before.pending ++ [next]) (none : others before = [])
    (proceeds : Proceeds next) : others after = [next] ∧ after.waiting = before.waiting := by
  refine ⟨?_, ?_⟩
  · rw [others_behind pending, none, List.filter_cons_of_pos (by simpa using proceeds)]
    rfl
  · rw [waiting_behind pending, List.countP_singleton, proceeds_not_asks proceeds]
    rfl

/-- The client without the operation that completes. -/
def without (exchange : Exchange Rsa Endpoint) (position : Nat) : Exchange Rsa Endpoint :=
  { exchange with pending := exchange.pending.eraseIdx position }

private theorem erased_split {Item : Type} {items : List Item} {item : Item} {position : Nat}
    (held : items[position]? = some item) :
    ∃ front behind, items = front ++ item :: behind ∧ items.eraseIdx position = front ++ behind := by
  obtain ⟨within, same⟩ := List.getElem?_eq_some_iff.mp held
  refine ⟨items.take position, items.drop (position + 1), ?_, List.eraseIdx_eq_take_drop_succ ..⟩
  rw [← same, List.getElem_cons_drop, List.take_append_drop]

section Without

variable {exchange : Exchange Rsa Endpoint} {operation : Operation} {position : Nat}
  (held : exchange.pending[position]? = some operation)
include held

theorem without_waiting :
    (without exchange position).waiting + (if operation.asks then 1 else 0) = exchange.waiting := by
  obtain ⟨front, behind, whole, left⟩ := erased_split held
  rw [Exchange.waiting, Exchange.waiting, without, left, whole, List.countP_append,
    List.countP_append, List.countP_cons]
  omega

theorem without_others (not : ¬ Proceeds operation) :
    others (without exchange position) = others exchange := by
  obtain ⟨front, behind, whole, left⟩ := erased_split held
  rw [others, others, without, left, whole, List.filter_append, List.filter_append,
    List.filter_cons_of_neg (by simpa using not)]

/-- An operation that proceeds is the one that was waited for. -/
theorem without_only (proceeds : Proceeds operation) (only : others exchange = [waited]) :
    operation = waited ∧ others (without exchange position) = [] := by
  obtain ⟨front, behind, whole, left⟩ := erased_split held
  rw [others, whole, List.filter_append, List.filter_cons_of_pos (by simpa using proceeds)] at only
  rw [others, without, left, List.filter_append]
  obtain ⟨nothing, rest⟩ | ⟨_, nothing, rest⟩ := List.append_eq_cons_iff.mp only
  · obtain ⟨same, behind⟩ := List.cons.inj rest
    exact ⟨same, by rw [nothing, behind]; rfl⟩
  · exact absurd rest (by simp)

theorem others_ne_nil (proceeds : Proceeds operation) : others exchange ≠ [] := by
  intro none
  rw [others, List.filter_eq_nil_iff] at none
  exact none operation (List.mem_of_getElem? held) (by simpa using proceeds)

end Without

theorem without_apart {exchange : Exchange Rsa Endpoint} (apart : Unconnected exchange)
    (position : Nat) : Unconnected (without exchange position) :=
  fun operation left => apart operation (List.mem_of_mem_eraseIdx left)

theorem apart_behind {before after : Exchange Rsa Endpoint} {next : Operation}
    (apart : Unconnected before) (pending : after.pending = before.pending ++ [next])
    (other : phase next ≠ .connecting) : Unconnected after := by
  intro operation member
  rw [pending] at member
  rcases List.mem_append.mp member with earlier | last
  · exact apart operation earlier
  · rw [List.mem_singleton.mp last]
    exact other

/-- What a change has to keep for the stage to stay. -/
structure Stays (before after : Exchange Rsa Endpoint) : Prop where
  current : after.currentStateId = before.currentStateId
  others : others after = others before
  apart : Unconnected before → Unconnected after
  timers : after.timers = before.timers
  reported : after.Reported ↔ before.Reported
  grows : before.log <+: after.log
  resolved : after.resolve.outputEvent = before.resolve.outputEvent
  clear : Clear before.fsm → Clear after.fsm
  drained : before.fsm.qwiobuff = [] → after.fsm.qwiobuff = []

theorem Stage.stays {crypto : Crypto Rsa} {before after : Exchange Rsa Endpoint}
    (stage : Stage crypto before busy) (stays : Stays before after) : Stage crypto after busy := by
  obtain ⟨current, others, apart, timers, reported, grows, resolved, clear, drained⟩ := stays
  cases stage with
  | unstarted fresh none unconnected idle unreported fine =>
    exact .unstarted (current.trans fresh) (others.trans none) (apart unconnected)
      (timers.trans idle) (mt reported.mp unreported) (resolved ▸ fine)
  | resolving operation started early only unconnected idle unreported ready =>
    exact .resolving operation (current ▸ started) early (others.trans only) (apart unconnected)
      (timers.trans idle) (mt reported.mp unreported) (ready.carried resolved clear drained)
  | connecting started none watched unreported ready =>
    exact .connecting (current ▸ started) (others.trans none) (timers ▸ watched)
      (mt reported.mp unreported) (clear ready)
  | exchanging operation started late only told ready passed =>
    exact .exchanging operation (current ▸ started) late (others.trans only) (reported.mpr told)
      (ready.carried resolved clear drained) (passed_earlier passed grows)
  | ended started none settled =>
    exact .ended (current ▸ started) (others.trans none)
      (settled.imp reported.mpr fun settled => ⟨apart settled.1, timers.trans settled.2⟩)

/-- The stage stays when an operation completes that is not what the client proceeds
with. -/
theorem without_stays {exchange : Exchange Rsa Endpoint} {operation : Operation} {position : Nat}
    (held : exchange.pending[position]? = some operation) (not : ¬ Proceeds operation) :
    Stays exchange (without exchange position) where
  current := rfl
  others := without_others held not
  apart := (without_apart · position)
  timers := rfl
  reported := Iff.rfl
  grows := List.prefix_refl _
  resolved := rfl
  clear := id
  drained := id

/-! ### One step -/

/-- What a client with a request in progress may come to. -/
abbrev OnceAgain (crypto : Crypto Rsa) (exchange : Exchange Rsa Endpoint) : Prop :=
  ∃ busy, Once crypto exchange busy

/-- An operation of resolving that is followed by another, or is the last. -/
theorem early_once {crypto : Crypto Rsa} {operation : Operation} {before after : Exchange Rsa Endpoint}
    (sound : Sound crypto before) (early : phase operation = .resolving)
    (started : before.currentStateId ≠ -1) (none : others before = []) (apart : Unconnected before)
    (idle : before.timers = []) (unreported : ¬ before.Reported)
    (counted : before.notified + before.waiting + 1 = before.requests)
    (moved : Moved crypto operation before after) (held : Held crypto [] before after) :
    OnceAgain crypto after := by
  have sound := sound.kept held passed_nil
  have started := held.started started
  have idle := held.timers.trans idle
  cases moved with
  | goes next stays pending untold passes ready =>
    have early := stays.trans early
    obtain ⟨only, waits⟩ := followed pending none (.inl early)
    refine ⟨1, sound, ?_, .resolving next started early only ?_ idle ?_ ready⟩
    · rw [untold, waits, held.requests]
      exact counted
    · exact apart_behind apart pending (by rw [early]; simp)
    · rw [held.reported]
      exact unreported
  | tells pending told =>
    refine ⟨0, sound, ?_, .ended started ((others_same pending).trans none) (.inr ⟨?_, idle⟩)⟩
    · rw [told, waiting_same pending, held.requests]
      omega
    · rw [Unconnected, pending]
      exact apart

/-- An operation of the exchange that is followed by another, or is the last. -/
theorem late_once {crypto : Crypto Rsa} {operation : Operation} {before after : Exchange Rsa Endpoint}
    (sound : Sound crypto before) (late : phase operation = .exchanging)
    (started : before.currentStateId ≠ -1) (none : others before = []) (reported : before.Reported)
    (counted : before.notified + before.waiting + 1 = before.requests)
    (passed : Passed crypto (reached operation) before.log)
    (moved : Moved crypto operation before after) (held : Held crypto (reached operation) before after) :
    OnceAgain crypto after := by
  have sound := sound.kept held passed
  have started := held.started started
  have reported := held.reported.mpr reported
  cases moved with
  | goes next stays pending untold passes ready =>
    have late := stays.trans late
    obtain ⟨only, waits⟩ := followed pending none (.inr late)
    refine ⟨1, sound, ?_, .exchanging next started late only reported ready (passes passed)⟩
    rw [untold, waits, held.requests]
    exact counted
  | tells pending told =>
    refine ⟨0, sound, ?_, .ended started ((others_same pending).trans none) (.inl reported)⟩
    rw [told, waiting_same pending, held.requests]
    omega

/-- Connecting has begun. -/
theorem starts_once {crypto : Crypto Rsa} {before after : Exchange Rsa Endpoint}
    (sound : Sound crypto before) (current : before.currentStateId ≠ -1) (none : others before = [])
    (unreported : ¬ before.Reported) (clear : Clear before.fsm)
    (counted : before.notified + before.waiting + 1 = before.requests)
    (starts : Starts before after) : OnceAgain crypto after := by
  obtain ⟨index, pending⟩ := starts.pending
  refine ⟨1, starts.sound sound, ?_, .connecting ?_ ?_ starts.watched ?_ ?_⟩
  · rw [notified_same starts.log, waiting_behind pending, starts.requests]
    exact counted
  · rw [starts.current]
    exact current
  · rw [others_behind pending, none]
    rfl
  · rw [starts.reported]
    exact unreported
  · rw [starts.fsm]
    exact clear

/-- The client has come as far as to connect. -/
def Begun (exchange : Exchange Rsa Endpoint) : Prop := exchange.Reported ∨ exchange.timers ≠ []

theorem not_begun {exchange : Exchange Rsa Endpoint} (unreported : ¬ exchange.Reported)
    (idle : exchange.timers = []) : ¬ Begun exchange :=
  not_or.mpr ⟨unreported, fun some => some idle⟩

theorem goesOn_once {crypto : Crypto Rsa} {before after : Exchange Rsa Endpoint}
    (once : Once crypto before busy) (begun : Begun before) (goes : GoesOn before after) :
    OnceAgain crypto after := by
  obtain ⟨sound, counted, stage⟩ := once
  obtain ⟨connects, pending, connecting⟩ := goes.pending
  have same : others after = others before := by
    rw [others_behind pending, List.filter_eq_nil_iff.mpr, List.append_nil]
    intro operation member
    simp [Proceeds, connecting operation member]
  have waits : after.waiting = before.waiting := by
    rw [waiting_behind pending, List.countP_eq_zero.mpr, Nat.add_zero]
    intro operation member asks
    rw [asks_iff, connecting operation member] at asks
    cases asks
  have counted : after.notified + after.waiting + busy = after.requests := by
    rw [notified_same goes.log, waits, goes.requests]
    exact counted
  have current := goes.current
  refine ⟨busy, goes.sound sound, counted, ?_⟩
  cases stage with
  | unstarted fresh none apart idle unreported fine => exact absurd begun (not_begun unreported idle)
  | resolving operation started early only apart idle unreported ready =>
    exact absurd begun (not_begun unreported idle)
  | connecting started none watched unreported clear =>
    exact .connecting (current ▸ started) (same.trans none) (goes.timers ▸ watched)
      (mt goes.reported.mp unreported) (goes.ready (.connect 0) clear)
  | exchanging operation started late only reported ready passed =>
    exact .exchanging operation (current ▸ started) late (same.trans only)
      (goes.reported.mpr reported) (goes.ready operation ready) (goes.log ▸ passed)
  | ended started none settled =>
    have reported : before.Reported := by
      rcases settled with reported | ⟨_, idle⟩
      · exact reported
      · exact begun.resolve_right fun some => some idle
    exact .ended (current ▸ started) (same.trans none) (.inl (goes.reported.mpr reported))

/-- The connect state reports for the first time. -/
theorem callsDone_once {before after : Exchange Rsa Endpoint}
    (once : Once surroundings.crypto before busy) (begun : Begun before)
    (unreported : ¬ before.Reported) (made : CallsDone surroundings answers before after) :
    OnceAgain surroundings.crypto after := by
  obtain ⟨sound, counted, stage⟩ := once
  obtain ⟨reported, sound, requests, keeps, follows⟩ := callsDone_reports sound made
  cases stage with
  | unstarted fresh none apart idle _ fine => exact absurd begun (not_begun unreported idle)
  | resolving operation started early only apart idle _ ready =>
    exact absurd begun (not_begun unreported idle)
  | connecting started none watched _ clear =>
    rcases follows with ⟨pending, untold, clears⟩ | ⟨pending, told⟩
    · obtain ⟨only, waits⟩ := followed pending none (.inr rfl)
      refine ⟨1, sound, ?_, .exchanging (.execute (.send .pubKey)) (keeps started) rfl only reported
        (clears clear) passed_nil⟩
      rw [untold, waits, requests]
      exact counted
    · refine ⟨0, sound, ?_, .ended (keeps started) ((others_same pending).trans none) (.inl reported)⟩
      rw [told, waiting_same pending, requests]
      omega
  | exchanging operation started late only reported ready passed => exact absurd reported unreported
  | ended started none settled =>
    rcases settled with reported | ⟨_, idle⟩
    · exact absurd reported unreported
    · exact absurd begun (not_begun unreported idle)

/-- A connect that completes is taken off what is waited for. -/
theorem connect_once {crypto : Crypto Rsa} {exchange : Exchange Rsa Endpoint} {operation : Operation}
    (once : Once crypto exchange busy) (held : exchange.pending[position]? = some operation)
    (connects : phase operation = .connecting) :
    Once crypto (without exchange position) busy ∧ Begun (without exchange position) := by
  obtain ⟨sound, counted, stage⟩ := once
  have stays := without_stays held (by simp [Proceeds, connects])
  have waits := without_waiting held
  have mute : operation.asks = false := by
    rw [← Bool.not_eq_true, asks_iff, connects]
    simp
  have member := List.mem_of_getElem? held
  rw [mute, if_neg Bool.false_ne_true, Nat.add_zero] at waits
  have counted : (without exchange position).notified + (without exchange position).waiting + busy =
      (without exchange position).requests := by
    rw [waits]
    exact counted
  refine ⟨⟨⟨sound.packed, sound.keyed, sound.verified⟩, counted, stage.stays stays⟩, ?_⟩
  cases stage with
  | unstarted fresh none apart idle unreported fine => exact absurd connects (apart operation member)
  | resolving waited started early only apart idle unreported ready =>
    exact absurd connects (apart operation member)
  | connecting started none watched unreported clear => exact .inr watched
  | exchanging waited started late only reported ready passed => exact .inl reported
  | ended started none settled =>
    rcases settled with reported | ⟨apart, _⟩
    · exact .inl reported
    · exact absurd connects (apart operation member)

/-- A request that is begun. -/
theorem request_once {crypto : Crypto Rsa} {exchange : Exchange Rsa Endpoint}
    {host service : String} {timeout : Int} (once : Once crypto exchange busy)
    (held : exchange.pending[position]? = some (.requestCore host service timeout)) :
    OnceAgain crypto ((without exchange position).requestCore host service timeout) := by
  obtain ⟨sound, counted, stage⟩ := once
  have stays := without_stays held (by simp [Proceeds, phase])
  have waits := without_waiting held
  rw [Operation.asks, if_pos rfl] at waits
  obtain ⟨requested, resolved, kept⟩ :=
    requestCore_cases crypto (without exchange position) host service timeout
  have sound : Sound crypto (without exchange position) := ⟨sound.packed, sound.keyed, sound.verified⟩
  have counted : (without exchange position).notified + ((without exchange position).waiting + 1) +
      busy = (without exchange position).requests := by
    rw [waits]
    exact counted
  cases requested with
  | starts fresh started clear pending untold =>
    cases stage with
    | unstarted _ none apart idle unreported fine =>
      obtain ⟨only, waits⟩ := followed pending (stays.others.trans none) (.inl rfl)
      refine ⟨1, sound.kept kept passed_nil, ?_, .resolving (.execute .resolve) started rfl only
        (apart_behind (without_apart apart position) pending (by simp [phase]))
        (kept.timers.trans idle) (mt kept.reported.mp unreported) ⟨resolved ▸ fine, clear⟩⟩
      rw [untold, waits, kept.requests]
      omega
    | resolving _ started => exact absurd fresh started
    | connecting started => exact absurd fresh started
    | exchanging _ started => exact absurd fresh started
    | ended started => exact absurd fresh started
  | refuses current pending told clear drained =>
    have refused : Stays (without exchange position)
        ((without exchange position).requestCore host service timeout) := by
      refine ⟨current, others_same pending, fun apart => ?_, kept.timers, kept.reported, kept.grows,
        resolved, clear, drained⟩
      rw [Unconnected, pending]
      exact apart
    refine ⟨busy, sound.kept kept passed_nil, ?_, (stage.stays stays).stays refused⟩
    rw [told, waiting_same pending, kept.requests]
    omega

/-- Any other operation that completes is followed by one, or is the last. -/
theorem other_once {exchange after : Exchange Rsa Endpoint} {operation : Operation}
    {completion : Completion Endpoint} (once : Once surroundings.crypto exchange busy)
    (held : exchange.pending[position]? = some operation) (proceeds : Proceeds operation)
    (made : (without exchange position).complete surroundings answers operation completion =
      some after) : OnceAgain surroundings.crypto after := by
  obtain ⟨sound, counted, stage⟩ := once
  have waits := without_waiting held
  rw [proceeds_not_asks proceeds, if_neg Bool.false_ne_true, Nat.add_zero] at waits
  have sound : Sound surroundings.crypto (without exchange position) :=
    ⟨sound.packed, sound.keyed, sound.verified⟩
  have counted : (without exchange position).notified + (without exchange position).waiting + busy =
      (without exchange position).requests := by
    rw [waits]
    exact counted
  have asked : phase operation ≠ .asking := by
    intro asking
    rcases proceeds with same | same <;> rw [asking] at same <;> cases same
  have other : phase operation ≠ .connecting := by
    intro connects
    rcases proceeds with same | same <;> rw [connects] at same <;> cases same
  cases stage with
  | resolving waited started early only apart idle unreported ready =>
    obtain ⟨rfl, none⟩ := without_only held proceeds only
    have apart := without_apart apart position
    rcases complete_cases sound (ready.carried rfl id id) asked other made with
      ⟨rfl, starts⟩ | ⟨moved, kept⟩
    · exact starts_once sound started none unreported ready counted starts
    · have nothing : reached operation = [] := by
        cases operation with
        | execute state => cases state with
          | resolve => rfl
          | connectCA => rfl
          | _ => cases early
        | requestCore host service timeout => rfl
        | resolve => rfl
        | connect index => rfl
        | _ => cases early
      rw [nothing] at kept
      exact early_once sound early started none apart idle unreported counted moved kept
  | exchanging waited started late only reported ready passed =>
    obtain ⟨rfl, none⟩ := without_only held proceeds only
    rcases complete_cases sound (ready.carried rfl id id) asked other made with
      ⟨rfl, _⟩ | ⟨moved, kept⟩
    · cases late
    · exact late_once sound late started none reported counted passed moved kept
  | unstarted _ none => exact absurd none (others_ne_nil held proceeds)
  | connecting _ none => exact absurd none (others_ne_nil held proceeds)
  | ended _ none => exact absurd none (others_ne_nil held proceeds)

/-- The client is asked. -/
theorem asks_once {crypto : Crypto Rsa} {exchange : Exchange Rsa Endpoint} (host service : String)
    (timeout : Int) (once : Once crypto exchange busy) :
    OnceAgain crypto (exchange.asyncRequestCore host service timeout).2 := by
  obtain ⟨sound, counted, stage⟩ := once
  unfold Exchange.asyncRequestCore
  split
  · exact ⟨busy, sound, counted, stage⟩
  · have pending : (Exchange.await { exchange with requests := exchange.requests + 1 }
        (.requestCore host service timeout)).pending =
          exchange.pending ++ [.requestCore host service timeout] := rfl
    refine ⟨busy, ⟨sound.packed, sound.keyed, sound.verified⟩, ?_, stage.stays ⟨rfl, ?_, ?_, rfl,
      Iff.rfl, List.prefix_refl _, rfl, id, id⟩⟩
    · rw [waiting_behind pending]
      simp only [List.countP_singleton, Operation.asks, if_true]
      have counted : exchange.notified + (exchange.waiting + 1) + busy = exchange.requests + 1 := by
        omega
      exact counted
    · rw [others_behind pending]
      exact List.append_nil _
    · exact fun apart => apart_behind apart pending (by simp [phase])

/-- A step keeps the client at a stage, unless it makes the connect state report again. -/
theorem step_once {exchange after : Exchange Rsa Endpoint} {event : Event Rsa Endpoint}
    (once : OnceAgain surroundings.crypto exchange) (silent : exchange.SilentAfterReport event)
    (taken : exchange.step surroundings event = some ((), after)) :
    OnceAgain surroundings.crypto after := by
  obtain ⟨busy, once⟩ := once
  cases event with
  | asks host service timeout =>
    cases taken
    exact asks_once host service timeout once
  | completes position completion answers =>
    obtain ⟨operation, held, rest⟩ := Option.bind_eq_some_iff.mp taken
    obtain ⟨last, made, same⟩ := Option.map_eq_some_iff.mp rest
    cases same
    cases reaches : phase operation with
    | asking =>
      cases operation with
      | requestCore host service timeout =>
        cases completion <;> cases made
        exact request_once once held
      | execute state => cases state <;> cases reaches
      | _ => cases reaches
    | connecting =>
      obtain ⟨once, begun⟩ := connect_once once held reaches
      cases operation with
      | connect index =>
        cases completion with
        | connected ec2 =>
          rcases connects_cases made with goes | ⟨loud, calls⟩
          · exact goesOn_once once begun goes
          · exact callsDone_once once begun (fun reported => loud (silent reported (.connect index) held)) calls
        | _ => cases made
      | execute state => cases state <;> cases reaches
      | _ => cases reaches
    | resolving => exact other_once once held (.inl reaches) made
    | exchanging => exact other_once once held (.inr reaches) made
  | ticks timer answers =>
    unfold Exchange.step at taken
    dsimp only at taken
    split at taken
    · rename_i runs
      obtain ⟨outcome, ticked, rest⟩ := Option.bind_eq_some_iff.mp taken
      obtain ⟨last, made, same⟩ := Option.map_eq_some_iff.mp rest
      cases same
      have begun : Begun exchange := .inr (List.ne_nil_of_mem runs)
      rcases ticks_cases ticked made with goes | ⟨loud, calls⟩
      · exact goesOn_once once begun goes
      · exact callsDone_once once begun (fun reported => loud (silent reported)) calls
    · cases taken

/-! ### Whole runs -/

theorem constructed_once (crypto : Crypto Rsa) (index : Int) :
    Once crypto (Exchange.constructed index : Exchange Rsa Endpoint) 0 where
  sound := by
    refine ⟨fun reply => ⟨rfl, Nat.zero_le _, fun unset => by cases unset⟩, ?_, ?_⟩
    · intro generated
      cases generated
    · intro before after ec2 lua md5 gslbKey gslbTs same
      cases before <;> cases same
  counted := rfl
  stage := .unstarted rfl rfl (fun _ member => by cases member) rfl Bool.false_ne_true rfl

private theorem copied_length (_ input : List UInt8) : input.length = input.length := rfl

/-- Functions that leave their input as it is. -/
def plainCrypto : Crypto Unit where
  readPublicKey := fun _ => some ()
  privateDecrypt := fun _ inData => some inData
  digest := fun _ => .zero
  randR := fun seedp => (seedp, 0)
  rc4 := fun _ input => input
  rc4_length := copied_length
  gzDecompress := fun zdata nzdata _ => ⟨nzdata, some (zdata.take nzdata)⟩
  gz_reads := fun _ nzdata _ => Nat.le_refl nzdata

def oneServer : Surroundings Unit Nat where
  crypto := plainCrypto
  rsaSize := fun _ => 128
  publicEncrypt := fun _ inData => some inData
  address := fun _ _ => none

def plainKey : GeneratedKey Unit where
  rsa := ()
  publicKey := List.replicate 272 65
  long := by
    rw [List.length_replicate]
    decide

def plainAnswers : Answers Unit where
  tickcount := 0
  generated := some plainKey
  handler := ⟨fun _ => false⟩

def completes (completion : Completion Nat) : Event Unit Nat := .completes 0 completion plainAnswers

/-- The request is begun, the name resolved and the connect started. -/
def connects : List (Event Unit Nat) :=
  [.asks "ca.tv.sohu.com" "80" 1000, completes .executed, completes .executed,
    completes (.resolved .none [5]), completes .executed]

def refused : List (Event Unit Nat) := connects ++ [completes (.connected (.other 111))]

def ticks (count : Nat) : List (Event Unit Nat) := List.replicate count (.ticks 0 plainAnswers)

/-- A request is sent and its answer received. -/
def answered (reply : Reply) (sent : Nat) (bytes : List UInt8) : List (Event Unit Nat) :=
  [completes .executed, completes (.written .none sent), completes .executed,
    completes (.received .none (bytes.take reply.inputEvent.lengthSize)),
    completes (.received .none (bytes.drop reply.inputEvent.lengthSize))]

/-- An answer with a length of two bytes. -/
def packed (reply : Reply) (payload : List UInt8) : List UInt8 :=
  Exchange.header (kCAHeaderLen + payload.length) reply.code ++ payload

/-- The server has the client's own key, signs it, and gives a share key and the script "L". -/
def delivered : List (Event Unit Nat) :=
  connects ++ completes (.connected .none) :: answered .pubKey 279 (packed .pubKey plainKey.publicKey) ++
    answered .signature 61 (packed .signature
      ([252, 252] ++ List.replicate 32 48 ++ List.replicate 20 0)) ++
    answered .shareKey 15 (packed .shareKey (List.replicate 56 1)) ++
    answered .lua 7 [0, 0, 0, 14, 0x24, 0x53, 0x48, 0x43, 0x41, 0, 0, 0, 1, 76]

private theorem delivered_lua :
    (Runs.run (Exchange.step oneServer) (Exchange.constructed 0) delivered).map
      (fun result => result.2.client.lua) = some [76] := by
  decide +kernel

private theorem refused_notified :
    (Runs.run (Exchange.step oneServer) (Exchange.constructed 0) (refused ++ ticks 5)).map
      (fun result => (result.2.notified, result.2.waiting, result.2.requests)) = some (2, 0, 1) := by
  decide +kernel

end BeeSdk.CaClientProofs
