import BeeSdk.LwsEffects

/-! The service with libwebsockets around it. An entry leaves the table only where
libwebsockets calls for a session that is closing, and only a service asked with a
connection it knows asks for such a call: whether the table outlives its connections, and
whether a session that is closing is waited for. -/
namespace BeeSdk.LuaLws
open Runs

/-- The connections that libwebsockets has not destroyed, `writeable_set_`, and those it has
been asked to call for as writable. -/
structure Pool where
  lws : Lws
  alive : List Wsi := []
  writeableSet : List Wsi := []
  requested : List Wsi := []

inductive PoolRequest where
  | does (request : Request)
  /-- `check_writeable`: it passes over what it does not find or what is closed. -/
  | checkWriteable
  deriving DecidableEq

namespace Lws

/-- What `on_writable` gives to `lws_write`, if it gets there. -/
def front (lws : Lws) (wsi : Wsi) : Option Text :=
  (lws.wsiTable.lookup wsi).bind fun obj =>
    if (lws.flags obj.session).closing then none else obj.sendQueuqe.head?

/-- The calls of libwebsockets for a connection, and whether it is to be called again. -/
def touched (lws : Lws) : Request → List Wsi
  | .calls wsi .clientWriteable _ _ => if (lws.front wsi).isSome then [wsi] else []
  | _ => []

/-- What `lws_write` takes whole is followed by `lws_callback_on_writable`. -/
def asksAgain (lws : Lws) : Request → List Wsi
  | .calls wsi .clientWriteable _ n =>
    if ∃ data ∈ lws.front wsi, ¬ (n < 0 ∨ n < data.length) then [wsi] else []
  | _ => []

end Lws

/-- A new connection is none of those alive, and libwebsockets calls for those only. -/
def Pool.Allows (pool : Pool) : Request → Prop
  | .connect _ _ _ _ wsi => ∀ made ∈ wsi, made ∉ pool.alive
  | .calls wsi _ _ _ => wsi ∈ pool.alive
  | _ => True

instance (pool : Pool) : ∀ request, Decidable (pool.Allows request)
  | .connect _ _ _ _ wsi => inferInstanceAs (Decidable (∀ made ∈ wsi, made ∉ pool.alive))
  | .calls wsi .. => inferInstanceAs (Decidable (wsi ∈ pool.alive))
  | .open' .. => isTrue trivial
  | .write .. => isTrue trivial
  | .close .. => isTrue trivial
  | .handle => isTrue trivial
  | .timeout .. => isTrue trivial
  | .returns => isTrue trivial
  | .setsClosed => isTrue trivial

/-- `WSI_DESTROY` is the last that is heard of a connection. -/
def aliveAfter (pool : Pool) : Request → List Wsi
  | .connect handle url timeout callback wsi =>
    pool.alive ++ (pool.lws.notified (.connect handle url timeout callback wsi)).toList
  | .calls wsi .wsiDestroy _ _ => pool.alive.filter (· ≠ wsi)
  | _ => pool.alive

/-- A call for a connection as writable is one asked for. -/
def stillRequested (pool : Pool) : Request → List Wsi
  | .calls wsi .clientWriteable _ _ | .calls wsi .wsiDestroy _ _ => pool.requested.filter (· ≠ wsi)
  | _ => pool.requested

/-- One step, with the connections for which `lws_write` or `lws_callback_on_writable` is
called. -/
def Pool.step (parse : Text → Bool) (pool : Pool) : PoolRequest → Option ((Reply × List Wsi) × Pool)
  | .does request =>
    if ¬ pool.Allows request then none
    else (pool.lws.step parse request).map fun (reply, lws) =>
      ((reply, pool.lws.touched request), {
        lws
        alive := aliveAfter pool request
        writeableSet := pool.writeableSet ∪ (pool.lws.notified request).toList
        requested := stillRequested pool request ++ pool.lws.asksAgain request })
  | .checkWriteable =>
    if pool.lws.clearing ≠ none then none
    else
      let asked := pool.writeableSet.filter pool.lws.unclosed
      some ((.nothing, asked), { pool with
        writeableSet := [], requested := pool.requested ++ asked })

/-- No entry is left of a connection that was destroyed, and for each whose session is
closing libwebsockets is going to call. -/
structure Lifetimes (pool : Pool) : Prop where
  gone : ∀ wsi handle, pool.lws.owner wsi = some handle → wsi ∈ pool.alive
  pending : ∀ wsi handle, pool.lws.owner wsi = some handle →
    (pool.lws.flags handle).closing = true → wsi ∈ pool.writeableSet ∨ wsi ∈ pool.requested

/-- What a step owes to the connections. -/
structure KeepsLifetimes (before : Pool) (request : PoolRequest) (reply : Reply × List Wsi)
    (after : Pool) : Prop where
  called : ∀ wsi ∈ reply.2, wsi ∈ before.alive
  lifetimes : Lifetimes after

/-- A connection is destroyed when it has no entry, or a session that is closing. A live
session is closed when its connection is notified, or has been. -/
def Careful (pool : Pool) : PoolRequest → Prop
  | .does (.calls wsi .wsiDestroy _ _) =>
    ∀ handle ∈ pool.lws.owner wsi, (pool.lws.flags handle).closing = true
  | .does (.close handle) =>
    (pool.lws.flags handle).closing = false → (pool.lws.flags handle).closed = false →
      ∀ wsi ∈ pool.lws.wsiTable.keys, pool.lws.owner wsi = some handle →
        wsi ∈ pool.writeableSet ∨ wsi ∈ pool.requested ∨
          pool.lws.notified (.close handle) = some wsi
  | _ => True

instance (pool : Pool) : ∀ request, Decidable (Careful pool request)
  | .does (.calls wsi reason data n) => by
    cases reason
    case wsiDestroy =>
      exact inferInstanceAs
        (Decidable (∀ handle ∈ pool.lws.owner wsi, (pool.lws.flags handle).closing = true))
    all_goals exact isTrue trivial
  | .does (.close handle) => inferInstanceAs (Decidable (_ → _ → ∀ wsi ∈ pool.lws.wsiTable.keys, _ → _))
  | .does (.connect ..) => isTrue trivial
  | .does (.open' ..) => isTrue trivial
  | .does (.write ..) => isTrue trivial
  | .does .handle => isTrue trivial
  | .does (.timeout ..) => isTrue trivial
  | .does .returns => isTrue trivial
  | .does .setsClosed => isTrue trivial
  | .checkWriteable => isTrue trivial

/-! ### Steps -/

/-- A call for a connection whose session is closing takes its entry away. -/
theorem calls_erases {parse : Text → Bool} {lws next : Lws} {wsi : Wsi} {reason : LwsCallbackReasons}
    {data : Text} {n : Int} {reply : Reply} {handle : Nat}
    (ran : lws.step parse (.calls wsi reason data n) = some (reply, next))
    (own : lws.owner wsi = some handle) (closing : (lws.flags handle).closing = true) :
    next.owner wsi = none := by
  simp only [Lws.step, Option.ite_none_left_eq_some, Option.some.injEq, Prod.mk.injEq] at ran
  obtain ⟨_, _, rfl⟩ := ran
  obtain ⟨obj, entry, rfl⟩ := Option.map_eq_some_iff.mp own
  unfold Lws.innerCallback
  rw [entry]
  unfold Lws.flags at closing
  cases held : lws.sessions[obj.session]? with
  | none =>
    rw [held] at closing
    cases closing
  | some session =>
    rw [held] at closing
    have spent : session.closing = true := closing
    dsimp only
    rw [held]
    dsimp only
    rw [if_pos spent]
    unfold Lws.owner
    dsimp only
    rw [AList.lookup_erase]
    rfl

/-- A destroyed connection alone is not alive any more. -/
theorem alive_within {pool : Pool} {request : Request} {wsi : Wsi} (alive : wsi ∈ pool.alive)
    (spared : ∀ data n, request ≠ .calls wsi .wsiDestroy data n) : wsi ∈ aliveAfter pool request := by
  unfold aliveAfter
  split
  · exact List.mem_append_left _ alive
  · rename_i other data n
    refine List.mem_filter.mpr ⟨alive, decide_eq_true fun same => ?_⟩
    subst same
    exact spared data n rfl
  · exact alive

/-- What was asked for comes with a call for this connection only. -/
theorem requested_within {pool : Pool} {request : Request} {wsi : Wsi}
    (requested : wsi ∈ pool.requested)
    (uncalled : ∀ reason data n, request ≠ .calls wsi reason data n) :
    wsi ∈ stillRequested pool request := by
  unfold stillRequested
  split
  · rename_i other data n
    refine List.mem_filter.mpr ⟨requested, decide_eq_true fun same => ?_⟩
    subst same
    exact uncalled _ data n rfl
  · rename_i other data n
    refine List.mem_filter.mpr ⟨requested, decide_eq_true fun same => ?_⟩
    subst same
    exact uncalled _ data n rfl
  · exact requested

theorem touched_called {lws : Lws} {request : Request} {wsi : Wsi}
    (touched : wsi ∈ lws.touched request) : ∃ reason data n, request = .calls wsi reason data n := by
  unfold Lws.touched at touched
  split at touched
  · rename_i other data n
    split at touched
    · rw [List.mem_singleton] at touched
      subst touched
      exact ⟨_, _, _, rfl⟩
    · cases touched
  · cases touched

/-- An owner after the step was it before, or came with the connection just made. Whichever
session is closing was so before, or is being closed. -/
structure Stays (lws : Lws) (request : Request) (next : Lws) : Prop where
  owner : ∀ wsi handle, next.owner wsi = some handle → lws.owner wsi = some handle ∨
    lws.notified request = some wsi ∧
      ∃ asker url timeout callback given, request = .connect asker url timeout callback given
  closing : ∀ handle, (next.flags handle).closing = true → (lws.flags handle).closing = true ∨
    request = .close handle ∧ (lws.flags handle).closing = false ∧
      (lws.flags handle).closed = false

theorem step_stays {parse : Text → Bool} {lws next : Lws} {request : Request} {reply : Reply}
    (ran : lws.step parse request = some (reply, next)) : Stays lws request next := by
  have sameClosing : ∀ {handle : Nat} {flags : Flags}, next.flags = Function.update lws.flags handle flags →
      flags.closing = (lws.flags handle).closing →
      ∀ other, (next.flags other).closing = true → (lws.flags other).closing = true := by
    intro handle flags changed same other closing
    rw [changed] at closing
    by_cases here : other = handle
    · subst here
      rw [Function.update_self, same] at closing
      exact closing
    · rwa [Function.update_of_ne here] at closing
  cases step_effect ran with
  | still owner flags _ =>
    exact ⟨fun wsi handle own => .inl (owner ▸ own), fun handle closing => .inl (flags ▸ closing)⟩
  | ends handle owner _ flags _ =>
    exact ⟨fun wsi other own => .inl (owner ▸ own),
      fun other closing => .inl (sameClosing flags rfl other closing)⟩
  | shuts handle _ owner flags _ =>
    exact ⟨fun wsi other own => .inl (owner ▸ own),
      fun other closing => .inl (sameClosing flags rfl other closing)⟩
  | connects handle wsi asks _ owner flags _ made =>
    refine ⟨fun wsi' other own => ?_, fun other closing => .inl (sameClosing flags rfl other closing)⟩
    cases wsi with
    | none =>
      have same : next.owner = lws.owner := owner
      exact .inl (same ▸ own)
    | some wsi =>
      have gained : next.owner = Function.update lws.owner wsi (some handle) := owner
      rw [gained] at own
      by_cases here : wsi' = wsi
      · subst here
        rw [Function.update_self] at own
        cases own
        exact .inr ⟨made, _, asks⟩
      · exact .inl ((Function.update_of_ne here ..).symm.trans own)
  | closes handle asks owner live flags _ =>
    refine ⟨fun wsi' other own => .inl (owner ▸ own), fun other closing => ?_⟩
    by_cases here : other = handle
    · subst here
      exact .inr ⟨asks, live⟩
    · rw [flags, Function.update_of_ne here] at closing
      exact .inl closing
  | erases wsi handle _ _ _ owner flags _ _ =>
    refine ⟨fun wsi' other own => ?_, fun other closing => ?_⟩
    · rw [owner] at own
      by_cases here : wsi' = wsi
      · rw [here, Function.update_self] at own
        cases own
      · exact .inl ((Function.update_of_ne here ..).symm.trans own)
    · rw [flags] at closing
      by_cases here : other = handle
      · rw [here, Function.update_self] at closing
        cases closing
      · rw [Function.update_of_ne here] at closing
        exact .inl closing

/-- What a step of the service comes to around it. -/
theorem does_step {parse : Text → Bool} {pool next : Pool} {request : Request}
    {reply : Reply × List Wsi} (ran : pool.step parse (.does request) = some (reply, next)) :
    pool.Allows request ∧ pool.lws.step parse request = some (reply.1, next.lws) ∧
      reply.2 = pool.lws.touched request ∧ next.alive = aliveAfter pool request ∧
      next.writeableSet = pool.writeableSet ∪ (pool.lws.notified request).toList ∧
      next.requested = stillRequested pool request ++ pool.lws.asksAgain request := by
  simp only [Pool.step, Option.ite_none_left_eq_some, Classical.not_not, Option.map_eq_some_iff,
    Prod.mk.injEq] at ran
  obtain ⟨allows, ⟨own, lws⟩, taken, rfl, rfl⟩ := ran
  exact ⟨allows, taken, rfl, rfl, rfl, rfl⟩

theorem check_step {parse : Text → Bool} {pool next : Pool} {reply : Reply × List Wsi}
    (ran : pool.step parse .checkWriteable = some (reply, next)) :
    reply.2 = pool.writeableSet.filter pool.lws.unclosed ∧ next.lws = pool.lws ∧
      next.alive = pool.alive ∧ next.requested = pool.requested ++ reply.2 := by
  simp only [Pool.step, Option.ite_none_left_eq_some, Option.some.injEq, Prod.mk.injEq] at ran
  obtain ⟨_, rfl, rfl⟩ := ran
  exact ⟨rfl, rfl, rfl, rfl⟩

/-- A careful step keeps the lifetimes. -/
theorem careful_step {parse : Text → Bool} {pool next : Pool} {request : PoolRequest}
    {reply : Reply × List Wsi} (linked : Linked pool.lws) (kept : Lifetimes pool)
    (careful : Careful pool request) (ran : pool.step parse request = some (reply, next)) :
    KeepsLifetimes pool request reply next := by
  cases request with
  | does request =>
    obtain ⟨allows, taken, touched, alive, writeableSet, requested⟩ := does_step ran
    have stays := step_stays taken
    refine ⟨fun wsi member => ?_, fun wsi handle own => ?_, fun wsi handle own closing => ?_⟩
    · obtain ⟨reason, data, n, rfl⟩ := touched_called (touched ▸ member)
      exact allows
    · rw [alive]
      rcases stays.owner wsi handle own with old | ⟨made, connects⟩
      · refine alive_within (kept.gone wsi handle old) ?_
        rintro data n rfl
        have erased := calls_erases taken old (careful handle old)
        rw [erased] at own
        cases own
      · obtain ⟨asker, url, timeout, callback, given, rfl⟩ := connects
        have gained : wsi ∈ (pool.lws.notified (.connect asker url timeout callback given)).toList :=
          Option.mem_toList.mpr made
        exact List.mem_append_right _ gained
    · rw [writeableSet, requested]
      rcases stays.owner wsi handle own with old | ⟨made, _⟩
      · rcases stays.closing handle closing with before | ⟨rfl, live, isOpen⟩
        · rcases kept.pending wsi handle old before with noted | asked
          · exact .inl (List.mem_union_iff.mpr (.inl noted))
          · refine .inr (List.mem_append_left _ (requested_within asked ?_))
            rintro reason data n rfl
            have erased := calls_erases taken old before
            rw [erased] at own
            cases own
        · rcases careful live isOpen wsi (mem_keys_of_owner old) old with noted | asked | notified
          · exact .inl (List.mem_union_iff.mpr (.inl noted))
          · exact .inr (List.mem_append_left _ (requested_within asked fun _ _ _ same => by cases same))
          · rw [notified]
            exact .inl (List.mem_union_iff.mpr (.inr (List.mem_singleton_self wsi)))
      · rw [made]
        exact .inl (List.mem_union_iff.mpr (.inr (List.mem_singleton_self wsi)))
  | checkWriteable =>
    obtain ⟨asked, lws, alive, requested⟩ := check_step ran
    refine ⟨fun wsi member => ?_, fun wsi handle own => ?_, fun wsi handle own closing => ?_⟩
    · rw [asked] at member
      obtain ⟨handle, own, _⟩ := unclosed_iff.mp (List.mem_filter.mp member).2
      exact kept.gone wsi handle own
    · rw [alive]
      exact kept.gone wsi handle (lws ▸ own)
    · rw [lws] at own closing
      rw [requested, asked]
      refine .inr (List.mem_append.mpr ?_)
      rcases kept.pending wsi handle own closing with noted | before
      · refine .inr (List.mem_filter.mpr ⟨noted, ?_⟩)
        have isOpen : (pool.lws.flags handle).closed = false := by
          cases closed : (pool.lws.flags handle).closed with
          | false => rfl
          | true => exact absurd own ((linked.apart handle closing closed).2 wsi)
        exact unclosed_iff.mpr ⟨handle, own, isOpen⟩
      · exact .inl before

/-- A call for a connection whose session is not closing leaves its entry. -/
theorem calls_leaves {parse : Text → Bool} {lws next : Lws} {wsi : Wsi} {reason : LwsCallbackReasons}
    {data : Text} {n : Int} {reply : Reply} {handle : Nat}
    (ran : lws.step parse (.calls wsi reason data n) = some (reply, next))
    (own : lws.owner wsi = some handle) (lasting : (lws.flags handle).closing ≠ true) :
    next.owner wsi = some handle := by
  cases step_effect ran with
  | still owner _ _ => exact owner ▸ own
  | ends _ owner _ _ _ => exact owner ▸ own
  | shuts _ _ owner _ _ => exact owner ▸ own
  | connects _ _ asks _ _ _ _ _ =>
    obtain ⟨_, _, _, _, other⟩ := asks
    cases other
  | closes _ asks _ _ _ _ => cases asks
  | erases other handle' calls own' closing _ _ _ _ =>
    obtain ⟨_, _, _, same⟩ := calls
    cases same
    rw [own] at own'
    cases own'
    exact absurd closing lasting

/-- A live session that has a connection is closing once it is closed. -/
theorem close_closes {parse : Text → Bool} {lws next : Lws} {reply : Reply} {handle : Nat}
    (ran : lws.step parse (.close handle) = some (reply, next))
    (live : (lws.flags handle).closing = false) (isOpen : (lws.flags handle).closed = false) :
    next.owner = lws.owner ∧ (next.flags handle).closing = true := by
  simp only [Lws.step, Option.map_eq_some_iff, Prod.mk.injEq] at ran
  obtain ⟨session, held, _, rfl⟩ := ran
  rw [flags_of_session held] at live isOpen
  refine ⟨rfl, ?_⟩
  rw [flags_setSession held, Function.update_self]
  rcases close_flags session with ⟨_, spent | spent⟩ | ⟨_, _, closes⟩
  · exact Bool.noConfusion (live.symm.trans spent)
  · exact Bool.noConfusion (isOpen.symm.trans spent)
  · rw [closes]

/-- A step that keeps the lifetimes is careful. -/
theorem careful_of_keeps {parse : Text → Bool} {pool next : Pool} {request : PoolRequest}
    {reply : Reply × List Wsi} (ran : pool.step parse request = some (reply, next))
    (kept : KeepsLifetimes pool request reply next) : Careful pool request := by
  unfold Careful
  split
  · rename_i wsi data n
    intro handle own
    obtain ⟨_, taken, _, alive, _⟩ := does_step ran
    apply Classical.byContradiction
    intro lasting
    have left := kept.lifetimes.gone wsi handle (calls_leaves taken own lasting)
    rw [alive] at left
    exact absurd rfl (of_decide_eq_true (List.mem_filter.mp left).2)
  · rename_i handle
    intro live isOpen wsi _ own
    obtain ⟨_, taken, _, _, writeableSet, requested⟩ := does_step ran
    obtain ⟨owner, closing⟩ := close_closes taken live isOpen
    have waits := kept.lifetimes.pending wsi handle (owner ▸ own) closing
    rw [writeableSet, requested] at waits
    rcases waits with noted | asked
    · rcases List.mem_union_iff.mp noted with before | now
      · exact .inl before
      · exact .inr (.inr (Option.mem_toList.mp now))
    · rcases List.mem_append.mp asked with before | again
      · exact .inr (.inl before)
      · cases again
  · trivial

/-- In every run, whichever thread goes on when, libwebsockets is asked about no connection
that is gone, none that is gone has an entry, and every connection whose session is closing is
going to be called for, exactly when every step is careful. -/
theorem lifetimes_iff (parse : Text → Bool) (running : Bool) (requests : List PoolRequest)
    (replies : List (Reply × List Wsi)) (final : Pool)
    (ran : run (Pool.step parse) { lws := { running } } requests = some (replies, final)) :
    AllTaken (Pool.step parse) KeepsLifetimes { lws := { running } } requests ↔
      AllSteps (Pool.step parse) Careful { lws := { running } } requests := by
  apply taken_iff_of_defined (fun pool => Linked pool.lws ∧ Lifetimes pool) _ _ _ ran
  · rintro pool request reply next ⟨linked, kept⟩ taken
    exact ⟨careful_of_keeps taken, fun careful => careful_step linked kept careful taken⟩
  · rintro pool request reply next ⟨linked, kept⟩ careful taken
    refine ⟨?_, (careful_step linked kept careful taken).lifetimes⟩
    cases request with
    | does request => exact linked_step linked (does_step taken).2.1
    | checkWriteable =>
      rw [(check_step taken).2.1]
      exact linked
  · exact ⟨linked_start running, by rintro wsi handle ⟨⟩, by rintro wsi handle ⟨⟩⟩

/-- A session that connects, writes and closes, and whose connection is destroyed behind it. -/
theorem closed_and_destroyed :
    ((run (Pool.step fun _ => true) { lws := { running := true } } [.does (.open' true true false true 1),
        .does (.connect 0 (some []) 0 2 (some 7)), .checkWriteable,
        .does (.calls 7 .clientEstablished [] 0), .does .handle, .does .returns,
        .does (.write 0 (some ['a'])), .checkWriteable, .does (.calls 7 .clientWriteable [] 1),
        .does (.close 0), .checkWriteable, .does (.calls 7 .clientWriteable [] 1), .does .setsClosed,
        .does (.calls 7 .wsiDestroy [] 0)]).map fun ran =>
      (ran.1.map (·.2), ran.2.lws.wsiTable.keys, ran.2.alive)) =
        some ([[], [], [7], [], [], [], [], [7], [7], [], [7], [], [], []], [], []) ∧
    AllTaken (Pool.step fun _ => true) KeepsLifetimes { lws := { running := true } }
      [.does (.open' true true false true 1),
        .does (.connect 0 (some []) 0 2 (some 7)), .checkWriteable,
        .does (.calls 7 .clientEstablished [] 0), .does .handle, .does .returns,
        .does (.write 0 (some ['a'])), .checkWriteable, .does (.calls 7 .clientWriteable [] 1),
        .does (.close 0), .checkWriteable, .does (.calls 7 .clientWriteable [] 1), .does .setsClosed,
        .does (.calls 7 .wsiDestroy [] 0)] :=
  ⟨rfl, (lifetimes_iff (fun _ => true) true _ _ _ rfl).mpr (by decide)⟩

/-- A connection that fails is destroyed while its session is not closing: its entry stays, and
libwebsockets is asked about it again. -/
theorem destroyed_and_called :
    ¬ ∀ (parse : Text → Bool) (running : Bool) (requests : List PoolRequest)
      (replies : List (Reply × List Wsi)) (final : Pool),
      run (Pool.step parse) { lws := { running } } requests = some (replies, final) →
        AllTaken (Pool.step parse) KeepsLifetimes { lws := { running } } requests := by
  intro always
  have kept := always (fun _ => true) true [.does (.open' true true false true 1),
    .does (.connect 0 (some []) 0 2 (some 7)), .does (.calls 7 .clientConnectionError [] 0),
    .does (.calls 7 .wsiDestroy [] 0), .checkWriteable] _ _ rfl
  obtain ⟨_, _, first, _, _, _, second, _, _, _, third, _, _, _, fourth, _, _, _, fifth, keeps, _⟩ := kept
  cases first
  cases second
  cases third
  cases fourth
  cases fifth
  exact absurd (keeps.called 7 (by decide)) (by decide)

end BeeSdk.LuaLws
