import BeeSdk.LwsEffects

/-! Closing all sessions when the service stops. The thread that does it makes a promise, asks
under the lock of the table for what is still open, and waits without it; libwebsockets' thread
honors the promise and lets go of it when the last entry goes. -/
namespace BeeSdk.LuaLws
open Function (update)
open Runs

/-- Where the thread is that is in `close_all`. -/
inductive Closer where
  | idle
  /-- It has put a new promise into `close_promise_` and has not called `active` of it yet. -/
  | made
  | begun
  /-- It holds `mutex_`: what it has not looked at, `need_to_wait`, and the session it has just
  found open. -/
  | looking (todo : List Wsi) (needToWait : Bool) (found : Option Nat)
  | unlocked (needToWait : Bool)
  | waiting
  deriving DecidableEq

/-- Of `close_promise_` it matters whether it is there and whether its future has been taken.
`honoring` is libwebsockets' thread that found it there and has not honored it yet. -/
structure CloseAll where
  lws : Lws
  closePromise : Option Bool := none
  closer : Closer := .idle
  honoring : Bool := false

inductive CloseRequest where
  | does (request : Request)
  | honors
  | begins
  | activates
  /-- The order is that of the hash table. -/
  | locks (entries : List Wsi)
  | looks
  | shuts
  | unlocks
  | resets
  | waits
  /-- The promise was honored, or the time is over. -/
  | wakes
  /-- The rest of `stop`. -/
  | clears
  | starts
  deriving DecidableEq

inductive CloseReply where
  | nothing
  | gives (reply : Reply)
  | honored
  | nullPointer
  | futureError
  deriving DecidableEq

/-- The service takes the lock for it. -/
def Request.locked : Request → Bool
  | .connect .. | .write .. | .calls .. => true
  | _ => false

namespace CloseAll

def looking (state : CloseAll) : Bool :=
  match state.closer with
  | .looking .. => true
  | _ => false

/-- Some thread holds `mutex_`. -/
def held (state : CloseAll) : Bool :=
  state.looking || state.honoring || state.lws.clearing.isSome

/-- The entry of a session that is closed goes, the others are waited for. -/
def look (state : CloseAll) (wsi : Wsi) (todo : List Wsi) (needToWait : Bool) : CloseAll :=
  if state.lws.unclosed wsi then
    { state with closer := .looking todo true (state.lws.owner wsi) }
  else { state with
    lws := { state.lws with wsiTable := state.lws.wsiTable.erase wsi }
    closer := .looking todo needToWait none }

/-- `BeePromise::wait_for`, which takes the future, up to the waiting. -/
def waitFor (state : CloseAll) : CloseReply × CloseAll :=
  match state.closePromise with
  | none => (.nullPointer, { state with closer := .idle })
  | some true => (.futureError, { state with closer := .idle })
  | some false => (.nothing, { state with closePromise := some true, closer := .waiting })

/-- One step of any thread. One of them is in `close_all` at a time; where the table is not
empty there is a context. -/
def step (parse : Text → Bool) (state : CloseAll) : CloseRequest → Option (CloseReply × CloseAll)
  | .does request =>
    if request.locked ∧ state.held then none
    else (state.lws.step parse request).map fun (reply, lws) =>
      (.gives reply, { state with
        lws
        honoring := state.honoring ||
          (request = .setsClosed ∧ lws.wsiTable.keys = [] ∧ state.closePromise.isSome) })
  | .honors =>
    if ¬ state.honoring then none
    else match state.closePromise with
      | none => some (.nullPointer, { state with honoring := false })
      | some _ => some (.honored, { state with closePromise := none, honoring := false })
  | .begins =>
    if state.closer ≠ .idle then none
    else some (.nothing, { state with
      closePromise := some (state.closePromise.getD false)
      closer := if state.closePromise.isSome then .begun else .made })
  | .activates =>
    if state.closer ≠ .made then none
    else match state.closePromise with
      | none => some (.nullPointer, { state with closer := .idle })
      | some _ => some (.nothing, { state with closer := .begun })
  | .locks entries =>
    if state.closer ≠ .begun ∨ state.held ∨ ¬ entries.Perm state.lws.wsiTable.keys then none
    else some (.nothing, { state with closer := .looking entries false none })
  | .looks => match state.closer with
    | .looking (wsi :: todo) needToWait none => some (.nothing, state.look wsi todo needToWait)
    | _ => none
  | .shuts => match state.closer with
    | .looking todo needToWait (some handle) => state.lws.sessions[handle]?.map fun session =>
      (.nothing, { state with
        lws := state.lws.setSession handle session.close
        closer := .looking todo needToWait none })
    | _ => none
  | .unlocks => match state.closer with
    | .looking [] needToWait none => some (.nothing, { state with closer := .unlocked needToWait })
    | _ => none
  | .resets =>
    if state.closer ≠ .unlocked false then none
    else some (.nothing, { state with closePromise := none, closer := .idle })
  | .waits => if state.closer ≠ .unlocked true then none else some state.waitFor
  | .wakes =>
    if state.closer ≠ .waiting then none else some (.nothing, { state with closer := .idle })
  | .clears =>
    if state.closer ≠ .idle then none
    else some (.nothing, { state with lws := { state.lws with running := false, wsiTable := ∅ } })
  | .starts => some (.nothing, { state with lws := { state.lws with running := true } })

end CloseAll

/-- What a step owes to the handshake: no promise is looked for where none is, and none is waited
for twice; it is honored when no connection is left, and left alone only then. -/
structure Handshake (before : CloseAll) (request : CloseRequest) (reply : CloseReply)
    (after : CloseAll) : Prop where
  there : reply ≠ .nullPointer
  fresh : reply ≠ .futureError
  honored : reply = .honored → ∀ wsi, before.lws.owner wsi = none
  left : request = .unlocks → after.closer = .unlocked false → ∀ wsi, after.lws.owner wsi = none

/-- A connection that is found open finds a promise not waited for. The promise is not honored
before `active` of it has been called, nor between the lock and the wait, and not given up where
it is about to be honored. -/
def Undisturbed (state : CloseAll) : CloseRequest → Prop
  | .looks => match state.closer with
    | .looking (wsi :: _) _ _ => state.lws.unclosed wsi → state.closePromise = some false
    | _ => True
  | .honors => state.closer ≠ .made ∧ state.closer ≠ .unlocked true
  | .resets => state.honoring = false
  | _ => True

instance (state : CloseAll) : ∀ request, Decidable (Undisturbed state request)
  | .looks => by
    unfold Undisturbed
    dsimp only
    split <;> infer_instance
  | .honors => inferInstanceAs (Decidable (_ ∧ _))
  | .resets => inferInstanceAs (Decidable (_ = _))
  | .does _ => isTrue trivial
  | .begins => isTrue trivial
  | .activates => isTrue trivial
  | .locks _ => isTrue trivial
  | .shuts => isTrue trivial
  | .unlocks => isTrue trivial
  | .waits => isTrue trivial
  | .wakes => isTrue trivial
  | .clears => isTrue trivial
  | .starts => isTrue trivial

/-- What holds wherever no step was disturbed. -/
structure Sound (state : CloseAll) : Prop where
  honoring : state.honoring = true →
    state.closePromise ≠ none ∧ (∀ wsi, state.lws.owner wsi = none) ∧ state.looking = false
  clearing : state.looking = true → state.lws.clearing = none
  looked : ∀ todo found, state.closer = .looking todo false found →
    ∀ wsi handle, state.lws.owner wsi = some handle → wsi ∈ todo
  needed : ∀ todo found, state.closer = .looking todo true found → state.closePromise = some false
  waited : state.closer = .unlocked true → state.closePromise = some false
  made : state.closer = .made → state.closePromise ≠ none

theorem sound_start (running : Bool) : Sound { lws := { running } } where
  honoring := by rintro ⟨⟩
  clearing := by rintro ⟨⟩
  looked := by rintro todo found ⟨⟩
  needed := by rintro todo found ⟨⟩
  waited := by rintro ⟨⟩
  made := by rintro ⟨⟩

/-! ### Steps of the service -/

theorem owner_of_empty {lws : Lws} (empty : lws.wsiTable.keys = []) (wsi : Wsi) :
    lws.owner wsi = none := by
  unfold Lws.owner
  have absent : wsi ∉ lws.wsiTable := fun member => by
    rw [AList.mem_keys, empty] at member
    cases member
  rw [AList.lookup_eq_none.mpr absent]
  rfl

/-- Without the lock no connection comes to the table. -/
theorem owner_unlocked {parse : Text → Bool} {lws next : Lws} {request : Request} {reply : Reply}
    (ran : lws.step parse request = some (reply, next)) (unlocked : request.locked = false)
    {wsi : Wsi} {handle : Nat} (own : next.owner wsi = some handle) :
    lws.owner wsi = some handle := by
  cases step_effect ran with
  | still owner _ _ => exact owner ▸ own
  | ends _ owner _ _ _ => exact owner ▸ own
  | shuts _ _ owner _ _ => exact owner ▸ own
  | closes _ _ owner _ _ _ => exact owner ▸ own
  | connects _ _ asks _ _ _ _ _ =>
    obtain ⟨_, _, _, _, rfl⟩ := asks
    cases unlocked
  | erases _ _ calls _ _ _ _ _ _ =>
    obtain ⟨_, _, _, rfl⟩ := calls
    cases unlocked

theorem clearing_unlocked {parse : Text → Bool} {lws next : Lws} {request : Request} {reply : Reply}
    (ran : lws.step parse request = some (reply, next)) (unlocked : request.locked = false)
    (idle : lws.clearing = none) : next.clearing = none := by
  cases step_effect ran with
  | still _ _ clearing => exact clearing.trans idle
  | ends _ _ _ _ clearing => exact clearing.trans idle
  | shuts _ _ _ _ clearing => exact clearing
  | closes _ _ _ _ _ clearing => exact clearing.trans idle
  | connects _ _ asks _ _ _ _ _ =>
    obtain ⟨_, _, _, _, rfl⟩ := asks
    cases unlocked
  | erases _ _ calls _ _ _ _ _ _ =>
    obtain ⟨_, _, _, rfl⟩ := calls
    cases unlocked

/-! ### Steps around it -/

theorem looking_of {state : CloseAll} {todo : List Wsi} {needToWait : Bool} {found : Option Nat}
    (closer : state.closer = .looking todo needToWait found) : state.looking = true := by
  simp [CloseAll.looking, closer]

/-- A reply that is neither a failure nor the promise honored, to a request other than the one
that lets go of the lock. -/
theorem handshake_quiet {before after : CloseAll} {request : CloseRequest} {reply : CloseReply}
    (quiet : reply = .nothing ∨ ∃ given, reply = .gives given) (other : request ≠ .unlocks) :
    Handshake before request reply after := by
  refine ⟨?_, ?_, ?_, fun same => absurd same other⟩
  all_goals
    rintro rfl
    rcases quiet with same | ⟨_, same⟩
    · cases same
    · cases same

theorem does_kept {parse : Text → Bool} {state next : CloseAll} {request : Request}
    {reply : CloseReply} (sound : Sound state)
    (ran : state.step parse (.does request) = some (reply, next)) :
    (∃ given, reply = .gives given) ∧ Sound next := by
  simp only [CloseAll.step, Option.ite_none_left_eq_some, Option.map_eq_some_iff, Prod.mk.injEq] at ran
  obtain ⟨unblocked, ⟨given, lws⟩, taken, rfl, rfl⟩ := ran
  have free : state.held = true → request.locked = false := by
    intro held
    cases locked : request.locked with
    | false => rfl
    | true => exact absurd ⟨locked, held⟩ unblocked
  have unlocked : state.looking = true → request.locked = false := fun looking =>
    free (by simp [CloseAll.held, looking])
  refine ⟨⟨given, rfl⟩, ?_, ?_, ?_, sound.needed, sound.waited, sound.made⟩
  · intro honoring
    dsimp only at honoring ⊢
    cases before : state.honoring with
    | true =>
      obtain ⟨there, empty, notLooking⟩ := sound.honoring before
      refine ⟨there, fun wsi => ?_, notLooking⟩
      cases own : lws.owner wsi with
      | none => rfl
      | some handle =>
        have old := owner_unlocked taken (free (by simp [CloseAll.held, before])) own
        rw [empty wsi] at old
        cases old
    | false =>
      rw [before, Bool.false_or, decide_eq_true_eq] at honoring
      obtain ⟨rfl, empty, there⟩ := honoring
      refine ⟨Option.isSome_iff_ne_none.mp there, owner_of_empty empty, ?_⟩
      cases looking : state.looking with
      | false => exact looking
      | true =>
        simp [Lws.step, sound.clearing looking] at taken
  · intro looking
    exact clearing_unlocked taken (unlocked looking) (sound.clearing looking)
  · intro todo found closer wsi handle own
    exact sound.looked todo found closer wsi handle (owner_unlocked taken
      (unlocked (looking_of closer)) own)

theorem owner_erase (lws : Lws) (wsi : Wsi) :
    ({ lws with wsiTable := lws.wsiTable.erase wsi } : Lws).owner = update lws.owner wsi none := by
  funext other
  unfold Lws.owner
  dsimp only
  by_cases same : other = wsi
  · rw [same, Function.update_self, AList.lookup_erase]
    rfl
  · rw [Function.update_of_ne same, AList.lookup_erase_ne same]

theorem looks_kept {state : CloseAll} {wsi : Wsi} {todo : List Wsi} {needToWait : Bool}
    (sound : Sound state) (closer : state.closer = .looking (wsi :: todo) needToWait none)
    (there : state.lws.unclosed wsi → state.closePromise = some false) :
    Sound (state.look wsi todo needToWait) := by
  have looking := looking_of closer
  have quiet : state.honoring ≠ true := fun honoring =>
    Bool.noConfusion (looking.symm.trans (sound.honoring honoring).2.2)
  unfold CloseAll.look
  split
  · rename_i isOpen
    refine ⟨fun honoring => absurd honoring quiet, fun _ => sound.clearing looking, ?_,
      fun _ _ _ => there isOpen, by rintro ⟨⟩, by rintro ⟨⟩⟩
    rintro todo found ⟨⟩
  · refine ⟨fun honoring => absurd honoring quiet, fun _ => sound.clearing looking, ?_, ?_, ?_,
      by rintro ⟨⟩⟩
    · rintro todo found ⟨⟩ wsi' handle own
      rw [owner_erase] at own
      by_cases same : wsi' = wsi
      · rw [same, Function.update_self] at own
        cases own
      · rw [Function.update_of_ne same] at own
        rcases List.mem_cons.mp (sound.looked _ _ closer wsi' handle own) with here | behind
        · exact absurd here same
        · exact behind
    · rintro todo found ⟨⟩
      exact sound.needed _ _ closer
    · rintro ⟨⟩

/-- An undisturbed step. -/
theorem undisturbed_step {parse : Text → Bool} {state next : CloseAll} {request : CloseRequest}
    {reply : CloseReply} (sound : Sound state) (undisturbed : Undisturbed state request)
    (ran : state.step parse request = some (reply, next)) :
    Handshake state request reply next ∧ Sound next := by
  cases request with
  | does request =>
    obtain ⟨gives, kept⟩ := does_kept sound ran
    exact ⟨handshake_quiet (.inr gives) (by rintro ⟨⟩), kept⟩
  | honors =>
    simp only [CloseAll.step, Option.ite_none_left_eq_some, Classical.not_not] at ran
    obtain ⟨honoring, ran⟩ := ran
    obtain ⟨there, empty, notLooking⟩ := sound.honoring honoring
    split at ran
    · rename_i gone
      exact absurd gone there
    · cases ran
      refine ⟨⟨by rintro ⟨⟩, by rintro ⟨⟩, fun _ => empty, by rintro ⟨⟩⟩, by rintro ⟨⟩,
        sound.clearing, sound.looked, ?_, ?_, ?_⟩
      · intro todo found closer
        exact Bool.noConfusion ((looking_of closer).symm.trans notLooking)
      · intro closer
        exact absurd closer undisturbed.2
      · intro closer
        exact absurd closer undisturbed.1
  | begins =>
    simp only [CloseAll.step, Option.ite_none_left_eq_some, Classical.not_not, Option.some.injEq,
      Prod.mk.injEq] at ran
    obtain ⟨_, rfl, rfl⟩ := ran
    have outside : ∀ other, other ≠ .begun → other ≠ .made →
        (if state.closePromise.isSome then Closer.begun else .made) ≠ other := by
      intro other notBegun notMade
      split
      · exact notBegun.symm
      · exact notMade.symm
    refine ⟨handshake_quiet (.inl rfl) (by rintro ⟨⟩), ?_, ?_, ?_, ?_, ?_, fun _ => by rintro ⟨⟩⟩
    · intro honoring
      refine ⟨by rintro ⟨⟩, (sound.honoring honoring).2.1, ?_⟩
      unfold CloseAll.looking
      cases state.closePromise <;> rfl
    · intro looking
      unfold CloseAll.looking at looking
      cases promised : state.closePromise <;> simp [promised] at looking
    · intro todo found closer
      exact absurd closer (outside _ (by rintro ⟨⟩) (by rintro ⟨⟩))
    · intro todo found closer
      exact absurd closer (outside _ (by rintro ⟨⟩) (by rintro ⟨⟩))
    · intro closer
      exact absurd closer (outside _ (by rintro ⟨⟩) (by rintro ⟨⟩))
  | activates =>
    simp only [CloseAll.step, Option.ite_none_left_eq_some, Classical.not_not] at ran
    obtain ⟨closer, ran⟩ := ran
    split at ran
    · rename_i gone
      exact absurd gone (sound.made closer)
    · cases ran
      refine ⟨handshake_quiet (.inl rfl) (by rintro ⟨⟩), ?_, by rintro ⟨⟩, by rintro _ _ ⟨⟩,
        by rintro _ _ ⟨⟩, by rintro ⟨⟩, by rintro ⟨⟩⟩
      intro honoring
      exact ⟨(sound.honoring honoring).1, (sound.honoring honoring).2.1, rfl⟩
  | locks entries =>
    simp only [CloseAll.step, Option.ite_none_left_eq_some, not_or, Classical.not_not,
      Option.some.injEq, Prod.mk.injEq] at ran
    obtain ⟨⟨_, free, all⟩, rfl, rfl⟩ := ran
    simp only [CloseAll.held, Bool.or_eq_true, not_or, Bool.not_eq_true,
      Option.isSome_eq_false_iff, Option.isNone_iff_eq_none] at free
    refine ⟨handshake_quiet (.inl rfl) (by rintro ⟨⟩), ?_, fun _ => free.2, ?_, by rintro _ _ ⟨⟩,
      by rintro ⟨⟩, by rintro ⟨⟩⟩
    · intro honoring
      exact Bool.noConfusion (honoring.symm.trans free.1.2)
    · rintro _ _ ⟨⟩ wsi handle own
      exact all.mem_iff.mpr (mem_keys_of_owner own)
  | looks =>
    simp only [CloseAll.step] at ran
    split at ran
    · rename_i wsi todo needToWait closer
      cases ran
      refine ⟨handshake_quiet (.inl rfl) (by rintro ⟨⟩), looks_kept sound closer ?_⟩
      simp only [Undisturbed, closer] at undisturbed
      exact undisturbed
    · cases ran
  | shuts =>
    simp only [CloseAll.step] at ran
    split at ran
    · rename_i todo needToWait handle closer
      simp only [Option.map_eq_some_iff, Prod.mk.injEq] at ran
      obtain ⟨session, held, rfl, rfl⟩ := ran
      have looking := looking_of closer
      refine ⟨handshake_quiet (.inl rfl) (by rintro ⟨⟩), ?_, fun _ => sound.clearing looking,
        ?_, ?_, by rintro ⟨⟩, by rintro ⟨⟩⟩
      · intro honoring
        exact Bool.noConfusion (looking.symm.trans (sound.honoring honoring).2.2)
      · rintro _ _ ⟨⟩
        exact sound.looked _ _ closer
      · rintro _ _ ⟨⟩
        exact sound.needed _ _ closer
    · cases ran
  | unlocks =>
    simp only [CloseAll.step] at ran
    split at ran
    · rename_i needToWait closer
      cases ran
      have looking := looking_of closer
      have quiet : state.honoring ≠ true := fun honoring =>
        Bool.noConfusion (looking.symm.trans (sound.honoring honoring).2.2)
      refine ⟨⟨by rintro ⟨⟩, by rintro ⟨⟩, by rintro ⟨⟩, ?_⟩, fun honoring => absurd honoring quiet, by rintro ⟨⟩,
        by rintro _ _ ⟨⟩, by rintro _ _ ⟨⟩, ?_, by rintro ⟨⟩⟩
      · rintro _ ⟨⟩ wsi
        cases own : state.lws.owner wsi with
        | none => rfl
        | some handle =>
          have left := sound.looked _ _ closer wsi handle own
          cases left
      · rintro ⟨⟩
        exact sound.needed _ _ closer
    · cases ran
  | resets =>
    simp only [CloseAll.step, Option.ite_none_left_eq_some, Classical.not_not, Option.some.injEq,
      Prod.mk.injEq] at ran
    obtain ⟨_, rfl, rfl⟩ := ran
    refine ⟨handshake_quiet (.inl rfl) (by rintro ⟨⟩), ?_, by rintro ⟨⟩, by rintro _ _ ⟨⟩, by rintro _ _ ⟨⟩,
      by rintro ⟨⟩, by rintro ⟨⟩⟩
    intro honoring
    exact Bool.noConfusion (honoring.symm.trans undisturbed)
  | waits =>
    simp only [CloseAll.step, Option.ite_none_left_eq_some, Classical.not_not] at ran
    obtain ⟨closer, ran⟩ := ran
    have ready := sound.waited closer
    simp only [CloseAll.waitFor, ready, Option.some.injEq, Prod.mk.injEq] at ran
    obtain ⟨rfl, rfl⟩ := ran
    refine ⟨handshake_quiet (.inl rfl) (by rintro ⟨⟩), ?_, by rintro ⟨⟩, by rintro _ _ ⟨⟩, by rintro _ _ ⟨⟩,
      by rintro ⟨⟩, by rintro ⟨⟩⟩
    intro honoring
    exact ⟨by rintro ⟨⟩, (sound.honoring honoring).2.1, rfl⟩
  | wakes =>
    simp only [CloseAll.step, Option.ite_none_left_eq_some, Classical.not_not, Option.some.injEq,
      Prod.mk.injEq] at ran
    obtain ⟨_, rfl, rfl⟩ := ran
    refine ⟨handshake_quiet (.inl rfl) (by rintro ⟨⟩), ?_, by rintro ⟨⟩, by rintro _ _ ⟨⟩, by rintro _ _ ⟨⟩,
      by rintro ⟨⟩, by rintro ⟨⟩⟩
    intro honoring
    exact ⟨(sound.honoring honoring).1, (sound.honoring honoring).2.1, rfl⟩
  | clears =>
    simp only [CloseAll.step, Option.ite_none_left_eq_some, Classical.not_not, Option.some.injEq,
      Prod.mk.injEq] at ran
    obtain ⟨idle, rfl, rfl⟩ := ran
    refine ⟨handshake_quiet (.inl rfl) (by rintro ⟨⟩), ?_, sound.clearing, ?_, sound.needed, sound.waited,
      sound.made⟩
    · intro honoring
      obtain ⟨there, _, notLooking⟩ := sound.honoring honoring
      exact ⟨there, owner_of_empty rfl, notLooking⟩
    · intro todo found closer
      rw [idle] at closer
      cases closer
  | starts =>
    cases ran
    exact ⟨handshake_quiet (.inl rfl) (by rintro ⟨⟩), sound.honoring, sound.clearing, sound.looked, sound.needed,
      sound.waited, sound.made⟩

/-- In every run in which no step is disturbed, whichever thread goes on when and however often
the service stops, the handshake is kept. -/
theorem handshake_run (parse : Text → Bool) (running : Bool) (requests : List CloseRequest)
    (replies : List CloseReply) (final : CloseAll)
    (ran : run (CloseAll.step parse) { lws := { running } } requests = some (replies, final))
    (undisturbed : AllSteps (CloseAll.step parse) Undisturbed { lws := { running } } requests) :
    AllTaken (CloseAll.step parse) Handshake { lws := { running } } requests := by
  apply all_taken_of_defined Sound _ (sound_start running) undisturbed ran
  intro state request reply next sound undisturbed taken
  exact undisturbed_step sound undisturbed taken

/-- An open connection is waited for, and when the service has started and stops again nothing
is. -/
theorem stopped_twice :
    ((run (CloseAll.step fun _ => true) { lws := { running := true } }
      [.does (.open' true true false true 1), .does (.connect 0 (some []) 0 2 (some 7)), .begins,
        .activates, .locks [7], .looks, .shuts, .unlocks, .waits, .does (.calls 7 .clientWriteable [] 0),
        .does .setsClosed, .honors, .wakes, .clears, .starts, .begins, .activates, .locks [], .unlocks,
        .resets, .clears]).map fun ran => (ran.1.count .honored, ran.2.closePromise, ran.2.closer)) =
          some (1, none, .idle) ∧
    AllTaken (CloseAll.step fun _ => true) Handshake { lws := { running := true } }
      [.does (.open' true true false true 1), .does (.connect 0 (some []) 0 2 (some 7)), .begins,
        .activates, .locks [7], .looks, .shuts, .unlocks, .waits, .does (.calls 7 .clientWriteable [] 0),
        .does .setsClosed, .honors, .wakes, .clears, .starts, .begins, .activates, .locks [], .unlocks,
        .resets, .clears] :=
  ⟨rfl, handshake_run (fun _ => true) true _ _ _ rfl (by decide)⟩

/-- The last connection goes between the lock and the wait, and the promise with it. -/
theorem promise_gone :
    ¬ ∀ (parse : Text → Bool) (running : Bool) (requests : List CloseRequest)
      (replies : List CloseReply) (final : CloseAll),
      run (CloseAll.step parse) { lws := { running } } requests = some (replies, final) →
        AllTaken (CloseAll.step parse) Handshake { lws := { running } } requests := by
  intro always
  have kept := always (fun _ => true) true [.does (.open' true true false true 1),
    .does (.connect 0 (some []) 0 2 (some 7)), .begins, .activates, .locks [7], .looks, .shuts, .unlocks,
    .does (.calls 7 .clientWriteable [] 0), .does .setsClosed, .honors, .waits] _ _ rfl
  obtain ⟨_, _, s1, _, _, _, s2, _, _, _, s3, _, _, _, s4, _, _, _, s5, _, _, _, s6, _, _, _, s7, _, kept⟩ := kept
  cases s1
  cases s2
  cases s3
  cases s4
  cases s5
  cases s6
  cases s7
  obtain ⟨_, _, s8, _, _, _, s9, _, _, _, s10, _, _, _, s11, _, _, _, s12, handshake, _⟩ := kept
  cases s8
  cases s9
  cases s10
  cases s11
  cases s12
  exact handshake.there rfl

end BeeSdk.LuaLws
