import BeeSdk.BeeEntrance

/-! What each state of the service owns. Where the thread of `start` and `stop` is says in which
states the machine can be; the thread of the io service moves it to Ready only, and only while
there is an io service. -/
namespace BeeSdk.BeeEntrance
open Runs StateMachine

/-- The table `init_state_machine` fills. -/
def table : List (List Int) :=
  [[1, -1, -1, -1, -1, -1, -1], [-1, 2, -1, -1, -1, 5, -1], [-1, -1, 3, -1, -1, 5, -1],
    [-1, -1, -1, 4, -1, 5, -1], [-1, -1, -1, 4, 4, 5, -1], [-1, -1, -1, -1, -1, -1, 0]]

/-- The machine in this state. -/
def inState (state last : Int) : SimpleStateMachine := ⟨table, 6, 7, state, last⟩

theorem constructed_machine : constructed.machine = inState kBeeSvcState_Idle 0 := rfl

/-- The states in which the machine can be. -/
def places : Calling → List Int
  | .resting => [kBeeSvcState_Idle, kBeeSvcState_Ready]
  | .entered _ | .allocated _ => [kBeeSvcState_Initializing]
  | .promised | .loaded => [kBeeSvcState_Initializd]
  | .getting => [kBeeSvcState_Getting_Core, kBeeSvcState_Ready]
  | .stopping => [kBeeSvcState_Unitializing]
  | .released => [kBeeSvcState_Unitializing, kBeeSvcState_Idle, kBeeSvcState_Ready]

/-- What holds wherever every step was guarded. -/
structure Books (timer : Bool) (entrance : BeeEntrance) : Prop where
  machine : entrance.machine = inState entrance.currentState entrance.machine.lastState
  place : entrance.currentState ∈ places entrance.calling
  released : entrance.calling = .released → Nothing false entrance
  owned : Owned timer entrance

theorem books_start (timer : Bool) : Books timer constructed where
  machine := rfl
  place := by decide
  released := by rintro ⟨⟩
  owned := by
    refine ⟨by rintro ⟨⟩, fun _ => ?_⟩
    refine ⟨rfl, rfl, rfl, rfl, rfl, rfl, ?_⟩
    rintro _ ⟨⟩

/-! ### Events -/

/-- An event of the table for a state of the table is taken. -/
theorem switch_from {entrance : BeeEntrance} {state last : Int}
    (machine : entrance.machine = inState state last) (ev next : Int)
    (taken : (inState state last).switchState ev = some (true, inState next state)) :
    entrance.switchState ev = some (true, { entrance with machine := inState next state }) := by
  rw [switchState, machine, taken]
  rfl

theorem refused_from {entrance : BeeEntrance} {state last : Int}
    (machine : entrance.machine = inState state last) (ev : Int)
    (refused : (inState state last).switchState ev = some (false, inState state last)) :
    entrance.switchState ev = some (false, entrance) := by
  rw [switchState, machine, refused, ← machine]
  rfl

theorem place_listed {entrance : BeeEntrance} (books : Books timer entrance) :
    entrance.currentState ∈ [kBeeSvcState_Idle, kBeeSvcState_Initializing, kBeeSvcState_Initializd,
      kBeeSvcState_Getting_Core, kBeeSvcState_Ready, kBeeSvcState_Unitializing] := by
  have place := books.place
  cases calling : entrance.calling with
  | resting | entered | allocated | promised | loaded | getting | stopping | released =>
    rw [calling] at place
    simp only [places, List.mem_cons, List.not_mem_nil, or_false] at place ⊢
    omega

/-- Got_Core moves to Ready or nowhere. -/
theorem switch_core {timer : Bool} {entrance : BeeEntrance} (books : Books timer entrance) :
    ∃ taken machine, entrance.switchState kBeeSvcInput_Got_Core =
        some (taken, { entrance with machine }) ∧
      (entrance.TakesCore ∧ machine = inState kBeeSvcState_Ready entrance.currentState ∨
        ¬ entrance.TakesCore ∧ machine = entrance.machine) := by
  have listed := place_listed books
  have machine := books.machine
  unfold TakesCore
  generalize entrance.currentState = state at listed machine ⊢
  simp only [List.mem_cons, List.not_mem_nil, or_false] at listed
  rcases listed with rfl | rfl | rfl | rfl | rfl | rfl
  · exact ⟨_, _, refused_from machine _ rfl, .inr ⟨by decide, rfl⟩⟩
  · exact ⟨_, _, refused_from machine _ rfl, .inr ⟨by decide, rfl⟩⟩
  · exact ⟨_, _, refused_from machine _ rfl, .inr ⟨by decide, rfl⟩⟩
  · exact ⟨_, _, switch_from machine _ _ rfl, .inl ⟨by decide, rfl⟩⟩
  · exact ⟨_, _, switch_from machine _ _ rfl, .inl ⟨by decide, rfl⟩⟩
  · exact ⟨_, _, refused_from machine _ rfl, .inr ⟨by decide, rfl⟩⟩

/-- While there is an io service the machine is not Idle. -/
theorem busy_place {timer : Bool} {entrance : BeeEntrance} (books : Books timer entrance)
    (there : entrance.ioService = true) : entrance.currentState ≠ kBeeSvcState_Idle := by
  intro idle
  exact Bool.noConfusion (there.symm.trans (books.owned.idle idle).ioService)

/-- What a handler of the io service's thread may do. -/
theorem books_handled {timer : Bool} {entrance next : BeeEntrance} (books : Books timer entrance)
    (there : entrance.ioService = true) (calling : next.calling = entrance.calling)
    (machine : entrance.TakesCore ∧ next.machine = inState kBeeSvcState_Ready entrance.currentState ∨
      ¬ entrance.TakesCore ∧ next.machine = entrance.machine ∨ next.machine = entrance.machine)
    (lua : next.currentState = kBeeSvcState_Ready → next.lua ≠ []) : Books timer next := by
  have busy := busy_place books there
  have unreleased : entrance.calling ≠ .released := fun released =>
    Bool.noConfusion (there.symm.trans (books.released released).ioService)
  have same : next.machine = entrance.machine → Books timer next := by
    intro same
    have state : next.currentState = entrance.currentState := congrArg (·.currentState) same
    refine ⟨?_, ?_, fun released => absurd (calling ▸ released) unreleased, lua, fun idle => ?_⟩
    · rw [state, same]
      exact books.machine
    · rw [state, calling]
      exact books.place
    · exact absurd (state.symm.trans idle) busy
  rcases machine with ⟨takes, ready⟩ | ⟨_, kept⟩ | kept
  · have state : next.currentState = kBeeSvcState_Ready := by rw [currentState, ready]; rfl
    refine ⟨?_, ?_, fun released => absurd (calling ▸ released) unreleased, lua, fun idle => ?_⟩
    · rw [state, ready]
      rfl
    · have place := books.place
      rw [state, calling]
      cases calling : entrance.calling with
      | resting | getting | released => simp [places]
      | entered | allocated | promised | loaded | stopping =>
        rw [calling] at place
        simp only [places, List.mem_singleton] at place
        unfold TakesCore at takes
        rw [place] at takes
        exact absurd takes (by decide)
    · rw [state] at idle
      exact absurd idle (by decide)
  · exact same kept
  · exact same kept

/-! ### Steps -/

theorem books_at {timer : Bool} {entrance : BeeEntrance} {state last : Int} {calling : Calling}
    (machine : entrance.machine = inState state last) (behind : entrance.calling = calling)
    (place : state ∈ places calling)
    (released : entrance.calling = .released → Nothing false entrance)
    (lua : state = kBeeSvcState_Ready → entrance.lua ≠ [])
    (idle : state = kBeeSvcState_Idle → Nothing timer entrance) : Books timer entrance := by
  have current : entrance.currentState = state := by rw [currentState, machine]; rfl
  refine ⟨?_, ?_, released, fun ready => lua (current ▸ ready), fun here => idle (current ▸ here)⟩
  · rw [current, machine]
    rfl
  · rw [current, behind]
    exact place

theorem books_between {timer : Bool} {entrance : BeeEntrance} {state last : Int} {calling : Calling}
    (machine : entrance.machine = inState state last) (behind : entrance.calling = calling)
    (place : state ∈ places calling) (unreleased : calling ≠ .released)
    (started : state ≠ kBeeSvcState_Ready ∧ state ≠ kBeeSvcState_Idle) : Books timer entrance :=
  books_at machine behind place (fun released => absurd (behind ▸ released) unreleased)
    (fun ready => absurd ready started.1) fun idle => absurd idle started.2

theorem advances_taken {entrance : BeeEntrance} {state last : Int}
    (machine : entrance.machine = inState state last) (ev goes : Int)
    (taken : (inState state last).switchState ev = some (true, inState goes state))
    (next : BeeEntrance → BeeErrorCode × BeeEntrance) :
    entrance.advances ev next = some (next { entrance with machine := inState goes state }) := by
  rw [advances, switch_from machine ev goes taken]
  rfl

theorem advances_refused {entrance : BeeEntrance} {state last : Int}
    (machine : entrance.machine = inState state last) (ev : Int)
    (refused : (inState state last).switchState ev = some (false, inState state last))
    (next : BeeEntrance → BeeErrorCode × BeeEntrance) :
    entrance.advances ev next = some (entrance.leaves .invalidState) := by
  rw [advances, refused_from machine ev refused]
  rfl

theorem machine_at {timer : Bool} {entrance : BeeEntrance} (books : Books timer entrance) {state : Int}
    (current : entrance.currentState = state) :
    entrance.machine = inState state entrance.machine.lastState := current ▸ books.machine

/-- A step that returns no failure keeps what its books keep. -/
theorem keeps_of_books {timer : Bool} {before after : BeeEntrance} {request : EntranceRequest}
    {reply : Option BeeErrorCode} (books : Books timer after)
    (well : reply = none ∨ reply = some .success ∨ before.calling = .resting) :
    KeepsOwned timer before request reply after ∧ Books timer after := by
  refine ⟨⟨books.owned, ?_⟩, books⟩
  rintro code rfl failed behind
  rcases well with same | same | same
  · cases same
  · cases same
    exact absurd rfl failed
  · exact absurd same behind

/-- The first line of `start`. -/
theorem start_kept {timer : Bool} {entrance next : BeeEntrance} {param : SystemParam}
    {timeout : Int} {reply : Option BeeErrorCode} (books : Books timer entrance)
    (ran : entrance.step (.start param timeout) = some (reply, next)) :
    KeepsOwned timer entrance (.start param timeout) reply next ∧ Books timer next := by
  simp only [step, Option.ite_none_left_eq_some, Classical.not_not] at ran
  obtain ⟨resting, ran⟩ := ran
  have place := books.place
  rw [resting] at place
  simp only [places, List.mem_cons, List.not_mem_nil, or_false] at place
  rcases place with idle | ready
  · have machine : ({ entrance with sysParam := param } : BeeEntrance).machine = _ :=
      machine_at books idle
    rw [advances_taken machine _ kBeeSvcState_Initializing rfl] at ran
    cases ran
    exact keeps_of_books (books_between rfl rfl (List.mem_singleton_self _) (by rintro ⟨⟩) (by decide))
      (.inl rfl)
  · have machine : ({ entrance with sysParam := param } : BeeEntrance).machine = _ :=
      machine_at books ready
    rw [advances_refused machine _ rfl] at ran
    cases ran
    refine keeps_of_books (books_at machine (show _ = Calling.resting from rfl) (by decide)
      (by rintro ⟨⟩) ?_ ?_) (.inr (.inr resting))
    · exact fun _ => books.owned.ready ready
    · exact fun idle => absurd idle (by decide)

/-- A later line of `start`, behind an event that the machine takes where it is then. -/
theorem advances_kept {timer : Bool} {entrance after : BeeEntrance} {request : EntranceRequest}
    {reply : Option BeeErrorCode} (books : Books timer entrance) {state goes ev : Int}
    {calling : Calling} (current : entrance.currentState = state)
    (taken : ∀ last, (inState state last).switchState ev = some (true, inState goes state))
    {next : BeeEntrance → BeeErrorCode × BeeEntrance}
    (ran : (entrance.advances ev next).map goesOn = some (reply, after))
    (well : ∀ entrance, (next entrance).1 = .success)
    (kept : ∀ entrance, (next entrance).2.machine = entrance.machine ∧
      (next entrance).2.calling = calling ∧ (next entrance).2.lua = entrance.lua)
    (place : goes ∈ places calling) (unreleased : calling ≠ .released)
    (busy : goes ≠ kBeeSvcState_Idle) (lua : goes = kBeeSvcState_Ready → entrance.lua ≠ []) :
    KeepsOwned timer entrance request reply after ∧ Books timer after := by
  rw [advances_taken (machine_at books current) ev goes (taken _)] at ran
  simp only [Option.map_some, Option.some.injEq, goesOn, Prod.mk.injEq] at ran
  obtain ⟨replied, rfl⟩ := ran
  obtain ⟨machine, behind, sameLua⟩ := kept { entrance with machine := inState goes state }
  refine keeps_of_books (books_at machine behind place ?_ ?_ ?_) ?_
  · exact fun released => absurd (behind ▸ released) unreleased
  · intro ready
    rw [sameLua]
    exact lua ready
  · exact fun idle => absurd idle busy
  · rw [well] at replied
    split at replied
    · exact .inr (.inl replied.symm)
    · exact .inl replied.symm

theorem place_of {timer : Bool} {entrance : BeeEntrance} (books : Books timer entrance)
    {calling : Calling} (behind : entrance.calling = calling) :
    entrance.currentState ∈ places calling := behind ▸ books.place

theorem nothing_released (timer : Bool) (entrance : BeeEntrance)
    (spent : timer = true → entrance.initPromise ≠ some true) : Nothing timer entrance.release :=
  ⟨rfl, rfl, rfl, rfl, rfl, rfl, spent⟩

theorem release_kept {timer : Bool} {entrance : BeeEntrance} (books : Books timer entrance)
    (place : entrance.currentState ∈ places .released) : Books timer entrance.release := by
  refine books_at (machine_at books rfl) rfl place ?_ books.owned.ready ?_
  · exact fun _ => nothing_released false entrance (by rintro ⟨⟩)
  · exact fun idle => nothing_released timer entrance (books.owned.idle idle).promise

/-- A handler that leaves the machine. -/
theorem handled_quiet {timer : Bool} {entrance next : BeeEntrance} {request : EntranceRequest}
    {reply : Option BeeErrorCode} {made : BeeEntrance} (books : Books timer entrance)
    (ran : entrance.handles (some made) = some (reply, next)) (machine : made.machine = entrance.machine)
    (calling : made.calling = entrance.calling) (lua : made.lua = entrance.lua) :
    KeepsOwned timer entrance request reply next ∧ Books timer next := by
  simp only [handles, Option.ite_none_left_eq_some, Bool.not_eq_true, Bool.not_eq_false, Option.map_some,
    Option.some.injEq, Prod.mk.injEq] at ran
  obtain ⟨there, rfl, rfl⟩ := ran
  refine keeps_of_books (books_handled books there calling (.inr (.inr machine)) ?_) (.inl rfl)
  intro ready
  rw [lua]
  have same : made.currentState = entrance.currentState := congrArg (·.currentState) machine
  exact books.owned.ready (same.symm.trans ready)

/-- A handler that gets the core, where it leaves a script if the service is ready then. -/
theorem handled_core {timer : Bool} {entrance next : BeeEntrance} {request : EntranceRequest}
    {reply : Option BeeErrorCode} (books : Books timer entrance)
    {finish : Bool × BeeEntrance → BeeEntrance}
    (ran : entrance.handles ((entrance.switchState kBeeSvcInput_Got_Core).map finish) =
      some (reply, next))
    (finishes : ∀ taken machine, (finish (taken, { entrance with machine })).machine = machine ∧
      (finish (taken, { entrance with machine })).calling = entrance.calling)
    (lua : ∀ taken machine, entrance.TakesCore →
      (finish (taken, { entrance with machine })).lua ≠ []) :
    KeepsOwned timer entrance request reply next ∧ Books timer next := by
  obtain ⟨taken, machine, switched, moved⟩ := switch_core books
  rw [switched] at ran
  simp only [handles, Option.ite_none_left_eq_some, Bool.not_eq_true, Bool.not_eq_false, Option.map_some,
    Option.some.injEq, Prod.mk.injEq] at ran
  obtain ⟨there, rfl, rfl⟩ := ran
  obtain ⟨same, behind⟩ := finishes taken machine
  refine keeps_of_books (books_handled books there behind ?_ ?_) (.inl rfl)
  · rw [same]
    rcases moved with takes | stays
    · exact .inl takes
    · exact .inr (.inl stays)
  · intro ready
    rcases moved with ⟨takes, _⟩ | ⟨stays, kept⟩
    · exact lua taken machine takes
    · have current : (finish (taken, { entrance with machine })).currentState = entrance.currentState :=
        congrArg (·.currentState) (same.trans kept)
      exact absurd (.inr (current.symm.trans ready)) stays

theorem switch_loaded (entrance : BeeEntrance) (lua : List Char) (ev : Int)
    (finish : Bool × BeeEntrance → BeeEntrance) :
    (({ entrance with lua } : BeeEntrance).switchState ev).map finish =
      (entrance.switchState ev).map fun (taken, next) => finish (taken, { next with lua }) := by
  rw [switchState, switchState, Option.map_map, Option.map_map]
  rfl

/-- A guarded step. -/
theorem guarded_step {timer : Bool} {entrance next : BeeEntrance} {request : EntranceRequest}
    {reply : Option BeeErrorCode} (books : Books timer entrance)
    (guarded : Guarded timer entrance request) (ran : entrance.step request = some (reply, next)) :
    KeepsOwned timer entrance request reply next ∧ Books timer next := by
  cases request with
  | start param timeout => exact start_kept books ran
  | allocates =>
    simp only [step] at ran
    split at ran
    · rename_i timeout behind
      cases ran
      have place := List.mem_singleton.mp (place_of books behind)
      exact keeps_of_books (books_between (machine_at books place) rfl (List.mem_singleton_self _)
        (by rintro ⟨⟩) (by decide)) (.inl rfl)
    · cases ran
  | initDone =>
    simp only [step] at ran
    split at ran
    · rename_i timeout behind
      have place := List.mem_singleton.mp (place_of books behind)
      exact advances_kept books place (fun _ => rfl) ran (fun _ => rfl)
        (fun _ => ⟨rfl, rfl, rfl⟩) (List.mem_singleton_self _) (by rintro ⟨⟩) (by decide)
        (fun ready => absurd ready (by decide))
    · cases ran
  | loads file =>
    simp only [step, Option.ite_none_left_eq_some, Classical.not_not] at ran
    obtain ⟨behind, ran⟩ := ran
    cases file with
    | none => exact absurd rfl guarded
    | some lua =>
      cases ran
      have place := List.mem_singleton.mp (place_of books behind)
      exact keeps_of_books (books_between (machine_at books place) rfl (List.mem_singleton_self _)
        (by rintro ⟨⟩) (by decide)) (.inl rfl)
  | getCore =>
    simp only [step, Option.ite_none_left_eq_some, Classical.not_not] at ran
    obtain ⟨behind, ran⟩ := ran
    have place := List.mem_singleton.mp (place_of books behind)
    exact advances_kept books place (fun _ => rfl) ran (fun _ => rfl)
      (fun _ => ⟨rfl, rfl, rfl⟩) (show kBeeSvcState_Getting_Core ∈ places .getting by decide)
      (by rintro ⟨⟩) (by decide) (fun ready => absurd ready (by decide))
  | gotCore =>
    simp only [step, Option.ite_none_left_eq_some, Classical.not_not] at ran
    obtain ⟨behind, ran⟩ := ran
    have place := place_of books behind
    simp only [places, List.mem_cons, List.not_mem_nil, or_false] at place
    rcases place with getting | ready
    · exact advances_kept books getting (fun _ => rfl) ran (fun _ => rfl)
        (fun _ => ⟨rfl, rfl, rfl⟩) (show kBeeSvcState_Ready ∈ places .resting by decide)
        (by rintro ⟨⟩) (by decide) (fun _ => guarded)
    · exact advances_kept books ready (fun _ => rfl) ran (fun _ => rfl)
        (fun _ => ⟨rfl, rfl, rfl⟩) (show kBeeSvcState_Ready ∈ places .resting by decide)
        (by rintro ⟨⟩) (by decide) (fun _ => guarded)
  | stop =>
    simp only [step, Option.ite_none_left_eq_some, Classical.not_not] at ran
    obtain ⟨resting, ran⟩ := ran
    have place := place_of books resting
    simp only [places, List.mem_cons, List.not_mem_nil, or_false] at place
    rcases place with idle | ready
    · rw [refused_from (machine_at books idle) _ rfl] at ran
      cases ran
      exact keeps_of_books books (.inr (.inr resting))
    · rw [switch_from (machine_at books ready) _ kBeeSvcState_Unitializing rfl] at ran
      cases ran
      exact keeps_of_books (books_between rfl rfl (List.mem_singleton_self _) (by rintro ⟨⟩) (by decide))
        (.inl rfl)
  | forceStop =>
    simp only [step, Option.ite_none_left_eq_some, Classical.not_not, Option.some.injEq,
      Prod.mk.injEq] at ran
    obtain ⟨resting, rfl, rfl⟩ := ran
    have place := place_of books resting
    simp only [places, List.mem_cons, List.not_mem_nil, or_false] at place
    refine keeps_of_books (release_kept books ?_) (.inl rfl)
    simp only [places, List.mem_cons, List.not_mem_nil, or_false]
    exact .inr place
  | releases =>
    simp only [step, Option.ite_none_left_eq_some, Classical.not_not, Option.some.injEq,
      Prod.mk.injEq] at ran
    obtain ⟨behind, rfl, rfl⟩ := ran
    have place := List.mem_singleton.mp (place_of books behind)
    refine keeps_of_books (release_kept books ?_) (.inl rfl)
    rw [place]
    decide
  | resets =>
    simp only [step, Option.ite_none_left_eq_some, Classical.not_not, Option.some.injEq,
      Prod.mk.injEq] at ran
    obtain ⟨behind, rfl, rfl⟩ := ran
    obtain ⟨ioService, sessionMgr, luaTimer, statusdTimer, caClient, statusdClient, _⟩ :=
      books.released behind
    have machine : entrance.reset.machine = inState kBeeSvcState_Idle 0 := by
      rw [reset, books.machine]
      rfl
    refine keeps_of_books (books_at machine (show _ = Calling.resting from rfl) (by decide)
      (by rintro ⟨⟩) (fun ready => absurd ready (by decide)) fun _ => ?_) (.inr (.inl rfl))
    exact ⟨ioService, sessionMgr, luaTimer, statusdTimer, caClient, statusdClient, guarded⟩
  | caData data file =>
    simp only [step, handleCaData] at ran
    simp only [Guarded] at guarded
    split at ran
    · rename_i well
      rw [if_pos well] at guarded
      exact handled_core books ran (fun _ _ => ⟨rfl, rfl⟩) fun _ _ takes => guarded takes
    · rename_i failed
      rw [if_neg failed] at guarded
      split at ran
      · rename_i empty
        obtain ⟨lua, rfl, loaded⟩ := guarded empty
        simp only [loadDefaultLua] at ran
        rw [switch_loaded] at ran
        exact handled_core books ran (fun _ _ => ⟨rfl, rfl⟩) fun _ _ takes => loaded takes
      · exact handled_quiet books ran rfl rfl rfl
  | luaMd5 md5 =>
    simp only [step, checkLuaMd5] at ran
    split at ran
    · exact handled_quiet books ran rfl rfl rfl
    · rename_i same
      simp only [not_or, Classical.not_not] at same
      exact handled_core books ran (fun _ _ => ⟨rfl, rfl⟩) fun _ _ takes => guarded same.1 same.2 takes
  | closesCaClient =>
    simp only [step, Option.ite_none_left_eq_some] at ran
    exact handled_quiet books ran.2 rfl rfl rfl
  | luaUpdateTimeout => exact handled_quiet books ran rfl rfl rfl
  | statusdTimeout logined =>
    simp only [step, Option.ite_none_left_eq_some] at ran
    exact handled_quiet books ran.2 rfl rfl rfl
  | promiseTimeout =>
    simp only [step, Option.ite_none_left_eq_some] at ran
    exact handled_quiet books ran.2 rfl rfl rfl

/-! ### What a step needs -/

/-- Where Got_Core is taken, a handler that finishes there leaves the service ready. -/
theorem core_ready {timer : Bool} {entrance next : BeeEntrance} {reply : Option BeeErrorCode}
    (books : Books timer entrance) {finish : Bool × BeeEntrance → BeeEntrance}
    (ran : entrance.handles ((entrance.switchState kBeeSvcInput_Got_Core).map finish) =
      some (reply, next)) (takes : entrance.TakesCore) :
    ∃ taken machine, next = finish (taken, { entrance with machine }) ∧
      machine = inState kBeeSvcState_Ready entrance.currentState := by
  obtain ⟨taken, machine, switched, ⟨_, ready⟩ | ⟨stays, _⟩⟩ := switch_core books
  · rw [switched] at ran
    simp only [handles, Option.ite_none_left_eq_some, Option.map_some, Option.some.injEq,
      Prod.mk.injEq] at ran
    obtain ⟨_, _, rfl⟩ := ran
    exact ⟨taken, machine, rfl, ready⟩
  · exact absurd takes stays

theorem ready_of_machine {entrance : BeeEntrance} {last : Int}
    (machine : entrance.machine = inState kBeeSvcState_Ready last) :
    entrance.currentState = kBeeSvcState_Ready := by
  rw [currentState, machine]
  rfl

/-- A step that keeps what the states own is guarded. -/
theorem guarded_of_keeps {timer : Bool} {entrance next : BeeEntrance} {request : EntranceRequest}
    {reply : Option BeeErrorCode} (books : Books timer entrance)
    (ran : entrance.step request = some (reply, next))
    (kept : KeepsOwned timer entrance request reply next) : Guarded timer entrance request := by
  cases request with
  | loads file =>
    rintro rfl
    simp only [step, Option.ite_none_left_eq_some, Classical.not_not] at ran
    obtain ⟨behind, ran⟩ := ran
    cases ran
    have failed : BeeErrorCode.engineScriptError ≠ .success := by decide
    have idle := kept.undone _ rfl failed (by rw [behind]; decide)
    have place : entrance.currentState = kBeeSvcState_Initializd := List.mem_singleton.mp (place_of books behind)
    exact absurd (place.symm.trans idle) (by decide)
  | gotCore =>
    intro empty
    simp only [step, Option.ite_none_left_eq_some, Classical.not_not] at ran
    obtain ⟨behind, ran⟩ := ran
    have place := place_of books behind
    simp only [places, List.mem_cons, List.not_mem_nil, or_false] at place
    rcases place with getting | ready
    · rw [advances_taken (machine_at books getting) _ kBeeSvcState_Ready rfl] at ran
      cases ran
      exact kept.owned.ready rfl empty
    · rw [advances_taken (machine_at books ready) _ kBeeSvcState_Ready rfl] at ran
      cases ran
      exact kept.owned.ready rfl empty
  | resets =>
    intro counts
    simp only [step, Option.ite_none_left_eq_some, Classical.not_not, Option.some.injEq,
      Prod.mk.injEq] at ran
    obtain ⟨_, _, rfl⟩ := ran
    exact (kept.owned.idle rfl).promise counts
  | caData data file =>
    simp only [step, handleCaData] at ran
    simp only [Guarded]
    split at ran
    · rename_i well
      rw [if_pos well]
      intro takes empty
      obtain ⟨_, _, rfl, machine⟩ := core_ready books ran takes
      exact kept.owned.ready (ready_of_machine machine) empty
    · rename_i failed
      rw [if_neg failed]
      intro empty
      rw [if_pos empty] at ran
      cases file with
      | none =>
        simp only [loadDefaultLua, handles, Option.ite_none_left_eq_some, Bool.not_eq_true,
          Bool.not_eq_false, Option.map_some, Option.some.injEq, Prod.mk.injEq] at ran
        obtain ⟨there, _, rfl⟩ := ran
        have gone := (kept.owned.idle rfl).ioService
        exact Bool.noConfusion (there.symm.trans gone)
      | some lua =>
        refine ⟨lua, rfl, fun takes nothing => ?_⟩
        simp only [loadDefaultLua] at ran
        rw [switch_loaded] at ran
        obtain ⟨_, _, rfl, machine⟩ := core_ready books ran takes
        exact kept.owned.ready (ready_of_machine machine) nothing
  | luaMd5 md5 =>
    intro given same takes empty
    simp only [step, checkLuaMd5] at ran
    rw [if_neg (not_or.mpr ⟨given, Classical.not_not.mpr same⟩)] at ran
    obtain ⟨_, _, rfl, machine⟩ := core_ready books ran takes
    exact kept.owned.ready (ready_of_machine machine) empty
  | start | allocates | initDone | getCore | stop | forceStop | releases | closesCaClient
  | luaUpdateTimeout | statusdTimeout | promiseTimeout => trivial

/-- In every run, whichever thread goes on when, each state owns what it should and no call fails
behind its first line without leaving the service idle, exactly when every step is guarded; and so
it is with the timer of the init promise among what the service owns. -/
theorem owned_iff (timer : Bool) (requests : List EntranceRequest)
    (replies : List (Option BeeErrorCode)) (final : BeeEntrance)
    (ran : run step constructed requests = some (replies, final)) :
    AllTaken step (KeepsOwned timer) constructed requests ↔
      AllSteps step (Guarded timer) constructed requests := by
  apply taken_iff_of_defined (Books timer) _ _ (books_start timer) ran
  · intro entrance request reply next books taken
    exact ⟨guarded_of_keeps books taken, fun guarded => (guarded_step books guarded taken).1⟩
  · intro entrance request reply next books guarded taken
    exact (guarded_step books guarded taken).2

/-- A service that starts, hears of the CA, is stopped and starts again. -/
theorem started_again :
    ((run step constructed [.start ⟨1, true⟩ 5, .allocates, .statusdTimeout false, .initDone,
        .loads (some ['l']), .getCore, .gotCore, .promiseTimeout, .luaUpdateTimeout,
        .caData ⟨.success, .none, ['m'], ['5'], [], 0⟩ none, .closesCaClient, .luaMd5 ['5'],
        .stop, .releases, .resets, .start ⟨1, false⟩ 0, .allocates, .initDone,
        .loads (some ['l']), .getCore, .gotCore]).map fun ran => (ran.1.filterMap id, ran.2.lua)) =
      some ([.success, .success, .success], ['l']) ∧
    AllTaken step (KeepsOwned true) constructed [.start ⟨1, true⟩ 5, .allocates,
        .statusdTimeout false, .initDone, .loads (some ['l']), .getCore, .gotCore, .promiseTimeout, .luaUpdateTimeout,
        .caData ⟨.success, .none, ['m'], ['5'], [], 0⟩ none, .closesCaClient, .luaMd5 ['5'],
        .stop, .releases, .resets, .start ⟨1, false⟩ 0, .allocates, .initDone,
        .loads (some ['l']), .getCore, .gotCore] :=
  ⟨rfl, (owned_iff true _ _ _ rfl).mpr (by decide)⟩

/-- Without a local script `start` fails and leaves the service initialized. -/
theorem start_left :
    ¬ ∀ (requests : List EntranceRequest) (replies : List (Option BeeErrorCode)) (final : BeeEntrance),
      run step constructed requests = some (replies, final) →
        AllTaken step (KeepsOwned false) constructed requests := by
  intro always
  have kept := always [.start ⟨1, false⟩ 0, .allocates, .initDone, .loads none] _ _ rfl
  obtain ⟨_, _, first, _, _, _, second, _, _, _, third, _, _, _, fourth, keeps, _⟩ := kept
  cases first
  cases second
  cases third
  cases fourth
  exact absurd (keeps.undone .engineScriptError rfl (by decide) (by decide)) (by decide)

end BeeSdk.BeeEntrance
