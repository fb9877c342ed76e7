import BeeSdk.BeeEntranceProofs

/-! What a start leaves behind that is refused. `start` saves its parameters and its sink before
the machine is asked, and its last lines are the same for every failure, so a service that is
already there is not left alone. -/
namespace BeeSdk
open StateMachine Runs

/-- `BeeSystemParam`, as far as `start` keeps it; a string may be NULL. -/
structure BeeSystemParam where
  platformType : Int := 0
  netType : Int := 0
  appName : Option (List Char) := none
  appVersion : Option (List Char) := none
  systemInfo : Option (List Char) := none
  machineCode : Option (List Char) := none
  logPath : Option (List Char) := none
  logLevel : Int := 0
  logMaxLine : Int := 0
  logVolumeCount : Int := 0
  logVolumeSize : Int := 0
  sessionCount : Nat := 0
  enableStatusd : Bool := false
  deriving DecidableEq

/-- `sys_param_`. -/
structure SavedParam where
  platformType : Int := 0
  netType : Int := 0
  appName : List Char := []
  appVersion : List Char := []
  systemInfo : List Char := []
  machineCode : List Char := []
  logLevel : Int := 0
  logMaxLine : Int := 0
  logVolumeCount : Int := 0
  logVolumeSize : Int := 0
  logPath : List Char := []
  sessionCount : Nat := 0
  enableStatusd : Bool := false
  deriving DecidableEq

/-- The parameters as they are saved: NULL becomes an empty string. -/
def BeeSystemParam.saved (param : BeeSystemParam) : SavedParam where
  platformType := param.platformType
  netType := param.netType
  appName := param.appName.getD []
  appVersion := param.appVersion.getD []
  systemInfo := param.systemInfo.getD []
  machineCode := param.machineCode.getD []
  logLevel := param.logLevel
  logMaxLine := param.logMaxLine
  logVolumeCount := param.logVolumeCount
  logVolumeSize := param.logVolumeSize
  logPath := param.logPath.getD []
  sessionCount := param.sessionCount
  enableStatusd := param.enableStatusd

/-- What the service itself reads of them. -/
def BeeSystemParam.kept (param : BeeSystemParam) : SystemParam :=
  ⟨param.sessionCount, param.enableStatusd⟩

/-- The service beside all that `save_param` writes. -/
structure SavingEntrance (Sink : Type) where
  entrance : BeeEntrance
  sysParam : SavedParam := {}
  sink : Option Sink := none

inductive SavingRequest (Sink : Type) where
  /-- A call of `start`, by any thread. -/
  | start (param : BeeSystemParam) (sink : Option Sink) (timeout : Int)
  | goes (request : EntranceRequest)

namespace SavingEntrance
open BeeEntrance

variable {Sink : Type} {service next final : SavingEntrance Sink}

def constructed : SavingEntrance Sink := { entrance := BeeEntrance.constructed }

def saveParam (service : SavingEntrance Sink) (param : BeeSystemParam) (sink : Option Sink) :
    SavingEntrance Sink :=
  { entrance := { service.entrance with sysParam := param.kept }, sysParam := param.saved, sink }

/-- `start` up to its first event, and its last lines if that is refused. Where another call is
remains as it was. -/
def start (service : SavingEntrance Sink) (param : BeeSystemParam) (sink : Option Sink)
    (timeout : Int) : Option (Option BeeErrorCode × SavingEntrance Sink) :=
  let service := service.saveParam param sink
  (service.entrance.switchState kBeeSvcInput_DoInit).map fun (taken, entrance) =>
    if taken then (none, { service with entrance := { entrance with calling := .entered timeout } })
    else
      let (ret, left) := entrance.leaves .invalidState
      (some ret, { service with entrance := { left with calling := entrance.calling } })

/-- One step of a thread. Two calls that are both past the first event of `start` are not
followed. -/
def step (service : SavingEntrance Sink) :
    SavingRequest Sink → Option (Option BeeErrorCode × SavingEntrance Sink)
  | .start param sink timeout =>
    if service.entrance.calling ≠ .resting ∧ service.entrance.currentState = kBeeSvcState_Idle then none
    else service.start param sink timeout
  | .goes (.start ..) => none
  | .goes request => (service.entrance.step request).map fun (reply, entrance) =>
    (reply, { service with entrance })

/-- An event changes the machine alone. -/
theorem switched_machine {entrance after : BeeEntrance} {ev : Int} {taken : Bool}
    (switched : entrance.switchState ev = some (taken, after)) :
    after = { entrance with machine := after.machine } ∧
      entrance.machine.switchState ev = some (taken, after.machine) := by
  rw [BeeEntrance.switchState, Option.map_eq_some_iff] at switched
  obtain ⟨⟨_, machine⟩, happens, shape⟩ := switched
  cases shape
  exact ⟨rfl, happens⟩

/-- A start between two calls is that of the service. -/
theorem start_entrance (service : SavingEntrance Sink) (param : BeeSystemParam) (sink : Option Sink)
    (timeout : Int) (resting : service.entrance.calling = .resting) :
    (service.start param sink timeout).map (fun (reply, after) => (reply, after.entrance)) =
      service.entrance.step (.start param.kept timeout) := by
  have same : (service.saveParam param sink).entrance =
    { service.entrance with sysParam := param.kept } := rfl
  rw [start, BeeEntrance.step, if_neg (fun other => other resting), advances, same]
  cases taken : { service.entrance with sysParam := param.kept }.switchState kBeeSvcInput_DoInit with
  | none => rfl
  | some switched =>
    obtain ⟨done, entrance⟩ := switched
    have calling : entrance.calling = .resting := by
      rw [(switched_machine taken).1]
      exact resting
    cases done with
    | true => rfl
    | false =>
      simp only [Option.map_some, goesOn, Bool.false_eq_true, if_false]
      have left : (entrance.leaves .invalidState).2.calling = .resting := rfl
      rw [if_pos left, calling]
      rfl

/-! ### The table stays as it was filled -/

/-- The states of the table. -/
def listed : List Int :=
  [kBeeSvcState_Idle, kBeeSvcState_Initializing, kBeeSvcState_Initializd, kBeeSvcState_Getting_Core,
    kBeeSvcState_Ready, kBeeSvcState_Unitializing]

/-- The machine has its table and is in a state of it. -/
def Filled (machine : SimpleStateMachine) : Prop :=
  ∃ state ∈ listed, ∃ last, machine = inState state last

theorem filled_reset {machine : SimpleStateMachine} (filled : Filled machine) :
    Filled machine.resetState := by
  obtain ⟨state, _, last, rfl⟩ := filled
  exact ⟨kBeeSvcState_Idle, List.mem_cons_self, 0, rfl⟩

/-- The table leads to its own states only. -/
theorem entry_listed : ∀ state ∈ listed, ∀ ev ∈ List.range 7, ∀ next ∈ (inState state 0).entry state ev,
    next = kInvalidSimpleState ∨ next ∈ listed := by
  decide

theorem filled_switch {machine after : SimpleStateMachine} {ev : Int} {taken : Bool}
    (filled : Filled machine) (switched : machine.switchState ev = some (taken, after)) :
    Filled after := by
  obtain ⟨state, inside, last, rfl⟩ := filled
  rw [SimpleStateMachine.switchState] at switched
  split at switched
  · cases switched
    exact ⟨state, inside, last, rfl⟩
  · rename_i known
    have count : (inState state last).inputCount = 7 := rfl
    rw [count] at known
    have event : ev.toNat ∈ List.range 7 := List.mem_range.mpr (by omega)
    have whole : (ev.toNat : Int) = ev := Int.toNat_of_nonneg (by omega)
    rw [Option.map_eq_some_iff] at switched
    obtain ⟨next, reads, shape⟩ := switched
    have leads := entry_listed state inside ev.toNat event next (by rw [whole]; exact reads)
    split at shape
    · cases shape
      exact ⟨state, inside, last, rfl⟩
    · rename_i valid
      cases shape
      exact ⟨next, leads.resolve_left valid, state, rfl⟩

theorem filled_switched {entrance after : BeeEntrance} {ev : Int} {taken : Bool}
    (filled : Filled entrance.machine) (switched : entrance.switchState ev = some (taken, after)) :
    Filled after.machine :=
  filled_switch filled (switched_machine switched).2

theorem filled_leaves {entrance : BeeEntrance} (ret : BeeErrorCode) (filled : Filled entrance.machine) :
    Filled (entrance.leaves ret).2.machine := by
  unfold leaves
  split <;> exact filled

/-- A line of `start` behind an event. -/
theorem filled_advances {entrance after : BeeEntrance} {ev : Int}
    {goes : BeeEntrance → BeeErrorCode × BeeEntrance} {reply : Option BeeErrorCode}
    (filled : Filled entrance.machine)
    (keeps : ∀ entrance : BeeEntrance, Filled entrance.machine → Filled (goes entrance).2.machine)
    (taken : (entrance.advances ev goes).map goesOn = some (reply, after)) : Filled after.machine := by
  simp only [advances, Option.map_map, Option.map_eq_some_iff] at taken
  obtain ⟨⟨happens, entrance⟩, switched, shape⟩ := taken
  have still := filled_switched filled switched
  have same := congrArg (fun told => told.2.machine) shape
  simp only [Function.comp_apply, goesOn] at same
  rw [← same]
  split
  · exact keeps _ still
  · exact filled_leaves _ still

/-- A handler that behind its event changes no machine. -/
theorem filled_handles {entrance after : BeeEntrance} {next : Option BeeEntrance}
    {reply : Option BeeErrorCode} (keeps : ∀ entrance ∈ next, Filled entrance.machine)
    (taken : entrance.handles next = some (reply, after)) : Filled after.machine := by
  unfold handles at taken
  split at taken
  · cases taken
  · rw [Option.map_eq_some_iff] at taken
    obtain ⟨_, there, shape⟩ := taken
    cases shape
    exact keeps _ there

theorem filled_core {entrance after : BeeEntrance} {ev : Int} {goes : Bool × BeeEntrance → BeeEntrance}
    (filled : Filled entrance.machine) (taken : (entrance.switchState ev).map goes = some after)
    (same : ∀ switched, (goes switched).machine = switched.2.machine) : Filled after.machine := by
  rw [Option.map_eq_some_iff] at taken
  obtain ⟨⟨_, entrance⟩, switched, rfl⟩ := taken
  rw [same]
  exact filled_switched filled switched

theorem filled_ca_data {entrance after : BeeEntrance} {data : CaData} {file : Option (List Char)}
    (filled : Filled entrance.machine) (taken : entrance.handleCaData data file = some after) :
    Filled after.machine := by
  unfold handleCaData at taken
  split at taken
  · exact filled_core filled taken fun _ => rfl
  · split at taken
    · cases file with
      | none =>
        cases taken
        exact filled_reset filled
      | some lua =>
        simp only [loadDefaultLua] at taken
        exact @filled_core { entrance with lua } _ _ _ filled taken fun _ => rfl
    · cases taken
      exact filled

theorem filled_lua_md5 {entrance after : BeeEntrance} {md5 : List Char}
    (filled : Filled entrance.machine) (taken : entrance.checkLuaMd5 md5 = some after) :
    Filled after.machine := by
  unfold checkLuaMd5 at taken
  split at taken
  · cases taken
    exact filled
  · exact filled_core filled taken fun _ => rfl

theorem filled_step {entrance after : BeeEntrance} {request : EntranceRequest}
    {reply : Option BeeErrorCode} (filled : Filled entrance.machine)
    (taken : entrance.step request = some (reply, after)) : Filled after.machine := by
  cases request with
  | start param timeout =>
    simp only [BeeEntrance.step] at taken
    split at taken
    · cases taken
    · exact @filled_advances { entrance with sysParam := param } _ _ _ _ filled
        (fun _ same => same) taken
  | allocates =>
    simp only [BeeEntrance.step] at taken
    split at taken
    · cases taken
      exact filled
    · cases taken
  | initDone =>
    simp only [BeeEntrance.step] at taken
    split at taken
    · exact filled_advances filled (fun _ same => same) taken
    · cases taken
  | loads file =>
    simp only [BeeEntrance.step] at taken
    split at taken
    · cases taken
    · cases file with
      | none =>
        cases taken
        exact filled_leaves _ filled
      | some lua =>
        cases taken
        exact filled
  | getCore =>
    simp only [BeeEntrance.step] at taken
    split at taken
    · cases taken
    · exact filled_advances filled (fun _ same => same) taken
  | gotCore =>
    simp only [BeeEntrance.step] at taken
    split at taken
    · cases taken
    · exact filled_advances filled (fun _ same => filled_leaves _ same) taken
  | stop =>
    simp only [BeeEntrance.step] at taken
    split at taken
    · cases taken
    · rw [Option.map_eq_some_iff] at taken
      obtain ⟨⟨happens, entrance⟩, switched, shape⟩ := taken
      have still := filled_switched filled switched
      cases happens <;> cases shape <;> exact still
  | forceStop | releases =>
    simp only [BeeEntrance.step] at taken
    split at taken
    · cases taken
    · cases taken
      exact filled
  | resets =>
    simp only [BeeEntrance.step] at taken
    split at taken
    · cases taken
    · cases taken
      exact filled_reset filled
  | caData data file => exact filled_handles (fun _ there => filled_ca_data filled there) taken
  | luaMd5 md5 => exact filled_handles (fun _ there => filled_lua_md5 filled there) taken
  | luaUpdateTimeout =>
    refine filled_handles (fun _ there => ?_) taken
    cases there
    exact filled
  | closesCaClient | statusdTimeout | promiseTimeout =>
    simp only [BeeEntrance.step] at taken
    split at taken
    · cases taken
    · refine filled_handles (fun _ there => ?_) taken
      cases there
      exact filled

theorem filled_saving {request : SavingRequest Sink} {reply : Option BeeErrorCode}
    (filled : Filled service.entrance.machine) (taken : service.step request = some (reply, next)) :
    Filled next.entrance.machine := by
  cases request with
  | start param sink timeout =>
    simp only [step] at taken
    split at taken
    · cases taken
    · rw [start, Option.map_eq_some_iff] at taken
      obtain ⟨⟨happens, entrance⟩, switched, shape⟩ := taken
      have still := @filled_switched (service.saveParam param sink).entrance _ _ _ filled switched
      cases happens <;> cases shape <;> exact still
  | goes request =>
    have goes : (service.entrance.step request).map (fun (reply, entrance) =>
        (reply, { service with entrance })) = some (reply, next) := by
      cases request with
      | start => cases taken
      | allocates | initDone | loads | getCore | gotCore | stop | forceStop | releases | resets
      | caData | luaMd5 | closesCaClient | luaUpdateTimeout | statusdTimeout | promiseTimeout =>
        exact taken
    rw [Option.map_eq_some_iff] at goes
    obtain ⟨⟨_, entrance⟩, does, shape⟩ := goes
    cases shape
    exact filled_step filled does

/-! ### What a refused start changes -/

/-- Nothing has changed that a running service depends on. -/
structure Untouched (before after : SavingEntrance Sink) : Prop where
  sysParam : after.sysParam = before.sysParam
  sink : after.sink = before.sink
  initPromise : after.entrance.initPromise = before.entrance.initPromise
  luaUpdateTimer : after.entrance.luaUpdateTimer = before.entrance.luaUpdateTimer
  machine : after.entrance.machine = before.entrance.machine

/-- The condition: the start says nothing new, and there is no promise to honor and no timer to
stop. -/
def SaysAgain (service : SavingEntrance Sink) (param : BeeSystemParam) (sink : Option Sink) : Prop :=
  param.saved = service.sysParam ∧ sink = service.sink ∧ service.entrance.initPromise = none ∧
    service.entrance.luaUpdateTimer = false

/-- Only DoInit in Idle is taken. -/
theorem init_refused {entrance : BeeEntrance} (filled : Filled entrance.machine)
    (busy : entrance.currentState ≠ kBeeSvcState_Idle) :
    entrance.switchState kBeeSvcInput_DoInit = some (false, entrance) := by
  obtain ⟨state, inside, last, machine⟩ := filled
  have at_state : entrance.currentState = state := by rw [BeeEntrance.currentState, machine]; rfl
  rw [at_state] at busy
  apply refused_from machine
  simp only [listed, List.mem_cons, List.not_mem_nil, or_false] at inside
  rcases inside with rfl | rfl | rfl | rfl | rfl | rfl
  · exact absurd rfl busy
  all_goals rfl

/-- What a refused start leaves. -/
def refused (service : SavingEntrance Sink) (param : BeeSystemParam) (sink : Option Sink) :
    SavingEntrance Sink :=
  { service.saveParam param sink with
    entrance := { service.entrance with
      sysParam := param.kept, initPromise := none, luaUpdateTimer := false } }

theorem start_refused (filled : Filled service.entrance.machine)
    (busy : service.entrance.currentState ≠ kBeeSvcState_Idle) (param : BeeSystemParam)
    (sink : Option Sink) (timeout : Int) :
    service.start param sink timeout = some (some .invalidState, service.refused param sink) := by
  have refuses := @init_refused (service.saveParam param sink).entrance filled busy
  rw [start, refuses]
  rfl

theorem untouched_iff (service : SavingEntrance Sink) (param : BeeSystemParam) (sink : Option Sink) :
    Untouched service (service.refused param sink) ↔ SaysAgain service param sink := by
  constructor
  · intro untouched
    exact ⟨untouched.sysParam, untouched.sink, untouched.initPromise.symm,
      untouched.luaUpdateTimer.symm⟩
  · rintro ⟨same, sink, promise, timer⟩
    exact ⟨same, sink, promise.symm, timer.symm, rfl⟩

/-- Wherever a run has come to, a start of a service that is not Idle is refused, and it leaves
alone what the service depends on exactly when it says again what was said before and finds neither
a promise nor a timer. -/
theorem refused_untouched_iff (requests : List (SavingRequest Sink))
    (replies : List (Option BeeErrorCode))
    (ran : run step constructed requests = some (replies, service))
    (busy : service.entrance.currentState ≠ kBeeSvcState_Idle) (param : BeeSystemParam)
    (sink : Option Sink) (timeout : Int) :
    ∃ after, service.start param sink timeout = some (some .invalidState, after) ∧
      (Untouched service after ↔ SaysAgain service param sink) := by
  have filled : Filled service.entrance.machine :=
    run_preserves (fun service : SavingEntrance Sink => Filled service.entrance.machine)
      (fun _ _ _ _ filled taken => filled_saving filled taken)
      ⟨kBeeSvcState_Idle, List.mem_cons_self, 0, constructed_machine⟩ ran
  exact ⟨_, start_refused filled busy param sink timeout, untouched_iff service param sink⟩

/-- A service that was started with the local script, and what started it. -/
def startedRequests : List (SavingRequest Nat) :=
  [.start { sessionCount := 1 } (some 7) 5, .goes .allocates, .goes .initDone, .goes (.loads (some ['l'])),
    .goes .getCore, .goes .gotCore]

/-- Its promise is still there: the same start again takes it, the one after that nothing. -/
theorem refused_twice :
    ∃ replies service after,
      run step constructed (startedRequests ++ [.start { sessionCount := 1 } (some 7) 5]) =
        some (replies, service) ∧
      service.start { sessionCount := 1 } (some 7) 5 = some (some .invalidState, after) ∧
      Untouched service after := by
  have ran : run step constructed (startedRequests ++ [.start { sessionCount := 1 } (some 7) 5]) =
      some (_, _) := rfl
  obtain ⟨after, refuses, untouched⟩ := refused_untouched_iff _ _ ran (by decide)
    { sessionCount := 1 } (some 7) 5
  exact ⟨_, _, after, ran, refuses, untouched.mpr ⟨rfl, rfl, rfl, rfl⟩⟩

/-- A refused start with another sink and other parameters takes the place of the first. -/
theorem refused_replaces :
    ¬ ∀ (requests : List (SavingRequest Nat)) (replies : List (Option BeeErrorCode))
        (service after : SavingEntrance Nat) (param : BeeSystemParam) (sink : Option Nat) (timeout : Int),
      run step constructed requests = some (replies, service) →
        service.start param sink timeout = some (some .invalidState, after) →
          Untouched service after := by
  intro always
  have kept := always startedRequests _ _ _ { sessionCount := 2 } none 5 rfl rfl
  exact absurd kept.sink (by decide)

end SavingEntrance
end BeeSdk
