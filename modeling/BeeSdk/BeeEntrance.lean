import BeeSdk.Runs
import BeeSdk.SimpleStateMachine
import BeeSdk.StateMachine

/-! `BeeEntrance`: the service with its machine, the script and what it has created. `start` and
`stop` are cut where the thread of the io service may come between; the script is the local
one, as the build has it, and what the CA sends may come whenever that thread is there. -/
namespace BeeSdk
open StateMachine

def kBeeSvcInput_DoInit : Int := 0
def kBeeSvcInput_InitDone : Int := 1
def kBeeSvcInput_Get_Core : Int := 2
def kBeeSvcInput_Got_Core : Int := 3
def kBeeSvcInput_Execute : Int := 4
def kBeeSvcInput_DoUninit : Int := 5
def kBeeSvcInput_UninitDone : Int := 6
def kBeeSvcInput_Count : Int := 7

def kBeeSvcState_Idle : Int := 0
def kBeeSvcState_Initializing : Int := 1
def kBeeSvcState_Initializd : Int := 2
def kBeeSvcState_Getting_Core : Int := 3
def kBeeSvcState_Ready : Int := 4
def kBeeSvcState_Unitializing : Int := 5
def kBeeSvcState_Count : Int := 6

/-- What `save_param` keeps, as far as it is read here. -/
structure SystemParam where
  sessionCount : Nat := 0
  enableStatusd : Bool := false
  deriving DecidableEq

/-- Where the thread is that calls `start` and `stop`: between two calls, behind one of the lines
of `start`, or of `stop`. -/
inductive Calling where
  | resting
  | entered (timeout : Int)
  | allocated (timeout : Int)
  | promised
  | loaded
  | getting
  | stopping
  | released
  deriving DecidableEq

/-- Of what is created it matters whether it is there; of the promise, whether its timer waits. The
session manager is known by the count it was given. `closing` counts the calls of
`close_ca_client` posted. -/
structure BeeEntrance where
  machine : SimpleStateMachine
  sysParam : SystemParam := {}
  lua : List Char := []
  luaName : List Char := "new_live".toList
  luaMd5 : List Char := []
  gslbKey : List Char := []
  gslbTs : Nat := 0
  sessionMgr : Option Nat := none
  ioService : Bool := false
  luaUpdateTimer : Bool := false
  statusdTimer : Bool := false
  caClient : Bool := false
  statusdClient : Bool := false
  initPromise : Option Bool := none
  closing : Nat := 0
  calling : Calling := .resting
  deriving DecidableEq

/-- What the CA client reports. -/
structure CaData where
  ec1 : BeeErrorCode
  ec2 : ErrorCode
  lua : List Char
  md5 : List Char
  gslbKey : List Char
  gslbTs : Nat
  deriving DecidableEq

inductive EntranceRequest where
  | start (param : SystemParam) (timeout : Int)
  | allocates
  | initDone
  /-- The local script, if there is one to be opened. -/
  | loads (file : Option (List Char))
  | getCore
  | gotCore
  | stop
  | forceStop
  | releases
  | resets
  | caData (data : CaData) (file : Option (List Char))
  | luaMd5 (md5 : List Char)
  | closesCaClient
  | luaUpdateTimeout
  | statusdTimeout (logined : Bool)
  | promiseTimeout
  deriving DecidableEq

namespace BeeEntrance

/-- The transitions `init_state_machine` lists: state, event, next state. -/
def transitions : List (Int × Int × Int) :=
  [(kBeeSvcState_Idle, kBeeSvcInput_DoInit, kBeeSvcState_Initializing),
    (kBeeSvcState_Initializing, kBeeSvcInput_InitDone, kBeeSvcState_Initializd),
    (kBeeSvcState_Initializing, kBeeSvcInput_DoUninit, kBeeSvcState_Unitializing),
    (kBeeSvcState_Initializd, kBeeSvcInput_Get_Core, kBeeSvcState_Getting_Core),
    (kBeeSvcState_Initializd, kBeeSvcInput_DoUninit, kBeeSvcState_Unitializing),
    (kBeeSvcState_Getting_Core, kBeeSvcInput_Got_Core, kBeeSvcState_Ready),
    (kBeeSvcState_Getting_Core, kBeeSvcInput_DoUninit, kBeeSvcState_Unitializing),
    (kBeeSvcState_Ready, kBeeSvcInput_Execute, kBeeSvcState_Ready),
    (kBeeSvcState_Ready, kBeeSvcInput_Got_Core, kBeeSvcState_Ready),
    (kBeeSvcState_Ready, kBeeSvcInput_DoUninit, kBeeSvcState_Unitializing),
    (kBeeSvcState_Unitializing, kBeeSvcInput_UninitDone, kBeeSvcState_Idle)]

def initStateMachine (entrance : BeeEntrance) : BeeEntrance :=
  let invalid := { entrance.machine with
    stateMachine := entrance.machine.stateMachine.map fun row => row.map fun _ => kInvalidSimpleState }
  let machine := transitions.foldl
    (fun machine (state, ev, next) => machine.assign state ev next) invalid
  { entrance with machine }

/-- `instance` makes it and fills its table. -/
def constructed : BeeEntrance :=
  { machine := .constructed kBeeSvcState_Count kBeeSvcInput_Count : BeeEntrance }.initStateMachine

def currentState (entrance : BeeEntrance) : Int := entrance.machine.currentState

def switchState (entrance : BeeEntrance) (ev : Int) : Option (Bool × BeeEntrance) :=
  (entrance.machine.switchState ev).map fun (taken, machine) => (taken, { entrance with machine })

/-- `reset`. -/
def reset (entrance : BeeEntrance) : BeeEntrance :=
  { entrance with machine := entrance.machine.resetState }

/-- The last lines of `start`. -/
def leaves (entrance : BeeEntrance) (ret : BeeErrorCode) : BeeErrorCode × BeeEntrance :=
  if ret = .success then (ret, { entrance with calling := .resting })
  else (ret, { entrance with initPromise := none, luaUpdateTimer := false, calling := .resting })

/-- The next line of `start`, behind an event that the machine has to take. -/
def advances (entrance : BeeEntrance) (ev : Int)
    (next : BeeEntrance → BeeErrorCode × BeeEntrance) : Option (BeeErrorCode × BeeEntrance) :=
  (entrance.switchState ev).map fun (taken, entrance) =>
    if taken then next entrance else entrance.leaves .invalidState

/-- `load_default_lua`. -/
def loadDefaultLua (entrance : BeeEntrance) : Option (List Char) → Bool × BeeEntrance
  | none => (false, entrance)
  | some lua => (true, { entrance with lua })

/-- `force_stop`, up to `reset`. The posted calls go with the io service. -/
def release (entrance : BeeEntrance) : BeeEntrance :=
  { entrance with
    luaUpdateTimer := false, statusdTimer := false, sessionMgr := none, ioService := false
    caClient := false, statusdClient := false, closing := 0, calling := .released }

/-- The promise is honored and let go of, and the CA client is closed later. -/
def settles (entrance : BeeEntrance) : BeeEntrance :=
  { entrance with initPromise := none, closing := entrance.closing + 1 }

def handleCaData (entrance : BeeEntrance) (data : CaData) (file : Option (List Char)) :
    Option BeeEntrance :=
  if data.ec1 = .success ∧ data.ec2 = .none then
    (entrance.switchState kBeeSvcInput_Got_Core).map fun (_, entrance) =>
      { entrance with
        lua := data.lua, luaName := "new_live".toList, luaMd5 := data.md5
        gslbKey := data.gslbKey, gslbTs := data.gslbTs }.settles
  else if entrance.lua = [] then
    match entrance.loadDefaultLua file with
    | (true, entrance) => (entrance.switchState kBeeSvcInput_Got_Core).map fun (_, entrance) =>
      { entrance with luaName := "local".toList }.settles
    | (false, entrance) => some { entrance.reset with luaUpdateTimer := false }.settles
  else some entrance.settles

def checkLuaMd5 (entrance : BeeEntrance) (md5 : List Char) : Option BeeEntrance :=
  if md5 = [] ∨ md5 ≠ entrance.luaMd5 then some entrance
  else (entrance.switchState kBeeSvcInput_Got_Core).map fun (_, entrance) => entrance.settles

/-- A handler of the io service's thread. -/
def handles (entrance : BeeEntrance) (next : Option BeeEntrance) :
    Option (Option BeeErrorCode × BeeEntrance) :=
  if ¬ entrance.ioService then none else next.map fun next => (none, next)

/-- A line of `start` or `stop`, with what the call returns if it does. -/
def goesOn (next : BeeErrorCode × BeeEntrance) : Option BeeErrorCode × BeeEntrance :=
  (if next.2.calling = .resting then some next.1 else none, next.2)

/-- One step of either thread, with what a call of `start` or `stop` returns there. -/
def step (entrance : BeeEntrance) : EntranceRequest → Option (Option BeeErrorCode × BeeEntrance)
  | .start param timeout =>
    if entrance.calling ≠ .resting then none
    else
      ({ entrance with sysParam := param }.advances kBeeSvcInput_DoInit fun entrance =>
        (.success, { entrance with calling := .entered timeout })).map goesOn
  | .allocates => match entrance.calling with
    | .entered timeout => some (none, { entrance with
        sessionMgr := some (entrance.sessionMgr.getD entrance.sysParam.sessionCount)
        ioService := true
        statusdTimer := entrance.statusdTimer || entrance.sysParam.enableStatusd
        calling := .allocated timeout })
    | _ => none
  | .initDone => match entrance.calling with
    | .allocated timeout => (entrance.advances kBeeSvcInput_InitDone fun entrance =>
        (.success, { entrance with
          initPromise := some (timeout > 0), calling := .promised })).map goesOn
    | _ => none
  | .loads file =>
    if entrance.calling ≠ .promised then none
    else match entrance.loadDefaultLua file with
      | (true, entrance) => some (none, { entrance with calling := .loaded })
      | (false, entrance) => some (goesOn (entrance.leaves .engineScriptError))
  | .getCore =>
    if entrance.calling ≠ .loaded then none
    else (entrance.advances kBeeSvcInput_Get_Core fun entrance =>
      (.success, { entrance with calling := .getting })).map goesOn
  | .gotCore =>
    if entrance.calling ≠ .getting then none
    else (entrance.advances kBeeSvcInput_Got_Core fun entrance => entrance.leaves .success).map goesOn
  | .stop =>
    if entrance.calling ≠ .resting then none
    else (entrance.switchState kBeeSvcInput_DoUninit).map fun (taken, entrance) =>
      if taken then (none, { entrance with calling := .stopping })
      else (some .invalidState, entrance)
  | .forceStop => if entrance.calling ≠ .resting then none else some (none, entrance.release)
  | .releases => if entrance.calling ≠ .stopping then none else some (none, entrance.release)
  | .resets =>
    if entrance.calling ≠ .released then none
    else some (some .success, { entrance.reset with calling := .resting })
  | .caData data file => entrance.handles (entrance.handleCaData data file)
  | .luaMd5 md5 => entrance.handles (entrance.checkLuaMd5 md5)
  | .closesCaClient =>
    if entrance.closing = 0 then none
    else entrance.handles (some { entrance with
      caClient := false, closing := entrance.closing - 1 })
  | .luaUpdateTimeout => entrance.handles (some { entrance with caClient := true })
  | .statusdTimeout logined =>
    if ¬ entrance.statusdTimer then none
    else entrance.handles (some { entrance with
      statusdClient := entrance.statusdClient || (entrance.sysParam.enableStatusd && ! logined) })
  | .promiseTimeout =>
    if entrance.initPromise ≠ some true then none
    else entrance.handles (some { entrance with initPromise := some false })

/-- Nothing of the service exists, the timer of its init promise included or not. -/
structure Nothing (timer : Bool) (entrance : BeeEntrance) : Prop where
  ioService : entrance.ioService = false
  sessionMgr : entrance.sessionMgr = none
  luaUpdateTimer : entrance.luaUpdateTimer = false
  statusdTimer : entrance.statusdTimer = false
  caClient : entrance.caClient = false
  statusdClient : entrance.statusdClient = false
  promise : timer = true → entrance.initPromise ≠ some true

/-- What each state owns. -/
structure Owned (timer : Bool) (entrance : BeeEntrance) : Prop where
  ready : entrance.currentState = kBeeSvcState_Ready → entrance.lua ≠ []
  idle : entrance.currentState = kBeeSvcState_Idle → Nothing timer entrance

/-- What a step owes: the states own what they should, and a call that fails behind its first
line leaves the service idle. -/
structure KeepsOwned (timer : Bool) (before : BeeEntrance) (request : EntranceRequest)
    (reply : Option BeeErrorCode) (after : BeeEntrance) : Prop where
  owned : Owned timer after
  undone : ∀ code, reply = some code → code ≠ .success → before.calling ≠ .resting →
    after.currentState = kBeeSvcState_Idle

/-- The next state is Ready if the core is got. -/
def TakesCore (entrance : BeeEntrance) : Prop :=
  entrance.currentState = kBeeSvcState_Getting_Core ∨ entrance.currentState = kBeeSvcState_Ready

/-- The local script can be opened, and no empty script makes the service ready. Where the
timer of the promise counts, it is over before the service stops. -/
def Guarded (timer : Bool) (entrance : BeeEntrance) : EntranceRequest → Prop
  | .loads file => file ≠ none
  | .gotCore => entrance.lua ≠ []
  | .caData data file =>
    if data.ec1 = .success ∧ data.ec2 = .none then entrance.TakesCore → data.lua ≠ []
    else entrance.lua = [] → ∃ lua ∈ file, entrance.TakesCore → lua ≠ []
  | .luaMd5 md5 => md5 ≠ [] → md5 = entrance.luaMd5 → entrance.TakesCore → entrance.lua ≠ []
  | .resets => timer = true → entrance.initPromise ≠ some true
  | _ => True

instance (entrance : BeeEntrance) : Decidable entrance.TakesCore :=
  inferInstanceAs (Decidable (_ ∨ _))

instance (timer : Bool) (entrance : BeeEntrance) : ∀ request, Decidable (Guarded timer entrance request)
  | .loads _ => inferInstanceAs (Decidable (_ ≠ _))
  | .gotCore => inferInstanceAs (Decidable (_ ≠ _))
  | .caData data file => inferInstanceAs (Decidable
      (if data.ec1 = .success ∧ data.ec2 = .none then entrance.TakesCore → data.lua ≠ []
        else entrance.lua = [] → ∃ lua ∈ file, entrance.TakesCore → lua ≠ []))
  | .luaMd5 _ => inferInstanceAs (Decidable (_ ≠ _ → _ = _ → entrance.TakesCore → _ ≠ _))
  | .resets => inferInstanceAs (Decidable (_ = _ → _ ≠ _))
  | .start .. => isTrue trivial
  | .allocates => isTrue trivial
  | .initDone => isTrue trivial
  | .getCore => isTrue trivial
  | .stop => isTrue trivial
  | .forceStop => isTrue trivial
  | .releases => isTrue trivial
  | .closesCaClient => isTrue trivial
  | .luaUpdateTimeout => isTrue trivial
  | .statusdTimeout _ => isTrue trivial
  | .promiseTimeout => isTrue trivial

end BeeEntrance
end BeeSdk
