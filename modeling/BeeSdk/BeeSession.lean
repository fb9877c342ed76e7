import BeeSdk.Runs
import BeeSdk.SimpleStateMachine
import BeeSdk.StateMachine

/-! `BeeSession`: a session with its Lua engine, the services registered with it and
the capabilities its script declares. What the engine answers, and which engine it
is, comes with each call. -/
namespace BeeSdk
open StateMachine

def kBeeSessionInput_Open : Int := 0
def kBeeSessionInput_Opened : Int := 1
def kBeeSessionInput_Execute : Int := 2
def kBeeSessionInput_Close : Int := 3
def kBeeSessionInput_Closed : Int := 4
def kBeeSessionInput_Count : Int := 5

def kBeeSessionState_Idle : Int := 0
def kBeeSessionState_Opening : Int := 1
def kBeeSessionState_Ready : Int := 2
def kBeeSessionState_Closing : Int := 3
def kBeeSessionState_Count : Int := 4
def kBeeSessionState_Invalid : Int := 5

/-- The io service, the engine and the services are known by numbers. -/
structure BeeSession where
  machine : SimpleStateMachine
  sessionId : Int
  ios : Option Nat := none
  luaEngine : Option Nat := none
  liveSessionId : String := ""
  services : List (Int × Nat) := []
  capabilities : List Int := []
  deriving DecidableEq

/-- What a call of `open` is given, and what it gets from outside: the live session
id made from random numbers, the new engine, what its `open` returns and the
capabilities it leaves. -/
structure Opening where
  ios : Nat
  liveSessionId : String
  engine : Nat
  opened : BeeErrorCode
  capability : List Int
  deriving DecidableEq

namespace BeeSession

/-- The transitions `init_state_machine` lists: state, event, next state. -/
def transitions : List (Int × Int × Int) :=
  [(kBeeSessionState_Idle, kBeeSessionInput_Open, kBeeSessionState_Opening),
    (kBeeSessionState_Opening, kBeeSessionInput_Opened, kBeeSessionState_Ready),
    (kBeeSessionState_Opening, kBeeSessionInput_Close, kBeeSessionState_Closing),
    (kBeeSessionState_Ready, kBeeSessionInput_Execute, kBeeSessionState_Ready),
    (kBeeSessionState_Ready, kBeeSessionInput_Close, kBeeSessionState_Closing),
    (kBeeSessionState_Closing, kBeeSessionInput_Closed, kBeeSessionState_Idle)]

def initStateMachine (session : BeeSession) : BeeSession :=
  let invalid := { session.machine with
    stateMachine := session.machine.stateMachine.map fun row =>
      row.map fun _ => kBeeSessionState_Invalid }
  let machine := transitions.foldl
    (fun machine (state, ev, next) => machine.assign state ev next) invalid
  { session with machine }

def constructed (sessionId : Int) : BeeSession where
  machine := .constructed kBeeSessionState_Count kBeeSessionInput_Count
  sessionId := sessionId

def currentState (session : BeeSession) : Int := session.machine.currentState

def switchState (session : BeeSession) (ev : Int) : Option (Bool × BeeSession) :=
  (session.machine.switchState ev).map fun (taken, machine) => (taken, { session with machine })

def resetState (session : BeeSession) : BeeSession :=
  { session with machine := session.machine.resetState }

/-- The last lines of `open`: any code but `Success` resets the state. -/
def finishOpen (session : BeeSession) (code : BeeErrorCode) : BeeErrorCode × BeeSession :=
  (code, if code ≠ .success then session.resetState else session)

def openSession (session : BeeSession) (opening : Opening) : Option (BeeErrorCode × BeeSession) :=
  (session.switchState kBeeSessionInput_Open).bind fun (taken, session) =>
  if ¬ taken then some (session.finishOpen .invalidState)
  else
    let session := { session with
      liveSessionId := opening.liveSessionId, luaEngine := some opening.engine }
    if opening.opened ≠ .success then some (session.finishOpen opening.opened)
    else (session.switchState kBeeSessionInput_Opened).map fun (taken, session) =>
      if ¬ taken then session.finishOpen .invalidState
      else
        let session := { session with ios := some opening.ios, capabilities := opening.capability }
        session.finishOpen .success

def close (session : BeeSession) : Option (BeeErrorCode × BeeSession) :=
  (session.switchState kBeeSessionInput_Close).bind fun (taken, session) =>
  if ¬ taken then some (.invalidState, session)
  else
    let session := { session with ios := none, luaEngine := none }
    (session.switchState kBeeSessionInput_Closed).map fun (_, session) =>
      let session := { session with liveSessionId := "", services := [], capabilities := [] }
      (.success, session)

/-- `answer` is what the engine's `execute` returns. -/
def execute (session : BeeSession) (svcCode : Int) (answer : BeeErrorCode) :
    Option (BeeErrorCode × BeeSession) :=
  if session.luaEngine = none then some (.sessionNotOpened, session)
  else if (session.services.lookup svcCode).isNone then some (.serviceNotRegistered, session)
  else (session.switchState kBeeSessionInput_Execute).map fun (taken, session) =>
    if ¬ taken then (.invalidState, session) else (answer, session)

/-- `emplace` keeps a service that is registered already. -/
def regSvc (session : BeeSession) (svc : Option (Int × Nat)) : BeeErrorCode × BeeSession :=
  match svc with
  | none => (.nullPointer, session)
  | some (svcCode, service) =>
    if svcCode < 0 then (.invalidParam, session)
    else if svcCode ∉ session.capabilities then (.serviceNotSupported, session)
    else if (session.services.lookup svcCode).isSome then (.success, session)
    else (.success, { session with services := session.services ++ [(svcCode, service)] })

def unregSvc (session : BeeSession) (svc : Option (Int × Nat)) : BeeErrorCode × BeeSession :=
  match svc with
  | none => (.invalidParam, session)
  | some (svcCode, _) =>
    if svcCode < 0 then (.invalidParam, session)
    else if (session.services.lookup svcCode).isNone then (.notFound, session)
    else (.success, { session with services := session.services.filter (·.1 ≠ svcCode) })

/-- What is called on a session. -/
inductive Request where
  | open_ (opening : Opening)
  | close
  | execute (svcCode : Int) (answer : BeeErrorCode)
  | regSvc (svc : Option (Int × Nat))
  | unregSvc (svc : Option (Int × Nat))
  deriving DecidableEq

def step (session : BeeSession) : Request → Option (BeeErrorCode × BeeSession)
  | .open_ opening => session.openSession opening
  | .close => session.close
  | .execute svcCode answer => session.execute svcCode answer
  | .regSvc svc => some (session.regSvc svc)
  | .unregSvc svc => some (session.unregSvc svc)

/-! ### Listed events -/

/-- The event is listed for the state. -/
def Listed (state ev : Int) : Prop := ∃ next, (state, ev, next) ∈ transitions

/-- The event a call puts to the state machine first, if it gets that far. -/
def firstEvent (session : BeeSession) : Request → Option Int
  | .open_ _ => some kBeeSessionInput_Open
  | .close => some kBeeSessionInput_Close
  | .execute svcCode _ =>
    if session.luaEngine = none ∨ (session.services.lookup svcCode).isNone then none
    else some kBeeSessionInput_Execute
  | .regSvc _ => none
  | .unregSvc _ => none

/-- The event a call begins with is listed for the state it finds. -/
def FirstListed (session : BeeSession) (request : Request) : Prop :=
  ∀ ev ∈ session.firstEvent request, Listed session.currentState ev

/-- One of the declared states. -/
def Declared (state : Int) : Prop := 0 ≤ state ∧ state < kBeeSessionState_Count

/-- The call leaves a declared state, and when its event is not listed it returns
`Invalid_State` and changes neither the state nor the engine, the services and the
capabilities. -/
structure Rejects (session : BeeSession) (request : Request) (code : BeeErrorCode)
    (next : BeeSession) : Prop where
  declared : Declared next.currentState
  rejected : ¬ FirstListed session request → code = .invalidState ∧
    next.currentState = session.currentState ∧ next.luaEngine = session.luaEngine ∧
    next.services = session.services ∧ next.capabilities = session.capabilities

end BeeSession
end BeeSdk
