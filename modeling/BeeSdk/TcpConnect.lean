import BeeSdk.StateMachine

/-! `TcpConnectState`: tries the endpoints it is given one after another, under
a total and an endpoint timeout checked by a periodic timer. A handler returns
the state it leaves and the calls it made, in order; who performs them, and
which completions they lead to, is left to the machine. -/
namespace BeeSdk.TcpConnect
open StateMachine

variable {Endpoint : Type}

def kDefaultTcpConnectTimeout : Int := 10000
def kTcpCheckConnectPeriod : Int := 200

/-- Of the base event only `setup` is read of an input. -/
structure TcpConnectInputEvent (Endpoint : Type) where
  setup : Bool := false
  endpoints : List Endpoint := []
  startIndex : Int := 0
  connectTimeout : Int := kDefaultTcpConnectTimeout

structure TcpConnectOutputEvent (Endpoint : Type) where
  event : StateEvent := {}
  connectedEndpoint : Option Endpoint := none
  index : Int := -1

/-- `check_timer_` is the number of the timer it points to. -/
structure TcpConnectState (Endpoint : Type) where
  index : Nat := 0
  totalCount : Nat := 0
  triedCount : Nat := 0
  checkTimer : Option Nat := none
  currentSpentTime : Int := 0
  currentEndpointSpentTime : Int := 0
  totalTimeout : Int := kDefaultTcpConnectTimeout
  endpointTimeout : Int := kDefaultTcpConnectTimeout
  inputEvent : TcpConnectInputEvent Endpoint := {}
  outputEvent : TcpConnectOutputEvent Endpoint := {}

/-- A call on the machine, its socket or a timer. An endpoint is `none` where
the source reads outside the endpoints. -/
inductive Command (Endpoint : Type) where
  | asyncConnect (endpoint : Option Endpoint) (index : Nat)
  | startTimer (timer : Nat)
  | cancelTimer (timer : Nat)
  | resetSocket
  | asyncHandshake
  | setConnected
  | done (ec1 : BeeErrorCode) (ec2 : ErrorCode)
  deriving DecidableEq

/-- What a handler leaves: the state and the calls made. -/
abbrev Outcome (Endpoint : Type) := TcpConnectState Endpoint × List (Command Endpoint)

namespace TcpConnectState

def targetIndex (state : TcpConnectState Endpoint) : Nat := state.index % state.totalCount

def targetEndpoint (state : TcpConnectState Endpoint) : Option Endpoint :=
  state.inputEvent.endpoints[state.targetIndex]?

/-- `State::check_event`; the events themselves are created at setup. -/
def checkEvent (state : TcpConnectState Endpoint) : Bool := state.inputEvent.setup

/-- `timer` is the number the new timer gets. -/
def execute (state : TcpConnectState Endpoint) (timer : Nat) : BeeErrorCode × Outcome Endpoint :=
  if ¬ state.checkEvent then (.invalidParam, state, [])
  else if state.inputEvent.endpoints = [] then (.invalidParam, state, [])
  else
    let totalCount := state.inputEvent.endpoints.length
    let startIndex := state.inputEvent.startIndex
    let index := if startIndex ≥ 0 ∧ startIndex < totalCount then startIndex.toNat else state.index
    let state := { state with totalCount, index }
    let connect := .asyncConnect state.targetEndpoint state.index
    (.success,
      { state with
        triedCount := state.triedCount + 1
        totalTimeout := state.inputEvent.connectTimeout
        checkTimer := some timer },
      [connect, .startTimer timer])

/-- Success cancels the timer that is set. -/
def cancelCheckTimer (state : TcpConnectState Endpoint) : Outcome Endpoint :=
  ({ state with checkTimer := none }, (state.checkTimer.map .cancelTimer).toList)

/-- What a finished connect leaves in the output event. -/
def connectedTo (state : TcpConnectState Endpoint) : TcpConnectOutputEvent Endpoint where
  event := { state.outputEvent.event with setup := true }
  connectedEndpoint := state.targetEndpoint
  index := state.targetIndex

/-- Closes the socket and tries the endpoint `index_` now names. -/
def connectNext (state : TcpConnectState Endpoint) : Outcome Endpoint :=
  ({ state with currentEndpointSpentTime := 0, triedCount := state.triedCount + 1 },
    [.resetSocket, .asyncConnect state.targetEndpoint state.index])

def handleConnect (state : TcpConnectState Endpoint) (isTls : Bool) (ec2 : ErrorCode)
    (index : Nat) : Outcome Endpoint :=
  if index ≠ state.index then (state, [])
  else if ec2.isError then
    if state.triedCount < state.totalCount then { state with index := state.index + 1 }.connectNext
    -- A reported time-out retries the last endpoint until the total timeout.
    else if ec2 ≠ .timedOut then (state, [.done .connectFail ec2])
    else state.connectNext
  else if isTls then (state, [.asyncHandshake])
  else
    let (state, cancel) := { state with outputEvent := state.connectedTo }.cancelCheckTimer
    (state, .setConnected :: cancel ++ [.done .success ec2])

/-- Undefined when the total timeout is reached without a timer to cancel. -/
def handlePeriodTimeout (state : TcpConnectState Endpoint) (isTls : Bool) :
    Option (Outcome Endpoint) :=
  let state := { state with
    currentSpentTime := state.currentSpentTime + kTcpCheckConnectPeriod
    currentEndpointSpentTime := state.currentEndpointSpentTime + kTcpCheckConnectPeriod }
  if state.currentSpentTime ≥ state.totalTimeout then
    state.checkTimer.map fun timer =>
      ({ state with checkTimer := none }, [.cancelTimer timer, .done .timeout .none])
  else if state.currentEndpointSpentTime ≥ state.endpointTimeout then
    some (state.handleConnect isTls .timedOut state.index)
  else some (state, [])

def handleHandshake (state : TcpConnectState Endpoint) (ec : ErrorCode) : Outcome Endpoint :=
  let state := { state with
    outputEvent := { state.outputEvent with index := state.targetIndex } }
  if ec.isError then (state, [.done .tlsShakehandFail ec])
  else
    let (state, cancel) := { state with outputEvent := state.connectedTo }.cancelCheckTimer
    (state, .setConnected :: cancel ++ [.done .success ec])

end TcpConnectState
end BeeSdk.TcpConnect
