import BeeSdk.Runs
import BeeSdk.TcpConnect

/-! A connect state at work in its machine: the socket it uses, the operations
it has outstanding and the timers it has started. Operations complete in any
order and with any result, those of a socket that has been closed included; a
timer ticks for as long as nobody cancels it. -/
namespace BeeSdk.ConnectAttempts
open StateMachine TcpConnect

variable {Endpoint Machine : Type}

/-- One call of `done`, and whether the machine switched to its next state. -/
structure Report where
  ec1 : BeeErrorCode
  ec2 : ErrorCode
  advanced : Bool
  deriving DecidableEq

/-- An outstanding connect: the index its handler is bound to and the socket it
was started on. -/
structure Attempt where
  index : Nat
  socket : Nat
  deriving DecidableEq

/-- Sockets and timers are numbered as they are made; `socket` is the one that
is open. -/
structure Connecting (Endpoint Machine : Type) where
  state : TcpConnectState Endpoint
  isTls : Bool
  connected : Bool
  socket : Nat
  connects : List Attempt
  handshakes : List Nat
  timers : List Nat
  nextTimer : Nat
  reports : List Report
  machine : Machine

/-- What can happen to it: the outstanding connect or handshake at a position
completes, or a timer ticks. -/
inductive Event where
  | connects (position : Nat) (ec2 : ErrorCode)
  | handshakes (position : Nat) (ec : ErrorCode)
  | ticks (timer : Nat)
  deriving DecidableEq

/-- What a step replies: the calls the state made. -/
abbrev Calls (Endpoint : Type) := List (Command Endpoint)

namespace Connecting

def perform (wiring : Wiring Machine) (world : Connecting Endpoint Machine) :
    Command Endpoint → Connecting Endpoint Machine
  | .asyncConnect _ index =>
    { world with connects := world.connects ++ [⟨index, world.socket⟩] }
  | .startTimer timer => { world with timers := timer :: world.timers }
  | .cancelTimer timer => { world with timers := world.timers.filter (· ≠ timer) }
  | .resetSocket => { world with socket := world.socket + 1 }
  | .asyncHandshake => { world with handshakes := world.handshakes ++ [world.socket] }
  | .setConnected => { world with connected := true }
  | .done ec1 ec2 =>
    let (advanced, event, machine) :=
      StateMachine.done wiring ec1 ec2 world.state.outputEvent.event world.machine
    { world with
      state := { world.state with outputEvent := { world.state.outputEvent with event } }
      reports := world.reports ++ [⟨ec1, ec2, advanced⟩]
      machine }

/-- The calls of a handler, performed in their order. -/
def after (wiring : Wiring Machine) (world : Connecting Endpoint Machine)
    (outcome : Outcome Endpoint) : Connecting Endpoint Machine :=
  outcome.2.foldl (perform wiring) { world with state := outcome.1 }

def execute (wiring : Wiring Machine) (world : Connecting Endpoint Machine) :
    BeeErrorCode × Connecting Endpoint Machine :=
  let (code, outcome) := world.state.execute world.nextTimer
  (code, { world with nextTimer := world.nextTimer + 1 }.after wiring outcome)

def step (wiring : Wiring Machine) (world : Connecting Endpoint Machine) :
    Event → Option (Calls Endpoint × Connecting Endpoint Machine)
  | .connects position ec2 => world.connects[position]?.map fun attempt =>
    let outcome := world.state.handleConnect world.isTls ec2 attempt.index
    (outcome.2, { world with connects := world.connects.eraseIdx position }.after wiring outcome)
  | .handshakes position ec => world.handshakes[position]?.map fun _ =>
    let outcome := world.state.handleHandshake ec
    (outcome.2, { world with handshakes := world.handshakes.eraseIdx position }.after wiring outcome)
  | .ticks timer =>
    if timer ∈ world.timers then
      (world.state.handlePeriodTimeout world.isTls).map fun outcome =>
        (outcome.2, world.after wiring outcome)
    else none

/-- A newly constructed state with its input, on a machine with an open socket. -/
def constructed (inputEvent : TcpConnectInputEvent Endpoint) (isTls : Bool) (machine : Machine) :
    Connecting Endpoint Machine where
  state := { inputEvent := inputEvent }
  isTls := isTls
  connected := false
  socket := 0
  connects := []
  handshakes := []
  timers := []
  nextTimer := 0
  reports := []
  machine := machine

end Connecting

/-! ### One outcome -/

/-- Nothing is reported, nobody is marked connected and the machine stays where
it is. -/
structure Quiet (before after : Connecting Endpoint Machine) : Prop where
  reports : after.reports = before.reports
  connected : after.connected = before.connected
  machine : after.machine = before.machine

/-- Over these events the state reports at most once, and nothing comes of what
happens after the report. -/
def ReportsOnce (wiring : Wiring Machine) (start : Connecting Endpoint Machine)
    (events : List Event) : Prop :=
  (∀ made, made <+: events → ∀ calls reached,
    Runs.run (Connecting.step wiring) start made = some (calls, reached) →
      reached.reports.length ≤ 1) ∧
  Runs.AllSteps (Connecting.step wiring) (fun before event => before.reports ≠ [] →
    ∀ calls after, before.step wiring event = some (calls, after) → Quiet before after) start events

/-- A connect completes that is stale by its index, that fails with a try left
or as timed out, or that still has to shake hands; or a timer ticks before the
total timeout. No handshake completes. -/
def Silent (before : Connecting Endpoint Machine) : Event → Prop
  | .connects position ec2 => ∀ attempt, before.connects[position]? = some attempt →
    attempt.index ≠ before.state.index ∨
      (ec2.isError = true ∧
        (before.state.triedCount < before.state.totalCount ∨ ec2 = .timedOut)) ∨
      (ec2.isError = false ∧ before.isTls = true)
  | .handshakes _ _ => False
  | .ticks _ => before.state.currentSpentTime + kTcpCheckConnectPeriod < before.state.totalTimeout

def SilentAfterReport (before : Connecting Endpoint Machine) (event : Event) : Prop :=
  before.reports ≠ [] → Silent before event

/-! ### Abandoned attempts -/

/-- The event completes an operation of a socket that has been closed. -/
def Stale (world : Connecting Endpoint Machine) : Event → Prop
  | .connects position _ =>
    ∃ attempt, world.connects[position]? = some attempt ∧ attempt.socket ≠ world.socket
  | .handshakes position _ =>
    ∃ socket, world.handshakes[position]? = some socket ∧ socket ≠ world.socket
  | .ticks _ => False

/-- Whatever completes of an abandoned attempt, the state makes no call and
stays as it is. -/
def StaleIgnored (wiring : Wiring Machine) (world : Connecting Endpoint Machine) : Prop :=
  ∀ event calls after, Stale world event → world.step wiring event = some (calls, after) →
    calls = [] ∧ after.state = world.state

/-- The event makes the state close its socket and try again. -/
def Retries (before : Connecting Endpoint Machine) : Event → Prop
  | .connects position ec2 => ∃ attempt, before.connects[position]? = some attempt ∧
    attempt.index = before.state.index ∧ ec2.isError = true ∧
      (before.state.triedCount < before.state.totalCount ∨ ec2 = .timedOut)
  | .handshakes _ _ => False
  | .ticks timer => timer ∈ before.timers ∧
    before.state.currentSpentTime + kTcpCheckConnectPeriod < before.state.totalTimeout ∧
    before.state.endpointTimeout ≤
      before.state.currentEndpointSpentTime + kTcpCheckConnectPeriod

/-- The connects the event leaves outstanding. -/
def outstanding (before : Connecting Endpoint Machine) : Event → List Attempt
  | .connects position _ => before.connects.eraseIdx position
  | .handshakes _ _ => before.connects
  | .ticks _ => before.connects

/-- No socket is closed under a handshake, and a connect is left behind only
for the next index: while a try is left, or when none is outstanding under the
index that is kept. -/
def LeavesApart (before : Connecting Endpoint Machine) (event : Event) : Prop :=
  Retries before event → before.handshakes = [] ∧
    (before.state.triedCount < before.state.totalCount ∨
      ∀ attempt ∈ outstanding before event, attempt.index ≠ before.state.index)

end BeeSdk.ConnectAttempts
