import BeeSdk.IOBuffer
import BeeSdk.Runs
import BeeSdk.StateMachine

/-! The write caches of `TcpStateMachine`: the buffer handed to the socket and the
queue behind it. A completion carries a number of bytes and nothing that says which
buffer or which socket it belongs to. -/
namespace BeeSdk.SendQueue
open StateMachine

/-- What writing uses of the machine: whether it has an io service, and its
sockets, each with a number of its own. -/
structure TcpStateMachine where
  ios : Bool := true
  connected : Bool := false
  isTls : Bool := false
  sock : Option Nat := none
  tlsSock : Option Nat := none
  cwiobuff : IOBuffer := {}
  qwiobuff : List IOBuffer := []
  deriving DecidableEq

namespace TcpStateMachine

/-- The socket that is written to. -/
def socket (fsm : TcpStateMachine) : Option Nat := if fsm.isTls then fsm.tlsSock else fsm.sock

/-- The bytes in the queue. -/
def queued (fsm : TcpStateMachine) : List UInt8 := fsm.qwiobuff.flatMap IOBuffer.data

/-- Caches the data; whether `cwiobuff_` is to be handed to the socket. -/
def cacheSendData (fsm : TcpStateMachine) (data : IOBuffer) : Bool × TcpStateMachine :=
  if ¬ data.empty ∧ ¬ fsm.cwiobuff.empty then
    (false, { fsm with qwiobuff := fsm.qwiobuff ++ [data.clone] })
  else
    let fsm := if ¬ data.empty then { fsm with cwiobuff := data.clone } else fsm
    if fsm.cwiobuff.empty then
      match fsm.qwiobuff with
      | front :: rest => (true, { fsm with cwiobuff := front, qwiobuff := rest })
      | [] => (false, fsm)
    else (true, fsm)

/-- What is handed to which socket, if anything; undefined without a socket. -/
def asyncWrite (fsm : TcpStateMachine) (data : IOBuffer) :
    Option (Option (Nat × List UInt8) × TcpStateMachine) :=
  let (hands, fsm) := fsm.cacheSendData data
  if hands then fsm.socket.map fun socket => (some (socket, fsm.cwiobuff.data), fsm)
  else some (none, fsm)

/-- Whether there is more to send. -/
def checkSendBuffer (fsm : TcpStateMachine) (bytesTransferred : Nat) : Bool × TcpStateMachine :=
  let fsm := if bytesTransferred > 0 then { fsm with cwiobuff := fsm.cwiobuff.consume bytesTransferred }
    else fsm
  let fsm := if fsm.cwiobuff.empty then
      match fsm.qwiobuff with
      | front :: rest => { fsm with cwiobuff := front, qwiobuff := rest }
      | [] => fsm
    else fsm
  (¬ fsm.cwiobuff.empty, fsm)

def resetCaches (fsm : TcpStateMachine) : TcpStateMachine :=
  { fsm with cwiobuff := fsm.cwiobuff.clear, qwiobuff := [] }

/-- Undefined when it is connected without a socket. -/
def stop (fsm : TcpStateMachine) : Option TcpStateMachine :=
  if ¬ fsm.connected then some fsm
  else fsm.socket.map fun _ =>
    let fsm := if fsm.isTls then { fsm with tlsSock := none } else { fsm with sock := none }
    { fsm.resetCaches with connected := false, ios := false }

/-- `paths` says whether the verify paths are loaded or can be; the new socket gets
the number given. -/
def setupSocket (fsm : TcpStateMachine) (tls paths : Bool) (new : Nat) : Bool × TcpStateMachine :=
  if ¬ fsm.ios then (false, fsm)
  else
    let fsm := fsm.resetCaches
    if ¬ tls then (true, { fsm with sock := some new, isTls := tls })
    else if ¬ paths then (false, fsm)
    else (true, { fsm with tlsSock := some new, isTls := tls })

def resetSocket (fsm : TcpStateMachine) (paths : Bool) (new : Nat) : TcpStateMachine :=
  if ¬ fsm.ios then fsm
  else
    let fsm := fsm.resetCaches
    if ¬ fsm.isTls then { fsm with sock := some new }
    else if ¬ paths then fsm
    else { fsm with tlsSock := some new }

end TcpStateMachine

/-- `TcpSendState`, and the event it is done with. -/
structure TcpSendState where
  bytesSend : Nat := 0
  sendBytes : Nat := 0
  outputEvent : StateEvent := {}
  deriving DecidableEq

/-- A call of `done`. -/
structure Done where
  ec1 : BeeErrorCode
  ec2 : ErrorCode
  deriving DecidableEq

/-- What a completion leaves: the call of `done` and what is handed to a socket. -/
structure Handled where
  done : Option Done
  handed : Option (Nat × List UInt8)
  state : TcpSendState
  fsm : TcpStateMachine
  deriving DecidableEq

def dummyBuffer : IOBuffer := {}

def TcpSendState.handleWrite (state : TcpSendState) (fsm : TcpStateMachine) (ec2 : ErrorCode)
    (bytesTransferred : Nat) : Option Handled :=
  if ec2.isError then some ⟨some ⟨.writeFail, ec2⟩, none, state, fsm⟩
  else
    let state := { state with bytesSend := (state.bytesSend + bytesTransferred) % 2 ^ 64 }
    let (more, fsm) := fsm.checkSendBuffer bytesTransferred
    if more then
      (fsm.asyncWrite dummyBuffer).map fun (handed, fsm) => ⟨none, handed, state, fsm⟩
    else
      let outputEvent := { state.outputEvent with setup := true }
      some ⟨some ⟨.success, ec2⟩, none,
        { state with sendBytes := state.bytesSend, outputEvent }, fsm⟩

/-! ### The machine and its socket -/

/-- A write the socket has not completed. `epoch` says how often bytes had been
taken off the caches when it was handed over. -/
structure Write where
  socket : Nat
  data : List UInt8
  epoch : Nat
  deriving DecidableEq

/-- The machine, the writes in flight, and what has happened so far: the bytes
`async_write` was called with, the bytes handed to sockets, the sockets made and
how often bytes were taken off the caches. -/
structure Sending where
  fsm : TcpStateMachine := {}
  state : TcpSendState := {}
  writes : List Write := []
  called : List UInt8 := []
  handed : List UInt8 := []
  sockets : Nat := 0
  epoch : Nat := 0
  deriving DecidableEq

namespace Sending

def hand (sending : Sending) : Option (Nat × List UInt8) → Sending
  | none => sending
  | some (socket, data) => { sending with
      writes := sending.writes ++ [⟨socket, data, sending.epoch⟩]
      handed := sending.handed ++ data }

/-- `async_write`. -/
def write (sending : Sending) (data : IOBuffer) : Option Sending :=
  (sending.fsm.asyncWrite data).map fun (handed, fsm) =>
    { sending with fsm, called := sending.called ++ data.data }.hand handed

/-- A write in flight completes, with all its bytes unless it fails. -/
def complete (sending : Sending) (index : Nat) (ec2 : ErrorCode) :
    Option (Option Done × Sending) :=
  sending.writes[index]?.bind fun write =>
    (sending.state.handleWrite sending.fsm ec2 write.data.length).map fun handled =>
      let epoch := if ec2.isError then sending.epoch else sending.epoch + 1
      (handled.done, { sending with
        fsm := handled.fsm, state := handled.state, epoch,
        writes := sending.writes.eraseIdx index }.hand handled.handed)

end Sending

/-- What happens to the machine. -/
inductive Event where
  | asyncWrite (data : IOBuffer) (valid : data.Valid)
  | handleWrite (index : Nat) (ec2 : ErrorCode)
  | connected
  | stop
  | setupSocket (tls paths : Bool)
  | resetSocket (paths : Bool)

def step (sending : Sending) : Event → Option (Option Done × Sending)
  | .asyncWrite data _ => (sending.write data).map fun next => (none, next)
  | .handleWrite index ec2 => sending.complete index ec2
  | .connected => some (none, { sending with fsm := { sending.fsm with connected := true } })
  | .stop => sending.fsm.stop.map fun fsm => (none, { sending with
      fsm, epoch := if sending.fsm.connected then sending.epoch + 1 else sending.epoch })
  | .setupSocket tls paths => some (none, { sending with
      fsm := (sending.fsm.setupSocket tls paths sending.sockets).2
      sockets := sending.sockets + 1
      epoch := if sending.fsm.ios then sending.epoch + 1 else sending.epoch })
  | .resetSocket paths => some (none, { sending with
      fsm := sending.fsm.resetSocket paths sending.sockets
      sockets := sending.sockets + 1
      epoch := if sending.fsm.ios then sending.epoch + 1 else sending.epoch })

/-- A machine whose socket has just been set up. -/
def opened (tls : Bool) : Sending where
  fsm := { isTls := tls, sock := if tls then none else some 0, tlsSock := if tls then some 0 else none }
  sockets := 1

/-! ### In call order -/

/-- Only calls of `async_write` and successful completions. -/
def OnlySends : Event → Prop
  | .asyncWrite _ _ => True
  | .handleWrite _ ec2 => ec2 = .none
  | _ => False

/-- At most one write is in flight, what was handed to the socket and what is
queued are what the calls brought, in their order, and with nothing in flight
nothing is left to send. -/
structure SendsInOrder (sending : Sending) : Prop where
  one : sending.writes.length ≤ 1
  order : sending.handed ++ sending.fsm.queued = sending.called
  drained : sending.writes = [] → sending.fsm.cwiobuff.empty = true ∧ sending.fsm.qwiobuff = []

/-- No call without bytes while a write is in flight. -/
def NotEmptyInFlight (sending : Sending) : Event → Prop
  | .asyncWrite data _ => data.empty = true → sending.writes = []
  | _ => True

instance (sending : Sending) (event : Event) : Decidable (NotEmptyInFlight sending event) := by
  cases event <;> unfold NotEmptyInFlight <;> infer_instance

/-! ### Each completion its own bytes -/

/-- A successful completion takes off no more bytes than `cwiobuff_` holds, and
none when its write was handed to another socket than the machine's. -/
def ConsumesOwn (sending : Sending) : Event → Prop
  | .handleWrite index ec2 => ec2 = .none → ∀ write ∈ sending.writes[index]?,
      write.data.length ≤ sending.fsm.cwiobuff.size ∧
        (some write.socket ≠ sending.fsm.socket →
          (sending.fsm.checkSendBuffer write.data.length).2.cwiobuff = sending.fsm.cwiobuff)
  | _ => True

/-- A write that completes successfully was handed over since bytes were last taken
off the caches. -/
def CompletesInTime (sending : Sending) : Event → Prop
  | .handleWrite index ec2 => ec2 = .none → ∀ write ∈ sending.writes[index]?,
      write.epoch = sending.epoch
  | _ => True

instance (sending : Sending) (event : Event) : Decidable (ConsumesOwn sending event) := by
  cases event <;> unfold ConsumesOwn <;> infer_instance

instance (sending : Sending) (event : Event) : Decidable (CompletesInTime sending event) := by
  cases event <;> unfold CompletesInTime <;> infer_instance

end BeeSdk.SendQueue
