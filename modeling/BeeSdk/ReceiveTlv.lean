import BeeSdk.ByteOrder
import BeeSdk.ByteStream
import BeeSdk.IOBuffer
import BeeSdk.IStream
import BeeSdk.RingMemory
import BeeSdk.Runs
import BeeSdk.StateMachine

/-! `TcpReceiveTlvState`: receives a message that carries its own length, first
up to the end of the length field, then the rest. The message is read into the
machine's `criobuff_`, which is replaced when the message is longer than it is. -/
namespace BeeSdk.ReceiveTlv
open ByteStream ByteOrder StateMachine

def kDefaultReadBuffLen : Nat := 32 * 1024

structure TcpRcvTlvInputEvent where
  setup : Bool := false
  lengthOffset : Nat := 0
  lengthSize : Nat := 0
  deriving DecidableEq

/-- The event it is done with; `rcvBuffer` is the memory `rcv_buffer` points to. -/
structure TcpRcvTlvOutputEvent where
  setup : Bool := false
  rcvBuffer : List UInt8 := []
  deriving DecidableEq

structure TcpReceiveTlvState where
  firstReadLen : Nat := 0
  totalLen : Nat := 0
  inputEvent : TcpRcvTlvInputEvent := {}
  outputEvent : TcpRcvTlvOutputEvent := {}

/-- What receiving uses of the machine. -/
structure TcpStateMachine where
  connected : Bool
  criobuff : IOBuffer
  rcvStreambuf : List UInt8

/-- What a call leaves: its code, the number of bytes asked for with
`transfer_exactly`, the state and the machine. -/
structure Outcome where
  code : BeeErrorCode
  read : Option Nat
  state : TcpReceiveTlvState
  fsm : TcpStateMachine

/-- `is.read(criobuff_.data() + offset, count)`, undefined outside its memory. -/
def TcpStateMachine.read (fsm : TcpStateMachine) (offset count : Nat) : Option TcpStateMachine :=
  let (bytes, rcvStreambuf) := IStream.readBytes count fsm.rcvStreambuf
  (RingMemory.copyIn fsm.criobuff.buffer (fsm.criobuff.beginOffset + offset) bytes).map
    fun buffer => { fsm with criobuff := { fsm.criobuff with buffer }, rcvStreambuf }

/-- The bytes of the field at `criobuff_.data() + offset`. -/
def TcpStateMachine.field (fsm : TcpStateMachine) (offset size : Nat) : Option (List UInt8) :=
  RingMemory.copyOut fsm.criobuff.buffer (fsm.criobuff.beginOffset + offset) size

namespace TcpReceiveTlvState

def execute (state : TcpReceiveTlvState) (fsm : TcpStateMachine) : Outcome :=
  if ¬ state.inputEvent.setup then ⟨.invalidParam, none, state, fsm⟩
  else if ¬ fsm.connected then ⟨.notConnected, none, state, fsm⟩
  else if state.inputEvent.lengthSize ≠ 1 ∧ state.inputEvent.lengthSize ≠ 2 ∧
      state.inputEvent.lengthSize ≠ 4 then ⟨.errorData, none, state, fsm⟩
  else
    let firstReadLen := (state.inputEvent.lengthOffset + state.inputEvent.lengthSize) % 2 ^ 64
    ⟨.success, some firstReadLen, { state with firstReadLen }, fsm⟩

/-- The length the field holds, by the width of the field. -/
def lengthOf (lengthSize : Nat) (field : List UInt8) : Option Nat :=
  match lengthSize with
  | 1 => some (loadLittle field)
  | 2 => some (ntohs (loadLittle field))
  | 4 => some (ntohl (loadLittle field))
  | _ => none

/-- Any code but `Success` is reported with `done`. -/
def handleReadLength (state : TcpReceiveTlvState) (fsm : TcpStateMachine) (ec2 : ErrorCode)
    (bytesTransferred : Nat) : Option Outcome :=
  if ec2.isError then some ⟨.readFail, none, state, fsm⟩
  else if bytesTransferred ≠ state.firstReadLen then some ⟨.errorData, none, state, fsm⟩
  else
    (fsm.read 0 bytesTransferred).bind fun fsm =>
    (fsm.field state.inputEvent.lengthOffset state.inputEvent.lengthSize).bind fun field =>
    match lengthOf state.inputEvent.lengthSize field with
    | none => some ⟨.invalidParam, none, state, fsm⟩
    | some totalLen =>
      let state := { state with totalLen }
      let grown := if totalLen > fsm.criobuff.capacity then
          (RingMemory.copyOut fsm.criobuff.buffer fsm.criobuff.beginOffset bytesTransferred).bind
            fun bytes => (RingMemory.copyIn (IOBuffer.ofCapacity totalLen).buffer 0 bytes).map
              fun buffer => { fsm with criobuff := { IOBuffer.ofCapacity totalLen with buffer } }
        else some fsm
      grown.map fun fsm =>
        let leftBytes := (totalLen + 2 ^ 64 - bytesTransferred) % 2 ^ 64
        ⟨.success, some leftBytes, state, fsm⟩

/-- Ends with `done`, whatever the code. -/
def handleReadData (state : TcpReceiveTlvState) (fsm : TcpStateMachine) (ec2 : ErrorCode)
    (bytesTransferred : Nat) : Option Outcome :=
  if ec2.isError then some ⟨.readFail, none, state, fsm⟩
  else if state.totalLen ≠ (state.firstReadLen + bytesTransferred) % 2 ^ 64 then
    some ⟨.errorData, none, state, fsm⟩
  else
    (fsm.read state.firstReadLen bytesTransferred).map fun fsm =>
      let outputEvent := { state.outputEvent with
        rcvBuffer := fsm.criobuff.buffer.drop fsm.criobuff.beginOffset, setup := true }
      ⟨.success, none, { state with outputEvent }, fsm⟩

end TcpReceiveTlvState

/-! ### One execution after the other -/

/-- The state and the connection it receives from. -/
structure Receiving where
  state : TcpReceiveTlvState
  connected : Bool
  criobuff : IOBuffer
  channel : Channel UInt8

/-- How an execution ends: with the code `execute` returns, with `done`, or not at
all while the peer sends nothing more. -/
inductive Report where
  | refused (code : BeeErrorCode)
  | done (ec1 : BeeErrorCode) (ec2 : ErrorCode) (event : TcpRcvTlvOutputEvent)
  | waits
  deriving DecidableEq

namespace Receiving

def fsm (receiving : Receiving) : TcpStateMachine :=
  ⟨receiving.connected, receiving.criobuff, receiving.channel.received⟩

def left (receiving : Receiving) (outcome : Outcome) : Receiving :=
  { receiving with
    state := outcome.state, criobuff := outcome.fsm.criobuff
    channel := { receiving.channel with received := outcome.fsm.rcvStreambuf } }

/-- A read of exactly `count` bytes: its error code, the bytes transferred and what
it leaves; nothing while it is not completed. -/
def asyncRead (receiving : Receiving) (count : Nat) : Option (ErrorCode × Nat) × Receiving :=
  let (ending, channel) := receiving.channel.readExactly count
  let transferred := channel.received.length - receiving.channel.received.length
  (match ending with
    | .satisfied => some (.none, transferred)
    | .closed => some (.eof, transferred)
    | .waiting => none, { receiving with channel })

def done (ec2 : ErrorCode) (outcome : Outcome) (receiving : Receiving) : Report × Receiving :=
  (.done outcome.code ec2 outcome.state.outputEvent, receiving.left outcome)

/-- The second read, and what its completion does. -/
def receiveData (receiving : Receiving) (leftBytes : Nat) : Option (Report × Receiving) :=
  match receiving.asyncRead leftBytes with
  | (none, receiving) => some (.waits, receiving)
  | (some (ec2, transferred), receiving) =>
    (receiving.state.handleReadData receiving.fsm ec2 transferred).map fun outcome =>
      done ec2 outcome receiving

/-- The first read, and what its completion does. -/
def receiveLength (receiving : Receiving) (firstReadLen : Nat) : Option (Report × Receiving) :=
  match receiving.asyncRead firstReadLen with
  | (none, receiving) => some (.waits, receiving)
  | (some (ec2, transferred), receiving) =>
    (receiving.state.handleReadLength receiving.fsm ec2 transferred).bind fun outcome =>
      match outcome.read with
      | some leftBytes => (receiving.left outcome).receiveData leftBytes
      | none => some (done ec2 outcome receiving)

/-- The state is executed with an input event. -/
def execute (receiving : Receiving) (inputEvent : TcpRcvTlvInputEvent) :
    Option (Report × Receiving) :=
  let outcome := { receiving.state with inputEvent }.execute receiving.fsm
  match outcome.read with
  | some firstReadLen => (receiving.left outcome).receiveLength firstReadLen
  | none => some (.refused outcome.code, receiving.left outcome)

/-- What `reset_caches` does to what receiving uses. -/
def resetCaches (receiving : Receiving) : Receiving :=
  { receiving with
    criobuff := receiving.criobuff.clear, channel := { receiving.channel with received := [] } }

end Receiving

/-! ### Messages -/

/-- A message that carries its length in a field of its own, as the peer sends it. -/
structure Message where
  bytes : List UInt8
  lengthOffset : Nat
  lengthSize : Nat
  width : lengthSize = 1 ∨ lengthSize = 2 ∨ lengthSize = 4
  inside : lengthOffset + lengthSize ≤ bytes.length
  carries : loadBig ((bytes.drop lengthOffset).take lengthSize) = bytes.length

/-- The state is executed for the next message, or the caches are cleared between
two executions. -/
inductive Request where
  | execute (message : Message)
  | resetCaches

def Request.bytes : Request → List UInt8
  | .execute message => message.bytes
  | .resetCaches => []

def step (receiving : Receiving) : Request → Option (Option Report × Receiving)
  | .execute message =>
    (receiving.execute ⟨true, message.lengthOffset, message.lengthSize⟩).map
      fun (report, next) => (some report, next)
  | .resetCaches => some (none, receiving.resetCaches)

/-- A connection on which nothing has been received and not read. -/
structure Begins (receiving : Receiving) : Prop where
  connected : receiving.connected = true
  buffered : receiving.channel.received = []
  start : receiving.criobuff.beginOffset = 0

/-- The execution is done with the message: its bytes lie where `rcv_buffer` points. -/
def HandsOut : Request → Option Report → Prop
  | .execute message, reply => ∃ behind,
    reply = some (.done .success .none ⟨true, message.bytes ++ behind⟩)
  | .resetCaches, reply => reply = none

/-- After every part of the requests each execution so far has handed its message
out, and the stream begins with the next one. -/
def FramesExactly (start : Receiving) (requests : List Request) (trailing : List UInt8) : Prop :=
  ∀ made rest, made ++ rest = requests → ∃ replies reached,
    Runs.run step start made = some (replies, reached) ∧ List.Forall₂ HandsOut made replies ∧
      reached.channel.bytes = rest.flatMap Request.bytes ++ trailing

/-- What is read first fits `criobuff_` as it is then. -/
def Fits (receiving : Receiving) : Request → Prop
  | .execute message => message.lengthOffset + message.lengthSize ≤ receiving.criobuff.capacity
  | .resetCaches => True

instance (receiving : Receiving) (request : Request) : Decidable (Fits receiving request) := by
  cases request <;> unfold Fits <;> infer_instance

end BeeSdk.ReceiveTlv
