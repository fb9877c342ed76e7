import BeeSdk.IStream
import BeeSdk.StateMachine

/-! `HttpRcvBodyState`: receives the body of a response, by its length or in
chunks. A handler returns the state it leaves, the stream buffer it leaves and
the calls it made on its machine, in order. -/
namespace BeeSdk.HttpBody
open IStream StateMachine

/-- What the accessors of `HttpResponse` answer: `get_status_code`,
`get_content_len` (-1 without a length), the beginning `get_range` leaves and
`get_header("Location")`. -/
structure HttpResponse where
  statusCode : Nat
  contentLen : Int
  rangeBeg : Int
  location : String
  deriving DecidableEq

def SH_HTTP_STATUS_OK : Nat := 200
def SH_HTTP_STATUS_PARTIAL_CONTENT : Nat := 206

def kMaxContentLength : Int := 20 * 1024 * 1024

/-- What the state uses of its machine. -/
structure HttpStateMachine where
  connected : Bool
  response : Option HttpResponse
  rcvStreambuf : List UInt8

structure HttpRcvBodyState where
  contentLength : Int := 0
  contentOffset : Int := 0
  fileOffset : Int := 0
  isChunk : Bool := false
  lastChunkSize : UInt32 := 0
  contentBuff : List UInt8 := []
  /-- `wait_complete` of the input event. -/
  waitComplete : Bool := true
  outputEvent : StateEvent := {}

/-- A call on the machine. A read names the handler it completes with. -/
inductive Command where
  | readChunkSizeLine (delim : List UInt8)
  | readChunkBody (atLeast : Nat)
  | postChunkBody
  | readContent (atLeast needLen : Nat)
  | output (event : StateEvent)
  | doneSetUp
  | done (ec1 : BeeErrorCode) (ec2 : ErrorCode)
  deriving DecidableEq

/-- What a call leaves: its return code, the state, the stream buffer and the
calls made. -/
structure Outcome where
  code : BeeErrorCode
  state : HttpRcvBodyState
  rcvStreambuf : List UInt8
  commands : List Command

/-- A handler's last lines: any code but `Success` and `Eof` is reported. -/
def Outcome.finish (ec2 : ErrorCode) (outcome : Outcome) : Outcome :=
  if outcome.code ≠ .success ∧ outcome.code ≠ .eof then
    { outcome with commands := outcome.commands ++ [.done outcome.code ec2] }
  else outcome

namespace HttpRcvBodyState

/-- Nothing called, nothing changed. -/
def stopped (state : HttpRcvBodyState) (fsm : HttpStateMachine) (code : BeeErrorCode) : Outcome :=
  ⟨code, state, fsm.rcvStreambuf, []⟩

def reportCacheContent (state : HttpRcvBodyState) (fsm : HttpStateMachine) (ec1 : BeeErrorCode)
    (ec2 : ErrorCode) : Outcome :=
  let outputEvent :=
    if state.contentBuff ≠ [] then { state.outputEvent with data := state.contentBuff, setup := true }
    else state.outputEvent
  ⟨ec1, { state with outputEvent }, fsm.rcvStreambuf, [.done ec1 ec2]⟩

def readChunkSize (state : HttpRcvBodyState) (fsm : HttpStateMachine) : Outcome :=
  if ¬ fsm.connected then state.stopped fsm .notConnected
  else ⟨.success, state, fsm.rcvStreambuf, [.readChunkSizeLine crlf]⟩

def readChunk (state : HttpRcvBodyState) (fsm : HttpStateMachine) : Outcome :=
  state.readChunkSize fsm

/-- `last_chunk_size_ + 2` is computed in 32 bits where it is compared and in
the width of `size_t` where it is the length still to be read. -/
def readChunkBody (state : HttpRcvBodyState) (fsm : HttpStateMachine) : Outcome :=
  if ¬ fsm.connected then state.stopped fsm .notConnected
  else if fsm.rcvStreambuf.length ≥ (state.lastChunkSize + 2).toNat then
    ⟨.success, state, fsm.rcvStreambuf, [.postChunkBody]⟩
  else
    let needReadLen := state.lastChunkSize.toNat + 2 - fsm.rcvStreambuf.length
    ⟨.success, state, fsm.rcvStreambuf, [.readChunkBody needReadLen]⟩

def handleReadChunkSize (state : HttpRcvBodyState) (fsm : HttpStateMachine) (ec2 : ErrorCode) :
    Outcome :=
  Outcome.finish ec2 <|
    if ec2.isError ∧ ec2 ≠ .eof then state.stopped fsm .readHttpChunkSizeFail
    else if ¬ fsm.connected then state.stopped fsm .notConnected
    else if fsm.rcvStreambuf.length ≤ 2 then state.stopped fsm .errorData
    else
      let size := extractHex 32 state.lastChunkSize.toNat fsm.rcvStreambuf
      let fsm := { fsm with rcvStreambuf := skipLine size.good size.rest }
      let state := { state with lastChunkSize := UInt32.ofNat size.value }
      if state.lastChunkSize > 0 then state.readChunkBody fsm
      else state.reportCacheContent fsm .success ec2

def handleReadChunkBody (state : HttpRcvBodyState) (fsm : HttpStateMachine) (ec2 : ErrorCode) :
    Outcome :=
  Outcome.finish ec2 <|
    if ec2.isError ∧ ec2 ≠ .eof then state.stopped fsm .readHttpChunkBodyFail
    else if ¬ fsm.connected then state.stopped fsm .notConnected
    else if fsm.rcvStreambuf.length ≥ (state.lastChunkSize + 2).toNat then
      let (ioBuf, rest) := readBytes state.lastChunkSize.toNat fsm.rcvStreambuf
      -- Two more `is.get()` take the line end.
      let fsm := { fsm with rcvStreambuf := rest.drop 2 }
      let contentOffset := state.contentOffset + state.lastChunkSize.toNat
      if state.waitComplete then
        { state with contentBuff := state.contentBuff ++ ioBuf, contentOffset }.readChunk fsm
      else
        let outputEvent := { state.outputEvent with data := ioBuf }
        let outcome := { state with outputEvent, contentOffset }.readChunk fsm
        { outcome with commands := .output outputEvent :: outcome.commands }
    else if ec2 = .eof then state.reportCacheContent fsm .eof ec2
    else state.readChunkBody fsm

def handleReadContent (state : HttpRcvBodyState) (fsm : HttpStateMachine) (ec2 : ErrorCode)
    (needLen : Nat) : Outcome :=
  Outcome.finish ec2 <|
    if ¬ fsm.connected then state.stopped fsm .notConnected
    else if ec2.isError ∧ ec2 ≠ .eof then state.stopped fsm .readHttpContentFail
    else
      let len := min fsm.rcvStreambuf.length needLen
      let (contentBuff, rest) := readBytes len fsm.rcvStreambuf
      let contentOffset := state.contentOffset + len
      let fileOffset := state.fileOffset + len
      let ec1 := if ec2 = .eof ∨ contentOffset > state.contentLength then .eof else .success
      { state with contentBuff, contentOffset, fileOffset }.reportCacheContent
        { fsm with rcvStreambuf := rest } ec1 ec2

def readContent (state : HttpRcvBodyState) (fsm : HttpStateMachine) (len : Nat) : Outcome :=
  if ¬ fsm.connected then state.stopped fsm .notConnected
  else if state.contentOffset ≥ state.contentLength then state.stopped fsm .eof
  else
    let len := if state.contentOffset + len > state.contentLength then
      (state.contentLength - state.contentOffset).toNat else len
    if len ≤ fsm.rcvStreambuf.length then
      let (data, rest) := readBytes len fsm.rcvStreambuf
      let contentOffset := state.contentOffset + len
      let fileOffset := state.fileOffset + len
      let outputEvent := { state.outputEvent with data, setup := true }
      ⟨.success, { state with contentOffset, fileOffset, outputEvent }, rest, [.doneSetUp]⟩
    else
      ⟨.success, state, fsm.rcvStreambuf, [.readContent (len - fsm.rcvStreambuf.length) len]⟩

def execute (state : HttpRcvBodyState) (fsm : HttpStateMachine) : Outcome :=
  if ¬ fsm.connected then state.stopped fsm .notConnected
  else match fsm.response with
    | none => state.stopped fsm .errorData
    | some response =>
      let fileOffset := if response.rangeBeg ≠ -1 then response.rangeBeg else 0
      let contentLength := response.contentLen
      let isChunk := if contentLength = -1 then true else state.isChunk
      let state := { state with fileOffset, contentLength, contentOffset := 0, isChunk }
      if response.statusCode ≠ SH_HTTP_STATUS_OK ∧
          response.statusCode ≠ SH_HTTP_STATUS_PARTIAL_CONTENT then
        state.stopped fsm .errorHttpStatus
      else if contentLength > 0 ∧ contentLength < kMaxContentLength then
        state.readContent fsm contentLength.toNat
      else if state.isChunk then state.readChunk fsm
      else state.stopped fsm .errorData

end HttpRcvBodyState
end BeeSdk.HttpBody
