import BeeSdk.ByteStream
import BeeSdk.Session
import BeeSdk.Runs

/-! A body in chunks, as a peer may send it, and a session that receives it over
a connection. The bytes come in arrivals cut anywhere; some of them may already
lie in the stream buffer behind the header. -/
namespace BeeSdk.ChunkedBody
open ByteStream IStream StateMachine HttpBody Session

variable {Endpoint : Type}

/-- A chunk that is sent: some data and a size line that spells its length. -/
structure Chunk where
  data : List UInt8
  digits : List UInt8
  filled : data ≠ []
  spelled : Spells digits data.length

def Chunk.encode (chunk : Chunk) : List UInt8 := chunk.digits ++ crlf ++ (chunk.data ++ crlf)

/-- The chunks of a body and the size line of the zero chunk that closes it. -/
structure Body where
  chunks : List Chunk
  digits : List UInt8
  spelled : Spells digits 0

/-- What the chunks carry. -/
def content (chunks : List Chunk) : List UInt8 := chunks.flatMap Chunk.data

def Body.encode (body : Body) : List UInt8 := body.chunks.flatMap Chunk.encode ++ (body.digits ++ crlf)

/-! ### Receiving -/

/-- A session, what its peer has still to deliver, and what has been noticed of
the session so far. -/
structure Transfer (Endpoint : Type) where
  session : HttpSession Endpoint
  arrivals : List (List UInt8)
  closes : Bool
  entries : List (Entry Endpoint)

namespace Transfer

/-- The bytes not yet consumed. -/
def channel (transfer : Transfer Endpoint) : Channel UInt8 :=
  ⟨transfer.session.rcvStreambuf, transfer.arrivals, transfer.closes⟩

/-- A read completes with the bytes it took in, with the end of the stream, or
not at all. -/
def read (transfer : Transfer Endpoint) (result : Ending × Channel UInt8) :
    Option (Completion Endpoint × List (List UInt8)) :=
  let bytes := result.2.received.drop transfer.session.rcvStreambuf.length
  match result.1 with
  | .satisfied => some (.received .none bytes, result.2.arrivals)
  | .closed => some (.received .eof bytes, result.2.arrivals)
  | .waiting => none

/-- How the connection completes the operations of the body. -/
def completion (transfer : Transfer Endpoint) :
    Operation → Option (Completion Endpoint × List (List UInt8))
  | .execute _ => some (.executed, transfer.arrivals)
  | .postChunkBody => some (.executed, transfer.arrivals)
  | .readChunkSizeLine delim => transfer.read (transfer.channel.readUntil delim)
  | .readChunkBody atLeast => transfer.read (transfer.channel.readAtLeast atLeast)
  | .readContent atLeast _ => transfer.read (transfer.channel.readAtLeast atLeast)
  | _ => none

/-- The session's one pending operation completes. -/
def advance (surroundings : Surroundings Endpoint) (answers : Answers)
    (transfer : Transfer Endpoint) : Option (Transfer Endpoint) :=
  match transfer.session.pending with
  | [operation] =>
    (transfer.completion operation).bind fun (completion, arrivals) =>
      (HttpSession.step surroundings transfer.session (.completes 0 completion answers)).map
        fun (entries, session) =>
          { transfer with session, arrivals, entries := transfer.entries ++ entries }
  | _ => none

end Transfer

/-- The session has read a header that announces chunks and is about to execute
a body state that has not been executed before. -/
structure BodyBegins (session : HttpSession Endpoint) : Prop where
  pending : session.pending = [.execute eHttpState_RcvBody]
  connected : session.connected = true
  body : session.body = { waitComplete := session.body.waitComplete }
  response : ∃ response, session.response = some response ∧ response.contentLen = -1 ∧
    (response.statusCode = SH_HTTP_STATUS_OK ∨
      response.statusCode = SH_HTTP_STATUS_PARTIAL_CONTENT)

/-- A connection on which the body is sent, with anything behind it. The sizes
of its chunks fit 32 bits. -/
structure Connection (Endpoint : Type) where
  session : HttpSession Endpoint
  arrivals : List (List UInt8)
  closes : Bool
  body : Body
  trailing : List UInt8
  begins : BodyBegins session
  bounded : ∀ chunk ∈ body.chunks, chunk.data.length < 2 ^ 32 - 2
  sent : session.rcvStreambuf ++ arrivals.flatten = body.encode ++ trailing

/-- The same connection under either setting of `wait_complete`. -/
def Connection.transfer (connection : Connection Endpoint) (waitComplete : Bool) :
    Transfer Endpoint :=
  ⟨{ connection.session with body := { connection.session.body with waitComplete } },
    connection.arrivals, connection.closes, []⟩

/-! ### What the requester gets -/

/-- The events `on_rcv_body` is handed. -/
def handed (entries : List (Entry Endpoint)) : List StateEvent :=
  entries.filterMap fun
    | .rcvBody event => some event
    | _ => none

/-- The events `HttpSession::output` is called with. -/
def outputs (entries : List (Entry Endpoint)) : List StateEvent :=
  entries.filterMap fun
    | .output event => some event
    | _ => none

/-- The events that reach the requester either way. -/
def delivered (entries : List (Entry Endpoint)) : List StateEvent :=
  entries.filterMap fun
    | .rcvBody event => some event
    | .output event => some event
    | _ => none

/-- The session comes to rest with nothing pending, `on_rcv_body` has been handed
one successful event with exactly this body, and the requester who agreed to it
has been told that the machine finished. -/
def DeliversBody (surroundings : Surroundings Endpoint) (answers : Answers)
    (start : Transfer Endpoint) (body : List UInt8) : Prop :=
  ∃ final, Runs.Settles (Transfer.advance surroundings answers) start final ∧
    final.session.pending = [] ∧
    handed final.entries = [{ ec1 := .success, ec2 := .none, setup := true, data := body }] ∧
    (Verdict.Agrees answers.verdict →
      (outputs final.entries).map StateEvent.ec1 = [.stateMachineFinished])

/-- What streaming should come to: its deliveries together are the body the
waiting mode delivers once, every chunk is delivered exactly once, and both
modes end by reporting that the machine finished. -/
def StreamsLikeWaiting (surroundings : Surroundings Endpoint) (answers : Answers)
    (connection : Connection Endpoint) : Prop :=
  ∃ streamed waited,
    Runs.Settles (Transfer.advance surroundings answers) (connection.transfer false) streamed ∧
    Runs.Settles (Transfer.advance surroundings answers) (connection.transfer true) waited ∧
    (delivered streamed.entries).flatMap StateEvent.data =
      (handed waited.entries).flatMap StateEvent.data ∧
    ((delivered streamed.entries).map StateEvent.data).filter (· ≠ []) =
      connection.body.chunks.map Chunk.data ∧
    (outputs streamed.entries).getLast?.map StateEvent.ec1 = some .stateMachineFinished ∧
    (outputs waited.entries).getLast?.map StateEvent.ec1 = some .stateMachineFinished

end BeeSdk.ChunkedBody
