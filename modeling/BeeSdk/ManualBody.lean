import BeeSdk.ChunkedBody

/-! A body in chunks that Lua reads by hand. Behind the header `LuaHttpSession`
decodes the chunks itself, and the readers of `lua_http_reader` ask it for bytes.
The coroutine that reads yields until its reader resumes it or gives up. -/
namespace BeeSdk.ManualBody
open ByteStream IStream StateMachine ChunkedBody

/-- `ReadCompletionConditon`. -/
def eReadCompletionConditon_Some : Int := 0
def eReadCompletionConditon_Exactly : Int := 1
def eReadCompletionConditon_Count : Int := 3

/-- Which `LuaHttpReader` it is. -/
inductive ReaderKind where
  | someReader
  | exactlyReader
  | scanfReader
  deriving DecidableEq

/-- `LuaHttpReader`, with what has been put into its buffer. -/
structure LuaHttpReader where
  kind : ReaderKind
  size : Nat
  buff : List UInt8 := []
  deriving DecidableEq

def LuaHttpReader.pos (reader : LuaHttpReader) : Nat := reader.buff.length

def LuaHttpReader.completed (reader : LuaHttpReader) : Bool :=
  match reader.kind with
  | .someReader => reader.pos > 0
  | .exactlyReader => reader.pos = reader.size
  | .scanfReader => reader.pos = reader.size

/-- An operation the io service has still to complete. -/
inductive Operation where
  | load
  | readChunkSize (delim : List UInt8)
  | loadChunkBody (needReadLen : Nat)
  deriving DecidableEq

/-- A reader that is done with its coroutine: it resumes it with what it has
read, or gives up. -/
structure Answer where
  reader : LuaHttpReader
  completed : Bool
  deriving DecidableEq

/-- What reading uses of the session; whether the coroutine that reads has
yielded, and the answers it has got so far. -/
structure LuaHttpSession where
  connected : Bool
  isChunk : Bool
  curChunkSize : Nat
  curChunkLeft : Nat
  reader : Option LuaHttpReader
  channel : Channel UInt8
  pending : Option Operation
  yielded : Bool
  answers : List Answer

namespace LuaHttpSession

def asyncLoad (session : LuaHttpSession) : LuaHttpSession := { session with pending := some .load }

/-- The bytes `read_stream` puts into the buffer. -/
def readStream (session : LuaHttpSession) (len : Nat) : List UInt8 × LuaHttpSession :=
  if len = 0 ∨ session.curChunkLeft = 0 then ([], session)
  else
    let ret := min len session.curChunkLeft
    let (bytes, received) := readBytes ret session.channel.received
    let curChunkLeft := session.curChunkLeft - ret
    -- "\r" and "\n"
    let received := if curChunkLeft = 0 then received.drop 2 else received
    (bytes, { session with curChunkLeft, channel := { session.channel with received } })

def resume (session : LuaHttpSession) (reader : LuaHttpReader) : LuaHttpSession :=
  { session with yielded := false, answers := session.answers ++ [⟨reader, true⟩] }

def giveUp (session : LuaHttpSession) (reader : LuaHttpReader) : LuaHttpSession :=
  { session with yielded := false, answers := session.answers ++ [⟨reader, false⟩] }

/-- `LuaHttpReader::notify`, of the session's reader when there is one. -/
def notify (session : LuaHttpSession) (e1 : BeeErrorCode) (ec2 : ErrorCode) (size : Nat) :
    LuaHttpSession :=
  match session.reader with
  | none => session
  | some reader =>
    if e1 ≠ .success ∨ ec2.isError then session.giveUp reader
    else
      let (bytes, session) := session.readStream (min size (reader.size - reader.pos))
      if bytes.length = 0 then session.giveUp reader
      else
        let reader := { reader with buff := reader.buff ++ bytes }
        let session := { session with reader := some reader }
        if ¬ reader.completed then session.asyncLoad else session.resume reader

def readChunkSize (session : LuaHttpSession) : LuaHttpSession :=
  { session with pending := some (.readChunkSize crlf) }

/-- The chunk and its line end are read whatever lies in the buffer. -/
def loadChunkBody (session : LuaHttpSession) (chunkSize : Nat) : LuaHttpSession :=
  let extraBytes := 2
  { session with pending := some (.loadChunkBody ((chunkSize + extraBytes) % 2 ^ 64)) }

def load (session : LuaHttpSession) : LuaHttpSession :=
  if ¬ session.isChunk then session
  else if session.curChunkLeft > 0 then session.notify .success .none session.curChunkLeft
  else session.readChunkSize

def handleReadChunkSize (session : LuaHttpSession) (ec2 : ErrorCode) : LuaHttpSession :=
  if ec2.isError then session.notify .readHttpChunkSizeFail ec2 0
  else
    let extracted := extractHex 64 session.curChunkSize session.channel.received
    let received := skipLine extracted.good extracted.rest
    let session := { session with
      curChunkSize := extracted.value, channel := { session.channel with received } }
    if session.curChunkSize = 0 then session.notify .eof ec2 0
    else session.loadChunkBody session.curChunkSize

def handleLoadChunkBody (session : LuaHttpSession) (ec2 : ErrorCode) : LuaHttpSession :=
  if ec2.isError then session.notify .readHttpChunkBodyFail ec2 0
  else
    { session with curChunkLeft := session.curChunkSize }.notify .success ec2 session.curChunkSize

/-- A read on the socket calls its handler once it is satisfied or the peer has
closed the connection. -/
def completeRead (session : LuaHttpSession) (result : Ending × Channel UInt8)
    (handler : LuaHttpSession → ErrorCode → LuaHttpSession) : Option LuaHttpSession :=
  let session := { session with channel := result.2, pending := none }
  match result.1 with
  | .satisfied => some (handler session .none)
  | .closed => some (handler session .eof)
  | .waiting => none

/-- The pending operation completes. -/
def advance (session : LuaHttpSession) : Option LuaHttpSession :=
  match session.pending with
  | none => none
  | some .load => some ({ session with pending := none } : LuaHttpSession).load
  | some (.readChunkSize delim) =>
    session.completeRead (session.channel.readUntil delim) handleReadChunkSize
  | some (.loadChunkBody needReadLen) =>
    session.completeRead (session.channel.readExactly needReadLen) handleLoadChunkBody

/-- `LuaHttpSession::read`; a read that succeeds makes the coroutine yield. -/
def read (session : LuaHttpSession) (len : Nat) (cond : Int) : BeeErrorCode × LuaHttpSession :=
  if len = 0 then (.invalidParam, session)
  else if ¬ session.connected then (.invalidState, session)
  else if cond < eReadCompletionConditon_Some ∨ cond ≥ eReadCompletionConditon_Count then
    (.invalidParam, session)
  else
    let kind := if cond = eReadCompletionConditon_Some then .someReader else .exactlyReader
    (.success, { session with reader := some { kind, size := len }, yielded := true }.asyncLoad)

/-- `LuaHttpSession::scanf` with a format of so many fields. -/
def scanf (session : LuaHttpSession) (fields totalSize : Nat) : BeeErrorCode × LuaHttpSession :=
  if ¬ session.connected then (.invalidState, session)
  else if totalSize = 0 ∨ fields = 0 then
    (.invalidParam, { session with reader := some { kind := .scanfReader, size := 0 } })
  else
    (.success, { session with
      reader := some { kind := .scanfReader, size := totalSize }, yielded := true }.asyncLoad)

end LuaHttpSession

/-- A call of the coroutine that reads. -/
inductive Request where
  | read (len : Nat) (cond : Int)
  | scanf (fields totalSize : Nat)

/-- The coroutine makes a call unless it has yielded. -/
def LuaHttpSession.ask (session : LuaHttpSession) (request : Request) : Option LuaHttpSession :=
  if session.yielded then none
  else match request with
    | .read len cond => some (session.read len cond).2
    | .scanf fields totalSize => some (session.scanf fields totalSize).2

/-! ### What has been read and what could be -/

/-- All bytes put into the buffers of readers, the one still at work included. -/
def LuaHttpSession.delivered (session : LuaHttpSession) : List UInt8 :=
  session.answers.flatMap (fun answer => answer.reader.buff) ++
    if session.yielded then (session.reader.map LuaHttpReader.buff).getD [] else []

/-- How many bytes complete a reader. -/
def LuaHttpReader.wanted (reader : LuaHttpReader) : Nat :=
  match reader.kind with
  | .someReader => 1
  | .exactlyReader => reader.size
  | .scanfReader => reader.size

/-- How much of the content is among the first bytes of the chunks as they are
sent. -/
def sentContent : List Chunk → Nat → Nat
  | [], _ => 0
  | chunk :: rest, sent =>
    min chunk.data.length (sent - (chunk.digits ++ crlf).length) +
      sentContent rest (sent - chunk.encode.length)

/-- A session that has read the header of a response in chunks. -/
structure ReadingBegins (session : LuaHttpSession) : Prop where
  connected : session.connected = true
  chunked : session.isChunk = true
  curChunkSize : session.curChunkSize = 0
  curChunkLeft : session.curChunkLeft = 0
  pending : session.pending = none
  yielded : session.yielded = false
  answers : session.answers = []

/-- A connection whose peer sends the body, or the beginning of it. -/
structure Connection where
  session : LuaHttpSession
  body : Body
  begins : ReadingBegins session
  bounded : ∀ chunk ∈ body.chunks, chunk.data.length < 2 ^ 64 - 2
  sent : session.channel.bytes <+: body.encode ++ crlf

namespace Connection

/-- How much of the content the peer sends. -/
def sentLength (connection : Connection) : Nat :=
  sentContent connection.body.chunks connection.session.channel.bytes.length

/-- The peer sends all bytes a reader wants that is made behind these answers. -/
def AllSent (connection : Connection) (answers : List Answer) (reader : LuaHttpReader) : Prop :=
  (answers.flatMap fun answer => answer.reader.buff).length + reader.wanted ≤ connection.sentLength

instance (connection : Connection) (answers : List Answer) (reader : LuaHttpReader) :
    Decidable (connection.AllSent answers reader) := inferInstanceAs (Decidable (_ ≤ _))

/-- What reading by hand should come to: the readers have got the content from
its beginning on, every reader whose bytes have all been sent has resumed its
coroutine, none is still waiting for such bytes, and every call comes to rest. -/
structure ReadsContent (connection : Connection) (session : LuaHttpSession) : Prop where
  in_order : session.delivered <+: content connection.body.chunks
  complete : ∀ before answer, before ++ [answer] <+: session.answers →
    connection.AllSent before answer.reader → answer.completed = true
  nothing_waits : session.yielded = true → ∀ reader, session.reader = some reader →
    ¬ connection.AllSent session.answers reader
  settles : ∀ request begun, session.ask request = some begun →
    ∃ final, Runs.Settles LuaHttpSession.advance begun final

/-- A chunk that is loaded for a reader whose bytes have all been sent is still
to come, with its line end. -/
def ChunkToCome (connection : Connection) (session : LuaHttpSession) : Prop :=
  ∀ needReadLen, session.pending = some (.loadChunkBody needReadLen) →
    ∀ reader, session.reader = some reader → connection.AllSent session.answers reader →
      needReadLen ≤ session.channel.arrivals.flatten.length

/-- Every chunk loaded in the call is still to come, and behind a reader that
gave up nothing more is asked for than has been sent. -/
def LoadsWhole (connection : Connection) (session begun : LuaHttpSession) : Prop :=
  (∀ answer, session.answers.getLast? = some answer → answer.completed = false →
    connection.sentLength ≤ session.delivered.length) ∧
  ∀ passed, Runs.Passes LuaHttpSession.advance begun passed → connection.ChunkToCome passed

end Connection

end BeeSdk.ManualBody
