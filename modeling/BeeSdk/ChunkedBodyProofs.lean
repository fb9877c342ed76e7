import BeeSdk.ChunkedBody

/-! Receiving a chunked body, whatever the arrivals. One lemma follows a chunk
from its size line to the next size line, one the closing zero chunk to the
report; both modes of the body state are instances. -/
namespace BeeSdk.ChunkedBodyProofs
open ByteStream IStream StateMachine HttpBody Session ChunkedBody

variable {Endpoint : Type} (surroundings : Surroundings Endpoint) (answers : Answers)

/-! ### What a read takes in -/

private theorem digits_without_line (spells : Spells digits value) :
    newline ∉ digits ++ [carriageReturn] := by
  intro member
  rcases List.mem_append.mp member with digit | last
  · exact absurd (spells.hex _ digit) (by decide)
  · exact absurd (List.mem_singleton.mp last) (by decide)

/-- Whoever has received a line end has received the whole size line. -/
theorem line_received (spells : Spells digits value)
    (first : received <+: digits ++ crlf ++ rest) (ended : crlf <:+: received) :
    digits ++ crlf <+: received := by
  by_cases long : (digits ++ crlf).length ≤ received.length
  · exact List.prefix_of_prefix_length_le (List.prefix_append _ _) first long
  · exfalso
    have short : received <+: digits ++ [carriageReturn] := by
      have whole : digits ++ crlf ++ rest = (digits ++ [carriageReturn]) ++ (newline :: rest) := by
        simp [crlf]
      refine List.prefix_of_prefix_length_le first ?_ ?_
      · rw [whole]
        exact List.prefix_append _ _
      · simp only [crlf, List.length_append, List.length_cons, List.length_nil] at long ⊢
        omega
    have inside : newline ∈ received := ended.subset (by simp [crlf])
    exact digits_without_line spells (short.subset inside)

theorem readUntil_line (spells : Spells digits value) {channel : Channel UInt8}
    (sent : channel.bytes = digits ++ crlf ++ rest) :
    ∃ more arrivals, channel.readUntil crlf =
        (.satisfied, ⟨digits ++ crlf ++ more, arrivals, channel.closes⟩) ∧
      channel.received <+: digits ++ crlf ++ more ∧ more ++ arrivals.flatten = rest := by
  have contained : decide (crlf <:+: channel.bytes) = true := by
    rw [sent, decide_eq_true_eq]
    exact ⟨digits, rest, rfl⟩
  obtain ⟨received, arrivals, took, extended, conserved, enough⟩ :=
    receive_takes (fun received => decide (crlf <:+: received)) channel contained
  have total : received ++ arrivals.flatten = digits ++ crlf ++ rest := conserved.trans sent
  obtain ⟨more, rfl⟩ := line_received spells ⟨_, total⟩ (of_decide_eq_true enough)
  refine ⟨more, arrivals, took, extended, ?_⟩
  rw [List.append_assoc] at total
  exact List.append_cancel_left total

/-- A read of at least as many bytes as are missing takes them in. -/
theorem readAtLeast_missing {channel : Channel UInt8} (missing : channel.received.length ≤ length)
    (sent : length ≤ channel.bytes.length) :
    ∃ received arrivals, channel.readAtLeast (length - channel.received.length) =
        (.satisfied, ⟨received, arrivals, channel.closes⟩) ∧
      channel.received <+: received ∧ received ++ arrivals.flatten = channel.bytes ∧
      length ≤ received.length := by
  have contained : decide (channel.received.length + (length - channel.received.length) ≤
      channel.bytes.length) = true := by
    rw [decide_eq_true_eq]
    omega
  obtain ⟨received, arrivals, took, extended, conserved, enough⟩ :=
    receive_takes (fun received => decide (channel.received.length +
      (length - channel.received.length) ≤ received.length)) channel contained
  have long := of_decide_eq_true enough
  exact ⟨received, arrivals, took, extended, conserved, by omega⟩

/-! ### The body state's steps -/

theorem received_again {early late : List UInt8} (first : early <+: late) :
    early ++ late.drop early.length = late := by
  obtain ⟨rest, rfl⟩ := first
  rw [List.drop_left]

private theorem ofNat_size {size : Nat} (small : size < 2 ^ 32) :
    (UInt32.ofNat size).toNat = size := by
  rw [UInt32.toNat_ofNat', Nat.mod_eq_of_lt small]

/-- A chunk and its line end fit 32 bits, so the comparison does not wrap. -/
private theorem ofNat_size_and_line {size : Nat} (bounded : size < 2 ^ 32 - 2) :
    (UInt32.ofNat size + 2).toNat = size + 2 := by
  rw [UInt32.toNat_add, ofNat_size (by omega : size < 2 ^ 32)]
  exact Nat.mod_eq_of_lt (by simp; omega)

private theorem line_length (spells : Spells digits size) (more : List UInt8) :
    2 < (digits ++ crlf ++ more).length := by
  have := List.length_pos_iff.mpr spells.some_digit
  simp [crlf]
  omega

/-- The size line is taken off the buffer; what follows depends on the number
and on what lies behind the line. -/
theorem size_line_outcome (body : HttpRcvBodyState) (response : Option HttpResponse)
    (spells : Spells digits size) (bounded : size < 2 ^ 32) (more : List UInt8) :
    body.handleReadChunkSize ⟨true, response, digits ++ crlf ++ more⟩ .none =
      Outcome.finish .none (
        if UInt32.ofNat size > 0 then
          { body with lastChunkSize := UInt32.ofNat size }.readChunkBody ⟨true, response, more⟩
        else { body with lastChunkSize := UInt32.ofNat size }.reportCacheContent
          ⟨true, response, more⟩ .success .none) := by
  have extracted : extractHex 32 body.lastChunkSize.toNat (digits ++ crlf ++ more) =
      ⟨size, true, crlf ++ more⟩ := by
    rw [List.append_assoc]
    exact extractHex_spelled spells bounded _ _
  have long : ¬ (digits ++ crlf ++ more).length ≤ 2 := Nat.not_le.mpr (line_length spells more)
  have left : skipLine true (crlf ++ more) = more := skipLine_spelled more
  simp only [HttpRcvBodyState.handleReadChunkSize, extracted, long, left]
  rfl

theorem chunk_size_outcome (body : HttpRcvBodyState) (response : Option HttpResponse)
    (spells : Spells digits size) (positive : 0 < size) (bounded : size < 2 ^ 32 - 2)
    (more : List UInt8) :
    body.handleReadChunkSize ⟨true, response, digits ++ crlf ++ more⟩ .none =
      ⟨.success, { body with lastChunkSize := UInt32.ofNat size }, more,
        [if size + 2 ≤ more.length then .postChunkBody
          else .readChunkBody (size + 2 - more.length)]⟩ := by
  have number := ofNat_size (by omega : size < 2 ^ 32)
  have some : UInt32.ofNat size > 0 := by
    rw [gt_iff_lt, UInt32.lt_iff_toNat_lt, number]
    exact positive
  have two := ofNat_size_and_line bounded
  rw [size_line_outcome body response spells (by omega) more, if_pos some]
  simp only [HttpRcvBodyState.readChunkBody, two, number, ge_iff_le, not_true_eq_false, if_false]
  by_cases ready : size + 2 ≤ more.length
  · rw [if_pos ready, if_pos ready]
    rfl
  · rw [if_neg ready, if_neg ready]
    rfl

theorem zero_size_outcome (body : HttpRcvBodyState) (response : Option HttpResponse)
    (spells : Spells digits 0) (more : List UInt8) :
    body.handleReadChunkSize ⟨true, response, digits ++ crlf ++ more⟩ .none =
      { body with lastChunkSize := 0 }.reportCacheContent ⟨true, response, more⟩ .success .none := by
  rw [size_line_outcome body response spells (by decide) more]
  rfl

/-- What one chunk leaves of the body state: in the waiting mode the data is
kept, in the streaming mode it is the output event's. -/
def afterChunk (body : HttpRcvBodyState) (data : List UInt8) : HttpRcvBodyState :=
  let body := { body with
    lastChunkSize := UInt32.ofNat data.length
    contentOffset := body.contentOffset + data.length }
  if body.waitComplete then { body with contentBuff := body.contentBuff ++ data }
  else { body with outputEvent := { body.outputEvent with data } }

/-- What one chunk reports at once. -/
def chunkReport (body : HttpRcvBodyState) (data : List UInt8) : List HttpBody.Command :=
  if body.waitComplete then [] else [.output { body.outputEvent with data }]

theorem chunk_body_outcome (body : HttpRcvBodyState) (response : Option HttpResponse)
    {data : List UInt8} (bounded : data.length < 2 ^ 32 - 2) (more : List UInt8) :
    { body with lastChunkSize := UInt32.ofNat data.length }.handleReadChunkBody
        ⟨true, response, data ++ (crlf ++ more)⟩ .none =
      ⟨.success, afterChunk body data, more,
        chunkReport body data ++ [.readChunkSizeLine crlf]⟩ := by
  have number := ofNat_size (by omega : data.length < 2 ^ 32)
  have two := ofNat_size_and_line bounded
  have enough : (data ++ (crlf ++ more)).length ≥ data.length + 2 := by
    simp [crlf]
  have taken : readBytes data.length (data ++ (crlf ++ more)) = (data, crlf ++ more) := by
    simp [readBytes]
  simp only [HttpRcvBodyState.handleReadChunkBody, two, number, enough, taken]
  cases waits : body.waitComplete
  · simp [afterChunk, chunkReport, waits, HttpRcvBodyState.readChunk,
      HttpRcvBodyState.readChunkSize, Outcome.finish, ErrorCode.isError, crlf]
  · simp [afterChunk, chunkReport, waits, HttpRcvBodyState.readChunk,
      HttpRcvBodyState.readChunkSize, Outcome.finish, ErrorCode.isError, crlf]

/-! ### The session's steps -/

/-- A transfer whose session waits for one operation of its body state. -/
private def reading (transfer : Transfer Endpoint) (operation : Operation) (body : HttpRcvBodyState)
    (buffer : List UInt8) (arrivals : List (List UInt8)) (entries : List (Entry Endpoint)) :
    Transfer Endpoint :=
  { transfer with
    session := { transfer.session with
      pending := [operation], rcvStreambuf := buffer, body, log := [] }
    arrivals, entries }

/-- What a body handler's outcome makes of a transfer whose operation it ends. -/
private def handled (transfer : Transfer Endpoint) (answers : Answers)
    (arrivals : List (List UInt8)) (entries : List (Entry Endpoint)) (outcome : Outcome) :
    Transfer Endpoint :=
  let (noticed, session) := HttpSession.flush
    ({ transfer.session with pending := [], log := [] }.afterBody answers outcome)
  { transfer with session, arrivals, entries := entries ++ noticed }

/-- A satisfied read hands the handler everything received. -/
private theorem line_advance {transfer : Transfer Endpoint} {received : List UInt8}
    (took : Channel.readUntil crlf ⟨buffer, arrivals, transfer.closes⟩ =
      (.satisfied, ⟨received, left, transfer.closes⟩))
    (extended : buffer <+: received) :
    (reading transfer (.readChunkSizeLine crlf) body buffer arrivals entries).advance
        surroundings answers =
      some (handled transfer answers left entries (body.handleReadChunkSize
        ⟨transfer.session.connected, transfer.session.response, received⟩ .none)) := by
  have whole := received_again extended
  simp only [Transfer.advance, reading, Transfer.completion, Transfer.channel, took, Transfer.read,
    Option.bind_some, HttpSession.step, List.getElem?_cons_zero, HttpSession.complete, whole,
    List.eraseIdx_zero, List.tail_cons, Option.map_some]
  rfl

private theorem rest_taken_advance {transfer : Transfer Endpoint} {received : List UInt8}
    (took : Channel.readAtLeast atLeast ⟨buffer, arrivals, transfer.closes⟩ =
      (.satisfied, ⟨received, left, transfer.closes⟩))
    (extended : buffer <+: received) :
    (reading transfer (.readChunkBody atLeast) body buffer arrivals entries).advance
        surroundings answers =
      some (handled transfer answers left entries (body.handleReadChunkBody
        ⟨transfer.session.connected, transfer.session.response, received⟩ .none)) := by
  have whole := received_again extended
  simp only [Transfer.advance, reading, Transfer.completion, Transfer.channel, took, Transfer.read,
    Option.bind_some, HttpSession.step, List.getElem?_cons_zero, HttpSession.complete, whole,
    List.eraseIdx_zero, List.tail_cons, Option.map_some]
  rfl

/-- The operation that waits for the rest of a chunk, or for its turn where the
rest has been received already. -/
private def restOf (size : Nat) (buffer : List UInt8) : Operation :=
  if size + 2 ≤ buffer.length then .postChunkBody
  else .readChunkBody (size + 2 - buffer.length)

/-- A size line of a chunk leads to waiting for the chunk. -/
private theorem size_advance {transfer : Transfer Endpoint} {body : HttpRcvBodyState}
    (connected : transfer.session.connected = true) (spells : Spells digits size)
    (positive : 0 < size) (bounded : size < 2 ^ 32 - 2)
    (sent : buffer ++ arrivals.flatten = digits ++ crlf ++ rest)
    (entries : List (Entry Endpoint)) :
    ∃ more left, more ++ left.flatten = rest ∧
      (reading transfer (.readChunkSizeLine crlf) body buffer arrivals entries).advance
          surroundings answers =
        some (reading transfer (restOf size more) { body with lastChunkSize := UInt32.ofNat size }
          more left entries) := by
  have line : Channel.bytes ⟨buffer, arrivals, transfer.closes⟩ = digits ++ crlf ++ rest := sent
  obtain ⟨more, left, took, extended, remaining⟩ := readUntil_line spells line
  refine ⟨more, left, remaining, ?_⟩
  rw [line_advance surroundings answers took extended, connected,
    chunk_size_outcome body _ spells positive bounded more]
  by_cases ready : size + 2 ≤ more.length
  · simp only [reading, restOf, if_pos ready, handled]
    simp [HttpSession.afterBody, HttpSession.performBody, HttpSession.await, HttpSession.flush]
  · simp only [reading, restOf, if_neg ready, handled]
    simp [HttpSession.afterBody, HttpSession.performBody, HttpSession.await, HttpSession.flush]

/-- What the requester notices of one chunk. -/
def chunkEntries (body : HttpRcvBodyState) (data : List UInt8) : List (Entry Endpoint) :=
  if body.waitComplete then [] else [.output { body.outputEvent with data }]

/-- Once a chunk and its line end have been received, the session waits for the
next size line. -/
private theorem handled_chunk {transfer : Transfer Endpoint}
    (connected : transfer.session.connected = true) (body : HttpRcvBodyState) {data : List UInt8}
    (bounded : data.length < 2 ^ 32 - 2) (behind : List UInt8) (arrivals : List (List UInt8))
    (entries : List (Entry Endpoint)) :
    handled transfer answers arrivals entries
        ({ body with lastChunkSize := UInt32.ofNat data.length }.handleReadChunkBody
          ⟨transfer.session.connected, transfer.session.response, data ++ (crlf ++ behind)⟩ .none) =
      reading transfer (.readChunkSizeLine crlf) (afterChunk body data) behind arrivals
        (entries ++ chunkEntries body data) := by
  rw [connected, chunk_body_outcome body _ bounded behind]
  cases waits : body.waitComplete
  · simp [handled, reading, chunkReport, chunkEntries, waits, HttpSession.afterBody,
      HttpSession.performBody, HttpSession.await, HttpSession.output, HttpSession.note,
      HttpSession.flush]
  · simp [handled, reading, chunkReport, chunkEntries, waits, HttpSession.afterBody,
      HttpSession.performBody, HttpSession.await, HttpSession.flush]

/-- Whatever has been received in full splits behind the chunk's line end. -/
private theorem chunk_received {data received : List UInt8} {left : List (List UInt8)}
    (total : received ++ left.flatten = data ++ (crlf ++ rest))
    (long : data.length + 2 ≤ received.length) :
    ∃ behind, received = data ++ (crlf ++ behind) ∧ behind ++ left.flatten = rest := by
  rw [← List.append_assoc] at total
  have first : data ++ crlf <+: received :=
    List.prefix_of_prefix_length_le (List.prefix_append _ rest) ⟨_, total⟩ (by simp [crlf]; omega)
  obtain ⟨behind, rfl⟩ := first
  rw [List.append_assoc (data ++ crlf)] at total
  exact ⟨behind, List.append_assoc .., List.append_cancel_left total⟩

private theorem rest_advance {transfer : Transfer Endpoint}
    (connected : transfer.session.connected = true) (body : HttpRcvBodyState) {data : List UInt8}
    (bounded : data.length < 2 ^ 32 - 2)
    (sent : more ++ arrivals.flatten = data ++ (crlf ++ rest)) (entries : List (Entry Endpoint)) :
    ∃ behind left, behind ++ left.flatten = rest ∧
      (reading transfer (restOf data.length more)
          { body with lastChunkSize := UInt32.ofNat data.length } more arrivals entries).advance
          surroundings answers =
        some (reading transfer (.readChunkSizeLine crlf) (afterChunk body data) behind left
          (entries ++ chunkEntries body data)) := by
  by_cases ready : data.length + 2 ≤ more.length
  · obtain ⟨behind, rfl, remaining⟩ := chunk_received sent ready
    refine ⟨behind, arrivals, remaining, ?_⟩
    rw [restOf, if_pos ready, ← handled_chunk answers connected body bounded behind arrivals entries]
    rfl
  · have missing : (Channel.mk more arrivals transfer.closes).received.length ≤ data.length + 2 := by
      dsimp only
      omega
    have total : data.length + 2 ≤ (Channel.bytes ⟨more, arrivals, transfer.closes⟩).length := by
      rw [Channel.bytes, sent]
      simp [crlf]
    obtain ⟨received, left, took, extended, conserved, long⟩ := readAtLeast_missing missing total
    obtain ⟨behind, rfl, remaining⟩ := chunk_received (conserved.trans sent) long
    refine ⟨behind, left, remaining, ?_⟩
    rw [restOf, if_neg ready, rest_taken_advance surroundings answers took extended,
      handled_chunk answers connected body bounded behind left entries]

/-! ### Whole bodies -/

/-- What a run of chunks leaves of the body state. -/
def afterChunks (body : HttpRcvBodyState) (chunks : List Chunk) : HttpRcvBodyState :=
  chunks.foldl (fun body chunk => afterChunk body chunk.data) body

/-- What the requester notices of a run of chunks. -/
def chunksEntries (body : HttpRcvBodyState) : List Chunk → List (Entry Endpoint)
  | [] => []
  | chunk :: rest => chunkEntries body chunk.data ++ chunksEntries (afterChunk body chunk.data) rest

/-- However the chunks are cut into arrivals, the session gets to the size line
behind the last of them. -/
private theorem chunks_settle {transfer : Transfer Endpoint}
    (connected : transfer.session.connected = true) (chunks : List Chunk)
    (bounded : ∀ chunk ∈ chunks, chunk.data.length < 2 ^ 32 - 2)
    (body : HttpRcvBodyState) (entries : List (Entry Endpoint))
    (sent : buffer ++ arrivals.flatten = chunks.flatMap Chunk.encode ++ rest) :
    ∃ behind left, behind ++ left.flatten = rest ∧
      ∀ final, Runs.Settles (Transfer.advance surroundings answers)
          (reading transfer (.readChunkSizeLine crlf) (afterChunks body chunks) behind left
            (entries ++ chunksEntries body chunks)) final →
        Runs.Settles (Transfer.advance surroundings answers)
          (reading transfer (.readChunkSizeLine crlf) body buffer arrivals entries) final := by
  induction chunks generalizing body buffer arrivals entries with
  | nil =>
    refine ⟨buffer, arrivals, sent, fun final settles => ?_⟩
    simpa [afterChunks, chunksEntries] using settles
  | cons chunk chunks ih =>
    have line : buffer ++ arrivals.flatten = chunk.digits ++ crlf ++
        (chunk.data ++ (crlf ++ (chunks.flatMap Chunk.encode ++ rest))) := by
      rw [sent]
      simp [Chunk.encode]
    have fits := bounded chunk (by simp)
    obtain ⟨more, left, remaining, sized⟩ := size_advance surroundings answers connected
      chunk.spelled (List.length_pos_iff.mpr chunk.filled) fits line entries
    obtain ⟨behind, left', remaining', taken⟩ := rest_advance surroundings answers
      connected body fits remaining entries
    obtain ⟨last, left'', remaining'', settles⟩ := ih
      (fun other member => bounded other (by simp [member])) (afterChunk body chunk.data)
      (entries ++ chunkEntries body chunk.data) remaining'
    refine ⟨last, left'', remaining'', fun final settled => ?_⟩
    rw [chunksEntries, ← List.append_assoc] at settled
    exact Runs.settles_step sized (Runs.settles_step taken (settles final settled))

/-- The code the session reports once `on_rcv_body` has been handed a body. -/
def bodyOutcome (verdict : Verdict) : BeeErrorCode :=
  if verdict.handler = some false ∨ verdict.callback = some false then .stateMachineInterrupted
  else if verdict.own ≠ .success then verdict.own
  else .stateMachineFinished

private theorem done_without_body {session : HttpSession Endpoint}
    (empty : session.body.outputEvent.setup = false) :
    (session.done answers eHttpState_RcvBody .success .none).pending = session.pending ∧
      (session.done answers eHttpState_RcvBody .success .none).log = session.log ++
        [.output { session.body.outputEvent with ec1 := .success, ec2 := .none },
          .stopped .success] := by
  simp [HttpSession.done, HttpSession.doneSetUp, HttpSession.outputEvent,
    HttpSession.setOutputEvent, switchToNext, route, empty, HttpSession.wiring,
    HttpSession.output, HttpSession.note, eHttpState_Resolve, eHttpState_Connect,
    eHttpState_Request, eHttpState_RcvHeader, eHttpState_RcvBody]

/-- A successful event is handed to `on_rcv_body`, and no state follows. -/
theorem route_body (session current : HttpSession Endpoint) (event : StateEvent)
    (full : event.setup = true) (success : event.ec1 = .success) (none : event.ec2 = .none) :
    route (session.wiring answers eHttpState_RcvBody) event current =
      (false, { event with ec1 := bodyOutcome answers.verdict }, current.note (.rcvBody event)) := by
  obtain ⟨ec1, ec2, setup, data⟩ := event
  subst full success none
  simp only [route, HttpSession.wiring, onRcvBody, consult, bodyOutcome, eHttpState_Resolve,
    eHttpState_Connect, eHttpState_Request, eHttpState_RcvHeader, eHttpState_RcvBody]
  by_cases handler : answers.verdict.handler = some false
  · simp [handler, ErrorCode.isError, kInvalidState]
  · by_cases callback : answers.verdict.callback = some false
    · simp [handler, callback, ErrorCode.isError, kInvalidState]
    · by_cases own : answers.verdict.own = .success
      · simp [handler, callback, own, ErrorCode.isError, kInvalidState, kFinishedState]
      · simp [handler, callback, own, ErrorCode.isError, kInvalidState]

/-- A finished body state reports to its session; nothing comes after it. -/
theorem done_with_body {session : HttpSession Endpoint}
    (full : session.body.outputEvent.setup = true) :
    (session.done answers eHttpState_RcvBody .success .none).pending = session.pending ∧
      (session.done answers eHttpState_RcvBody .success .none).log = session.log ++
        [.rcvBody { session.body.outputEvent with ec1 := .success, ec2 := .none },
          .output { session.body.outputEvent with
            ec1 := bodyOutcome answers.verdict, ec2 := .none },
          .stopped (bodyOutcome answers.verdict)] := by
  rw [HttpSession.done, HttpSession.doneSetUp, switchToNext, route_body answers _ _ _ ?_ ?_ ?_]
  · simp [HttpSession.wiring, HttpSession.outputEvent, HttpSession.setOutputEvent,
      HttpSession.output, HttpSession.note, eHttpState_Resolve, eHttpState_Connect,
      eHttpState_Request, eHttpState_RcvHeader, eHttpState_RcvBody]
  all_goals simp [HttpSession.outputEvent, HttpSession.setOutputEvent, eHttpState_Resolve,
    eHttpState_Connect, eHttpState_Request, eHttpState_RcvHeader, eHttpState_RcvBody, full]

/-- The body state once it has read the zero chunk's size. -/
private def closed (body : HttpRcvBodyState) : HttpRcvBodyState := { body with lastChunkSize := 0 }

/-- Behind the zero chunk's size line the body state reports what it has kept. -/
private theorem zero_advance {transfer : Transfer Endpoint}
    (connected : transfer.session.connected = true) (body : HttpRcvBodyState)
    (spells : Spells digits 0)
    (sent : buffer ++ arrivals.flatten = digits ++ crlf ++ rest) (entries : List (Entry Endpoint)) :
    ∃ fsm left, (reading transfer (.readChunkSizeLine crlf) body buffer arrivals entries).advance
        surroundings answers =
      some (handled transfer answers left entries
        ((closed body).reportCacheContent fsm .success .none)) := by
  have line : Channel.bytes ⟨buffer, arrivals, transfer.closes⟩ = digits ++ crlf ++ rest := sent
  obtain ⟨more, left, took, extended, _⟩ := readUntil_line spells line
  refine ⟨⟨true, transfer.session.response, more⟩, left, ?_⟩
  rw [line_advance surroundings answers took extended, connected,
    zero_size_outcome body _ spells more]
  rfl

private theorem settled_of_nothing_pending {transfer : Transfer Endpoint}
    (nothing : transfer.session.pending = []) : transfer.advance surroundings answers = none := by
  rw [Transfer.advance, nothing]

/-- Content that has been kept is reported as the body. -/
private theorem handled_kept (transfer : Transfer Endpoint) (left : List (List UInt8))
    (entries : List (Entry Endpoint)) (body : HttpRcvBodyState) (fsm : HttpStateMachine)
    (kept : body.contentBuff ≠ []) :
    let final := handled transfer answers left entries (body.reportCacheContent fsm .success .none)
    final.session.pending = [] ∧ final.entries = entries ++
      [.rcvBody ⟨.success, .none, true, body.contentBuff⟩,
        .output ⟨bodyOutcome answers.verdict, .none, true, body.contentBuff⟩,
        .stopped (bodyOutcome answers.verdict)] := by
  simp only [handled, HttpRcvBodyState.reportCacheContent, HttpSession.afterBody, if_pos kept,
    List.foldl_cons, List.foldl_nil, HttpSession.performBody, HttpSession.flush]
  constructor
  · rw [(done_with_body answers (by rfl)).1]
  · rw [(done_with_body answers (by rfl)).2]
    rfl

/-- Without kept content the last event goes out as it is. -/
private theorem handled_nothing_kept (transfer : Transfer Endpoint) (left : List (List UInt8))
    (entries : List (Entry Endpoint)) (body : HttpRcvBodyState) (fsm : HttpStateMachine)
    (nothing : body.contentBuff = []) (empty : body.outputEvent.setup = false) :
    let final := handled transfer answers left entries (body.reportCacheContent fsm .success .none)
    final.session.pending = [] ∧ final.entries = entries ++
      [.output { body.outputEvent with ec1 := .success, ec2 := .none }, .stopped .success] := by
  simp only [handled, HttpRcvBodyState.reportCacheContent, HttpSession.afterBody, nothing,
    List.foldl_cons, List.foldl_nil, HttpSession.performBody, HttpSession.flush, ne_eq,
    not_true_eq_false, if_false]
  constructor
  · rw [(done_without_body answers (by exact empty)).1]
  · rw [(done_without_body answers (by exact empty)).2]
    rfl

/-- The body state as its `execute` leaves it. -/
private def begun (response : HttpResponse) (waitComplete : Bool) : HttpRcvBodyState where
  contentLength := -1
  fileOffset := if response.rangeBeg ≠ -1 then response.rangeBeg else 0
  isChunk := true
  waitComplete := waitComplete

private theorem execute_chunked {response : HttpResponse} (chunked : response.contentLen = -1)
    (accepted : response.statusCode = SH_HTTP_STATUS_OK ∨
      response.statusCode = SH_HTTP_STATUS_PARTIAL_CONTENT)
    (waitComplete : Bool) (buffer : List UInt8) :
    HttpRcvBodyState.execute { waitComplete } ⟨true, some response, buffer⟩ =
      ⟨.success, begun response waitComplete, buffer, [.readChunkSizeLine crlf]⟩ := by
  have status : ¬ (response.statusCode ≠ SH_HTTP_STATUS_OK ∧
      response.statusCode ≠ SH_HTTP_STATUS_PARTIAL_CONTENT) := by
    rcases accepted with same | same <;> simp [same]
  simp only [HttpRcvBodyState.execute, chunked, if_neg status]
  rfl

/-- Executing the body state of a chunked response starts with a size line. -/
private theorem begin_advance (connection : Connection Endpoint) (waitComplete : Bool) :
    ∃ response, (connection.transfer waitComplete).advance surroundings answers =
      some (reading (connection.transfer waitComplete) (.readChunkSizeLine crlf)
        (begun response waitComplete) connection.session.rcvStreambuf connection.arrivals []) := by
  obtain ⟨response, held, chunked, accepted⟩ := connection.begins.response
  refine ⟨response, ?_⟩
  have body : { connection.session.body with waitComplete } =
      ({ waitComplete } : HttpRcvBodyState) := by
    rw [connection.begins.body]
  have begins := execute_chunked chunked accepted waitComplete connection.session.rcvStreambuf
  simp only [Transfer.advance, Connection.transfer, connection.begins.pending,
    Transfer.completion, Option.bind_some, HttpSession.step, List.getElem?_cons_zero,
    HttpSession.complete, HttpSession.executeState, body, HttpSession.fsm, held,
    connection.begins.connected, eHttpState_Resolve, eHttpState_Connect, eHttpState_Request,
    eHttpState_RcvHeader, eHttpState_RcvBody, begins]
  simp [HttpSession.afterBody, HttpSession.performBody, HttpSession.await, HttpSession.flush,
    reading]

/-! ### Both modes -/

private theorem waiting_chunks (Endpoint : Type) (chunks : List Chunk) {body : HttpRcvBodyState}
    (waits : body.waitComplete = true) :
    (afterChunks body chunks).waitComplete = true ∧
      (afterChunks body chunks).contentBuff = body.contentBuff ++ content chunks ∧
      (afterChunks body chunks).outputEvent = body.outputEvent ∧
      (chunksEntries body chunks : List (Entry Endpoint)) = [] := by
  induction chunks generalizing body with
  | nil => simp [afterChunks, chunksEntries, content, waits]
  | cons chunk rest ih =>
    have after : (afterChunk body chunk.data).waitComplete = true := by simp [afterChunk, waits]
    obtain ⟨stays, kept, event, noticed⟩ := ih after
    refine ⟨stays, ?_, ?_, ?_⟩
    · rw [afterChunks, List.foldl_cons, ← afterChunks, kept]
      simp [afterChunk, waits, content]
    · rw [afterChunks, List.foldl_cons, ← afterChunks, event]
      simp [afterChunk, waits]
    · rw [chunksEntries, noticed]
      simp [chunkEntries, waits]

/-- The event a chunk is delivered with in the streaming mode. -/
def chunkEvent (data : List UInt8) : StateEvent := { data }

private theorem streaming_chunks (Endpoint : Type) (chunks : List Chunk) {body : HttpRcvBodyState}
    (streams : body.waitComplete = false) (data : List UInt8)
    (event : body.outputEvent = chunkEvent data) :
    (afterChunks body chunks).contentBuff = body.contentBuff ∧
      (afterChunks body chunks).outputEvent =
        chunkEvent (((chunks.map Chunk.data).getLast?).getD data) ∧
      (chunksEntries body chunks : List (Entry Endpoint)) =
        chunks.map fun chunk => .output (chunkEvent chunk.data) := by
  induction chunks generalizing body data with
  | nil => simp [afterChunks, chunksEntries, event]
  | cons chunk rest ih =>
    have after : (afterChunk body chunk.data).waitComplete = false := by simp [afterChunk, streams]
    have next : (afterChunk body chunk.data).outputEvent = chunkEvent chunk.data := by
      simp [afterChunk, streams, event, chunkEvent]
    obtain ⟨kept, last, noticed⟩ := ih after chunk.data next
    refine ⟨?_, ?_, ?_⟩
    · rw [afterChunks, List.foldl_cons, ← afterChunks, kept]
      simp [afterChunk, streams]
    · rw [afterChunks, List.foldl_cons, ← afterChunks, last]
      simp [List.getLast?_cons]
    · rw [chunksEntries, noticed]
      simp [chunkEntries, streams, event, chunkEvent]

/-- Either mode gets from the header through all chunks to the zero chunk. -/
private theorem body_settles (connection : Connection Endpoint) (waitComplete : Bool) :
    ∃ response left fsm, ∀ final,
      final = handled (connection.transfer waitComplete) answers left
        (chunksEntries (begun response waitComplete) connection.body.chunks)
        ((closed (afterChunks (begun response waitComplete)
          connection.body.chunks)).reportCacheContent fsm .success .none) →
      final.session.pending = [] →
      Runs.Settles (Transfer.advance surroundings answers) (connection.transfer waitComplete)
        final := by
  obtain ⟨response, started⟩ := begin_advance surroundings answers connection waitComplete
  have connected : (connection.transfer waitComplete).session.connected = true :=
    connection.begins.connected
  have sent : connection.session.rcvStreambuf ++ connection.arrivals.flatten =
      connection.body.chunks.flatMap Chunk.encode ++
        (connection.body.digits ++ crlf ++ connection.trailing) := by
    rw [connection.sent, Body.encode]
    simp
  obtain ⟨behind, left, remaining, settles⟩ := chunks_settle surroundings answers connected
    connection.body.chunks connection.bounded (begun response waitComplete) [] sent
  obtain ⟨fsm, left', closes⟩ := zero_advance surroundings answers connected
    (afterChunks (begun response waitComplete) connection.body.chunks) connection.body.spelled
    remaining (chunksEntries (begun response waitComplete) connection.body.chunks)
  rw [List.nil_append] at settles
  refine ⟨response, left', fsm, fun final last nothing => ?_⟩
  refine Runs.settles_step started (settles final (Runs.settles_step closes ?_))
  rw [← last]
  exact ⟨.refl, settled_of_nothing_pending surroundings answers nothing⟩

theorem content_nil_iff (chunks : List Chunk) : content chunks = [] ↔ chunks = [] := by
  constructor
  · intro empty
    cases chunks with
    | nil => rfl
    | cons chunk rest =>
      have none := (List.append_eq_nil_iff.mp empty).1
      exact absurd none chunk.filled
  · rintro rfl
    rfl

/-- The waiting mode hands on the chunks together, once; without a chunk it
reports an event that was never set up. -/
theorem waiting_settles (connection : Connection Endpoint) :
    ∃ final, Runs.Settles (Transfer.advance surroundings answers) (connection.transfer true) final ∧
      final.session.pending = [] ∧
      final.entries = if connection.body.chunks = [] then [.output {}, .stopped .success]
        else [.rcvBody ⟨.success, .none, true, content connection.body.chunks⟩,
          .output ⟨bodyOutcome answers.verdict, .none, true, content connection.body.chunks⟩,
          .stopped (bodyOutcome answers.verdict)] := by
  obtain ⟨response, left, fsm, settles⟩ := body_settles surroundings answers connection true
  have waits : (begun response true).waitComplete = true := rfl
  obtain ⟨_, kept, event, noticed⟩ := waiting_chunks Endpoint connection.body.chunks waits
  rw [noticed] at settles
  by_cases none : connection.body.chunks = []
  · have nothing : (closed (afterChunks (begun response true) connection.body.chunks)).contentBuff =
        [] := by
      rw [closed, kept, none]
      rfl
    obtain ⟨ended, entries⟩ := handled_nothing_kept answers (connection.transfer true) left [] _ fsm
      nothing (by rw [closed, event]; rfl)
    refine ⟨_, settles _ rfl ended, ended, entries.trans ?_⟩
    rw [if_pos none, closed, event]
    rfl
  · have some : (closed (afterChunks (begun response true) connection.body.chunks)).contentBuff ≠
        [] := by
      rw [closed, kept]
      exact fun empty => none ((content_nil_iff _).mp empty)
    obtain ⟨ended, entries⟩ := handled_kept answers (connection.transfer true) left [] _ fsm some
    refine ⟨_, settles _ rfl ended, ended, entries.trans ?_⟩
    rw [if_neg none, closed, kept]
    rfl

/-- The streaming mode delivers every chunk as it comes, then reports the last
one again in an event that was never set up. -/
theorem streaming_settles (connection : Connection Endpoint) :
    ∃ final, Runs.Settles (Transfer.advance surroundings answers) (connection.transfer false) final ∧
      final.session.pending = [] ∧
      final.entries =
        (connection.body.chunks.map fun chunk => .output (chunkEvent chunk.data)) ++
          [.output (chunkEvent (((connection.body.chunks.map Chunk.data).getLast?).getD [])),
            .stopped .success] := by
  obtain ⟨response, left, fsm, settles⟩ := body_settles surroundings answers connection false
  have streams : (begun response false).waitComplete = false := rfl
  obtain ⟨kept, event, noticed⟩ := streaming_chunks Endpoint connection.body.chunks streams [] rfl
  rw [noticed] at settles
  obtain ⟨ended, entries⟩ := handled_nothing_kept answers (connection.transfer false) left
    (connection.body.chunks.map fun chunk => .output (chunkEvent chunk.data))
    (closed (afterChunks (begun response false) connection.body.chunks)) fsm
    kept (congrArg StateEvent.setup event)
  refine ⟨_, settles _ rfl ended, ended, entries.trans ?_⟩
  rw [closed, event]
  rfl

/-! ### The modes compared with what they are for -/

private theorem bodyOutcome_agrees {verdict : Verdict} (agrees : Verdict.Agrees verdict) :
    bodyOutcome verdict = .stateMachineFinished := by
  obtain ⟨handler, callback, own⟩ := agrees
  simp [bodyOutcome, handler, callback, own]

private theorem not_delivered_without_chunks {connection : Connection Endpoint}
    (none : connection.body.chunks = []) :
    ¬ DeliversBody surroundings answers (connection.transfer true)
      (content connection.body.chunks) := by
  rintro ⟨other, settled, _, handedOn, _⟩
  obtain ⟨final, settles, _, entries⟩ := waiting_settles surroundings answers connection
  rw [Runs.settles_unique settled settles, entries, if_pos none] at handedOn
  cases handedOn

/-- The waiting mode delivers the body exactly when there is a chunk in it. -/
theorem waiting_mode_delivers_iff (connection : Connection Endpoint) :
    DeliversBody surroundings answers (connection.transfer true) (content connection.body.chunks) ↔
      connection.body.chunks ≠ [] := by
  constructor
  · intro delivers none
    exact not_delivered_without_chunks surroundings answers none delivers
  · intro some
    obtain ⟨final, settles, ended, entries⟩ := waiting_settles surroundings answers connection
    refine ⟨final, settles, ended, ?_, fun agrees => ?_⟩
    · rw [entries, if_neg some]
      rfl
    · rw [entries, if_neg some, bodyOutcome_agrees agrees]
      rfl

/-- A session behind the header of a chunked response. -/
def behindHeader (buffered : List UInt8) : HttpSession Nat where
  connected := true
  isTls := false
  rcvStreambuf := buffered
  request := ⟨false, "host", "/", "", 0⟩
  response := some ⟨200, -1, -1, ""⟩
  waitContentComplete := true
  resolveSetup := true
  resolveHost := []
  resolveService := []
  resolveEvent := {}
  resolvedEndpoints := []
  connect := {}
  requestSetup := true
  requestEvent := {}
  sendBytes := 0
  headerSetup := true
  headerEvent := {}
  body := {}
  pending := [.execute eHttpState_RcvBody]
  timers := []
  nextTimer := 0
  log := []

private theorem behindHeader_begins (buffered : List UInt8) : BodyBegins (behindHeader buffered) :=
  ⟨rfl, rfl, rfl, _, rfl, rfl, .inl rfl⟩

theorem one_digit_spells {digit : UInt8} (hex : isHexDigit digit = true)
    (value : hexValue [digit] = number) : Spells [digit] number := by
  refine ⟨by simp, ?_, value⟩
  intro other member
  rw [List.mem_singleton.mp member]
  exact hex

theorem zero_spelled : Spells [48] 0 := one_digit_spells rfl rfl

/-- The closing zero chunk and nothing else. -/
def emptyBody : Connection Nat where
  session := behindHeader []
  arrivals := [[48, 13, 10, 13, 10]]
  closes := true
  body := ⟨[], [48], zero_spelled⟩
  trailing := [13, 10]
  begins := behindHeader_begins []
  bounded := by simp
  sent := rfl

def nowhere : Surroundings Nat := ⟨fun _ _ => none, fun _ => none⟩

theorem empty_body_not_delivered : ¬ DeliversBody nowhere {} (emptyBody.transfer true)
    (content emptyBody.body.chunks) :=
  not_delivered_without_chunks nowhere {} rfl

private theorem streaming_outcome {final : Transfer Endpoint} {chunks : List Chunk}
    (entries : final.entries = (chunks.map fun chunk => .output (chunkEvent chunk.data)) ++
      [.output (chunkEvent (((chunks.map Chunk.data).getLast?).getD [])), .stopped .success]) :
    (outputs final.entries).getLast?.map StateEvent.ec1 = some .success := by
  rw [entries, outputs, List.filterMap_append]
  simp [chunkEvent]

private theorem not_like_waiting (connection : Connection Endpoint) :
    ¬ StreamsLikeWaiting surroundings answers connection := by
  rintro ⟨streamed, _, settled, _, _, _, finished, _⟩
  obtain ⟨final, settles, _, entries⟩ := streaming_settles surroundings answers connection
  rw [Runs.settles_unique settled settles, streaming_outcome entries] at finished
  cases finished

/-- The streaming mode never ends by reporting that the machine finished, and
of every body that has a chunk it delivers the last one twice. -/
theorem streaming_mode_diverges (connection : Connection Endpoint) :
    ¬ StreamsLikeWaiting surroundings answers connection ∧
      ∃ final, Runs.Settles (Transfer.advance surroundings answers) (connection.transfer false)
          final ∧
        (delivered final.entries).map StateEvent.data = connection.body.chunks.map Chunk.data ++
          [((connection.body.chunks.map Chunk.data).getLast?).getD []] ∧
        (outputs final.entries).getLast?.map StateEvent.ec1 = some .success := by
  obtain ⟨final, settles, _, entries⟩ := streaming_settles surroundings answers connection
  refine ⟨not_like_waiting surroundings answers connection, final, settles, ?_,
    streaming_outcome entries⟩
  rw [entries, delivered, List.filterMap_append, List.map_append, List.filterMap_map]
  simp [chunkEvent, Function.comp_def]

/-- One chunk of one byte. -/
def oneChunk : Connection Nat where
  session := behindHeader [49, 13]
  arrivals := [[10, 7], [13, 10, 48, 13, 10]]
  closes := false
  body := ⟨[⟨[7], [49], by simp, one_digit_spells rfl rfl⟩], [48], zero_spelled⟩
  trailing := []
  begins := behindHeader_begins [49, 13]
  bounded := by simp
  sent := rfl

theorem one_chunk_streamed_twice : ¬ StreamsLikeWaiting nowhere {} oneChunk :=
  not_like_waiting nowhere {} oneChunk

end BeeSdk.ChunkedBodyProofs
