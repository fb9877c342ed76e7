import BeeSdk.ChunkedBodyProofs
import BeeSdk.HeaderBlock
import BeeSdk.HttpReply

/-! A response with a content length, from its header on: what the parser is handed, and what the
body state delivers of the bytes behind, wherever the arrivals are cut. -/
namespace BeeSdk.ContentBody
open ByteStream IStream StateMachine HttpBody Session ChunkedBody ChunkedBodyProofs HeaderBlock
open HttpMessage (bytesOf reading)

variable {Endpoint : Type}

/-! ### Receiving -/

/-- How the connection completes the operations of the header and the body. -/
def completion (transfer : Transfer Endpoint) :
    Operation → Option (Completion Endpoint × List (List UInt8))
  | .readHeader => transfer.read (transfer.channel.readUntil (crlf ++ crlf))
  | operation => transfer.completion operation

/-- The session's one pending operation completes. -/
def advance (surroundings : Surroundings Endpoint) (answers : Answers)
    (transfer : Transfer Endpoint) : Option (Transfer Endpoint) :=
  match transfer.session.pending with
  | [operation] =>
    (completion transfer operation).bind fun (completion, arrivals) =>
      (HttpSession.step surroundings transfer.session (.completes 0 completion answers)).map
        fun (entries, session) =>
          { transfer with session, arrivals, entries := transfer.entries ++ entries }
  | _ => none

/-- The session waits for the header, and its body state has not been executed before. -/
structure HeaderBegins (session : HttpSession Endpoint) : Prop where
  pending : session.pending = [.readHeader]
  connected : session.connected = true
  body : session.body = { waitComplete := session.body.waitComplete }

/-- A connection on which bytes are sent that come to the end of a header. -/
structure Exchange (Endpoint : Type) where
  session : HttpSession Endpoint
  arrivals : List (List UInt8)
  closes : Bool
  head : List UInt8
  tail : List UInt8
  begins : HeaderBegins session
  first : First EndsHeader head
  sent : session.rcvStreambuf ++ arrivals.flatten = head ++ tail

def Exchange.transfer (exchange : Exchange Endpoint) : Transfer Endpoint :=
  ⟨exchange.session, exchange.arrivals, exchange.closes, []⟩

/-- The parser makes a response of the block that announces so much content. -/
structure Announces (surroundings : Surroundings Endpoint) (block : List UInt8) (length : Nat)
    (response : HttpResponse) : Prop where
  parsed : surroundings.parse block = some response
  accepted : response.statusCode = SH_HTTP_STATUS_OK ∨
    response.statusCode = SH_HTTP_STATUS_PARTIAL_CONTENT
  announced : response.contentLen = length
  positive : 0 < length
  bounded : (length : Int) < kMaxContentLength

/-! ### What the requester gets -/

/-- `on_rcv_body` has been handed one successful event with exactly these bytes, and the machine
has finished. -/
def DeliversContent (surroundings : Surroundings Endpoint) (answers : Answers)
    (start : Transfer Endpoint) (bytes : List UInt8) : Prop :=
  ∃ final, Runs.Settles (advance surroundings answers) start final ∧ final.session.pending = [] ∧
    handed final.entries = [{ ec1 := .success, ec2 := .none, setup := true, data := bytes }] ∧
    (outputs final.entries).map StateEvent.ec1 = [.stateMachineFinished]

/-- Whatever the requester has been told is these bytes and the end of the connection. -/
def EndsEarly (surroundings : Surroundings Endpoint) (answers : Answers)
    (start : Transfer Endpoint) (bytes : List UInt8) : Prop :=
  ∃ final, Runs.Settles (advance surroundings answers) start final ∧ final.session.pending = [] ∧
    delivered final.entries ≠ [] ∧
    ∀ event ∈ delivered final.entries, event.ec1 = .eof ∧ event.ec2 = .eof ∧ event.data = bytes

/-- The rest is still awaited, and nothing has been told. -/
def Awaits (surroundings : Surroundings Endpoint) (answers : Answers)
    (start : Transfer Endpoint) : Prop :=
  ∃ final, Runs.Settles (advance surroundings answers) start final ∧ final.session.pending ≠ [] ∧
    final.entries = []

/-- The header is turned down, and the requester is told so instead of a body. -/
def RejectsHeader (surroundings : Surroundings Endpoint) (answers : Answers)
    (start : Transfer Endpoint) : Prop :=
  ∃ final, Runs.Settles (advance surroundings answers) start final ∧ final.session.pending = [] ∧
    handed final.entries = [] ∧ (outputs final.entries).map StateEvent.ec1 = [.errorData]

/-- What a body of this length should come to, from the bytes there are behind the header. -/
structure ReceivesBody (surroundings : Surroundings Endpoint) (answers : Answers)
    (exchange : Exchange Endpoint) (rest : List UInt8) (length : Nat) : Prop where
  whole : length ≤ rest.length →
    DeliversContent surroundings answers exchange.transfer (rest.take length)
  cut : rest.length < length → exchange.closes = true →
    EndsEarly surroundings answers exchange.transfer rest
  awaited : rest.length < length → exchange.closes = false →
    Awaits surroundings answers exchange.transfer

/-! ### One step -/

/-- What is left of a transfer when its operation has led the session there. -/
def follows (transfer : Transfer Endpoint) (arrivals : List (List UInt8))
    (session : HttpSession Endpoint) : Transfer Endpoint :=
  { transfer with
    session := session.flush.2, arrivals, entries := transfer.entries ++ session.flush.1 }

theorem advance_follows {surroundings : Surroundings Endpoint} {answers : Answers}
    {transfer : Transfer Endpoint} {operation : Operation} {done : Completion Endpoint}
    {arrivals : List (List UInt8)} {session : HttpSession Endpoint}
    (pending : transfer.session.pending = [operation])
    (completes : completion transfer operation = some (done, arrivals))
    (goes : { transfer.session with log := [], pending := [] }.complete surroundings answers operation
      done = some session) :
    advance surroundings answers transfer = some (follows transfer arrivals session) := by
  simp only [advance, pending, completes, Option.bind_some, HttpSession.step, List.getElem?_cons_zero,
    List.eraseIdx_zero, List.tail_cons, goes, Option.map_some]
  rfl

/-- A satisfied read hands the handler everything received. -/
theorem completion_read {transfer : Transfer Endpoint} {result : Ending × ByteStream.Channel UInt8}
    {ending : Ending} {received : List UInt8}
    (took : result = (ending, ⟨received, arrivals, closes⟩)) (extended : transfer.session.rcvStreambuf <+: received)
    (ended : ending ≠ .waiting) :
    ∃ bytes, transfer.read result =
      some (.received (if ending = .closed then .eof else .none) bytes, arrivals) ∧
      transfer.session.rcvStreambuf ++ bytes = received := by
  subst took
  refine ⟨received.drop transfer.session.rcvStreambuf.length, ?_, received_again extended⟩
  cases ending with
  | satisfied | closed => rfl
  | waiting => exact absurd rfl ended

/-! ### The header -/

/-- The session behind its header, about to execute the body state. -/
def behind (transfer : Transfer Endpoint) (response : HttpResponse) (buffer : List UInt8)
    (arrivals : List (List UInt8)) : Transfer Endpoint :=
  { transfer with
    session := { transfer.session with
      pending := [.execute eHttpState_RcvBody], rcvStreambuf := buffer, response := some response
      headerEvent := { transfer.session.headerEvent with ec1 := .success, ec2 := .none, setup := true }
      body := { transfer.session.body with waitComplete := transfer.session.waitContentComplete }
      log := [] }
    arrivals }

/-- A successful response leads to the body state. -/
theorem route_header {answers : Answers} (agrees : Verdict.Agrees answers.verdict)
    (session : HttpSession Endpoint) {response : HttpResponse} (held : session.response = some response)
    (accepted : response.statusCode = SH_HTTP_STATUS_OK ∨
      response.statusCode = SH_HTTP_STATUS_PARTIAL_CONTENT) (data : List UInt8) :
    route (session.wiring answers eHttpState_RcvHeader) ⟨.success, .none, true, data⟩ session =
      HttpSession.transformRcvHeaderToRcvBody ⟨.success, .none, true, data⟩ session := by
  obtain ⟨handler, callback, own⟩ := agrees
  have low : ¬ (SH_HTTP_STATUS_AMBIGUOUS ≤ response.statusCode ∧
      response.statusCode ≤ SH_HTTP_STATUS_REDIRECT_KEEP_VERB) := by
    rcases accepted with same | same <;> rw [same] <;> decide
  simp only [route, HttpSession.wiring, HttpSession.routed, onRcvHeader, held, consult, handler,
    callback, own, low, eHttpState_Resolve, eHttpState_Connect, eHttpState_Request,
    eHttpState_RcvHeader, eHttpState_RcvBody]
  simp [ErrorCode.isError, kInvalidState, kFinishedState]

theorem done_header {answers : Answers} (agrees : Verdict.Agrees answers.verdict)
    {session : HttpSession Endpoint} {response : HttpResponse}
    (held : session.response = some response) (setup : session.headerEvent.setup = true)
    (accepted : response.statusCode = SH_HTTP_STATUS_OK ∨
      response.statusCode = SH_HTTP_STATUS_PARTIAL_CONTENT) :
    session.done answers eHttpState_RcvHeader .success .none =
      { session with
        pending := session.pending ++ [.execute eHttpState_RcvBody]
        headerEvent := { session.headerEvent with ec1 := .success, ec2 := .none }
        body := { session.body with waitComplete := session.waitContentComplete } } := by
  have event : { session.headerEvent with ec1 := .success, ec2 := .none } =
      (⟨.success, .none, true, session.headerEvent.data⟩ : StateEvent) := by
    rw [← setup]
  rw [HttpSession.done, HttpSession.doneSetUp, switchToNext]
  have set : session.setOutputEvent eHttpState_RcvHeader
      { session.outputEvent eHttpState_RcvHeader with ec1 := .success, ec2 := .none } =
      { session with headerEvent := ⟨.success, .none, true, session.headerEvent.data⟩ } := by
    rw [← event]
    rfl
  rw [set]
  have output : HttpSession.outputEvent { session with
      headerEvent := ⟨.success, .none, true, session.headerEvent.data⟩ } eHttpState_RcvHeader =
    ⟨.success, .none, true, session.headerEvent.data⟩ := rfl
  have routes := route_header agrees { session with
    headerEvent := ⟨.success, .none, true, session.headerEvent.data⟩ } held accepted
    session.headerEvent.data
  rw [output, routes, event]
  rfl

/-- An error goes out whether or not the router is asked. -/
theorem done_refused (answers : Answers) (session : HttpSession Endpoint) :
    (session.done answers eHttpState_RcvHeader .errorData .none).pending = session.pending ∧
      (session.done answers eHttpState_RcvHeader .errorData .none).log = session.log ++
        [.output { session.headerEvent with ec1 := .errorData, ec2 := .none }, .stopped .errorData] := by
  cases setup : session.headerEvent.setup with
  | true =>
    cases held : session.response with
    | none =>
      simp [HttpSession.done, HttpSession.doneSetUp, HttpSession.outputEvent,
        HttpSession.setOutputEvent, switchToNext, route, setup, held, HttpSession.wiring,
        HttpSession.routed, onRcvHeader, HttpSession.output, HttpSession.note, kInvalidState,
        eHttpState_Resolve, eHttpState_Connect, eHttpState_Request, eHttpState_RcvHeader]
    | some response =>
      simp [HttpSession.done, HttpSession.doneSetUp, HttpSession.outputEvent,
        HttpSession.setOutputEvent, switchToNext, route, setup, held, HttpSession.wiring,
        HttpSession.routed, onRcvHeader, consult, HttpSession.output, HttpSession.note, kInvalidState,
        eHttpState_Resolve, eHttpState_Connect, eHttpState_Request, eHttpState_RcvHeader]
  | false =>
    simp [HttpSession.done, HttpSession.doneSetUp, HttpSession.outputEvent,
      HttpSession.setOutputEvent, switchToNext, route, setup, HttpSession.wiring,
      HttpSession.output, HttpSession.note, eHttpState_Resolve, eHttpState_Connect,
      eHttpState_Request, eHttpState_RcvHeader]

/-- Wherever the arrivals are cut, the read ends with the header, and the loop takes the block up
to the first empty line. -/
theorem header_read (exchange : Exchange Endpoint) :
    ∃ block rest, exchange.head ++ exchange.tail = block ++ rest ∧ block <+: exchange.head ∧
      First EndsEmpty block ∧ ∃ bytes buffer arrivals, buffer ++ arrivals.flatten = rest ∧
        completion exchange.transfer .readHeader = some (.received .none bytes, arrivals) ∧
        HttpSession.takeHeader [] (exchange.session.rcvStreambuf ++ bytes) = (block, buffer) := by
  obtain ⟨block, ⟨more, head⟩, first⟩ := exists_first exchange.first.holds.empty
  refine ⟨block, more ++ exchange.tail, by rw [← head, List.append_assoc], ⟨more, head⟩, first, ?_⟩
  have line : Channel.bytes ⟨exchange.session.rcvStreambuf, exchange.arrivals, exchange.closes⟩ =
    exchange.head ++ exchange.tail := exchange.sent
  obtain ⟨late, left, took, extended, remaining⟩ := readUntil_header exchange.first line
  obtain ⟨bytes, reads, again⟩ :=
    @completion_read _ _ _ exchange.transfer _ _ _ took extended (by decide)
  have takes := takeHeader_block (more ++ late) List.not_mem_nil (block_filled first.holds)
    (show First EndsEmpty ([] ++ block) from first)
  rw [List.nil_append, ← List.append_assoc, head] at takes
  have buffer : exchange.session.rcvStreambuf ++ bytes = exchange.head ++ late := again
  exact ⟨bytes, more ++ late, left, by rw [List.append_assoc, remaining], reads,
    buffer.symm ▸ takes⟩

section Taken

variable {surroundings : Surroundings Endpoint} {answers : Answers} (exchange : Exchange Endpoint)
  {bytes block buffer : List UInt8} {arrivals : List (List UInt8)}
  (reads : completion exchange.transfer .readHeader = some (.received .none bytes, arrivals))
  (takes : HttpSession.takeHeader [] (exchange.session.rcvStreambuf ++ bytes) = (block, buffer))

include reads takes

/-- A block that the parser makes such a response of leads to the body. -/
theorem header_advance (agrees : Verdict.Agrees answers.verdict)
    (announces : Announces surroundings block length response) :
    advance surroundings answers exchange.transfer =
      some (behind exchange.transfer response buffer arrivals) := by
  have goes : HttpSession.complete { exchange.session with log := [], pending := [] } surroundings answers
      .readHeader (.received .none bytes) = some { exchange.session with
        log := [], pending := [.execute eHttpState_RcvBody], rcvStreambuf := buffer
        response := some response
        headerEvent := { exchange.session.headerEvent with ec1 := .success, ec2 := .none, setup := true }
        body := { exchange.session.body with waitComplete := exchange.session.waitContentComplete } } := by
    simp only [HttpSession.complete, HttpSession.handleReadHeader, takes, announces.parsed,
      ErrorCode.isError]
    rw [if_neg (by decide), done_header agrees rfl rfl announces.accepted]
    rfl
  exact (@advance_follows _ _ _ exchange.transfer _ _ _ _ exchange.begins.pending reads goes).trans rfl

/-- One that it refuses ends the session. -/
theorem header_refused (refused : surroundings.parse block = none) :
    RejectsHeader surroundings answers exchange.transfer := by
  have goes : HttpSession.complete { exchange.session with log := [], pending := [] } surroundings answers
      .readHeader (.received .none bytes) = some (HttpSession.done { exchange.session with
        log := [], pending := [], rcvStreambuf := buffer } answers eHttpState_RcvHeader .errorData .none) := by
    simp only [HttpSession.complete, HttpSession.handleReadHeader, takes, refused, ErrorCode.isError]
    rw [if_neg (by decide)]
  obtain ⟨pending, log⟩ := done_refused answers { exchange.session with
    log := [], pending := [], rcvStreambuf := buffer }
  have taken := @advance_follows _ _ _ exchange.transfer _ _ _ _ exchange.begins.pending reads goes
  generalize HttpSession.done _ answers eHttpState_RcvHeader .errorData .none = ended at pending log taken
  refine ⟨_, Runs.settles_step taken ⟨.refl, ?_⟩, pending, ?_, ?_⟩
  · rw [advance, show (follows exchange.transfer arrivals ended).session.pending = [] from pending]
  all_goals
    simp only [follows, HttpSession.flush, log, Exchange.transfer]
    rfl

end Taken

/-! ### The body -/

/-- The body state as its `execute` sets it up. -/
def begun (response : HttpResponse) (length : Nat) (waitComplete : Bool) : HttpRcvBodyState where
  contentLength := length
  fileOffset := if response.rangeBeg ≠ -1 then response.rangeBeg else 0
  waitComplete := waitComplete

theorem execute_content {surroundings : Surroundings Endpoint} {response : HttpResponse}
    (announces : Announces surroundings block length response) (waitComplete : Bool)
    (buffer : List UInt8) :
    HttpRcvBodyState.execute { waitComplete } ⟨true, some response, buffer⟩ =
      if length ≤ buffer.length then
        ⟨.success, { begun response length waitComplete with
            contentOffset := length
            fileOffset := (begun response length waitComplete).fileOffset + length
            outputEvent := { setup := true, data := buffer.take length } },
          buffer.drop length, [.doneSetUp]⟩
      else ⟨.success, begun response length waitComplete, buffer,
        [.readContent (length - buffer.length) length]⟩ := by
  have status : ¬ (response.statusCode ≠ SH_HTTP_STATUS_OK ∧
      response.statusCode ≠ SH_HTTP_STATUS_PARTIAL_CONTENT) := by
    rcases announces.accepted with same | same <;> simp [same]
  have known : ¬ (length : Int) = -1 := by omega
  have sized : (length : Int) > 0 ∧ (length : Int) < kMaxContentLength :=
    ⟨by exact_mod_cast announces.positive, announces.bounded⟩
  have left : ¬ (0 : Int) ≥ length := by omega
  have fits : ¬ (0 : Int) + length > length := by omega
  simp only [HttpRcvBodyState.execute, if_neg status, announces.announced, if_neg known, if_pos sized,
    Int.toNat_natCast, HttpRcvBodyState.readContent, if_neg left, if_neg fits]
  rw [if_neg (by decide), if_neg (by decide)]
  by_cases ready : length ≤ buffer.length
  · have nothing : length - buffer.length = 0 := by omega
    rw [if_pos ready, if_pos ready, readBytes, nothing]
    simp [begun]
  · rw [if_neg ready, if_neg ready]
    rfl

/-- The body state once it has read what there is of the content. -/
def contained (response : HttpResponse) (length : Nat) (waitComplete : Bool) (bytes : List UInt8) :
    HttpRcvBodyState :=
  { begun response length waitComplete with
    contentBuff := bytes
    contentOffset := bytes.length
    fileOffset := (begun response length waitComplete).fileOffset + bytes.length }

theorem report_contained (response : HttpResponse) (length : Nat) (waitComplete : Bool)
    (bytes : List UInt8) (fsm : HttpStateMachine) (ec1 : BeeErrorCode) (ec2 : ErrorCode) :
    (contained response length waitComplete bytes).reportCacheContent fsm ec1 ec2 =
      ⟨ec1, { contained response length waitComplete bytes with
        outputEvent := { setup := decide (bytes ≠ []), data := bytes } }, fsm.rcvStreambuf,
        [.done ec1 ec2]⟩ := by
  by_cases none : bytes = []
  · subst none
    rfl
  · simp [HttpRcvBodyState.reportCacheContent, contained, begun, none]

/-- What the handler of the read makes of what is in the buffer. -/
theorem read_content {ec2 : ErrorCode} (fine : ec2 = .none ∨ ec2 = .eof) (response : HttpResponse)
    (length : Nat) (waitComplete : Bool) (buffer : List UInt8) :
    (begun response length waitComplete).handleReadContent ⟨true, some response, buffer⟩ ec2 length =
      (contained response length waitComplete (buffer.take length)).reportCacheContent
        ⟨true, some response, buffer.drop length⟩ (if ec2 = .eof then BeeErrorCode.eof else .success)
        ec2 := by
  have unfailed : ¬ (ec2.isError = true ∧ ec2 ≠ .eof) := by
    rcases fine with rfl | rfl <;> decide
  have bytes : readBytes (min buffer.length length) buffer = (buffer.take length, buffer.drop length) := by
    rw [readBytes, Nat.sub_eq_zero_of_le (Nat.min_le_left _ _), List.replicate_zero, List.append_nil,
      Nat.min_comm, ← List.take_eq_take_min]
    by_cases long : length ≤ buffer.length
    · rw [Nat.min_eq_left long]
    · have short : buffer.length ≤ length := by omega
      rw [Nat.min_eq_right short, List.drop_length, List.drop_eq_nil_of_le short]
  have inside : ¬ ((begun response length waitComplete).contentOffset +
      ((min buffer.length length : Nat) : Int) > (begun response length waitComplete).contentLength) := by
    have := Nat.min_le_right buffer.length length
    simp only [begun]
    omega
  simp only [HttpRcvBodyState.handleReadContent, if_neg unfailed, bytes, inside, or_false]
  rcases fine with rfl | rfl
  · simp [Outcome.finish, contained, HttpRcvBodyState.reportCacheContent, begun, Nat.min_comm]
  · simp [Outcome.finish, contained, HttpRcvBodyState.reportCacheContent, begun, Nat.min_comm]

/-- An event that names the end of the connection goes out as it is, whether or not the router is
asked. -/
theorem done_ended (answers : Answers) (session : HttpSession Endpoint) :
    ∃ entries, (session.done answers eHttpState_RcvBody .eof .eof).pending = session.pending ∧
      (session.done answers eHttpState_RcvBody .eof .eof).log = session.log ++ entries ∧
      delivered entries ≠ [] ∧ ∀ event ∈ delivered entries,
        event = { session.body.outputEvent with ec1 := .eof, ec2 := .eof } := by
  cases setup : session.body.outputEvent.setup with
  | true =>
    refine ⟨[.rcvBody { session.body.outputEvent with ec1 := .eof, ec2 := .eof },
      .output { session.body.outputEvent with ec1 := .eof, ec2 := .eof }, .stopped .eof], ?_⟩
    simp [HttpSession.done, HttpSession.doneSetUp, HttpSession.outputEvent,
      HttpSession.setOutputEvent, switchToNext, route, setup, HttpSession.wiring, onRcvBody, consult,
      HttpSession.output, HttpSession.note, kInvalidState, eHttpState_Resolve, eHttpState_Connect,
      eHttpState_Request, eHttpState_RcvHeader, eHttpState_RcvBody, delivered]
  | false =>
    refine ⟨[.output { session.body.outputEvent with ec1 := .eof, ec2 := .eof }, .stopped .eof], ?_⟩
    simp [HttpSession.done, HttpSession.doneSetUp, HttpSession.outputEvent,
      HttpSession.setOutputEvent, switchToNext, route, setup, HttpSession.wiring,
      HttpSession.output, HttpSession.note, eHttpState_Resolve, eHttpState_Connect,
      eHttpState_Request, eHttpState_RcvHeader, eHttpState_RcvBody, delivered]

/-- What is noticed of a body that has been received. -/
def wholeEntries (answers : Answers) (bytes : List UInt8) : List (Entry Endpoint) :=
  [.rcvBody ⟨.success, .none, true, bytes⟩,
    .output ⟨bodyOutcome answers.verdict, .none, true, bytes⟩,
    .stopped (bodyOutcome answers.verdict)]

theorem doneSetUp_whole (answers : Answers) {session : HttpSession Endpoint} {bytes : List UInt8}
    (event : session.body.outputEvent = ⟨.success, .none, true, bytes⟩) :
    (session.doneSetUp answers eHttpState_RcvBody).pending = session.pending ∧
      (session.doneSetUp answers eHttpState_RcvBody).log = session.log ++ wholeEntries answers bytes := by
  have set : session.setOutputEvent eHttpState_RcvBody
      { session.outputEvent eHttpState_RcvBody with ec1 := .success, ec2 := .none } = session := by
    have same : { session.body with outputEvent := ⟨.success, .none, true, bytes⟩ } = session.body := by
      rw [← event]
    simp only [HttpSession.setOutputEvent, HttpSession.outputEvent, eHttpState_Resolve,
      eHttpState_Connect, eHttpState_Request, eHttpState_RcvHeader, eHttpState_RcvBody, event]
    simp [same]
  have done : session.done answers eHttpState_RcvBody .success .none =
    session.doneSetUp answers eHttpState_RcvBody := congrArg (fun set => HttpSession.doneSetUp set answers eHttpState_RcvBody) set
  have full : session.body.outputEvent.setup = true := by rw [event]
  have ends := done_with_body answers full
  rw [done, event] at ends
  exact ends

/-- The session waits for the rest of the content. -/
def awaiting (transfer : Transfer Endpoint) (response : HttpResponse) (length : Nat)
    (buffer : List UInt8) (arrivals : List (List UInt8)) : Transfer Endpoint :=
  let begins := behind transfer response buffer arrivals
  { begins with session := { begins.session with
      pending := [.readContent (length - buffer.length) length]
      body := begun response length transfer.session.waitContentComplete } }

theorem executeState_body (surroundings : Surroundings Endpoint) (answers : Answers)
    {session : HttpSession Endpoint} {outcome : HttpBody.Outcome}
    (executes : session.body.execute session.fsm = outcome) (fine : outcome.code = .success) :
    session.executeState surroundings answers eHttpState_RcvBody = session.afterBody answers outcome := by
  rw [← executes] at fine ⊢
  simp only [HttpSession.executeState, eHttpState_Resolve, eHttpState_Connect,
    eHttpState_Request, eHttpState_RcvHeader, eHttpState_RcvBody]
  simp [fine]

section Execute

variable {surroundings : Surroundings Endpoint} (answers : Answers) {response : HttpResponse}
  (announces : Announces surroundings block length response) (exchange : Exchange Endpoint)
  {buffer : List UInt8} (arrivals : List (List UInt8))

/-- What the body state of the session executes on. -/
theorem executes_content :
    HttpRcvBodyState.execute { exchange.session.body with
        waitComplete := exchange.session.waitContentComplete }
        ⟨exchange.session.connected, some response, buffer⟩ =
      HttpRcvBodyState.execute { waitComplete := exchange.session.waitContentComplete }
        ⟨true, some response, buffer⟩ := by
  rw [exchange.begins.body, exchange.begins.connected]

include announces

theorem execute_short (short : buffer.length < length) :
    advance surroundings answers (behind exchange.transfer response buffer arrivals) =
      some (awaiting exchange.transfer response length buffer arrivals) := by
  have begins := execute_content announces exchange.session.waitContentComplete buffer
  rw [if_neg (Nat.not_le.mpr short)] at begins
  have goes := @executeState_body _ surroundings answers { (behind exchange.transfer response buffer
    arrivals).session with log := [], pending := [] } _ (executes_content exchange |>.trans begins) rfl
  exact (@advance_follows _ _ _ (behind exchange.transfer response buffer arrivals) _ _ _ _ rfl rfl
    (congrArg some goes)).trans rfl

theorem execute_ready (ready : length ≤ buffer.length) :
    ∃ final, advance surroundings answers (behind exchange.transfer response buffer arrivals) =
        some final ∧
      final.session.pending = [] ∧ final.entries = wholeEntries answers (buffer.take length) := by
  have begins := execute_content announces exchange.session.waitContentComplete buffer
  rw [if_pos ready] at begins
  have goes := @executeState_body _ surroundings answers { (behind exchange.transfer response buffer
    arrivals).session with log := [], pending := [] } _ (executes_content exchange |>.trans begins) rfl
  have taken := @advance_follows _ _ _ (behind exchange.transfer response buffer arrivals) _ _ _ _ rfl rfl
    (congrArg some goes)
  simp only [HttpSession.afterBody, List.foldl_cons, List.foldl_nil, HttpSession.performBody] at taken
  refine ⟨_, taken, ?_⟩
  constructor
  · exact (doneSetUp_whole answers rfl).1
  · exact (doneSetUp_whole answers rfl).2

end Execute

/-! ### The rest of the body -/

theorem afterBody_done (session : HttpSession Endpoint) (answers : Answers) (code : BeeErrorCode)
    (body : HttpRcvBodyState) (buffer : List UInt8) (ec1 : BeeErrorCode) (ec2 : ErrorCode) :
    session.afterBody answers ⟨code, body, buffer, [.done ec1 ec2]⟩ =
      HttpSession.done { session with body, rcvStreambuf := buffer } answers eHttpState_RcvBody ec1 ec2 :=
  rfl

/-- A body that is whole ends the session. -/
theorem ended_whole (answers : Answers) (transfer : Transfer Endpoint) (arrivals : List (List UInt8))
    {session : HttpSession Endpoint} {body : HttpRcvBodyState} {buffer bytes : List UInt8}
    (fresh : transfer.entries = []) (nothing : session.pending = []) (silent : session.log = []) :
    let final := follows transfer arrivals (session.afterBody answers ⟨.success,
      { body with outputEvent := { setup := true, data := bytes } }, buffer, [.done .success .none]⟩)
    final.session.pending = [] ∧ final.entries = wholeEntries answers bytes := by
  have ends := @done_with_body _ answers { session with
    body := { body with outputEvent := { setup := true, data := bytes } }, rcvStreambuf := buffer } rfl
  rw [afterBody_done]
  generalize HttpSession.done _ answers eHttpState_RcvBody .success .none = ended at ends
  simp only [follows, HttpSession.flush, fresh, List.nil_append]
  exact ⟨ends.1.trans nothing, by rw [ends.2, silent]; rfl⟩

theorem ended_early (answers : Answers) (transfer : Transfer Endpoint) (arrivals : List (List UInt8))
    {session : HttpSession Endpoint} {body : HttpRcvBodyState} {setup : Bool} {buffer bytes : List UInt8}
    (fresh : transfer.entries = []) (nothing : session.pending = []) (silent : session.log = []) :
    let final := follows transfer arrivals (session.afterBody answers ⟨.eof,
      { body with outputEvent := { setup, data := bytes } }, buffer, [.done .eof .eof]⟩)
    final.session.pending = [] ∧ delivered final.entries ≠ [] ∧
      ∀ event ∈ delivered final.entries, event.ec1 = .eof ∧ event.ec2 = .eof ∧ event.data = bytes := by
  obtain ⟨entries, pending, log, some, told⟩ := done_ended answers { session with
    body := { body with outputEvent := { setup, data := bytes } }, rcvStreambuf := buffer }
  rw [afterBody_done]
  generalize HttpSession.done _ answers eHttpState_RcvBody .eof .eof = ended at pending log
  simp only [follows, HttpSession.flush, fresh, List.nil_append]
  rw [log, silent, List.nil_append]
  refine ⟨pending.trans nothing, some, fun event member => ?_⟩
  rw [told event member]
  exact ⟨rfl, rfl, rfl⟩

section Read

variable (surroundings : Surroundings Endpoint) (answers : Answers) (response : HttpResponse)
  (exchange : Exchange Endpoint) {buffer received : List UInt8} {arrivals left : List (List UInt8)}

/-- The handler of the read goes on with everything received. -/
theorem content_goes {ec2 : ErrorCode} (fine : ec2 = .none ∨ ec2 = .eof) {bytes : List UInt8}
    (again : buffer ++ bytes = received) :
    HttpSession.complete { (awaiting exchange.transfer response length buffer arrivals).session with
        log := [], pending := [] } surroundings answers (.readContent (length - buffer.length) length)
        (.received ec2 bytes) =
      some (HttpSession.afterBody { (awaiting exchange.transfer response length buffer arrivals).session with
        log := [], pending := [], rcvStreambuf := received } answers
        ((contained response length exchange.session.waitContentComplete
          (received.take length)).reportCacheContent
          ⟨true, some response, received.drop length⟩ (if ec2 = .eof then BeeErrorCode.eof else .success)
          ec2)) := by
  rw [← read_content fine response length _ received, ← again]
  have connected := exchange.begins.connected
  simp only [HttpSession.complete, HttpSession.fsm]
  rw [show (awaiting exchange.transfer response length buffer arrivals).session.connected = true
    from connected]
  rfl

variable {length : Nat}

/-- A read that finds all of the content delivers it. -/
theorem content_whole (short : buffer.length < length) (long : length ≤ (buffer ++ arrivals.flatten).length) :
    ∃ final, advance surroundings answers (awaiting exchange.transfer response length buffer arrivals) =
        some final ∧ final.session.pending = [] ∧
      final.entries = wholeEntries answers ((buffer ++ arrivals.flatten).take length) := by
  have missing : (Channel.mk buffer arrivals exchange.closes).received.length ≤ length := Nat.le_of_lt short
  obtain ⟨received, left, took, extended, conserved, enough⟩ := readAtLeast_missing missing long
  obtain ⟨bytes, reads, again⟩ := @completion_read _ _ _
    (awaiting exchange.transfer response length buffer arrivals) _ _ _ took extended (by decide)
  have taken := @advance_follows _ _ _ (awaiting exchange.transfer response length buffer arrivals) _ _ _ _
    rfl reads (content_goes surroundings answers response exchange (.inl rfl) again)
  have same : (buffer ++ arrivals.flatten).take length = received.take length := by
    rw [← show received ++ left.flatten = buffer ++ arrivals.flatten from conserved,
      List.take_append_of_le_length enough]
  have some : received.take length ≠ [] := by
    intro none
    have := congrArg List.length none
    rw [List.length_take, List.length_nil] at this
    omega
  rw [same]
  rw [report_contained, decide_eq_true some] at taken
  exact ⟨_, taken, ended_whole answers _ _ rfl rfl rfl⟩

/-- A connection that closes before leaves what has arrived. -/
theorem content_cut (missed : (buffer ++ arrivals.flatten).length < length)
    (closed : exchange.closes = true) :
    ∃ final, advance surroundings answers (awaiting exchange.transfer response length buffer arrivals) =
        some final ∧ final.session.pending = [] ∧ delivered final.entries ≠ [] ∧
      ∀ event ∈ delivered final.entries, event.ec1 = .eof ∧ event.ec2 = .eof ∧
        event.data = buffer ++ arrivals.flatten := by
  have extended : buffer <+: buffer ++ arrivals.flatten := List.prefix_append _ _
  have short : (Channel.mk buffer arrivals exchange.closes).bytes.length <
      buffer.length + (length - buffer.length) :=
    Nat.lt_of_lt_of_le missed (by omega)
  have ends : exhausted exchange.closes = .closed := by rw [closed]; rfl
  have took := readAtLeast_missed short
  rw [show exhausted (Channel.mk buffer arrivals exchange.closes).closes = .closed from ends] at took
  obtain ⟨bytes, reads, again⟩ := @completion_read _ _ _
    (awaiting exchange.transfer response length buffer arrivals) _ _ _ took extended (by decide)
  have taken := @advance_follows _ _ _ (awaiting exchange.transfer response length buffer arrivals) _ _ _ _
    rfl reads (content_goes surroundings answers response exchange (.inr rfl) again)
  rw [Channel.bytes, List.take_of_length_le (Nat.le_of_lt missed), report_contained] at taken
  exact ⟨_, taken, ended_early answers _ _ rfl rfl rfl⟩

/-- A connection that stays open is waited for. -/
theorem content_awaited (missed : (buffer ++ arrivals.flatten).length < length)
    (stays : exchange.closes = false) :
    advance surroundings answers (awaiting exchange.transfer response length buffer arrivals) = none := by
  have short : (Channel.mk buffer arrivals exchange.closes).bytes.length <
      buffer.length + (length - buffer.length) :=
    Nat.lt_of_lt_of_le missed (by omega)
  have waits : exhausted exchange.closes = .waiting := by rw [stays]; rfl
  have took := readAtLeast_missed short
  rw [show exhausted (Channel.mk buffer arrivals exchange.closes).closes = .waiting from waits] at took
  have reads : completion (awaiting exchange.transfer response length buffer arrivals)
      (.readContent (length - buffer.length) length) = none := by
    show Transfer.read _ (Channel.readAtLeast _ (Channel.mk buffer arrivals exchange.closes)) = none
    rw [took]
    rfl
  rw [advance, show (awaiting exchange.transfer response length buffer arrivals).session.pending =
    [.readContent (length - buffer.length) length] from rfl]
  simp only [reads, Option.bind_none]

end Read

/-! ### Header and body together -/

/-- Behind a header that has been taken the body is received. -/
theorem exchange_receives {surroundings : Surroundings Endpoint} {answers : Answers}
    (agrees : Verdict.Agrees answers.verdict) (exchange : Exchange Endpoint)
    (reads : completion exchange.transfer .readHeader = some (.received .none bytes, arrivals))
    (takes : HttpSession.takeHeader [] (exchange.session.rcvStreambuf ++ bytes) = (block, buffer))
    (announces : Announces surroundings block length response) :
    ReceivesBody surroundings answers exchange (buffer ++ arrivals.flatten) length := by
  have header := header_advance exchange reads takes agrees announces
  refine ⟨fun long => ?_, fun missed closed => ?_, fun missed stays => ?_⟩
  · have delivers {final : Transfer Endpoint}
        (settles : Runs.Settles (advance surroundings answers) exchange.transfer final)
        (nothing : final.session.pending = [])
        (entries : final.entries = wholeEntries answers ((buffer ++ arrivals.flatten).take length)) :
        DeliversContent surroundings answers exchange.transfer ((buffer ++ arrivals.flatten).take length) := by
      refine ⟨final, settles, nothing, by rw [entries]; rfl, ?_⟩
      rw [entries]
      simp [wholeEntries, outputs, bodyOutcome, agrees.1, agrees.2.1, agrees.2.2]
    by_cases ready : length ≤ buffer.length
    · obtain ⟨final, taken, nothing, entries⟩ := execute_ready answers announces exchange arrivals ready
      apply delivers (Runs.settles_step header (Runs.settles_step taken ⟨.refl, ?_⟩)) nothing
      · rw [entries, List.take_append_of_le_length ready]
      · rw [advance, nothing]
    · have short : buffer.length < length := Nat.not_le.mp ready
      obtain ⟨final, taken, nothing, entries⟩ :=
        content_whole surroundings answers response exchange short long
      have waits := execute_short answers announces exchange arrivals short
      apply delivers (Runs.settles_step header (Runs.settles_step waits
        (Runs.settles_step taken ⟨.refl, ?_⟩))) nothing entries
      rw [advance, nothing]
  · have short : buffer.length < length := by
      rw [List.length_append] at missed
      omega
    obtain ⟨final, taken, nothing, some, told⟩ :=
      content_cut surroundings answers response exchange missed closed
    have waits := execute_short answers announces exchange arrivals short
    refine ⟨final, Runs.settles_step header (Runs.settles_step waits
      (Runs.settles_step taken ⟨.refl, ?_⟩)), nothing, some, told⟩
    rw [advance, nothing]
  · have short : buffer.length < length := by
      rw [List.length_append] at missed
      omega
    have waits := execute_short answers announces exchange arrivals short
    refine ⟨_, Runs.settles_step header (Runs.settles_step waits ⟨.refl,
      content_awaited surroundings answers response exchange missed stays⟩), ?_, rfl⟩
    exact List.cons_ne_nil _ _

/-- A block that is taken before the end of the header holds no two line ends behind each other. -/
theorem block_endless {head block : List UInt8} (first : First EndsHeader head) (within : block <+: head)
    (other : block ≠ head) : ¬ crlf ++ crlf <:+: block := by
  rintro ⟨front, behind, rfl⟩
  have shorter : front ++ (crlf ++ crlf) <+: head := (List.prefix_append _ behind).trans within
  have whole := first.shortest _ shorter ⟨front, rfl⟩
  rw [whole] at within other
  exact other (within.eq_of_length_le (by simp))

/-- However the bytes are cut, the header is taken up to and including the first empty line, which
is up to the end the read waits for exactly when no line before it is empty; otherwise the parser
turns it down. Of what follows one that announces a length, whether it was already there or not,
the body state delivers exactly what was announced, or what there is as the end of the connection. -/
theorem content_received (literal : List Char → List Char → Option Endpoint) (memory : Nat)
    {answers : Answers} (agrees : Verdict.Agrees answers.verdict) (exchange : Exchange Endpoint) :
    ∃ block rest, exchange.head ++ exchange.tail = block ++ rest ∧ First EndsEmpty block ∧
      (block = exchange.head ∧ rest = exchange.tail ↔ First EndsEmpty exchange.head) ∧
      (¬ First EndsEmpty exchange.head → (reading literal memory).parse block = none) ∧
      ((reading literal memory).parse block = none →
        RejectsHeader (reading literal memory) answers exchange.transfer) ∧
      ∀ length response, Announces (reading literal memory) block length response →
        ReceivesBody (reading literal memory) answers exchange rest length := by
  obtain ⟨block, rest, split, within, first, bytes, buffer, arrivals, rfl, reads, takes⟩ :=
    header_read exchange
  refine ⟨block, _, split, first, ⟨fun same => same.1 ▸ first, fun also => ?_⟩, fun loose => ?_,
    header_refused exchange reads takes,
    fun length response announces => exchange_receives agrees exchange reads takes announces⟩
  · have same := first_unique first also within (List.prefix_refl _)
    rw [← same] at split
    exact ⟨same, (List.append_cancel_left split).symm⟩
  · exact HttpMessage.HttpResponse.read_endless memory
      (block_endless exchange.first within fun same => loose (same ▸ first))

theorem silent_agrees : Verdict.Agrees ({} : Answers).verdict := ⟨by decide, by decide, rfl⟩

/-- A response with two bytes of content. -/
def announcing : List UInt8 := bytesOf "HTTP/1.1 200 OK\r\nContent-Length: 2\r\n\r\n"

/-- A header and a body in pieces, one of them with the end of the header and the first byte of the
body. -/
def pieces : Exchange Nat where
  session := { behindHeader (announcing.take 10) with pending := [.readHeader], response := none }
  arrivals := [(announcing.drop 10).take 27, [10, 98], [99, 100]]
  closes := true
  head := announcing
  tail := [98, 99, 100]
  begins := ⟨rfl, rfl, rfl⟩
  first := first_of_inits (by decide +kernel) (by decide +kernel)
  sent := by decide +kernel

/-- No host is an address. -/
def noAddress (_ _ : List Char) : Option Nat := none

theorem pieces_received : DeliversContent (reading noAddress 0) {} pieces.transfer [98, 99] := by
  obtain ⟨block, rest, _, _, same, _, _, receives⟩ :=
    content_received noAddress 0 silent_agrees pieces
  obtain ⟨rfl, rfl⟩ := same.mpr (first_of_inits (by decide +kernel) (by decide +kernel))
  exact (receives 2 ⟨200, 2, -1, ""⟩ ⟨by decide +kernel, .inl rfl, rfl, by decide, by decide⟩).whole
    (by decide)

/-- The last field ends without a carriage return. -/
def loose : List UInt8 := bytesOf "HTTP/1.1 200 OK\r\nContent-Length: 2\n\r\n\r\n"

def looselyEnded : Exchange Nat where
  session := { behindHeader [] with pending := [.readHeader], response := none }
  arrivals := [loose ++ [98, 99]]
  closes := true
  head := loose
  tail := [98, 99]
  begins := ⟨rfl, rfl, rfl⟩
  first := first_of_inits (by decide +kernel) (by decide +kernel)
  sent := by decide +kernel

/-- Up to the end of the header it announces two bytes, but it is not taken up to there. -/
theorem loose_header_rejected :
    ¬ ∀ (literal : List Char → List Char → Option Nat) (memory : Nat) (answers : Answers)
        (exchange : Exchange Nat) (length : Nat) (response : HttpResponse),
      Verdict.Agrees answers.verdict →
      Announces (reading literal memory) exchange.head length response →
        ReceivesBody (reading literal memory) answers exchange exchange.tail length := by
  intro always
  obtain ⟨first, firstSettles, _, delivers, _⟩ := (always noAddress 0 {} looselyEnded 2 ⟨200, 2, -1, ""⟩
    silent_agrees ⟨by decide +kernel, .inl rfl, rfl, by decide, by decide⟩).whole (by decide)
  obtain ⟨block, rest, _, within, shortest, bytes, buffer, arrivals, _, reads, takes⟩ :=
    header_read looselyEnded
  have stops : First EndsEmpty (loose.take 37) :=
    first_of_inits (by decide +kernel) (by decide +kernel)
  have cut : block = loose.take 37 := first_unique shortest stops within (List.take_prefix _ _)
  have refused : (reading noAddress 0).parse block = none := by
    rw [cut]
    decide +kernel
  have rejects : RejectsHeader (reading noAddress 0) {} looselyEnded.transfer :=
    header_refused looselyEnded reads takes refused
  obtain ⟨second, secondSettles, _, nothing, _⟩ := rejects
  rw [Runs.settles_unique firstSettles secondSettles, nothing] at delivers
  cases delivers

end BeeSdk.ContentBody
