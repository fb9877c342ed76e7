import BeeSdk.ReceiveTlv

/-! One execution after the other takes exactly one message off the stream. Reads
of an exact length leave nothing in the stream buffer, so only the memory the
message is read into can go wrong: it is made large enough for the message when the
length is known, and the part up to the length has been read into it by then. -/
namespace BeeSdk.ReceiveTlvProofs
open ByteStream ByteOrder RingMemory Runs StateMachine ReceiveTlv

/-! ### Memory -/

/-- Bytes copied behind the first ones take the place of those that lay there. -/
theorem copyIn_behind (front items behind : List UInt8) (room : items.length ≤ behind.length) :
    copyIn (front ++ behind) front.length items =
      some (front ++ items ++ behind.drop items.length) := by
  rw [copyIn, if_pos (by rw [List.length_append]; omega), List.take_left,
    List.drop_append, List.drop_of_length_le (l := front) (by omega), List.nil_append]
  congr 2
  congr 1
  omega

theorem copyIn_outside (block items : List UInt8) (outside : block.length < items.length) :
    copyIn block 0 items = none := by
  rw [copyIn, if_neg (by omega)]

/-- Memory that begins with these bytes. -/
theorem copyOut_front (front behind : List UInt8) (inside : offset + count ≤ front.length) :
    copyOut (front ++ behind) offset count = some ((front.drop offset).take count) := by
  rw [copyOut, if_pos (by rw [List.length_append]; omega),
    List.drop_append_of_le_length (by omega),
    List.take_append_of_le_length (by rw [List.length_drop]; omega)]

/-! ### The two reads -/

/-- A read of bytes that are on the stream takes exactly these. -/
theorem read_completes (receiving : Receiving) (buffered : receiving.channel.received = [])
    (sent : receiving.channel.bytes = taken ++ behind) :
    ∃ arrivals, receiving.asyncRead taken.length = (some (.none, taken.length),
        { receiving with channel := ⟨taken, arrivals, receiving.channel.closes⟩ }) ∧
      arrivals.flatten = behind := by
  have stream : receiving.channel.arrivals.flatten = taken ++ behind := by
    rw [← sent, Channel.bytes, buffered, List.nil_append]
  rcases receiveExactly_cases receiving.channel.closes taken.length receiving.channel.received
    receiving.channel.arrivals with ⟨_, rest, completed, flat⟩ | ⟨short, _⟩
  · rw [stream, List.take_left, buffered, List.nil_append] at completed
    rw [stream, List.drop_left] at flat
    refine ⟨rest, ?_, flat⟩
    simp [Receiving.asyncRead, Channel.readExactly, buffered, completed]
  · rw [stream, List.length_append] at short
    omega

/-- What a read puts into memory. -/
theorem read_memory (fsm : TcpStateMachine) (start : fsm.criobuff.beginOffset = 0) (offset : Nat) :
    fsm.read offset fsm.rcvStreambuf.length =
      (copyIn fsm.criobuff.buffer offset fsm.rcvStreambuf).map fun buffer =>
        { fsm with criobuff := { fsm.criobuff with buffer }, rcvStreambuf := [] } := by
  simp [TcpStateMachine.read, IStream.readBytes, start]

/-- A length field of any of the widths holds its number in network order. -/
theorem lengthOf_field {field : List UInt8} (length : field.length = lengthSize)
    (width : lengthSize = 1 ∨ lengthSize = 2 ∨ lengthSize = 4) :
    TcpReceiveTlvState.lengthOf lengthSize field = some (loadBig field) := by
  have swapped := swapBytes_load field
  rw [length] at swapped
  rcases width with rfl | rfl | rfl
  · match field, length with
    | [byte], _ => simp [TcpReceiveTlvState.lengthOf, loadBig, loadLittle]
  · rw [← swapped]
    rfl
  · rw [← swapped]
    rfl

theorem message_short (message : Message) : message.bytes.length < 2 ^ 32 := by
  have bound := loadBig_lt ((message.bytes.drop message.lengthOffset).take message.lengthSize)
  have inside := message.inside
  rw [message.carries, List.length_take, List.length_drop,
    Nat.min_eq_left (by omega)] at bound
  have wide : 256 ^ message.lengthSize ≤ 256 ^ 4 :=
    Nat.pow_le_pow_right (by decide) (by rcases message.width with w | w | w <;> omega)
  exact Nat.lt_of_lt_of_le bound wide

/-- The part of a message up to the end of its length field. -/
def front (message : Message) : List UInt8 :=
  message.bytes.take (message.lengthOffset + message.lengthSize)

theorem front_length (message : Message) :
    (front message).length = message.lengthOffset + message.lengthSize := by
  rw [front, List.length_take, Nat.min_eq_left message.inside]

/-- The field in memory that begins with the front of the message. -/
theorem front_field (message : Message) (behind : List UInt8) :
    copyOut (front message ++ behind) message.lengthOffset message.lengthSize =
      some ((message.bytes.drop message.lengthOffset).take message.lengthSize) := by
  rw [copyOut_front _ _ (by rw [front_length])]
  congr 1
  rw [front, List.drop_take, List.take_take]
  congr 1
  omega

/-- Handled as the front of a message, it leaves memory that begins with it and has
room for the whole message, and asks for the rest. -/
theorem length_handled (message : Message) {state : TcpReceiveTlvState} (fsm : TcpStateMachine)
    (event : state.inputEvent = ⟨true, message.lengthOffset, message.lengthSize⟩)
    (first : state.firstReadLen = message.lengthOffset + message.lengthSize)
    (start : fsm.criobuff.beginOffset = 0) (received : fsm.rcvStreambuf = front message)
    (fits : message.lengthOffset + message.lengthSize ≤ fsm.criobuff.capacity) :
    ∃ criobuff behind, state.handleReadLength fsm .none (front message).length =
        some ⟨.success, some (message.bytes.length - (front message).length),
          { state with totalLen := message.bytes.length }, { fsm with criobuff, rcvStreambuf := [] }⟩ ∧
      criobuff.beginOffset = 0 ∧ criobuff.buffer = front message ++ behind ∧
      message.bytes.length ≤ criobuff.capacity := by
  have length := front_length message
  have inside := message.inside
  have short := message_short message
  have readFront : fsm.read 0 (front message).length = some { fsm with
      criobuff := { fsm.criobuff with
        buffer := front message ++ fsm.criobuff.buffer.drop (front message).length }
      rcvStreambuf := [] } := by
    have room : (front message).length ≤ fsm.criobuff.buffer.length := by
      rw [length]
      exact fits
    have copied := copyIn_behind [] (front message) fsm.criobuff.buffer room
    rw [List.nil_append, List.length_nil, List.nil_append] at copied
    rw [← received, read_memory fsm start, received, copied]
    rfl
  have left : (message.bytes.length + 2 ^ 64 - (front message).length) % 2 ^ 64 =
      message.bytes.length - (front message).length := by omega
  have carried : ((message.bytes.drop message.lengthOffset).take message.lengthSize).length =
      message.lengthSize := by
    rw [List.length_take, List.length_drop, Nat.min_eq_left (by omega)]
  have number := lengthOf_field carried message.width
  rw [message.carries] at number
  rw [TcpReceiveTlvState.handleReadLength, if_neg (by decide), if_neg (by rw [length, first]; simp),
    readFront, event]
  simp only [Option.bind_some, TcpStateMachine.field, start, Nat.zero_add, front_field, number]
  have kept : fsm.criobuff.capacity = (front message ++
      fsm.criobuff.buffer.drop (front message).length).length := by
    rw [List.length_append, List.length_drop]
    simp only [IOBuffer.capacity] at fits ⊢
    omega
  by_cases large : message.bytes.length > fsm.criobuff.capacity
  · -- The memory is replaced, and the front of the message copied over.
    have copied : copyOut (front message ++ fsm.criobuff.buffer.drop (front message).length) 0
        (front message).length = some (front message) := by
      rw [copyOut_front _ _ (by omega), List.drop_zero, List.take_length]
    have room : (front message).length ≤ (List.replicate message.bytes.length (0 : UInt8)).length := by
      rw [List.length_replicate]
      omega
    have moved := copyIn_behind [] (front message) _ room
    rw [List.nil_append, List.length_nil, List.nil_append] at moved
    rw [if_pos (by rw [IOBuffer.capacity, ← kept]; exact large), copied]
    simp only [Option.bind_some, IOBuffer.ofCapacity, IOBuffer.ofBytes, moved, Option.map_some, left]
    refine ⟨_, _, rfl, rfl, rfl, ?_⟩
    rw [IOBuffer.capacity, List.length_append, List.length_drop, List.length_replicate]
    omega
  · rw [if_neg (by rw [IOBuffer.capacity, ← kept]; exact large)]
    simp only [Option.map_some, left]
    refine ⟨_, _, rfl, rfl, rfl, ?_⟩
    rw [IOBuffer.capacity, ← kept]
    omega

/-- Handled as the rest of a message whose front lies in memory, it is done with the
message. -/
theorem data_handled (message : Message) {state : TcpReceiveTlvState} (fsm : TcpStateMachine)
    (first : state.firstReadLen = (front message).length)
    (total : state.totalLen = message.bytes.length)
    (start : fsm.criobuff.beginOffset = 0) (held : fsm.criobuff.buffer = front message ++ behind)
    (room : message.bytes.length ≤ fsm.criobuff.capacity)
    (received : fsm.rcvStreambuf = message.bytes.drop (front message).length) :
    ∃ rest, state.handleReadData fsm .none fsm.rcvStreambuf.length =
      some ⟨.success, none, { state with outputEvent := ⟨true, message.bytes ++ rest⟩ }, { fsm with
        criobuff := { fsm.criobuff with buffer := message.bytes ++ rest }, rcvStreambuf := [] }⟩ := by
  have inside : (front message).length ≤ message.bytes.length := by
    rw [front_length]
    exact message.inside
  have short := message_short message
  have whole : front message ++ fsm.rcvStreambuf = message.bytes := by
    rw [received, front_length, front, List.take_append_drop]
  have length : fsm.rcvStreambuf.length = message.bytes.length - (front message).length := by
    rw [received, List.length_drop]
  have fitting : fsm.rcvStreambuf.length ≤ behind.length := by
    rw [IOBuffer.capacity, held, List.length_append] at room
    omega
  have readRest : fsm.read state.firstReadLen fsm.rcvStreambuf.length = some { fsm with
      criobuff := { fsm.criobuff with
        buffer := message.bytes ++ behind.drop fsm.rcvStreambuf.length }
      rcvStreambuf := [] } := by
    rw [read_memory fsm start, held, first, copyIn_behind _ _ _ fitting, whole]
    rfl
  refine ⟨behind.drop fsm.rcvStreambuf.length, ?_⟩
  rw [TcpReceiveTlvState.handleReadData, if_neg (by decide), if_neg (by rw [total, first]; omega),
    readRest]
  simp [start]

/-! ### One execution -/

/-- The message has been handed out and the stream begins behind it. -/
structure Received (message : Message) (behind : List UInt8) (report : Report)
    (next : Receiving) : Prop where
  handed : HandsOut (.execute message) (some report)
  begins : Begins next
  left : next.channel.bytes = behind

theorem rest_length (message : Message) :
    (message.bytes.drop (front message).length).length =
      message.bytes.length - (front message).length := by
  rw [List.length_drop]

/-- The second read, with the front of the message in memory. -/
theorem data_received (message : Message) (behind : List UInt8) (receiving : Receiving)
    (begins : Begins receiving)
    (sent : receiving.channel.bytes = message.bytes.drop (front message).length ++ behind)
    (first : receiving.state.firstReadLen = (front message).length)
    (total : receiving.state.totalLen = message.bytes.length)
    (held : receiving.criobuff.buffer = front message ++ memory)
    (room : message.bytes.length ≤ receiving.criobuff.capacity) :
    ∃ report next,
      receiving.receiveData (message.bytes.length - (front message).length) = some (report, next) ∧
      Received message behind report next := by
  obtain ⟨connected, buffered, start⟩ := begins
  obtain ⟨arrivals, completed, flat⟩ := read_completes receiving buffered sent
  rw [rest_length] at completed
  obtain ⟨rest, handled⟩ := data_handled message ⟨receiving.connected, receiving.criobuff,
    message.bytes.drop (front message).length⟩ first total start held room rfl
  rw [rest_length] at handled
  have received : receiving.receiveData (message.bytes.length - (front message).length) =
      some (.done .success .none ⟨true, message.bytes ++ rest⟩, { receiving with
        state := { receiving.state with outputEvent := ⟨true, message.bytes ++ rest⟩ }
        criobuff := { receiving.criobuff with buffer := message.bytes ++ rest }
        channel := ⟨[], arrivals, receiving.channel.closes⟩ }) := by
    rw [Receiving.receiveData, completed]
    simp only [Receiving.fsm, handled, Option.map_some]
    rfl
  refine ⟨_, _, received, ⟨rest, rfl⟩, ⟨connected, rfl, start⟩, ?_⟩
  rw [Channel.bytes, List.nil_append]
  exact flat

/-- The first read, for a message at the head of the stream. -/
theorem length_received (message : Message) (behind : List UInt8) (receiving : Receiving)
    (begins : Begins receiving)
    (sent : receiving.channel.bytes = message.bytes ++ behind)
    (event : receiving.state.inputEvent = ⟨true, message.lengthOffset, message.lengthSize⟩)
    (first : receiving.state.firstReadLen = message.lengthOffset + message.lengthSize)
    (fits : message.lengthOffset + message.lengthSize ≤ receiving.criobuff.capacity) :
    ∃ report next, receiving.receiveLength (front message).length = some (report, next) ∧
      Received message behind report next := by
  obtain ⟨connected, buffered, start⟩ := begins
  have parts : receiving.channel.bytes =
      front message ++ (message.bytes.drop (front message).length ++ behind) := by
    rw [sent, ← List.append_assoc, front_length, front, List.take_append_drop]
  obtain ⟨arrivals, completed, flat⟩ := read_completes receiving buffered parts
  obtain ⟨criobuff, memory, handled, started, held, room⟩ := length_handled message
    ⟨receiving.connected, receiving.criobuff, front message⟩ event first start rfl fits
  obtain ⟨report, next, received, result⟩ := data_received message behind
    { receiving with
      state := { receiving.state with totalLen := message.bytes.length }, criobuff
      channel := ⟨[], arrivals, receiving.channel.closes⟩ }
    ⟨connected, rfl, started⟩ (by rw [Channel.bytes, List.nil_append]; exact flat)
    (by rw [front_length]; exact first) rfl held room
  refine ⟨report, next, ?_, result⟩
  rw [Receiving.receiveLength, completed]
  simp only [Receiving.fsm, handled, Option.bind_some]
  exact received

/-- What the state asks for when it is executed for a message. -/
theorem execute_asks (message : Message) {receiving : Receiving} (begins : Begins receiving) :
    { receiving.state with
        inputEvent := ⟨true, message.lengthOffset, message.lengthSize⟩ }.execute receiving.fsm =
      ⟨.success, some (front message).length, { receiving.state with
        inputEvent := ⟨true, message.lengthOffset, message.lengthSize⟩
        firstReadLen := message.lengthOffset + message.lengthSize }, receiving.fsm⟩ := by
  have short := message_short message
  have inside := message.inside
  have width := message.width
  have firstLen : (message.lengthOffset + message.lengthSize) % 2 ^ 64 =
      message.lengthOffset + message.lengthSize := by omega
  simp only [TcpReceiveTlvState.execute, Receiving.fsm, begins.connected, firstLen, front_length]
  rw [if_neg (by simp), if_neg (by simp), if_neg (by omega)]

/-- The execution for a message at the head of the stream hands it out and leaves
what comes behind it. -/
theorem message_received {receiving : Receiving} {message : Message} (begins : Begins receiving)
    (sent : receiving.channel.bytes = message.bytes ++ behind)
    (fits : Fits receiving (.execute message)) :
    ∃ report next, step receiving (.execute message) = some (some report, next) ∧
      Received message behind report next := by
  obtain ⟨report, next, received, result⟩ := length_received message behind
    { receiving with state := { receiving.state with
        inputEvent := ⟨true, message.lengthOffset, message.lengthSize⟩
        firstReadLen := message.lengthOffset + message.lengthSize } }
    ⟨begins.connected, begins.buffered, begins.start⟩ sent rfl rfl fits
  refine ⟨report, next, ?_, result⟩
  have executed : receiving.execute ⟨true, message.lengthOffset, message.lengthSize⟩ =
      some (report, next) := by
    rw [Receiving.execute, execute_asks message begins]
    exact received
  rw [step, executed]
  rfl

/-- A first read that does not fit is undefined. -/
theorem message_overflows {receiving : Receiving} {message : Message} (begins : Begins receiving)
    (sent : receiving.channel.bytes = message.bytes ++ behind)
    (large : ¬ Fits receiving (.execute message)) : step receiving (.execute message) = none := by
  have parts : receiving.channel.bytes =
      front message ++ (message.bytes.drop (front message).length ++ behind) := by
    rw [sent, ← List.append_assoc, front_length, front, List.take_append_drop]
  have asked : { receiving with state := { receiving.state with
      inputEvent := ⟨true, message.lengthOffset, message.lengthSize⟩
      firstReadLen := message.lengthOffset + message.lengthSize } }.receiveLength
        (front message).length = none := by
    obtain ⟨arrivals, completed, _⟩ := read_completes { receiving with
      state := { receiving.state with
        inputEvent := ⟨true, message.lengthOffset, message.lengthSize⟩
        firstReadLen := message.lengthOffset + message.lengthSize } } begins.buffered parts
    have unread : TcpStateMachine.read ⟨receiving.connected, receiving.criobuff, front message⟩ 0
        (front message).length = none := by
      have read := read_memory ⟨receiving.connected, receiving.criobuff, front message⟩
        begins.start 0
      have outside : receiving.criobuff.buffer.length < (front message).length := by
        rw [front_length]
        exact Nat.lt_of_not_le large
      rw [read, copyIn_outside _ _ outside]
      rfl
    rw [Receiving.receiveLength, completed]
    simp only [Receiving.fsm, TcpReceiveTlvState.handleReadLength, front_length message] at unread ⊢
    rw [if_neg (by decide), if_neg (by simp), unread]
    rfl
  have executed : receiving.execute ⟨true, message.lengthOffset, message.lengthSize⟩ = none := by
    rw [Receiving.execute, execute_asks message begins]
    exact asked
  rw [step, executed]
  rfl

/-! ### Every execution -/

/-- One request keeps the stream in step with the messages still to come. -/
theorem request_handled {receiving : Receiving} (begins : Begins receiving) {request : Request}
    (sent : receiving.channel.bytes = request.bytes ++ behind) (fits : Fits receiving request) :
    ∃ reply next, step receiving request = some (reply, next) ∧ HandsOut request reply ∧
      Begins next ∧ next.channel.bytes = behind := by
  cases request with
  | execute message =>
    obtain ⟨report, next, taken, received⟩ := message_received begins sent fits
    exact ⟨report, next, taken, received.handed, received.begins, received.left⟩
  | resetCaches =>
    refine ⟨none, receiving.resetCaches, rfl, rfl, ⟨begins.connected, rfl, rfl⟩, ?_⟩
    rw [Request.bytes, List.nil_append, Channel.bytes, begins.buffered, List.nil_append] at sent
    rw [Receiving.resetCaches, Channel.bytes, List.nil_append]
    exact sent

/-- Requests whose first reads all fit hand their messages out. -/
theorem run_hands_out {receiving : Receiving} (begins : Begins receiving) {requests : List Request}
    (sent : receiving.channel.bytes = requests.flatMap Request.bytes ++ behind)
    (fits : AllSteps step Fits receiving requests) :
    ∃ replies reached, run step receiving requests = some (replies, reached) ∧
      List.Forall₂ HandsOut requests replies ∧ reached.channel.bytes = behind := by
  induction requests generalizing receiving with
  | nil => exact ⟨[], receiving, rfl, .nil, sent⟩
  | cons request rest ih =>
    rw [List.flatMap_cons, List.append_assoc] at sent
    obtain ⟨reply, next, taken, handed, continues, left⟩ := request_handled begins sent fits.1
    obtain ⟨replies, reached, ran, others, behind⟩ := ih continues left (fits.2 _ _ taken)
    exact ⟨reply :: replies, reached, run_cons_some taken ran, .cons handed others, behind⟩

/-- In a defined run all first reads fit. -/
theorem defined_run_fits {receiving : Receiving} (begins : Begins receiving)
    {requests : List Request}
    (sent : receiving.channel.bytes = requests.flatMap Request.bytes ++ behind)
    (ran : run step receiving requests = some (replies, reached)) :
    AllSteps step Fits receiving requests := by
  induction requests generalizing receiving replies with
  | nil => trivial
  | cons request rest ih =>
    rw [List.flatMap_cons, List.append_assoc] at sent
    obtain ⟨reply, next, tail, taken, remainder, _⟩ := run_cons_inv ran
    have fits : Fits receiving request := by
      apply Classical.byContradiction
      intro large
      cases request with
      | execute message =>
        rw [message_overflows begins sent large] at taken
        cases taken
      | resetCaches => exact large trivial
    obtain ⟨reply', next', taken', _, continues, left⟩ := request_handled begins sent fits
    rw [taken] at taken'
    cases taken'
    refine ⟨fits, fun reply' next' taken' => ?_⟩
    rw [taken] at taken'
    cases taken'
    exact ih continues left remainder

/-- However the messages arrive and whatever `criobuff_` went through before, the
executions frame them exactly when each first read fits it. -/
theorem frames_exactly_iff (start : Receiving) (begins : Begins start) (requests : List Request)
    (trailing : List UInt8)
    (sent : start.channel.bytes = requests.flatMap Request.bytes ++ trailing) :
    FramesExactly start requests trailing ↔ AllSteps step Fits start requests := by
  constructor
  · intro frames
    obtain ⟨replies, reached, ran, _⟩ := frames requests [] (List.append_nil requests)
    exact defined_run_fits begins sent ran
  · intro fits made rest parts
    subst parts
    rw [List.flatMap_append, List.append_assoc] at sent
    exact run_hands_out begins sent (fits.of_prefix (List.prefix_append made rest))

/-- A message of two bytes that begins with its length, and one of five bytes with
its length in two bytes behind a first one. -/
def twoMessages : List Request :=
  [.execute ⟨[2, 7], 0, 1, by decide, by decide, by decide⟩, .resetCaches,
    .execute ⟨[9, 0, 5, 4, 3], 1, 2, by decide, by decide, by decide⟩]

/-- They arrive in three parts, one more byte behind them; the buffer is too small
for the second one. -/
def threeParts : Receiving :=
  ⟨{}, true, .ofCapacity 3, ⟨[], [[2], [7, 9, 0], [5, 4, 3, 1]], false⟩⟩

theorem two_messages_framed : FramesExactly threeParts twoMessages [1] :=
  (frames_exactly_iff threeParts ⟨rfl, rfl, rfl⟩ twoMessages [1] rfl).mpr (by decide)

theorem two_width : 2 = 1 ∨ 2 = 2 ∨ 2 = 4 := .inr (.inl rfl)

/-- A message whose length field lies behind as many bytes as `criobuff_` is made
with. -/
def lateLength : Message where
  bytes := List.replicate kDefaultReadBuffLen 0 ++ [128, 2]
  lengthOffset := kDefaultReadBuffLen
  lengthSize := 2
  width := two_width
  inside := by simp
  carries := by
    rw [List.drop_left' (List.length_replicate ..), List.length_append, List.length_replicate]
    rfl

/-- A connection on which the message arrives in one part, its buffer as it is made. -/
def inOnePart (message : Message) : Receiving :=
  ⟨{}, true, .ofCapacity kDefaultReadBuffLen, ⟨[], [message.bytes], false⟩⟩

theorem inOnePart_sent (message : Message) :
    (inOnePart message).channel.bytes = message.bytes ++ [] := rfl

/-- The first read of the message goes beyond the buffer. -/
theorem late_length_not_framed :
    Begins (inOnePart lateLength) ∧
      (inOnePart lateLength).channel.bytes = lateLength.bytes ++ [] ∧
      ¬ FramesExactly (inOnePart lateLength) [.execute lateLength] [] := by
  have begins : Begins (inOnePart lateLength) := ⟨rfl, rfl, rfl⟩
  have sent := inOnePart_sent lateLength
  refine ⟨begins, sent, fun frames => ?_⟩
  obtain ⟨replies, reached, ran, _⟩ := frames [.execute lateLength] [] rfl
  have large : ¬ Fits (inOnePart lateLength) (.execute lateLength) := by
    intro fits
    have room : (inOnePart lateLength).criobuff.capacity = kDefaultReadBuffLen :=
      IOBuffer.ofCapacity_capacity _
    have needed : lateLength.lengthOffset + lateLength.lengthSize = kDefaultReadBuffLen + 2 := rfl
    rw [Fits, room, needed] at fits
    omega
  rw [run_cons_none (message_overflows begins sent large)] at ran
  cases ran

end BeeSdk.ReceiveTlvProofs
