import BeeSdk.ManualBody
import BeeSdk.ChunkedBodyProofs

/-! Reading a chunked body by hand. The invariant says where in the body the
session stands: inside a chunk, in front of a size line, waiting for a chunk,
behind the zero chunk, or cut off inside a chunk it gave up. -/
namespace BeeSdk.ManualBodyProofs
open ByteStream IStream StateMachine ChunkedBody ManualBody

/-! ### Every call comes to rest -/

/-- What the reader has still to put into its buffer. -/
def missing (session : LuaHttpSession) : Nat :=
  (session.reader.map fun reader => reader.size - reader.pos).getD 0

/-- A load is followed by at most two reads on the socket; another load comes
only after the reader has got something. -/
def weight (session : LuaHttpSession) : Nat :=
  match session.pending with
  | none => 0
  | some .load => 3 * missing session + 3
  | some (.readChunkSize _) => 3 * missing session + 2
  | some (.loadChunkBody _) => 3 * missing session + 1

private theorem readStream_length_le (session : LuaHttpSession) (len : Nat) :
    (session.readStream len).1.length ≤ len := by
  unfold LuaHttpSession.readStream
  split
  · exact Nat.zero_le len
  · simp only [readBytes, List.length_append, List.length_take, List.length_replicate]
    omega

private theorem readStream_pending (session : LuaHttpSession) (len : Nat) :
    (session.readStream len).2.pending = session.pending := by
  unfold LuaHttpSession.readStream
  split <;> rfl

private theorem notify_weight (session : LuaHttpSession) (rests : session.pending = none)
    (e1 : BeeErrorCode) (ec2 : ErrorCode) (size : Nat) :
    weight (session.notify e1 ec2 size) ≤ 3 * missing session := by
  unfold LuaHttpSession.notify
  split
  · simp [weight, rests]
  · rename_i reader held
    have length := readStream_length_le session (min size (reader.size - reader.pos))
    have pending := readStream_pending session (min size (reader.size - reader.pos))
    generalize session.readStream (min size (reader.size - reader.pos)) = result at *
    obtain ⟨bytes, after⟩ := result
    dsimp only at length pending ⊢
    rw [rests] at pending
    split
    · simp [weight, LuaHttpSession.giveUp, rests]
    · split
      · simp [weight, LuaHttpSession.giveUp, pending]
      · rename_i some
        split
        · simp only [weight, LuaHttpSession.asyncLoad, missing, held, LuaHttpReader.pos,
            List.length_append, Option.map_some, Option.getD_some]
          simp only [LuaHttpReader.pos] at length
          omega
        · simp [weight, LuaHttpSession.resume, pending]

private theorem completeRead_handled {session after : LuaHttpSession}
    {handler : LuaHttpSession → ErrorCode → LuaHttpSession}
    (taken : session.completeRead result handler = some after) :
    ∃ ec2, after = handler { session with channel := result.2, pending := none } ec2 := by
  unfold LuaHttpSession.completeRead at taken
  split at taken
  · cases taken
    exact ⟨_, rfl⟩
  · cases taken
    exact ⟨_, rfl⟩
  · cases taken

private theorem load_weight (session : LuaHttpSession) (rests : session.pending = none) :
    weight session.load ≤ 3 * missing session + 2 := by
  unfold LuaHttpSession.load
  split
  · simp [weight, rests]
  · split
    · have bound := notify_weight session rests .success .none session.curChunkLeft
      omega
    · simp [weight, LuaHttpSession.readChunkSize, missing]

private theorem handleReadChunkSize_weight (session : LuaHttpSession)
    (rests : session.pending = none) (ec2 : ErrorCode) :
    weight (session.handleReadChunkSize ec2) ≤ 3 * missing session + 1 := by
  unfold LuaHttpSession.handleReadChunkSize
  split
  · exact Nat.le_succ_of_le (notify_weight session rests _ _ _)
  · dsimp only
    split
    · exact Nat.le_succ_of_le (notify_weight _ (by exact rests) _ _ _)
    · simp [weight, LuaHttpSession.loadChunkBody, missing]

private theorem handleLoadChunkBody_weight (session : LuaHttpSession)
    (rests : session.pending = none) (ec2 : ErrorCode) :
    weight (session.handleLoadChunkBody ec2) ≤ 3 * missing session := by
  unfold LuaHttpSession.handleLoadChunkBody
  split
  · exact notify_weight session rests _ _ _
  · exact notify_weight { session with curChunkLeft := session.curChunkSize } rests _ _ _

private theorem advance_decreases (before after : LuaHttpSession)
    (taken : before.advance = some after) : weight after < weight before := by
  unfold LuaHttpSession.advance at taken
  split at taken
  · cases taken
  · rename_i pending
    cases taken
    have bound := load_weight { before with pending := none } rfl
    simp only [missing] at bound
    simp only [weight.eq_def before, pending, missing]
    omega
  · rename_i delim pending
    obtain ⟨ec2, rfl⟩ := completeRead_handled taken
    have bound := handleReadChunkSize_weight
      { before with channel := (before.channel.readUntil delim).2, pending := none } rfl ec2
    simp only [missing] at bound
    simp only [weight.eq_def before, pending, missing]
    omega
  · rename_i needReadLen pending
    obtain ⟨ec2, rfl⟩ := completeRead_handled taken
    have bound := handleLoadChunkBody_weight
      { before with channel := (before.channel.readExactly needReadLen).2, pending := none } rfl ec2
    simp only [missing] at bound
    simp only [weight.eq_def before, pending, missing]
    omega

/-- Whatever a session is in, its pending operations come to an end. -/
theorem every_call_settles (session : LuaHttpSession) :
    ∃ final, Runs.Settles LuaHttpSession.advance session final :=
  Runs.settles_of_decreasing weight advance_decreases session

/-! ### Bytes sent and bytes of content -/

private theorem sentContent_zero (chunks : List Chunk) : sentContent chunks 0 = 0 := by
  induction chunks with
  | nil => rfl
  | cons chunk rest ih => simp [sentContent, ih]

/-- As long as a size line is not complete it brings no content. -/
private theorem sentContent_line (chunk : Chunk) (rest : List Chunk)
    (short : sent ≤ (chunk.digits ++ crlf).length) : sentContent (chunk :: rest) sent = 0 := by
  have before : sent - chunk.encode.length = 0 := by
    rw [Chunk.encode, List.length_append]
    omega
  rw [sentContent, before, sentContent_zero, Nat.sub_eq_zero_of_le short, Nat.min_zero]

/-- Behind a chunk that has been sent in full the rest of the body counts. -/
private theorem sentContent_chunk (chunk : Chunk) (rest : List Chunk) (behind : List UInt8) :
    sentContent (chunk :: rest) (chunk.encode ++ behind).length =
      chunk.data.length + sentContent rest behind.length := by
  have line : chunk.data.length ≤
      (chunk.encode ++ behind).length - (chunk.digits ++ crlf).length := by
    simp only [Chunk.encode, List.length_append]
    omega
  have left : (chunk.encode ++ behind).length - chunk.encode.length = behind.length := by
    rw [List.length_append, Nat.add_sub_cancel_left]
  rw [sentContent, Nat.min_eq_left line, left]

/-- Behind a size line nothing of the content counts only if nothing has come. -/
private theorem sentContent_cut (chunk : Chunk) (rest : List Chunk) (received : List UInt8)
    (none : sentContent (chunk :: rest) (chunk.digits ++ crlf ++ received).length = 0) :
    received = [] := by
  have filled := List.length_pos_iff.mpr chunk.filled
  have behind : (chunk.digits ++ crlf ++ received).length - (chunk.digits ++ crlf).length =
      received.length := by
    rw [@List.length_append _ (chunk.digits ++ crlf), Nat.add_sub_cancel_left]
  rw [sentContent, behind] at none
  apply List.eq_nil_of_length_eq_zero
  omega

private theorem first_line (chunk : Chunk) (rest : List Chunk) (closing : List UInt8) :
    (chunk :: rest).flatMap Chunk.encode ++ closing = chunk.digits ++ crlf ++
      (chunk.data ++ crlf ++ (rest.flatMap Chunk.encode ++ closing)) := by
  simp [Chunk.encode]

/-! ### Where the session stands -/

/-- What lies between a chunk's rest and the next size line. -/
def framed (left : List UInt8) : List UInt8 := if left = [] then [] else left ++ crlf

/-- The readers have got or are about to get the first bytes of the content, and
what has not been looked at begins with the size line of the next chunk. -/
structure Ahead (connection : Connection) (taken unread : List UInt8) (rest : List Chunk) :
    Prop where
  content : content connection.body.chunks = taken ++ content rest
  stream : unread <+: rest.flatMap Chunk.encode ++ (connection.body.digits ++ crlf ++ crlf)
  sent : connection.sentLength = taken.length + sentContent rest unread.length
  bounded : ∀ chunk ∈ rest, chunk.data.length < 2 ^ 64 - 2

/-- Where a session stands in its body. -/
inductive Position (connection : Connection) (session : LuaHttpSession) : Prop where
  | inside (left behind : List UInt8) (rest : List Chunk)
      (ahead : Ahead connection (session.delivered ++ left)
        (behind ++ session.channel.arrivals.flatten) rest)
      (received : session.channel.received = framed left ++ behind)
      (curChunkLeft : session.curChunkLeft = left.length)
      (pending : session.pending = none ∨ session.pending = some .load ∨
        session.pending = some (.readChunkSize crlf) ∧ left = [])
  | loading (chunk : Chunk) (rest : List Chunk)
      (ahead : Ahead connection session.delivered
        (chunk.digits ++ crlf ++ session.channel.bytes) (chunk :: rest))
      (curChunkSize : session.curChunkSize = chunk.data.length)
      (curChunkLeft : session.curChunkLeft = 0)
      (pending : session.pending = some (.loadChunkBody (chunk.data.length + 2)))
  | ended
      (ahead : Ahead connection session.delivered
        (connection.body.digits ++ crlf ++ session.channel.bytes) [])
      (curChunkSize : session.curChunkSize = 0) (curChunkLeft : session.curChunkLeft = 0)
      (pending : session.pending = none ∨ session.pending = some .load ∨
        session.pending = some (.readChunkSize crlf))
  | cut (chunk : Chunk) (rest : List Chunk)
      (ahead : Ahead connection session.delivered
        (chunk.digits ++ crlf ++ session.channel.received) (chunk :: rest))
      (arrivals : session.channel.arrivals = []) (curChunkLeft : session.curChunkLeft = 0)
      (pending : session.pending = none)
      (gaveUp : ∃ answer, session.answers.getLast? = some answer ∧ answer.completed = false)

/-- A reader that is at work still wants something and has room for it. -/
def AtWork (reader : LuaHttpReader) : Prop :=
  reader.pos < reader.wanted ∧ reader.wanted ≤ reader.size

structure Reading (connection : Connection) (session : LuaHttpSession) : Prop where
  connected : session.connected = true
  chunked : session.isChunk = true
  answered : ∀ before answer, before ++ [answer] <+: session.answers →
    connection.AllSent before answer.reader → answer.completed = true
  yields : session.yielded = true → session.pending ≠ none ∧
    ∃ reader, session.reader = some reader ∧ AtWork reader
  rests : session.yielded = false → session.pending = none
  position : Position connection session

variable {connection : Connection} {session : LuaHttpSession} {reader : LuaHttpReader}

theorem delivered_at_work (yielded : session.yielded = true) (held : session.reader = some reader) :
    session.delivered = session.answers.flatMap (fun answer => answer.reader.buff) ++ reader.buff := by
  simp [LuaHttpSession.delivered, yielded, held]

theorem delivered_at_rest (rests : session.yielded = false) :
    session.delivered = session.answers.flatMap (fun answer => answer.reader.buff) := by
  simp [LuaHttpSession.delivered, rests]

/-- A reader that is at work has not been sent its bytes as long as nothing but
what it has got has been sent. -/
theorem not_all_sent (yielded : session.yielded = true) (held : session.reader = some reader)
    (works : AtWork reader) (nothing : connection.sentLength ≤ session.delivered.length) :
    ¬ connection.AllSent session.answers reader := by
  intro sent
  have wants := works.1
  rw [delivered_at_work yielded held, List.length_append] at nothing
  rw [Connection.AllSent] at sent
  rw [LuaHttpReader.pos] at wants
  omega

/-- What a position leaves undelivered comes behind what has been delivered. -/
theorem delivered_first (position : Position connection session) :
    session.delivered <+: content connection.body.chunks := by
  cases position with
  | inside left behind rest ahead =>
    rw [ahead.content, List.append_assoc]
    exact List.prefix_append _ _
  | loading chunk rest ahead =>
    rw [ahead.content]
    exact List.prefix_append _ _
  | ended ahead =>
    rw [ahead.content]
    exact List.prefix_append _ _
  | cut chunk rest ahead =>
    rw [ahead.content]
    exact List.prefix_append _ _

/-- Once a chunk has been received, the next size line is ahead. -/
private theorem Ahead.next {chunk : Chunk} {taken behind : List UInt8}
    (ahead : Ahead connection taken (chunk.digits ++ crlf ++ (chunk.data ++ (crlf ++ behind)))
      (chunk :: rest)) : Ahead connection (taken ++ chunk.data) behind rest := by
  have whole : chunk.digits ++ crlf ++ (chunk.data ++ (crlf ++ behind)) =
      chunk.encode ++ behind := by
    simp [Chunk.encode]
  obtain ⟨content, stream, sent, bounded⟩ := ahead
  rw [whole] at stream sent
  refine ⟨?_, ?_, ?_, fun other member => bounded other (by simp [member])⟩
  · rw [content]
    simp [ChunkedBody.content]
  · rw [List.flatMap_cons, List.append_assoc] at stream
    exact (List.prefix_append_right_inj _).mp stream
  · rw [sent, sentContent_chunk, List.length_append]
    omega

/-- A reader that gives up or resumes has got what it has got. -/
theorem delivered_answered (yielded : session.yielded = true) (held : session.reader = some reader)
    (completed : Bool) :
    ({ session with yielded := false, answers := session.answers ++ [⟨reader, completed⟩] } :
      LuaHttpSession).delivered = session.delivered := by
  rw [delivered_at_work yielded held, delivered_at_rest rfl]
  simp

/-! ### What a handler leaves -/

/-- A handler runs for the reader that is at work; nothing is pending yet. -/
structure Handling (connection : Connection) (session : LuaHttpSession) (reader : LuaHttpReader) :
    Prop where
  connected : session.connected = true
  chunked : session.isChunk = true
  answered : ∀ before answer, before ++ [answer] <+: session.answers →
    connection.AllSent before answer.reader → answer.completed = true
  yielded : session.yielded = true
  held : session.reader = some reader
  works : AtWork reader
  pending : session.pending = none

/-- The session a handler works on once it has set the members it sets. -/
def entered (session : LuaHttpSession) (channel : Channel UInt8) (curChunkSize curChunkLeft : Nat) :
    LuaHttpSession :=
  { session with channel, curChunkSize, curChunkLeft, pending := none }

/-- Whatever is pending belongs to the reader at work, and its handler runs for
that reader. -/
theorem Reading.handling (reading : Reading connection session)
    (pending : session.pending ≠ none) :
    ∃ reader, session.reader = some reader ∧ ∀ channel curChunkSize curChunkLeft,
      Handling connection (entered session channel curChunkSize curChunkLeft) reader := by
  have yielded : session.yielded = true := by
    cases held : session.yielded with
    | true => rfl
    | false => exact absurd (reading.rests held) pending
  obtain ⟨_, reader, held, works⟩ := reading.yields yielded
  exact ⟨reader, held, fun channel curChunkSize curChunkLeft => ⟨reading.connected, reading.chunked,
    reading.answered, yielded, held, works, rfl⟩⟩

private theorem answered_behind {answers : List Answer} {completed : Bool}
    (answered : ∀ before answer, before ++ [answer] <+: answers →
      connection.AllSent before answer.reader → answer.completed = true)
    (last : connection.AllSent answers reader → completed = true) :
    ∀ before answer, before ++ [answer] <+: answers ++ [⟨reader, completed⟩] →
      connection.AllSent before answer.reader → answer.completed = true := by
  intro before answer first sent
  rcases List.prefix_concat_iff.mp first with same | earlier
  · obtain ⟨rfl, rfl⟩ := List.append_singleton_inj.mp same
    exact last sent
  · exact answered before answer earlier sent

theorem Handling.gives_up (handling : Handling connection session reader)
    (unsent : ¬ connection.AllSent session.answers reader)
    (position : Position connection (session.giveUp reader)) :
    Reading connection (session.giveUp reader) where
  connected := handling.connected
  chunked := handling.chunked
  answered := answered_behind handling.answered fun sent => absurd sent unsent
  yields := fun yielded => by cases yielded
  rests := fun _ => handling.pending
  position := position

theorem Handling.goes_on (handling : Handling connection session reader) (operation : Operation)
    (position : Position connection { session with pending := some operation }) :
    Reading connection { session with pending := some operation } where
  connected := handling.connected
  chunked := handling.chunked
  answered := handling.answered
  yields := fun _ => ⟨by simp, reader, handling.held, handling.works⟩
  rests := fun rests => by rw [handling.yielded] at rests; cases rests
  position := position

/-- Any error makes the reader give up. -/
private theorem notify_error (held : session.reader = some reader) (e1 : BeeErrorCode)
    (ec2 : ErrorCode) (error : e1 ≠ .success ∨ ec2.isError = true) (size : Nat) :
    session.notify e1 ec2 size = session.giveUp reader := by
  simp only [LuaHttpSession.notify, held, if_pos error]

/-- Inside a chunk the stream gives what is asked for and, with the last byte,
drops the line end. -/
private theorem readStream_inside {left behind : List UInt8} (some : 0 < len)
    (within : len ≤ left.length) (received : session.channel.received = framed left ++ behind)
    (curChunkLeft : session.curChunkLeft = left.length) :
    session.readStream len = (left.take len, { session with
      curChunkLeft := (left.drop len).length
      channel := { session.channel with received := framed (left.drop len) ++ behind } }) := by
  have filled : left ≠ [] := List.length_pos_iff.mp (by omega)
  have nothing : ¬ (len = 0 ∨ left.length = 0) := by omega
  have bytes : readBytes len session.channel.received =
      (left.take len, left.drop len ++ (crlf ++ behind)) := by
    rw [received, framed, if_neg filled, List.append_assoc, readBytes,
      List.take_append_of_le_length within, List.drop_append_of_le_length within]
    have enough : len - (left ++ (crlf ++ behind)).length = 0 := by
      rw [List.length_append]
      omega
    rw [enough, List.replicate_zero, List.append_nil]
  have length : left.length - len = (left.drop len).length := by rw [List.length_drop]
  simp only [LuaHttpSession.readStream, curChunkLeft, if_neg nothing, Nat.min_eq_left within,
    bytes, length]
  by_cases last : left.drop len = []
  · simp [last, framed, crlf]
  · have more : (left.drop len).length ≠ 0 := fun none => last (List.eq_nil_of_length_eq_zero none)
    rw [if_neg more, framed, if_neg last, List.append_assoc]

/-- A reader that has got something and is not completed still wants more. -/
private theorem works_on (works : AtWork reader) (some : bytes ≠ [])
    (fits : bytes.length ≤ reader.size - reader.pos)
    (goes : ({ reader with buff := reader.buff ++ bytes } : LuaHttpReader).completed = false) :
    AtWork { reader with buff := reader.buff ++ bytes } := by
  obtain ⟨kind, size, buff⟩ := reader
  obtain ⟨wants, room⟩ := works
  have positive := List.length_pos_iff.mpr some
  simp only [AtWork, LuaHttpReader.pos, LuaHttpReader.wanted, LuaHttpReader.completed,
    List.length_append] at *
  cases kind with
  | someReader =>
    simp at goes
    exact absurd goes.2 some
  | exactlyReader =>
    simp only [decide_eq_false_iff_not] at goes ⊢
    omega
  | scanfReader =>
    simp only [decide_eq_false_iff_not] at goes ⊢
    omega

/-- The session once its reader has got some bytes and stands before the rest of
the chunk. -/
private def gets (session : LuaHttpSession) (reader : LuaHttpReader) (bytes left behind : List UInt8) :
    LuaHttpSession :=
  { session with
    curChunkLeft := left.length
    channel := { session.channel with received := framed left ++ behind }
    reader := some { reader with buff := reader.buff ++ bytes } }

private theorem gets_delivered (yielded : session.yielded = true)
    (held : session.reader = some reader) (bytes left behind : List UInt8) :
    (gets session reader bytes left behind).delivered = session.delivered ++ bytes := by
  simp [LuaHttpSession.delivered, gets, yielded, held]

private theorem resumed_delivered (yielded : session.yielded = true)
    (held : session.reader = some reader) (bytes left behind : List UInt8) :
    ((gets session reader bytes left behind).resume
      { reader with buff := reader.buff ++ bytes }).delivered = session.delivered ++ bytes := by
  simp [LuaHttpSession.delivered, LuaHttpSession.resume, gets, yielded, held]

/-- Inside a chunk a reader gets what it wants of the chunk and is completed or
loads again. -/
private theorem notify_inside {left behind : List UInt8} {rest : List Chunk}
    (handling : Handling connection session reader) (filled : left ≠ [])
    (ahead : Ahead connection (session.delivered ++ left)
      (behind ++ session.channel.arrivals.flatten) rest)
    (received : session.channel.received = framed left ++ behind)
    (curChunkLeft : session.curChunkLeft = left.length) :
    Reading connection (session.notify .success .none left.length) := by
  have positive := List.length_pos_iff.mpr filled
  obtain ⟨wants, room⟩ := handling.works
  generalize length : min left.length (reader.size - reader.pos) = len
  have some : 0 < len := by omega
  have within : len ≤ left.length := by omega
  have fits : (left.take len).length ≤ reader.size - reader.pos := by
    rw [List.length_take]
    omega
  have taken : left.take len ≠ [] := by
    rw [← List.length_pos_iff, List.length_take]
    omega
  have stream := readStream_inside some within received curChunkLeft
  have notified : session.notify .success .none left.length =
      if ¬ ({ reader with buff := reader.buff ++ left.take len } : LuaHttpReader).completed then
        (gets session reader (left.take len) (left.drop len) behind).asyncLoad
      else (gets session reader (left.take len) (left.drop len) behind).resume
        { reader with buff := reader.buff ++ left.take len } := by
    simp only [LuaHttpSession.notify, handling.held, length, stream]
    rw [if_neg (by simp [ErrorCode.isError]), if_neg (by rw [List.length_eq_zero_iff]; exact taken)]
    rfl
  have standing : Ahead connection ((session.delivered ++ left.take len) ++ left.drop len)
      (behind ++ session.channel.arrivals.flatten) rest := by
    rwa [List.append_assoc, List.take_append_drop]
  rw [notified]
  cases done : ({ reader with buff := reader.buff ++ left.take len } : LuaHttpReader).completed with
  | false =>
    rw [if_pos (by simp)]
    have still : Handling connection (gets session reader (left.take len) (left.drop len) behind)
        { reader with buff := reader.buff ++ left.take len } :=
      ⟨handling.connected, handling.chunked, handling.answered, handling.yielded, rfl,
        works_on handling.works taken fits done, handling.pending⟩
    rw [← gets_delivered handling.yielded handling.held (left.take len) (left.drop len) behind]
      at standing
    exact still.goes_on .load (.inside _ behind rest standing rfl rfl (.inr (.inl rfl)))
  | true =>
    rw [if_neg (by simp)]
    rw [← resumed_delivered handling.yielded handling.held (left.take len) (left.drop len) behind]
      at standing
    exact {
      connected := handling.connected
      chunked := handling.chunked
      answered := answered_behind handling.answered fun _ => rfl
      yields := fun yielded => by cases yielded
      rests := fun _ => handling.pending
      position := .inside _ behind rest standing rfl rfl (.inl handling.pending) }

/-! ### What an operation that completes leads to -/

/-- The pending operation completes and leaves the session in order, or it never
completes and its reader has not been sent its bytes. -/
def Goes (connection : Connection) (session : LuaHttpSession) : Prop :=
  (∃ after, session.advance = some after ∧ Reading connection after) ∨
  (session.advance = none ∧
    ∀ reader, session.reader = some reader → ¬ connection.AllSent session.answers reader)

/-- The next size line is received in full, or the stream ends inside it. -/
private theorem line_or_exhausted (spells : Spells digits value) {channel : Channel UInt8}
    (stream : channel.bytes <+: digits ++ crlf ++ tail) :
    (∃ more arrivals, channel.readUntil crlf =
        (.satisfied, ⟨digits ++ crlf ++ more, arrivals, channel.closes⟩) ∧
      channel.bytes = digits ++ crlf ++ (more ++ arrivals.flatten)) ∨
    (channel.readUntil crlf = (exhausted channel.closes, ⟨channel.bytes, [], channel.closes⟩) ∧
      channel.bytes.length ≤ (digits ++ crlf).length) := by
  by_cases long : (digits ++ crlf).length ≤ channel.bytes.length
  · obtain ⟨rest, whole⟩ :=
      List.prefix_of_prefix_length_le (List.prefix_append _ tail) stream long
    obtain ⟨more, arrivals, took, _, remaining⟩ := ChunkedBodyProofs.readUntil_line spells whole.symm
    exact .inl ⟨more, arrivals, took, by rw [remaining, whole]⟩
  · refine .inr ⟨readUntil_missed fun found => ?_, by omega⟩
    exact long (ChunkedBodyProofs.line_received spells stream found).length_le

private theorem handleReadChunkSize_line (spells : Spells digits size) (bounded : size < 2 ^ 64)
    (received : session.channel.received = digits ++ crlf ++ more) :
    session.handleReadChunkSize .none =
      if size = 0 then
        ({ session with
          curChunkSize := size
          channel := { session.channel with received := more } } : LuaHttpSession).notify
            .eof .none 0
      else
        ({ session with
          curChunkSize := size
          channel := { session.channel with received := more } } : LuaHttpSession).loadChunkBody
            size := by
  have extracted : extractHex 64 session.curChunkSize session.channel.received =
      ⟨size, true, crlf ++ more⟩ := by
    rw [received, List.append_assoc]
    exact extractHex_spelled spells bounded _ _
  have left : skipLine true (crlf ++ more) = more := skipLine_spelled more
  simp only [LuaHttpSession.handleReadChunkSize, extracted, left]
  rfl

private theorem Handling.delivered
    (handling : Handling connection (entered session channel curChunkSize curChunkLeft) reader) :
    ((entered session channel curChunkSize curChunkLeft).giveUp reader).delivered =
      session.delivered :=
  delivered_answered handling.yielded handling.held false

/-- Where everything sent has been handed out, the reader has not been sent its
bytes. -/
private theorem Handling.drained
    (handling : Handling connection (entered session channel curChunkSize curChunkLeft) reader)
    (nothing : connection.sentLength ≤ session.delivered.length) :
    ¬ connection.AllSent session.answers reader :=
  not_all_sent handling.yielded handling.held handling.works nothing

/-- A read that takes the whole stream in without being satisfied makes the
reader give up, or wait for ever. -/
private theorem exhausted_goes {channel : Channel UInt8}
    (handler : LuaHttpSession → ErrorCode → LuaHttpSession) (closes : Bool)
    (handling : Handling connection
      (entered session channel session.curChunkSize session.curChunkLeft) reader)
    (reads : session.advance = session.completeRead (exhausted closes, channel) handler)
    (fails : handler (entered session channel session.curChunkSize session.curChunkLeft) .eof =
      (entered session channel session.curChunkSize session.curChunkLeft).giveUp reader)
    (unsent : ¬ connection.AllSent session.answers reader)
    (position : Position connection
      ((entered session channel session.curChunkSize session.curChunkLeft).giveUp reader)) :
    Goes connection session := by
  cases closes with
  | true =>
    left
    exact ⟨_, reads.trans (congrArg some fails), handling.gives_up unsent position⟩
  | false =>
    right
    refine ⟨reads, fun other held => ?_⟩
    have same : some other = some reader := held.symm.trans handling.held
    cases same
    exact unsent

/-- As long as the next size line is not complete no content is missing. -/
private theorem line_missed_goes {rest : List Chunk}
    (handling : ∀ channel curChunkSize curChunkLeft,
      Handling connection (entered session channel curChunkSize curChunkLeft) reader)
    (pending : session.pending = some (.readChunkSize crlf)) (curChunkLeft : session.curChunkLeft = 0)
    (ahead : Ahead connection session.delivered session.channel.bytes rest)
    (took : session.channel.readUntil crlf =
      (exhausted session.channel.closes, ⟨session.channel.bytes, [], session.channel.closes⟩))
    (nothing : sentContent rest session.channel.bytes.length = 0) : Goes connection session := by
  have here := handling ⟨session.channel.bytes, [], session.channel.closes⟩
    session.curChunkSize session.curChunkLeft
  have drained : connection.sentLength ≤ session.delivered.length := by
    rw [ahead.sent, nothing]
    exact Nat.le_refl _
  refine exhausted_goes LuaHttpSession.handleReadChunkSize session.channel.closes here ?_ ?_
    (here.drained drained) ?_
  · simp only [LuaHttpSession.advance, pending, took]
  · exact notify_error here.held .readHttpChunkSizeFail .eof (.inr rfl) 0
  · refine .inside [] session.channel.bytes rest ?_ rfl curChunkLeft (.inl rfl)
    rw [here.delivered]
    simpa [LuaHttpSession.giveUp, entered] using ahead

/-- Behind the last chunk comes the zero chunk, and with it the end. -/
private theorem zero_line_goes
    (handling : ∀ channel curChunkSize curChunkLeft,
      Handling connection (entered session channel curChunkSize curChunkLeft) reader)
    (pending : session.pending = some (.readChunkSize crlf)) (curChunkLeft : session.curChunkLeft = 0)
    (ahead : Ahead connection session.delivered session.channel.bytes []) :
    Goes connection session := by
  have stream : session.channel.bytes <+: connection.body.digits ++ crlf ++ crlf := ahead.stream
  rcases line_or_exhausted connection.body.spelled stream with
    ⟨more, arrivals, took, whole⟩ | ⟨took, _⟩
  · have here := handling ⟨more, arrivals, session.channel.closes⟩ 0 session.curChunkLeft
    have drained : connection.sentLength ≤ session.delivered.length := Nat.le_of_eq ahead.sent
    left
    refine ⟨_, ?_, here.gives_up (here.drained drained) ?_⟩
    · simp only [LuaHttpSession.advance, pending, took, LuaHttpSession.completeRead]
      rw [handleReadChunkSize_line connection.body.spelled (by decide) rfl, if_pos rfl]
      exact congrArg some (notify_error here.held .eof .none (.inl (by decide)) 0)
    · refine .ended ?_ rfl curChunkLeft (.inl rfl)
      rw [here.delivered]
      rw [whole] at ahead
      exact ahead
  · exact line_missed_goes handling pending curChunkLeft ahead took rfl

/-- A size line makes the session wait for its chunk. -/
private theorem chunk_line_goes {chunk : Chunk} {rest : List Chunk}
    (handling : ∀ channel curChunkSize curChunkLeft,
      Handling connection (entered session channel curChunkSize curChunkLeft) reader)
    (pending : session.pending = some (.readChunkSize crlf)) (curChunkLeft : session.curChunkLeft = 0)
    (ahead : Ahead connection session.delivered session.channel.bytes (chunk :: rest)) :
    Goes connection session := by
  have stream := ahead.stream
  rw [first_line] at stream
  rcases line_or_exhausted chunk.spelled stream with ⟨more, arrivals, took, whole⟩ | ⟨took, short⟩
  · have bounded := ahead.bounded chunk (by simp)
    have filled : chunk.data.length ≠ 0 := Nat.ne_of_gt (List.length_pos_iff.mpr chunk.filled)
    have need : (chunk.data.length + 2) % 2 ^ 64 = chunk.data.length + 2 :=
      Nat.mod_eq_of_lt (by omega)
    have here := handling ⟨more, arrivals, session.channel.closes⟩ chunk.data.length
      session.curChunkLeft
    left
    refine ⟨_, ?_, here.goes_on (.loadChunkBody (chunk.data.length + 2)) ?_⟩
    · simp only [LuaHttpSession.advance, pending, took, LuaHttpSession.completeRead]
      rw [handleReadChunkSize_line chunk.spelled (by omega) rfl, if_neg filled]
      simp only [LuaHttpSession.loadChunkBody, need, entered]
    · refine .loading chunk rest ?_ rfl curChunkLeft rfl
      rw [whole] at ahead
      exact ahead
  · exact line_missed_goes handling pending curChunkLeft ahead took
      (sentContent_line chunk rest short)

/-- Behind the zero chunk every prefix of what may still come is in order. -/
private theorem Ahead.at_end {before unread fewer : List UInt8}
    (ahead : Ahead connection before unread []) (first : fewer <+: unread) :
    Ahead connection before fewer [] :=
  ⟨ahead.content, first.trans ahead.stream, ahead.sent, ahead.bounded⟩

private theorem infix_whole {line bytes : List UInt8} (found : line <:+: bytes)
    (first : bytes <+: line) : bytes = line :=
  first.eq_of_length (Nat.le_antisymm first.length_le found.length_le)

/-- Behind the zero chunk there is one line end at most, and a reader gives up
whether it comes or not. -/
private theorem ended_goes
    (handling : ∀ channel curChunkSize curChunkLeft,
      Handling connection (entered session channel curChunkSize curChunkLeft) reader)
    (pending : session.pending = some (.readChunkSize crlf)) (curChunkSize : session.curChunkSize = 0)
    (curChunkLeft : session.curChunkLeft = 0)
    (ahead : Ahead connection session.delivered
      (connection.body.digits ++ crlf ++ session.channel.bytes) []) : Goes connection session := by
  have last : session.channel.bytes <+: crlf :=
    (List.prefix_append_right_inj (connection.body.digits ++ crlf)).mp ahead.stream
  have drained : connection.sentLength ≤ session.delivered.length := Nat.le_of_eq ahead.sent
  by_cases found : crlf <:+: session.channel.bytes
  · have whole := infix_whole found last
    obtain ⟨received, arrivals, took, _, conserved, enough⟩ := receive_takes
      (fun received => decide (crlf <:+: received)) session.channel (by simpa using found)
    rw [whole] at conserved
    obtain rfl := infix_whole (of_decide_eq_true enough) ⟨_, conserved⟩
    have nothing : arrivals.flatten = [] := List.append_right_eq_self.mp conserved
    have here := handling ⟨[], arrivals, session.channel.closes⟩ 0 session.curChunkLeft
    have reads : session.channel.readUntil crlf =
      (.satisfied, ⟨crlf, arrivals, session.channel.closes⟩) := took
    left
    refine ⟨_, ?_, here.gives_up (here.drained drained) ?_⟩
    · simp only [LuaHttpSession.advance, pending, reads, LuaHttpSession.completeRead,
        LuaHttpSession.handleReadChunkSize, curChunkSize]
      exact congrArg some (notify_error here.held .eof .none (.inl (by decide)) 0)
    · refine .ended ?_ rfl curChunkLeft (.inl rfl)
      rw [here.delivered]
      apply ahead.at_end
      simp [LuaHttpSession.giveUp, entered, Channel.bytes, nothing]
  · have here := handling ⟨session.channel.bytes, [], session.channel.closes⟩
      session.curChunkSize session.curChunkLeft
    refine exhausted_goes LuaHttpSession.handleReadChunkSize session.channel.closes here ?_ ?_
      (here.drained drained) ?_
    · simp only [LuaHttpSession.advance, pending, readUntil_missed found]
    · exact notify_error here.held .readHttpChunkSizeFail .eof (.inr rfl) 0
    · refine .ended ?_ curChunkSize curChunkLeft (.inl rfl)
      rw [here.delivered]
      simpa [LuaHttpSession.giveUp, entered, Channel.bytes] using ahead

/-- What has been received of a chunk and what is still to come of it and its
line end are the chunk and its line end. -/
private theorem chunk_received {data received coming rest : List UInt8}
    (stream : received ++ coming <+: data ++ crlf ++ rest)
    (enough : data.length + 2 ≤ received.length) :
    ∃ behind, received = data ++ (crlf ++ behind) := by
  have first : data ++ crlf <+: received ++ coming := by
    refine List.prefix_of_prefix_length_le (List.prefix_append _ rest) stream ?_
    simp only [crlf, List.length_append, List.length_cons, List.length_nil]
    omega
  obtain ⟨behind, rfl⟩ := List.prefix_of_prefix_length_le first (List.prefix_append _ coming)
    (by simpa [crlf] using enough)
  exact ⟨behind, List.append_assoc ..⟩

/-- A chunk that is still to come is handed out once it has been received; else
the load never completes, and its reader has not been sent its bytes. -/
private theorem loading_goes {chunk : Chunk} {rest : List Chunk}
    (handling : ∀ channel curChunkSize curChunkLeft,
      Handling connection (entered session channel curChunkSize curChunkLeft) reader)
    (pending : session.pending = some (.loadChunkBody (chunk.data.length + 2)))
    (curChunkSize : session.curChunkSize = chunk.data.length)
    (curChunkLeft : session.curChunkLeft = 0)
    (ahead : Ahead connection session.delivered
      (chunk.digits ++ crlf ++ session.channel.bytes) (chunk :: rest))
    (met : connection.ChunkToCome session) : Goes connection session := by
  rcases receiveExactly_cases session.channel.closes (chunk.data.length + 2)
    session.channel.received session.channel.arrivals with
    ⟨held, arrivals, took, flat⟩ | ⟨short, took⟩
  · have whole : session.channel.received ++
        session.channel.arrivals.flatten.take (chunk.data.length + 2) ++ arrivals.flatten =
        session.channel.bytes := by
      rw [flat, List.append_assoc, List.take_append_drop, Channel.bytes]
    have stream : session.channel.bytes <+: chunk.data ++ crlf ++
        (rest.flatMap Chunk.encode ++ (connection.body.digits ++ crlf ++ crlf)) := by
      have stream := ahead.stream
      rw [first_line] at stream
      exact (List.prefix_append_right_inj _).mp stream
    rw [← whole] at stream ahead
    obtain ⟨behind, received⟩ := chunk_received stream
      (by rw [List.length_append, List.length_take]; omega)
    have here := handling ⟨chunk.data ++ (crlf ++ behind), arrivals, session.channel.closes⟩
      chunk.data.length chunk.data.length
    rw [received] at took ahead
    have next : Ahead connection (session.delivered ++ chunk.data)
        (behind ++ arrivals.flatten) rest := by
      apply Ahead.next
      simpa using ahead
    have inside : chunk.data ++ (crlf ++ behind) = framed chunk.data ++ behind := by
      rw [framed, if_neg chunk.filled, List.append_assoc]
    left
    refine ⟨_, ?_, notify_inside here chunk.filled next inside rfl⟩
    simp only [LuaHttpSession.advance, pending, Channel.readExactly, took,
      LuaHttpSession.completeRead, LuaHttpSession.handleLoadChunkBody, curChunkSize]
    rfl
  · have here := handling ⟨session.channel.bytes, [], session.channel.closes⟩
      session.curChunkSize session.curChunkLeft
    refine exhausted_goes LuaHttpSession.handleLoadChunkBody session.channel.closes here ?_ ?_
      ?_ ?_
    · simp only [LuaHttpSession.advance, pending, Channel.readExactly, took]
      rfl
    · exact notify_error here.held .readHttpChunkBodyFail .eof (.inr rfl) 0
    · intro sent
      have come := met _ pending reader here.held sent
      omega
    · refine .cut chunk rest ?_ rfl curChunkLeft rfl ⟨_, List.getLast?_concat, rfl⟩
      rw [here.delivered]
      exact ahead

private theorem load_outside (chunked : session.isChunk = true)
    (empty : session.curChunkLeft = 0) : session.load = session.readChunkSize := by
  simp [LuaHttpSession.load, chunked, empty]

private theorem load_inside (chunked : session.isChunk = true)
    (filled : 0 < session.curChunkLeft) :
    session.load = session.notify .success .none session.curChunkLeft := by
  simp [LuaHttpSession.load, chunked, filled]

/-- A load goes on inside a chunk or with the next size line. -/
private theorem load_goes
    (handling : ∀ channel curChunkSize curChunkLeft,
      Handling connection (entered session channel curChunkSize curChunkLeft) reader)
    (pending : session.pending = some .load) (position : Position connection session) :
    Goes connection session := by
  have here := handling session.channel session.curChunkSize session.curChunkLeft
  have reads : session.advance =
      some (entered session session.channel session.curChunkSize session.curChunkLeft).load := by
    simp only [LuaHttpSession.advance, pending]
    rfl
  refine .inl ⟨_, reads, ?_⟩
  cases position with
  | inside left behind rest ahead received curChunkLeft =>
    by_cases last : left = []
    · subst last
      rw [load_outside here.chunked curChunkLeft]
      exact here.goes_on (.readChunkSize crlf)
        (.inside [] behind rest ahead received curChunkLeft (.inr (.inr ⟨rfl, rfl⟩)))
    · have filled : 0 < session.curChunkLeft := by
        rw [curChunkLeft]
        exact List.length_pos_iff.mpr last
      rw [load_inside here.chunked filled]
      have notified := notify_inside here last ahead received curChunkLeft
      rw [← curChunkLeft] at notified
      exact notified
  | loading chunk rest ahead size left waits =>
    rw [pending] at waits
    cases waits
  | ended ahead curChunkSize curChunkLeft =>
    rw [load_outside here.chunked curChunkLeft]
    exact here.goes_on (.readChunkSize crlf)
      (.ended ahead curChunkSize curChunkLeft (.inr (.inr rfl)))
  | cut chunk rest ahead arrivals left rests =>
    rw [pending] at rests
    cases rests

/-- Whatever is pending goes on in order, or waits for bytes that have not been
sent. -/
theorem reading_goes (reading : Reading connection session) (pending : session.pending ≠ none)
    (met : connection.ChunkToCome session) : Goes connection session := by
  obtain ⟨reader, _, handling⟩ := reading.handling pending
  cases position : reading.position with
  | inside left behind rest ahead received curChunkLeft waits =>
    rcases waits with none | load | ⟨line, rfl⟩
    · exact absurd none pending
    · exact load_goes handling load reading.position
    · have bytes : behind ++ session.channel.arrivals.flatten = session.channel.bytes := by
        rw [Channel.bytes, received]
        rfl
      rw [bytes, List.append_nil] at ahead
      cases rest with
      | nil => exact zero_line_goes handling line curChunkLeft ahead
      | cons chunk rest => exact chunk_line_goes handling line curChunkLeft ahead
  | loading chunk rest ahead curChunkSize curChunkLeft waits =>
    exact loading_goes handling waits curChunkSize curChunkLeft ahead met
  | ended ahead curChunkSize curChunkLeft waits =>
    rcases waits with none | load | line
    · exact absurd none pending
    · exact load_goes handling load reading.position
    · exact ended_goes handling line curChunkSize curChunkLeft ahead
  | cut chunk rest ahead arrivals curChunkLeft none => exact absurd none pending

/-- The session keeps its place in the body, whatever completes. -/
private theorem reading_advance (before after : LuaHttpSession)
    (reading : Reading connection before) (met : connection.ChunkToCome before)
    (taken : before.advance = some after) : Reading connection after := by
  have pending : before.pending ≠ none := by
    intro none
    simp only [LuaHttpSession.advance, none] at taken
    cases taken
  rcases reading_goes reading pending met with ⟨other, taken', goes⟩ | ⟨rests, _⟩
  · rw [taken] at taken'
    cases taken'
    exact goes
  · rw [taken] at rests
    cases rests

/-! ### What a call begins with -/

/-- A call that is refused changes the reader at most; any other makes the
coroutine yield to a new reader and posts a load. -/
theorem ask_cases (asked : session.ask request = some begun) :
    session.yielded = false ∧
    ((∃ reader, begun = { session with reader }) ∨
      ∃ reader : LuaHttpReader, reader.buff = [] ∧ AtWork reader ∧
        begun = { session with reader := some reader, yielded := true, pending := some .load }) := by
  unfold LuaHttpSession.ask at asked
  split at asked
  · cases asked
  · rename_i rests
    refine ⟨by simpa using rests, ?_⟩
    cases request with
    | read len cond =>
      cases asked
      unfold LuaHttpSession.read
      split
      · exact .inl ⟨session.reader, rfl⟩
      · rename_i some
        split
        · exact .inl ⟨session.reader, rfl⟩
        · split
          · exact .inl ⟨session.reader, rfl⟩
          · refine .inr ⟨_, rfl, ?_, rfl⟩
            split
            · exact ⟨Nat.one_pos, Nat.pos_of_ne_zero some⟩
            · exact ⟨Nat.pos_of_ne_zero some, Nat.le_refl len⟩
    | scanf fields totalSize =>
      cases asked
      unfold LuaHttpSession.scanf
      split
      · exact .inl ⟨session.reader, rfl⟩
      · split
        · exact .inl ⟨_, rfl⟩
        · rename_i some
          refine .inr ⟨_, rfl, ?_, rfl⟩
          exact ⟨Nat.pos_of_ne_zero fun none => some (.inl none), Nat.le_refl totalSize⟩

/-- A chunk that was given up and of which nothing has come is ahead again. -/
private theorem Ahead.again {chunk : Chunk} {rest : List Chunk} {before received : List UInt8}
    (ahead : Ahead connection before (chunk.digits ++ crlf ++ received) (chunk :: rest))
    (drained : connection.sentLength ≤ before.length) :
    received = [] ∧ Ahead connection before [] (chunk :: rest) := by
  have sent := ahead.sent
  have none : sentContent (chunk :: rest) (chunk.digits ++ crlf ++ received).length = 0 := by omega
  refine ⟨sentContent_cut chunk rest received none, ahead.content, List.nil_prefix, ?_,
    ahead.bounded⟩
  rw [sent, none, List.length_nil, sentContent_zero]

/-- A call that is refused leaves the session where it stands. -/
private theorem position_refused (position : Position connection session)
    (rests : session.yielded = false) (reader : Option LuaHttpReader) :
    Position connection { session with reader } := by
  have same : ({ session with reader } : LuaHttpSession).delivered = session.delivered := by
    simp [LuaHttpSession.delivered, rests]
  cases position with
  | inside left behind rest ahead received curChunkLeft pending =>
    exact .inside left behind rest (by rwa [same]) received curChunkLeft pending
  | loading chunk rest ahead curChunkSize curChunkLeft pending =>
    exact .loading chunk rest (by rwa [same]) curChunkSize curChunkLeft pending
  | ended ahead curChunkSize curChunkLeft pending =>
    exact .ended (by rwa [same]) curChunkSize curChunkLeft pending
  | cut chunk rest ahead arrivals curChunkLeft pending gaveUp =>
    exact .cut chunk rest (by rwa [same]) arrivals curChunkLeft pending gaveUp

/-- A new reader starts where the session stands, behind a chunk given up only
if nothing of it has come. -/
private theorem position_begun (position : Position connection session)
    (rests : session.yielded = false) (none : session.pending = none) (reader : LuaHttpReader)
    (fresh : reader.buff = [])
    (ready : ∀ answer, session.answers.getLast? = some answer → answer.completed = false →
      connection.sentLength ≤ session.delivered.length) :
    Position connection
      { session with reader := some reader, yielded := true, pending := some .load } := by
  have same : ({ session with reader := some reader, yielded := true, pending := some .load } :
      LuaHttpSession).delivered = session.delivered := by
    simp [LuaHttpSession.delivered, rests, fresh]
  cases position with
  | inside left behind rest ahead received curChunkLeft =>
    exact .inside left behind rest (by rwa [same]) received curChunkLeft (.inr (.inl rfl))
  | loading chunk rest ahead curChunkSize curChunkLeft pending =>
    rw [none] at pending
    cases pending
  | ended ahead curChunkSize curChunkLeft =>
    exact .ended (by rwa [same]) curChunkSize curChunkLeft (.inr (.inl rfl))
  | cut chunk rest ahead arrivals curChunkLeft pending gaveUp =>
    obtain ⟨answer, last, failed⟩ := gaveUp
    obtain ⟨received, again⟩ := ahead.again (ready answer last failed)
    refine .inside [] [] (chunk :: rest) ?_ received curChunkLeft (.inr (.inl rfl))
    rw [same, List.append_nil, arrivals]
    exact again

private theorem reading_ask (reading : Reading connection session)
    (asked : session.ask request = some begun)
    (ready : ∀ answer, session.answers.getLast? = some answer → answer.completed = false →
      connection.sentLength ≤ session.delivered.length) : Reading connection begun := by
  obtain ⟨rests, ⟨reader, rfl⟩ | ⟨reader, fresh, works, rfl⟩⟩ := ask_cases asked
  · exact {
      connected := reading.connected
      chunked := reading.chunked
      answered := reading.answered
      yields := fun yielded => by rw [rests] at yielded; cases yielded
      rests := reading.rests
      position := position_refused reading.position rests reader }
  · exact {
      connected := reading.connected
      chunked := reading.chunked
      answered := reading.answered
      yields := fun _ => ⟨by simp, reader, rfl, works⟩
      rests := fun rests => by cases rests
      position := position_begun reading.position rests (reading.rests rests) reader fresh ready }

/-! ### Whole runs -/

theorem reading_begins (connection : Connection) : Reading connection connection.session where
  connected := connection.begins.connected
  chunked := connection.begins.chunked
  answered := by
    intro before answer first
    rw [connection.begins.answers, List.prefix_nil] at first
    simp at first
  yields := fun yielded => by rw [connection.begins.yielded] at yielded; cases yielded
  rests := fun _ => connection.begins.pending
  position := by
    have nothing : connection.session.delivered = [] := by
      rw [delivered_at_rest connection.begins.yielded, connection.begins.answers]
      rfl
    refine .inside [] connection.session.channel.received connection.body.chunks ?_ rfl
      connection.begins.curChunkLeft (.inl connection.begins.pending)
    rw [nothing]
    refine ⟨rfl, ?_, (Nat.zero_add _).symm, connection.bounded⟩
    have sent := connection.sent
    rw [Body.encode, List.append_assoc] at sent
    exact sent

/-- A call leaves the session in order and at rest, a reader waiting at most for
bytes that have not been sent. -/
private theorem reading_call (reading : Reading connection session)
    (asked : session.ask request = some begun) (met : connection.LoadsWhole session begun)
    (settles : Runs.Settles LuaHttpSession.advance begun final) :
    Reading connection final ∧ (final.yielded = true → ∀ reader, final.reader = some reader →
      ¬ connection.AllSent final.answers reader) := by
  obtain ⟨ready, whole⟩ := met
  obtain ⟨passes, ended⟩ := settles
  have still : Reading connection final :=
    Runs.passes_invariant (Reading connection) reading_advance (reading_ask reading asked ready)
      whole passes
  refine ⟨still, fun yielded reader held => ?_⟩
  rcases reading_goes still (still.yields yielded).1 (whole final passes) with
    ⟨after, taken, _⟩ | ⟨_, unsent⟩
  · rw [ended] at taken
    cases taken
  · exact unsent reader held

private theorem served_reading (served : Runs.Served LuaHttpSession.advance LuaHttpSession.ask
      connection.LoadsWhole connection.session session) :
    Reading connection session ∧ (session.yielded = true → ∀ reader,
      session.reader = some reader → ¬ connection.AllSent session.answers reader) := by
  induction served with
  | start =>
    refine ⟨reading_begins connection, fun yielded => ?_⟩
    rw [connection.begins.yielded] at yielded
    cases yielded
  | request _ asked met settles ih => exact reading_call ih.1 asked met settles

/-- Where every chunk is still to come when it is loaded, reading by hand comes
to what the body contains. -/
theorem reads_content (connection : Connection) (session : LuaHttpSession)
    (served : Runs.Served LuaHttpSession.advance LuaHttpSession.ask connection.LoadsWhole
      connection.session session) : connection.ReadsContent session := by
  obtain ⟨reading, nothing_waits⟩ := served_reading served
  exact ⟨delivered_first reading.position, reading.answered, nothing_waits,
    fun _ begun _ => every_call_settles begun⟩

/-- A session that Lua can read, with what was received behind the header and
what arrives later. -/
def behindHeader (received : List UInt8) (arrivals : List (List UInt8)) : LuaHttpSession where
  connected := true
  isChunk := true
  curChunkSize := 0
  curChunkLeft := 0
  reader := none
  channel := ⟨received, arrivals, false⟩
  pending := none
  yielded := false
  answers := []

private theorem behindHeader_begins (received : List UInt8) (arrivals : List (List UInt8)) :
    ReadingBegins (behindHeader received arrivals) :=
  ⟨rfl, rfl, rfl, rfl, rfl, rfl, rfl⟩

/-- A read of two bytes makes the coroutine yield. -/
private theorem two_bytes_asked (received : List UInt8) (arrivals : List (List UInt8)) :
    (behindHeader received arrivals).ask (.read 2 eReadCompletionConditon_Exactly) =
      some { behindHeader received arrivals with
        reader := some ⟨.exactlyReader, 2, []⟩, yielded := true, pending := some .load } := rfl

/-- One chunk of two bytes. -/
def twoBytes : Body where
  chunks := [⟨[7, 8], [50], by simp, ChunkedBodyProofs.one_digit_spells rfl rfl⟩]
  digits := [48]
  spelled := ChunkedBodyProofs.zero_spelled

/-- The chunk arrives later than its size line. -/
def arriving : Connection where
  session := behindHeader [] [[50, 13, 10], [7, 8, 13, 10, 48, 13, 10]]
  body := twoBytes
  begins := behindHeader_begins _ _
  bounded := by simp [twoBytes]
  sent := ⟨[13, 10], rfl⟩

private theorem arriving_loads_whole : ∀ begun,
    arriving.session.ask (.read 2 eReadCompletionConditon_Exactly) = some begun →
      arriving.LoadsWhole arriving.session begun := by
  intro begun asked
  cases asked
  refine ⟨fun _ last => (by cases last), ?_⟩
  refine Runs.all_passed_of_step rfl (fun _ pending => by cases pending) ?_
  refine Runs.all_passed_of_step rfl (fun _ pending => by cases pending) ?_
  refine Runs.all_passed_of_step rfl (fun _ pending => by cases pending; decide) ?_
  exact Runs.all_passed_at_rest rfl (fun _ pending => by cases pending)

theorem reads_content_arriving :
    arriving.ReadsContent { behindHeader [] [[48, 13, 10]] with
      curChunkSize := 2
      reader := some ⟨.exactlyReader, 2, [7, 8]⟩
      answers := [⟨⟨.exactlyReader, 2, [7, 8]⟩, true⟩] } :=
  reads_content arriving _ (.request .start (two_bytes_asked _ _) (arriving_loads_whole _ rfl)
    (Runs.settles_step rfl (Runs.settles_step rfl (Runs.settles_step rfl ⟨.refl, rfl⟩))))

/-- The whole body has been received with the header. -/
def buffered : Connection where
  session := behindHeader [50, 13, 10, 7, 8, 13, 10, 48, 13, 10] []
  body := twoBytes
  begins := behindHeader_begins _ _
  bounded := by simp [twoBytes]
  sent := ⟨[13, 10], rfl⟩

/-- A read of its two bytes waits for four more. -/
def waiting : LuaHttpSession :=
  { behindHeader [7, 8, 13, 10, 48, 13, 10] [] with
    curChunkSize := 2
    reader := some ⟨.exactlyReader, 2, []⟩
    pending := some (.loadChunkBody 4)
    yielded := true }

theorem buffered_chunk_not_read : ¬ ∀ session,
    Runs.Served LuaHttpSession.advance LuaHttpSession.ask (fun _ _ => True) buffered.session
      session → buffered.ReadsContent session := by
  intro reads
  have content := reads waiting (.request .start (two_bytes_asked _ _) trivial
    (Runs.settles_step rfl (Runs.settles_step rfl ⟨.refl, rfl⟩)))
  exact content.nothing_waits rfl _ rfl (by decide)

end BeeSdk.ManualBodyProofs
