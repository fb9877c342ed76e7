import BeeSdk.HttpBody

/-! What the body state makes of the bytes it gets where the line with the size
of a chunk is expected. The extraction that reads the size reports no failure:
what it stores then, zero or the largest number, is taken for a size, and zero is
the size of the last chunk. -/
namespace BeeSdk.ChunkSizeLine
open IStream StateMachine HttpBody

/-- The hexadecimal number the bytes start with, if it fits 32 bits. -/
def number (bytes : List UInt8) : Option Nat :=
  let digits := bytes.takeWhile isHexDigit
  if digits = [] ∨ 2 ^ 32 ≤ hexValue digits then none else some (hexValue digits)

/-- The bytes behind the first line feed. -/
def behindLine (bytes : List UInt8) : List UInt8 := skipLine true bytes

/-- Nothing is called but `done`, with an error. -/
def EndsWithError (outcome : Outcome) (ec2 : ErrorCode) : Prop :=
  ∃ ec1, ec1 ≠ .success ∧ ec1 ≠ .eof ∧ outcome.commands = [.done ec1 ec2]

/-- How the operations that wait for the body of a chunk may complete, with the
bytes that have arrived meanwhile. -/
inductive Completes : Command → List UInt8 → ErrorCode → Prop where
  | posted : Completes .postChunkBody [] .none
  | read (enough : ec2 = .none → atLeast ≤ arrived.length) :
      Completes (.readChunkBody atLeast) arrived ec2

/-- The call has put a chunk into `content_buff_` or handed it to `output`. -/
def Delivers (before : HttpRcvBodyState) (outcome : Outcome) : Prop :=
  outcome.state.contentBuff ≠ before.contentBuff ∨ ∃ event, .output event ∈ outcome.commands

/-- The state, the stream buffer and an operation that waits for the body of the
chunk whose size line has been handled, whatever was received so far. -/
inductive Awaits (line : Outcome) : HttpRcvBodyState → List UInt8 → Command → Prop where
  | line (asked : command ∈ line.commands) :
      Awaits line line.state line.rcvStreambuf command
  | again (awaits : Awaits line body buffered command) (completes : Completes command arrived ec2)
      (fsm : HttpStateMachine) (received : fsm.rcvStreambuf = buffered ++ arrived)
      (kept : ¬ Delivers body (body.handleReadChunkBody fsm ec2))
      (asked : command' ∈ (body.handleReadChunkBody fsm ec2).commands) :
      Awaits line (body.handleReadChunkBody fsm ec2).state
        (body.handleReadChunkBody fsm ec2).rcvStreambuf command'

/-- Whatever completes behind the size line, the chunk is delivered only when its
bytes and its line end are in the stream buffer. -/
def DeliversWhole (line : Outcome) (size : Nat) : Prop :=
  ∀ body buffered command arrived ec2 fsm, Awaits line body buffered command →
    Completes command arrived ec2 → fsm.rcvStreambuf = buffered ++ arrived →
    Delivers body (body.handleReadChunkBody fsm ec2) → size + 2 ≤ fsm.rcvStreambuf.length

/-- The bytes end the request with an error, or they start with a number that fits,
it is the size of the chunk, and the chunk is delivered whole. -/
def TakesLine (body : HttpRcvBodyState) (fsm : HttpStateMachine) (ec2 : ErrorCode) : Prop :=
  let line := body.handleReadChunkSize fsm ec2
  EndsWithError line ec2 ∨
    ∃ size, number fsm.rcvStreambuf = some size ∧ line.state.lastChunkSize.toNat = size ∧
      (0 < size → DeliversWhole line size)

/-! ### What is extracted -/

theorem number_some (found : number bytes = some size) :
    bytes.takeWhile isHexDigit ≠ [] ∧ hexValue (bytes.takeWhile isHexDigit) = size ∧
      size < 2 ^ 32 := by
  simp only [number] at found
  split at found
  · cases found
  · rename_i fits
    cases found
    exact ⟨fun none => fits (.inl none), rfl, by omega⟩

/-- Bytes with a number start with a digit. -/
theorem number_digit (found : number bytes = some size) :
    ∃ digit rest, bytes = digit :: rest ∧ isHexDigit digit = true := by
  obtain ⟨some_digit, _, _⟩ := number_some found
  cases bytes with
  | nil => exact absurd rfl some_digit
  | cons digit rest =>
    refine ⟨digit, rest, rfl, ?_⟩
    by_cases hex : isHexDigit digit = true
    · exact hex
    · rw [List.takeWhile_cons_of_neg hex] at some_digit
      exact absurd rfl some_digit

theorem extracted_number (found : number bytes = some size) (plain : skipBase bytes = bytes)
    (previous : Nat) :
    extractHex 32 previous bytes = ⟨size, true, bytes.dropWhile isHexDigit⟩ := by
  obtain ⟨some_digit, value, fits⟩ := number_some found
  obtain ⟨digit, rest, rfl, hex⟩ := number_digit found
  rw [extractHex_at_digit hex]
  simp only [plain, value]
  rw [if_neg some_digit, if_neg (by omega)]

/-- Behind an `0x` the number the bytes start with is its zero. -/
theorem number_of_base (found : number bytes = some size) (based : skipBase bytes ≠ bytes) :
    size = 0 := by
  obtain ⟨_, value, _⟩ := number_some found
  rw [← value]
  unfold skipBase at based
  split at based
  · rfl
  · rfl
  · exact absurd rfl based

/-- Behind an `0x` the size is the number that follows. -/
theorem extracted_behind_base (found : number bytes = some size) (previous : Nat) :
    (extractHex 32 previous bytes).value = 0 ↔
      hexValue ((skipBase bytes).takeWhile isHexDigit) = 0 := by
  obtain ⟨digit, rest, rfl, hex⟩ := number_digit found
  rw [extractHex_at_digit hex]
  dsimp only
  split
  · rename_i no_digit
    rw [no_digit]
    exact ⟨fun _ => rfl, fun _ => rfl⟩
  · split
    · rename_i large
      constructor
      · intro zero
        cases zero
      · intro zero
        rw [zero] at large
        exact absurd large (by decide)
    · exact Iff.rfl

theorem extractHex_bounded (previous : UInt32) (bytes : List UInt8) :
    (extractHex 32 previous.toNat bytes).value < 2 ^ 32 := by
  rw [extractHex]
  split
  · exact previous.toNat_lt
  · dsimp only
    split
    · exact Nat.two_pow_pos 32
    · split
      · exact Nat.sub_lt (Nat.two_pow_pos 32) Nat.one_pos
      · dsimp only
        split
        · exact Nat.mod_lt _ (by decide)
        · omega

theorem behindLine_digits (bytes : List UInt8) :
    skipLine true (bytes.dropWhile isHexDigit) = behindLine bytes := by
  induction bytes with
  | nil => rfl
  | cons byte rest ih =>
    by_cases hex : isHexDigit byte = true
    · have inside : (byte ≠ newline) := by
        rintro rfl
        exact absurd hex (by decide)
      rw [List.dropWhile_cons_of_pos hex, ih]
      simp [behindLine, skipLine, inside]
    · rw [List.dropWhile_cons_of_neg hex]
      rfl

/-! ### What the handlers do -/

/-- A line that is read at all is taken for the size its extraction leaves. -/
theorem line_outcome (body : HttpRcvBodyState) {fsm : HttpStateMachine} {ec2 : ErrorCode}
    (taken : ¬ (ec2.isError ∧ ec2 ≠ .eof)) (connected : fsm.connected = true)
    (long : 2 < fsm.rcvStreambuf.length) :
    body.handleReadChunkSize fsm ec2 =
      let size := extractHex 32 body.lastChunkSize.toNat fsm.rcvStreambuf
      let left := { fsm with rcvStreambuf := skipLine size.good size.rest }
      let state := { body with lastChunkSize := UInt32.ofNat size.value }
      if state.lastChunkSize > 0 then state.readChunkBody left
      else state.reportCacheContent left .success ec2 := by
  rw [HttpRcvBodyState.handleReadChunkSize, if_neg taken, if_neg (by simp [connected]),
    if_neg (by omega)]
  dsimp only
  split
  · simp only [HttpRcvBodyState.readChunkBody, connected]
    split
    · contradiction
    · split <;> rfl
  · rfl

/-- A line that is not read ends with an error. -/
theorem line_refused (body : HttpRcvBodyState) {fsm : HttpStateMachine} {ec2 : ErrorCode}
    (refused : (ec2.isError ∧ ec2 ≠ .eof) ∨ fsm.connected = false ∨ fsm.rcvStreambuf.length ≤ 2) :
    EndsWithError (body.handleReadChunkSize fsm ec2) ec2 := by
  rw [HttpRcvBodyState.handleReadChunkSize]
  by_cases failed : ec2.isError ∧ ec2 ≠ .eof
  · rw [if_pos failed]
    exact ⟨.readHttpChunkSizeFail, by simp, by simp, rfl⟩
  · rw [if_neg failed]
    by_cases connected : fsm.connected = true
    · have short : fsm.rcvStreambuf.length ≤ 2 := by simpa [failed, connected] using refused
      rw [if_neg (by simp [connected]), if_pos short]
      exact ⟨.errorData, by simp, by simp, rfl⟩
    · rw [if_pos connected]
      exact ⟨.notConnected, by simp, by simp, rfl⟩

/-- A line that is read never ends with an error. -/
theorem line_accepted (body : HttpRcvBodyState) {fsm : HttpStateMachine} {ec2 : ErrorCode}
    (taken : ¬ (ec2.isError ∧ ec2 ≠ .eof)) (connected : fsm.connected = true)
    (long : 2 < fsm.rcvStreambuf.length) :
    ¬ EndsWithError (body.handleReadChunkSize fsm ec2) ec2 := by
  rintro ⟨ec1, failed, _, ended⟩
  rw [line_outcome body taken connected long] at ended
  dsimp only at ended
  split at ended
  · simp only [HttpRcvBodyState.readChunkBody, connected] at ended
    split at ended
    · contradiction
    · split at ended <;> cases ended
  · cases ended
    exact failed rfl

/-- The size a line that is read is taken for. -/
theorem line_size (body : HttpRcvBodyState) {fsm : HttpStateMachine} {ec2 : ErrorCode}
    (taken : ¬ (ec2.isError ∧ ec2 ≠ .eof)) (connected : fsm.connected = true)
    (long : 2 < fsm.rcvStreambuf.length) :
    (body.handleReadChunkSize fsm ec2).state.lastChunkSize.toNat =
      (extractHex 32 body.lastChunkSize.toNat fsm.rcvStreambuf).value := by
  have same : (body.handleReadChunkSize fsm ec2).state.lastChunkSize =
      UInt32.ofNat (extractHex 32 body.lastChunkSize.toNat fsm.rcvStreambuf).value := by
    rw [line_outcome body taken connected long]
    dsimp only
    split
    · simp only [HttpRcvBodyState.readChunkBody]
      split
      · rfl
      · split <;> rfl
    · rfl
  rw [same, UInt32.toNat_ofNat', Nat.mod_eq_of_lt (extractHex_bounded _ _)]

theorem delivers_enough {body : HttpRcvBodyState} {fsm : HttpStateMachine} {ec2 : ErrorCode}
    (delivers : Delivers body (body.handleReadChunkBody fsm ec2)) :
    (body.lastChunkSize + 2).toNat ≤ fsm.rcvStreambuf.length := by
  apply Classical.byContradiction
  intro missing
  have kept : (body.handleReadChunkBody fsm ec2).state.contentBuff = body.contentBuff ∧
      ∀ event, .output event ∉ (body.handleReadChunkBody fsm ec2).commands := by
    rw [HttpRcvBodyState.handleReadChunkBody, if_neg missing]
    grind [Outcome.finish, HttpRcvBodyState.stopped, HttpRcvBodyState.reportCacheContent,
      HttpRcvBodyState.readChunkBody]
  rcases delivers with changed | ⟨event, output⟩
  · exact changed kept.1
  · exact kept.2 event output

theorem delivers_of_enough (body : HttpRcvBodyState) (fsm : HttpStateMachine) (ec2 : ErrorCode)
    (taken : ¬ (ec2.isError ∧ ec2 ≠ .eof)) (connected : fsm.connected = true)
    (positive : 0 < body.lastChunkSize.toNat)
    (enough : (body.lastChunkSize + 2).toNat ≤ fsm.rcvStreambuf.length) :
    Delivers body (body.handleReadChunkBody fsm ec2) := by
  rw [HttpRcvBodyState.handleReadChunkBody, if_neg taken, if_neg (by simp [connected]),
    if_pos enough]
  have some : (readBytes body.lastChunkSize.toNat fsm.rcvStreambuf).1 ≠ [] := by
    intro none
    have length := congrArg List.length none
    simp only [readBytes, List.length_append, List.length_take, List.length_replicate,
      List.length_nil] at length
    omega
  dsimp only
  split
  · apply Or.inl
    simp only [HttpRcvBodyState.readChunk, HttpRcvBodyState.readChunkSize, connected]
    simpa [Outcome.finish] using some
  · apply Or.inr
    refine ⟨{ body.outputEvent with data := (readBytes body.lastChunkSize.toNat fsm.rcvStreambuf).1 }, ?_⟩
    simp [HttpRcvBodyState.readChunk, HttpRcvBodyState.readChunkSize, connected, Outcome.finish]

/-- A call that delivers nothing keeps the size and the buffer. -/
theorem undelivered_kept {body : HttpRcvBodyState} {fsm : HttpStateMachine} {ec2 : ErrorCode}
    (positive : 0 < body.lastChunkSize.toNat)
    (kept : ¬ Delivers body (body.handleReadChunkBody fsm ec2)) :
    (body.handleReadChunkBody fsm ec2).state.lastChunkSize = body.lastChunkSize ∧
      (body.handleReadChunkBody fsm ec2).rcvStreambuf = fsm.rcvStreambuf := by
  by_cases reads : ¬ (ec2.isError ∧ ec2 ≠ .eof) ∧ fsm.connected = true ∧
      (body.lastChunkSize + 2).toNat ≤ fsm.rcvStreambuf.length
  · exact absurd (delivers_of_enough body fsm ec2 reads.1 reads.2.1 positive reads.2.2) kept
  · rw [HttpRcvBodyState.handleReadChunkBody]
    grind [Outcome.finish, HttpRcvBodyState.stopped, HttpRcvBodyState.reportCacheContent,
      HttpRcvBodyState.readChunkBody]

/-- While the chunk is waited for, its size stays and the buffer only grows. -/
theorem awaits_kept {line : Outcome} (positive : 0 < line.state.lastChunkSize.toNat)
    (awaits : Awaits line body buffered command) :
    body.lastChunkSize = line.state.lastChunkSize ∧
      line.rcvStreambuf.length ≤ buffered.length := by
  induction awaits with
  | line asked => exact ⟨rfl, Nat.le_refl _⟩
  | again awaits completes fsm received kept asked ih =>
    obtain ⟨size, grown⟩ := ih
    obtain ⟨same, buffer⟩ := undelivered_kept (size ▸ positive) kept
    refine ⟨same.trans size, ?_⟩
    rw [buffer, received, List.length_append]
    omega

private theorem sum_without_wrap {size : UInt32} (bounded : size.toNat + 2 < 2 ^ 32) :
    (size + 2).toNat = size.toNat + 2 := by
  rw [UInt32.toNat_add]
  exact Nat.mod_eq_of_lt bounded

private theorem sum_wrapped (size : UInt32) (wraps : 2 ^ 32 ≤ size.toNat + 2) :
    (size + 2).toNat = size.toNat + 2 - 2 ^ 32 := by
  have := size.toNat_lt
  rw [UInt32.toNat_add]
  simp
  omega

/-- A chunk is delivered whole when the sum does not wrap, or when all of it is in
the buffer when its size line is handled, and only then. -/
theorem delivers_whole_iff (body : HttpRcvBodyState) (fsm : HttpStateMachine)
    (connected : fsm.connected = true) (positive : 0 < body.lastChunkSize.toNat) :
    DeliversWhole (body.readChunkBody fsm) body.lastChunkSize.toNat ↔
      body.lastChunkSize.toNat + 2 < 2 ^ 32 ∨
        body.lastChunkSize.toNat + 2 ≤ fsm.rcvStreambuf.length := by
  have line : (body.readChunkBody fsm).state = body ∧
      (body.readChunkBody fsm).rcvStreambuf = fsm.rcvStreambuf := by
    grind [HttpRcvBodyState.readChunkBody, HttpRcvBodyState.stopped]
  constructor
  · intro whole
    apply Classical.byContradiction
    intro missed
    have sum := sum_wrapped body.lastChunkSize (by omega)
    have bound := body.lastChunkSize.toNat_lt
    by_cases ready : (body.lastChunkSize + 2).toNat ≤ fsm.rcvStreambuf.length
    · -- What lies behind the line is taken for the whole chunk at once.
      have asked : Command.postChunkBody ∈ (body.readChunkBody fsm).commands := by
        rw [HttpRcvBodyState.readChunkBody, if_neg (by simp [connected]), if_pos ready]
        exact List.mem_singleton.mpr rfl
      have awaits := Awaits.line asked
      rw [line.1, line.2] at awaits
      have delivers := delivers_of_enough body fsm .none (by simp [ErrorCode.isError])
        connected positive ready
      have long := whole _ _ _ _ _ fsm awaits .posted (List.append_nil _).symm delivers
      omega
    · -- One byte and the end of the stream are enough.
      have asked : Command.readChunkBody (body.lastChunkSize.toNat + 2 - fsm.rcvStreambuf.length) ∈
          (body.readChunkBody fsm).commands := by
        rw [HttpRcvBodyState.readChunkBody, if_neg (by simp [connected]), if_neg ready]
        exact List.mem_singleton.mpr rfl
      have awaits := Awaits.line asked
      rw [line.1, line.2] at awaits
      have empty : fsm.rcvStreambuf = [] := by
        apply List.eq_nil_of_length_eq_zero
        omega
      have delivers := delivers_of_enough body { fsm with rcvStreambuf := [newline] } .eof
        (by simp) connected positive (by simp; omega)
      have long := whole _ _ _ [newline] .eof { fsm with rcvStreambuf := [newline] } awaits
        (.read (by simp)) (by rw [empty]; rfl) delivers
      simp only [List.length_cons, List.length_nil] at long
      omega
  · rintro enough current buffered command arrived ec2 now awaits completes received delivers
    rw [← line.1] at positive
    obtain ⟨size, grown⟩ := awaits_kept positive awaits
    have needed := delivers_enough delivers
    rw [size, line.1] at needed
    rw [line.2] at grown
    have length : now.rcvStreambuf.length = buffered.length + arrived.length := by
      rw [received, List.length_append]
    rcases enough with bounded | ready
    · rwa [sum_without_wrap bounded] at needed
    · omega

/-! ### The whole line -/

/-- The size is the number the bytes start with unless they start with `0x` and
a number other than zero behind it. -/
theorem extracted_size_iff (found : number bytes = some size) (previous : Nat) :
    (extractHex 32 previous bytes).value = size ↔
      skipBase bytes = bytes ∨ hexValue ((skipBase bytes).takeWhile isHexDigit) = 0 := by
  by_cases plain : skipBase bytes = bytes
  · rw [extracted_number found plain]
    exact ⟨fun _ => .inl plain, fun _ => rfl⟩
  · rw [number_of_base found plain, extracted_behind_base found]
    exact ⟨.inr, fun zero => zero.resolve_left plain⟩

/-- A number other than zero that is read is followed by what lies behind its line. -/
theorem line_asks (body : HttpRcvBodyState) {fsm : HttpStateMachine} {ec2 : ErrorCode}
    (taken : ¬ (ec2.isError ∧ ec2 ≠ .eof)) (connected : fsm.connected = true)
    (long : 2 < fsm.rcvStreambuf.length) (found : number fsm.rcvStreambuf = some size)
    (positive : 0 < size) (plain : skipBase fsm.rcvStreambuf = fsm.rcvStreambuf) :
    body.handleReadChunkSize fsm ec2 =
      { body with lastChunkSize := UInt32.ofNat size }.readChunkBody
        { fsm with rcvStreambuf := behindLine fsm.rcvStreambuf } := by
  obtain ⟨_, _, fits⟩ := number_some found
  have some : UInt32.ofNat size > 0 := by
    rw [gt_iff_lt, UInt32.lt_iff_toNat_lt, UInt32.toNat_ofNat', Nat.mod_eq_of_lt fits]
    exact positive
  rw [line_outcome body taken connected long, extracted_number found plain]
  dsimp only
  rw [if_pos some, behindLine_digits]

/-- What the bytes must be for the line to be taken: they are refused, or they start
with a number that fits, which is not the zero of an `0x` before another number, and
the chunk and its line end fit 32 bits or are there already. -/
def Proper (fsm : HttpStateMachine) (ec2 : ErrorCode) : Prop :=
  (ec2.isError ∧ ec2 ≠ .eof) ∨ fsm.connected = false ∨ fsm.rcvStreambuf.length ≤ 2 ∨
    ∃ size, number fsm.rcvStreambuf = some size ∧
      (skipBase fsm.rcvStreambuf = fsm.rcvStreambuf ∨
        hexValue ((skipBase fsm.rcvStreambuf).takeWhile isHexDigit) = 0) ∧
      (size = 0 ∨ size + 2 < 2 ^ 32 ∨ size + 2 ≤ (behindLine fsm.rcvStreambuf).length)

/-- The bytes received for a size line are taken as they should be exactly when
they are proper. -/
theorem takes_line_iff (body : HttpRcvBodyState) (fsm : HttpStateMachine) (ec2 : ErrorCode) :
    TakesLine body fsm ec2 ↔ Proper fsm ec2 := by
  by_cases refused : (ec2.isError ∧ ec2 ≠ .eof) ∨ fsm.connected = false ∨
      fsm.rcvStreambuf.length ≤ 2
  · constructor
    · intro _
      rcases refused with failed | closed | short
      · exact .inl failed
      · exact .inr (.inl closed)
      · exact .inr (.inr (.inl short))
    · intro _
      exact .inl (line_refused body refused)
  · rw [not_or, not_or] at refused
    obtain ⟨taken, closed, short⟩ := refused
    have connected : fsm.connected = true := by simpa using closed
    have long : 2 < fsm.rcvStreambuf.length := by omega
    have whole : ∀ size, number fsm.rcvStreambuf = some size →
        ((0 < size → DeliversWhole (body.handleReadChunkSize fsm ec2) size) ↔
          (size = 0 ∨ size + 2 < 2 ^ 32 ∨ size + 2 ≤ (behindLine fsm.rcvStreambuf).length)) := by
      intro size found
      have number_size : (UInt32.ofNat size).toNat = size := by
        rw [UInt32.toNat_ofNat', Nat.mod_eq_of_lt (number_some found).2.2]
      by_cases positive : 0 < size
      · have plain : skipBase fsm.rcvStreambuf = fsm.rcvStreambuf := by
          apply Classical.byContradiction
          intro based
          have zero := number_of_base found based
          omega
        have asks := line_asks body taken connected long found positive plain
        have exact_whole := delivers_whole_iff
          { body with lastChunkSize := UInt32.ofNat size }
          { fsm with rcvStreambuf := behindLine fsm.rcvStreambuf } connected
          (by rw [number_size]; exact positive)
        dsimp only at exact_whole
        rw [number_size] at exact_whole
        rw [asks, exact_whole]
        constructor
        · intro delivered
          exact .inr (delivered positive)
        · rintro (zero | enough) _
          · omega
          · exact enough
      · exact ⟨fun _ => .inl (by omega), fun _ some => absurd some positive⟩
    constructor
    · rintro (ended | ⟨size, found, same, delivered⟩)
      · exact absurd ended (line_accepted body taken connected long)
      · rw [line_size body taken connected long] at same
        exact .inr (.inr (.inr ⟨size, found, (extracted_size_iff found _).mp same,
          (whole size found).mp delivered⟩))
    · rintro (failed | closed' | short' | ⟨size, found, plain, enough⟩)
      · exact absurd failed taken
      · exact absurd closed' closed
      · exact absurd short' short
      · have same := (extracted_size_iff found body.lastChunkSize.toNat).mpr plain
        refine .inr ⟨size, found, ?_, (whole size found).mpr enough⟩
        rw [line_size body taken connected long]
        exact same

def withoutNumber : HttpStateMachine := ⟨true, none, [120, 121, 122] ++ crlf⟩

/-- `xyz` where the size is expected: the request is done without an error. -/
theorem no_number_taken :
    (({} : HttpRcvBodyState).handleReadChunkSize withoutNumber .none).commands =
      [.done .success .none] ∧ ¬ TakesLine {} withoutNumber .none := by
  have done : (({} : HttpRcvBodyState).handleReadChunkSize withoutNumber .none).commands =
      [.done .success .none] := rfl
  refine ⟨done, ?_⟩
  rintro (⟨ec1, failed, _, ended⟩ | ⟨size, found, _⟩)
  · rw [done] at ended
    cases ended
    exact failed rfl
  · cases found

end BeeSdk.ChunkSizeLine
