import BeeSdk.HttpBody

/-! What a call on the body state comes to, by the calls it makes on its machine:
at most one read is started and at most one `done` made, never both. -/
namespace BeeSdk.BodyCalls
open StateMachine HttpBody

/-- A call that starts a read, or posts the one that need not wait. -/
inductive Reads : Command → Prop where
  | chunkSizeLine : Reads (.readChunkSizeLine delim)
  | chunkBody : Reads (.readChunkBody atLeast)
  | posted : Reads .postChunkBody
  | content : Reads (.readContent atLeast needLen)

/-- What `execute` comes to: it fails, it reads, or the whole body was there. -/
inductive Starts (outcome : Outcome) : Prop where
  | fails (code : outcome.code ≠ .success) (calls : outcome.commands = [])
  | reads (code : outcome.code = .success) (read : Reads command)
      (calls : outcome.commands = [command])
  | sets (code : outcome.code = .success) (setup : outcome.state.outputEvent.setup = true)
      (calls : outcome.commands = [.doneSetUp])

/-- What a handler comes to: it reads on or it finishes, and it is `silent` when
it finishes with `Success` and an output event that is not set up. -/
inductive Calls (silent : Prop) (outcome : Outcome) : Prop where
  | reads (never : ¬ silent) (read : Reads command) (calls : outcome.commands = [command])
  | streams (never : ¬ silent) (read : Reads command)
      (calls : outcome.commands = [.output event, command])
  | ends (silence : silent ↔ ec1 = .success ∧ outcome.state.outputEvent.setup = false)
      (calls : outcome.commands = [.done ec1 ec2])

variable (state : HttpRcvBodyState) (fsm : HttpStateMachine)

/-! ### Handlers -/

theorem finish_fails {silent : Prop} {code : BeeErrorCode} (never : ¬ silent) (ec2 : ErrorCode)
    (fails : code ≠ .success) (noted : code ≠ .eof) :
    Calls silent ((state.stopped fsm code).finish ec2) := by
  unfold Outcome.finish HttpRcvBodyState.stopped
  rw [if_pos ⟨fails, noted⟩]
  exact .ends ⟨fun silent => absurd silent never, fun success => absurd success.1 fails⟩ rfl

theorem finish_ends {outcome : Outcome} (ec2 : ErrorCode)
    (fine : outcome.code = .success ∨ outcome.code = .eof) : outcome.finish ec2 = outcome := by
  unfold Outcome.finish
  rw [if_neg]
  rintro ⟨fails, noted⟩
  exact fine.elim fails noted

theorem readChunkSize_reads (connected : fsm.connected = true) :
    state.readChunkSize fsm = ⟨.success, state, fsm.rcvStreambuf, [.readChunkSizeLine IStream.crlf]⟩ := by
  unfold HttpRcvBodyState.readChunkSize
  rw [if_neg (fun closed => closed connected)]

theorem readChunkBody_reads (connected : fsm.connected = true) :
    ∃ command, Reads command ∧
      state.readChunkBody fsm = ⟨.success, state, fsm.rcvStreambuf, [command]⟩ := by
  unfold HttpRcvBodyState.readChunkBody
  rw [if_neg (fun closed => closed connected)]
  split
  · exact ⟨_, .posted, rfl⟩
  · exact ⟨_, .chunkBody, rfl⟩

/-- What was cached is reported: silently when nothing was and none is set up. -/
theorem reportCacheContent_ends (ec1 : BeeErrorCode) (ec2 : ErrorCode) :
    Calls (ec1 = .success ∧ state.contentBuff = [] ∧ state.outputEvent.setup = false)
      (state.reportCacheContent fsm ec1 ec2) := by
  unfold HttpRcvBodyState.reportCacheContent
  by_cases empty : state.contentBuff = []
  · refine .ends ?_ rfl
    simp [empty]
  · refine .ends ?_ rfl
    simp [empty]

/-- The size line of a chunk ends the body silently when it is read, spells
zero, and nothing has been cached or set up. -/
structure EndsEmpty (ec2 : ErrorCode) : Prop where
  read : ec2.isError = false ∨ ec2 = .eof
  connected : fsm.connected = true
  line : 2 < fsm.rcvStreambuf.length
  zero : UInt32.ofNat
    (IStream.extractHex 32 state.lastChunkSize.toNat fsm.rcvStreambuf).value = 0
  empty : state.contentBuff = []
  unset : state.outputEvent.setup = false

private theorem read_iff (ec2 : ErrorCode) :
    ¬ (ec2.isError = true ∧ ec2 ≠ .eof) ↔ ec2.isError = false ∨ ec2 = .eof := by
  cases ec2 <;> simp [ErrorCode.isError]

private theorem fine_iff (ec2 : ErrorCode) : ec2.isError = false ↔ ec2 = .none := by
  cases ec2 <;> simp [ErrorCode.isError]

theorem Calls.of_iff {silent silent' : Prop} {outcome : Outcome} (same : silent ↔ silent')
    (calls : Calls silent outcome) : Calls silent' outcome :=
  propext same ▸ calls

theorem handleReadChunkSize_calls (ec2 : ErrorCode) :
    Calls (EndsEmpty state fsm ec2) (state.handleReadChunkSize fsm ec2) := by
  unfold HttpRcvBodyState.handleReadChunkSize
  by_cases error : ec2.isError = true ∧ ec2 ≠ .eof
  · rw [if_pos error]
    exact finish_fails _ _ (fun ends => (read_iff ec2).mpr ends.read error) ec2 (by simp) (by simp)
  rw [if_neg error]
  by_cases connected : fsm.connected = true
  · rw [if_neg (fun closed => closed connected)]
    by_cases short : fsm.rcvStreambuf.length ≤ 2
    · rw [if_pos short]
      exact finish_fails _ _ (fun ends => Nat.not_lt.mpr short ends.line) ec2 (by simp) (by simp)
    rw [if_neg short]
    simp only
    generalize spelled : IStream.extractHex 32 state.lastChunkSize.toNat fsm.rcvStreambuf = size
    by_cases zero : UInt32.ofNat size.value = 0
    · rw [if_neg (by rw [zero]; decide), finish_ends ec2 (.inl rfl)]
      refine Calls.of_iff ⟨?_, ?_⟩ (reportCacheContent_ends _ _ _ _)
      · rintro ⟨_, empty, unset⟩
        exact ⟨(read_iff ec2).mp error, connected, Nat.not_le.mp short, spelled ▸ zero, empty, unset⟩
      · intro ends
        exact ⟨rfl, ends.empty, ends.unset⟩
    · have some : UInt32.ofNat size.value > 0 := UInt32.pos_iff_ne_zero.mpr zero
      rw [if_pos some]
      obtain ⟨command, reads, outcome⟩ := readChunkBody_reads
        { state with lastChunkSize := UInt32.ofNat size.value }
        { fsm with rcvStreambuf := IStream.skipLine size.good size.rest } connected
      rw [outcome, finish_ends ec2 (.inl rfl)]
      exact .reads (fun ends => zero (spelled ▸ ends.zero)) reads rfl
  · rw [if_pos connected]
    exact finish_fails _ _ (fun ends => connected ends.connected) ec2 (by simp) (by simp)

theorem handleReadChunkBody_calls (ec2 : ErrorCode) :
    Calls False (state.handleReadChunkBody fsm ec2) := by
  unfold HttpRcvBodyState.handleReadChunkBody
  by_cases error : ec2.isError = true ∧ ec2 ≠ .eof
  · rw [if_pos error]
    exact finish_fails _ _ id ec2 (by simp) (by simp)
  rw [if_neg error]
  by_cases connected : fsm.connected = true
  · rw [if_neg (fun closed => closed connected)]
    by_cases whole : fsm.rcvStreambuf.length ≥ (state.lastChunkSize + 2).toNat
    · rw [if_pos whole]
      simp only
      split
      · unfold HttpRcvBodyState.readChunk
        rw [readChunkSize_reads, finish_ends ec2 (.inl rfl)]
        · exact .reads id .chunkSizeLine rfl
        · exact connected
      · unfold HttpRcvBodyState.readChunk
        rw [readChunkSize_reads, finish_ends ec2 (.inl rfl)]
        · exact .streams id .chunkSizeLine rfl
        · exact connected
    rw [if_neg whole]
    by_cases ended : ec2 = .eof
    · rw [if_pos ended, finish_ends ec2 (.inr rfl)]
      exact Calls.of_iff (by simp) (reportCacheContent_ends _ _ _ _)
    · obtain ⟨command, reads, outcome⟩ := readChunkBody_reads state fsm connected
      rw [if_neg ended, outcome, finish_ends ec2 (.inl rfl)]
      exact .reads id reads rfl
  · rw [if_pos connected]
    exact finish_fails _ _ id ec2 (by simp) (by simp)

/-- A content read that completes without an error and with nothing to take ends
the body silently when nothing is set up. -/
structure EndsUnread (ec2 : ErrorCode) (needLen : Nat) : Prop where
  connected : fsm.connected = true
  read : ec2 = .none
  nothing : min fsm.rcvStreambuf.length needLen = 0
  within : state.contentOffset ≤ state.contentLength
  unset : state.outputEvent.setup = false

private theorem readBytes_empty (count : Nat) (bytes : List UInt8) :
    (IStream.readBytes count bytes).1 = [] ↔ count = 0 := by
  constructor
  · intro empty
    have length := congrArg List.length empty
    simp only [IStream.readBytes, List.length_append, List.length_take, List.length_replicate,
      List.length_nil] at length
    omega
  · rintro rfl
    simp [IStream.readBytes]

theorem handleReadContent_calls (ec2 : ErrorCode) (needLen : Nat) :
    Calls (EndsUnread state fsm ec2 needLen) (state.handleReadContent fsm ec2 needLen) := by
  unfold HttpRcvBodyState.handleReadContent
  by_cases connected : fsm.connected = true
  · rw [if_neg (fun closed => closed connected)]
    by_cases error : ec2.isError = true ∧ ec2 ≠ .eof
    · rw [if_pos error]
      refine finish_fails _ _ (fun ends => ?_) ec2 (by simp) (by simp)
      rw [ends.read] at error
      cases error.1
    rw [if_neg error]
    simp only
    generalize code : (if ec2 = .eof ∨
      state.contentOffset + ((min fsm.rcvStreambuf.length needLen : Nat) : Int) >
        state.contentLength then BeeErrorCode.eof else .success) = ec1
    have ends : ec1 = .success ∨ ec1 = .eof := by
      rw [← code]
      split
      · exact .inr rfl
      · exact .inl rfl
    rw [finish_ends ec2 ends]
    refine Calls.of_iff ⟨?_, ?_⟩ (reportCacheContent_ends _ _ _ _)
    · rintro ⟨fine, empty, unset⟩
      have nothing := (readBytes_empty _ _).mp empty
      rw [fine, nothing] at code
      split at code
      · cases code
      · rename_i goes
        refine ⟨connected, ?_, nothing, ?_, unset⟩
        · exact ((read_iff ec2).mp error).elim (fine_iff ec2).mp fun ended => absurd (.inl ended) goes
        · have := fun beyond => goes (.inr beyond)
          omega
    · rintro ⟨_, rfl, nothing, within, unset⟩
      refine ⟨?_, (readBytes_empty _ _).mpr nothing, unset⟩
      rw [← code, nothing, if_neg]
      rintro (ended | beyond)
      · cases ended
      · omega
  · rw [if_pos connected]
    exact finish_fails _ _ (fun ends => connected ends.connected) ec2 (by simp) (by simp)

theorem readContent_starts (len : Nat) : Starts (state.readContent fsm len) := by
  unfold HttpRcvBodyState.readContent
  by_cases connected : fsm.connected = true
  · rw [if_neg (fun closed => closed connected)]
    by_cases beyond : state.contentOffset ≥ state.contentLength
    · rw [if_pos beyond]
      exact .fails (by simp [HttpRcvBodyState.stopped]) rfl
    rw [if_neg beyond]
    simp only
    generalize (if state.contentOffset + len > state.contentLength then
      (state.contentLength - state.contentOffset).toNat else len) = len
    split
    · exact .sets rfl rfl rfl
    · exact .reads rfl .content rfl
  · rw [if_pos connected]
    exact .fails (by simp [HttpRcvBodyState.stopped]) rfl

theorem execute_starts : Starts (state.execute fsm) := by
  unfold HttpRcvBodyState.execute
  by_cases connected : fsm.connected = true
  · rw [if_neg (fun closed => closed connected)]
    cases fsm.response with
    | none => exact .fails (by simp [HttpRcvBodyState.stopped]) rfl
    | some response =>
      simp only
      generalize (if response.contentLen = -1 then true else state.isChunk) = isChunk
      split
      · exact .fails (by simp [HttpRcvBodyState.stopped]) rfl
      · split
        · exact readContent_starts _ _ _
        · split
          · unfold HttpRcvBodyState.readChunk
            rw [readChunkSize_reads _ _ connected]
            exact .reads rfl .chunkSizeLine rfl
          · exact .fails (by simp [HttpRcvBodyState.stopped]) rfl
  · rw [if_pos connected]
    exact .fails (by simp [HttpRcvBodyState.stopped]) rfl

end BeeSdk.BodyCalls
