import BeeSdk.ReceiveTlvProofs

/-! What a peer can do with the length field. The rest of a message is asked for with
`total_len_ - bytes_transferred`, whatever the field says: a length that does not even cover
the field itself turns into a read for a count that has wrapped around. -/
namespace BeeSdk.ReceiveTlvLengths
open ByteOrder RingMemory StateMachine ReceiveTlv ReceiveTlvProofs

/-- The first read has completed: these bytes, up to the end of the length field, are the
first ones received and the state knows how many they are. -/
structure PrefixRead (state : TcpReceiveTlvState) (fsm : TcpStateMachine) (front : List UInt8) :
    Prop where
  width : state.inputEvent.lengthSize = 1 ∨ state.inputEvent.lengthSize = 2 ∨
    state.inputEvent.lengthSize = 4
  ends : front.length = state.inputEvent.lengthOffset + state.inputEvent.lengthSize
  asked : state.firstReadLen = front.length
  received : front <+: fsm.rcvStreambuf
  start : fsm.criobuff.beginOffset = 0
  counted : front.length < 2 ^ 64

/-- Every execution that begins to receive comes there once the bytes it asks for are received. -/
theorem executed_prefix (state : TcpReceiveTlvState) (fsm : TcpStateMachine) (front behind : List UInt8)
    (begins : (state.execute fsm).code = .success) (start : fsm.criobuff.beginOffset = 0)
    (ends : front.length = state.inputEvent.lengthOffset + state.inputEvent.lengthSize)
    (counted : front.length < 2 ^ 64) :
    (state.execute fsm).read = some front.length ∧
      PrefixRead (state.execute fsm).state { fsm with rcvStreambuf := front ++ behind } front := by
  rw [TcpReceiveTlvState.execute] at begins ⊢
  split at begins
  · cases begins
  · split at begins
    · cases begins
    · split at begins
      · cases begins
      · rename_i setup connected width
        rw [if_neg setup, if_neg connected, if_neg width]
        have first : (state.inputEvent.lengthOffset + state.inputEvent.lengthSize) % 2 ^ 64 =
            front.length := by
          rw [← ends]
          exact Nat.mod_eq_of_lt counted
        exact ⟨congrArg some first, by dsimp only; omega, ends, first, List.prefix_append _ _, start, counted⟩

/-- The number in the length field. -/
def carried (state : TcpReceiveTlvState) (front : List UInt8) : Nat :=
  loadBig (front.drop state.inputEvent.lengthOffset)

/-- What is promised of `handle_read_length` and of the read it asks for: a length below the
part already read is an error and nothing more is read, a count asked for is what is left of
the message, and whatever the second read completes with stays inside the memory. -/
structure Checked (state : TcpReceiveTlvState) (front : List UInt8) (outcome : Outcome) : Prop where
  rejected : carried state front < front.length → outcome.code ≠ .success ∧ outcome.read = none
  exact : ∀ leftBytes, outcome.read = some leftBytes → front.length + leftBytes = outcome.state.totalLen
  inside : ∀ leftBytes, outcome.read = some leftBytes → ∀ ec2 rcvStreambuf bytesTransferred,
    bytesTransferred ≤ leftBytes → bytesTransferred ≤ rcvStreambuf.length →
      ∃ last, outcome.state.handleReadData { outcome.fsm with rcvStreambuf } ec2 bytesTransferred = some last

/-- The first callback is defined and keeps the promise. -/
def LengthChecked (state : TcpReceiveTlvState) (fsm : TcpStateMachine) (front : List UInt8) : Prop :=
  ∃ outcome, state.handleReadLength fsm .none front.length = some outcome ∧
    Checked state front outcome

/-! ### The first callback -/

theorem read_front {fsm : TcpStateMachine} (offset : Nat) {front behind : List UInt8}
    (start : fsm.criobuff.beginOffset = 0) (received : fsm.rcvStreambuf = front ++ behind) :
    fsm.read offset front.length = (copyIn fsm.criobuff.buffer offset front).map fun buffer =>
      { fsm with criobuff := { fsm.criobuff with buffer }, rcvStreambuf := behind } := by
  simp [TcpStateMachine.read, IStream.readBytes, start, received]

/-- Memory that is replaced holds the front and has room for the whole message. -/
theorem grown_room (front behind : List UInt8) (totalLen : Nat) (inside : front.length ≤ totalLen) :
    ((copyOut (front ++ behind) 0 front.length).bind fun bytes =>
      copyIn (IOBuffer.ofCapacity totalLen).buffer 0 bytes) =
        some (front ++ List.replicate (totalLen - front.length) 0) := by
  have copied : copyOut (front ++ behind) 0 front.length = some front := by
    rw [copyOut_front _ _ (by omega), List.drop_zero, List.take_length]
  have room : front.length ≤ (List.replicate totalLen (0 : UInt8)).length := by
    rw [List.length_replicate]
    exact inside
  have moved := copyIn_behind [] front _ room
  rw [List.nil_append, List.length_nil, List.nil_append, List.drop_replicate] at moved
  rw [copied]
  exact moved

/-- A front that fits is read and its number taken as it is. -/
theorem front_handled {state : TcpReceiveTlvState} {fsm : TcpStateMachine} {front : List UInt8}
    (read : PrefixRead state fsm front) (fits : front.length ≤ fsm.criobuff.capacity) :
    ∃ fsm', state.handleReadLength fsm .none front.length =
        some ⟨.success, some ((carried state front + 2 ^ 64 - front.length) % 2 ^ 64),
          { state with totalLen := carried state front }, fsm'⟩ ∧
      fsm'.criobuff.beginOffset = 0 ∧ carried state front ≤ fsm'.criobuff.capacity := by
  obtain ⟨behind, received⟩ := read.received
  have room : front.length ≤ fsm.criobuff.buffer.length := fits
  have readFront := read_front 0 read.start received.symm
  have copied := copyIn_behind [] front fsm.criobuff.buffer room
  rw [List.nil_append, List.length_nil, List.nil_append] at copied
  rw [copied, Option.map_some] at readFront
  have field : copyOut (front ++ fsm.criobuff.buffer.drop front.length) state.inputEvent.lengthOffset
      state.inputEvent.lengthSize = some (front.drop state.inputEvent.lengthOffset) := by
    rw [copyOut_front _ _ (Nat.le_of_eq read.ends.symm), List.take_of_length_le]
    rw [List.length_drop, read.ends]
    omega
  have wide : (front.drop state.inputEvent.lengthOffset).length = state.inputEvent.lengthSize := by
    rw [List.length_drop, read.ends]
    omega
  have number := lengthOf_field wide read.width
  have kept : (front ++ fsm.criobuff.buffer.drop front.length).length = fsm.criobuff.buffer.length := by
    rw [List.length_append, List.length_drop]
    omega
  rw [TcpReceiveTlvState.handleReadLength, if_neg (by decide), if_neg (by rw [read.asked]; simp), readFront]
  simp only [Option.bind_some, TcpStateMachine.field, read.start, Nat.zero_add, field, number]
  by_cases large : carried state front > fsm.criobuff.capacity
  · have grown := grown_room front (fsm.criobuff.buffer.drop front.length) (carried state front)
      (Nat.le_of_lt (Nat.lt_of_le_of_lt fits large))
    rw [if_pos (by rw [IOBuffer.capacity, kept]; exact large)]
    rw [Option.bind_eq_some_iff] at grown
    obtain ⟨bytes, out, into⟩ := grown
    simp only [carried] at into ⊢
    rw [out, Option.bind_some, into]
    refine ⟨_, rfl, rfl, ?_⟩
    rw [IOBuffer.capacity, List.length_append, List.length_replicate]
    omega
  · rw [if_neg (by rw [IOBuffer.capacity, kept]; exact large)]
    refine ⟨_, rfl, rfl, ?_⟩
    rw [IOBuffer.capacity, kept]
    exact Nat.le_of_not_gt large

/-- A front that does not fit is written beyond the memory. -/
theorem front_overflows {state : TcpReceiveTlvState} {fsm : TcpStateMachine} {front : List UInt8}
    (read : PrefixRead state fsm front) (large : fsm.criobuff.capacity < front.length) :
    state.handleReadLength fsm .none front.length = none := by
  obtain ⟨behind, received⟩ := read.received
  rw [TcpReceiveTlvState.handleReadLength, if_neg (by decide), if_neg (by rw [read.asked]; simp),
    read_front 0 read.start received.symm, copyIn_outside _ _ large]
  rfl

/-! ### The second callback -/

/-- Bytes that fill the memory up to the length of the message at most are written inside it. -/
theorem data_inside {state : TcpReceiveTlvState} {fsm : TcpStateMachine} (ec2 : ErrorCode)
    (start : fsm.criobuff.beginOffset = 0) (held : bytesTransferred ≤ fsm.rcvStreambuf.length)
    (room : state.firstReadLen + bytesTransferred ≤ fsm.criobuff.capacity) :
    ∃ last, state.handleReadData fsm ec2 bytesTransferred = some last := by
  have taken : (fsm.rcvStreambuf.take bytesTransferred).length = bytesTransferred :=
    List.length_take_of_le held
  have read := read_front state.firstReadLen start
    (List.take_append_drop bytesTransferred fsm.rcvStreambuf).symm
  have within : state.firstReadLen + (fsm.rcvStreambuf.take bytesTransferred).length ≤
      fsm.criobuff.buffer.length := by
    rw [taken]
    exact room
  rw [taken, copyIn, if_pos within] at read
  rw [TcpReceiveTlvState.handleReadData, read]
  split
  · exact ⟨_, rfl⟩
  · split
    · exact ⟨_, rfl⟩
    · exact ⟨_, rfl⟩

theorem carried_lt {state : TcpReceiveTlvState} {fsm : TcpStateMachine} {front : List UInt8}
    (read : PrefixRead state fsm front) : carried state front < 2 ^ 64 := by
  have bound := loadBig_lt (front.drop state.inputEvent.lengthOffset)
  have wide : 256 ^ (front.drop state.inputEvent.lengthOffset).length ≤ 256 ^ 4 := by
    refine Nat.pow_le_pow_right (by decide) ?_
    rw [List.length_drop, read.ends]
    rcases read.width with width | width | width <;> omega
  exact Nat.lt_of_lt_of_le bound (Nat.le_trans wide (by decide))

theorem checked_covers {state : TcpReceiveTlvState} {fsm : TcpStateMachine} {front : List UInt8}
    (read : PrefixRead state fsm front) (checked : LengthChecked state fsm front) :
    front.length ≤ fsm.criobuff.capacity ∧ front.length ≤ carried state front := by
  obtain ⟨outcome, handled, checked⟩ := checked
  have fits : front.length ≤ fsm.criobuff.capacity := by
    apply Classical.byContradiction
    intro large
    rw [front_overflows read (Nat.lt_of_not_le large)] at handled
    cases handled
  refine ⟨fits, ?_⟩
  obtain ⟨fsm', goes, -⟩ := front_handled read fits
  rw [goes] at handled
  cases handled
  apply Classical.byContradiction
  intro short
  exact (checked.rejected (Nat.lt_of_not_le short)).1 rfl

/-- The state takes care of the lengths a peer can send exactly when the first read fits
`criobuff_` and the length covers at least what has been read with it. -/
theorem length_checked_iff {state : TcpReceiveTlvState} {fsm : TcpStateMachine} {front : List UInt8}
    (read : PrefixRead state fsm front) :
    LengthChecked state fsm front ↔
      front.length ≤ fsm.criobuff.capacity ∧ front.length ≤ carried state front := by
  refine ⟨checked_covers read, fun ⟨fits, covers⟩ => ?_⟩
  obtain ⟨fsm', goes, start, room⟩ := front_handled read fits
  have small := carried_lt read
  have left : (carried state front + 2 ^ 64 - front.length) % 2 ^ 64 =
      carried state front - front.length := by omega
  rw [left] at goes
  refine ⟨_, goes, fun short => absurd covers (Nat.not_le_of_lt short), ?_, ?_⟩
  · rintro leftBytes ⟨⟩
    exact Nat.add_sub_of_le covers
  · rintro leftBytes ⟨⟩ ec2 rcvStreambuf bytesTransferred few held
    refine data_inside ec2 start held ?_
    have asked := read.asked
    show state.firstReadLen + bytesTransferred ≤ fsm'.criobuff.capacity
    omega

/-- A machine as it is made, on which these bytes have been received. -/
def received (rcvStreambuf : List UInt8) : TcpStateMachine :=
  ⟨true, .ofCapacity kDefaultReadBuffLen, rcvStreambuf⟩

/-- The state executed for a message that begins with its length in two bytes. -/
def lengthFirst : TcpReceiveTlvState :=
  { inputEvent := ⟨true, 0, 2⟩, firstReadLen := 2 }

theorem length_first_read (first second : UInt8) :
    PrefixRead lengthFirst (received [first, second]) [first, second] :=
  ⟨.inr (.inl rfl), rfl, rfl, List.prefix_refl _, rfl, show 2 < 2 ^ 64 by decide⟩

theorem length_first_fits (first second : UInt8) :
    [first, second].length ≤ (received [first, second]).criobuff.capacity := by
  rw [received, IOBuffer.ofCapacity_capacity]
  show 2 ≤ 32 * 1024
  decide

theorem seven_checked : LengthChecked lengthFirst (received [0, 7]) [0, 7] :=
  (length_checked_iff (length_first_read 0 7)).mpr ⟨length_first_fits 0 7, by decide⟩

/-- A message that says it is one byte long has all but one of 2^64 bytes asked for. -/
theorem one_unchecked :
    PrefixRead lengthFirst (received [0, 1]) [0, 1] ∧ carried lengthFirst [0, 1] < [0, 1].length ∧
      (∃ outcome, lengthFirst.handleReadLength (received [0, 1]) .none 2 = some outcome ∧
        outcome.read = some (2 ^ 64 - 1)) ∧
      ¬ LengthChecked lengthFirst (received [0, 1]) [0, 1] := by
  have read := length_first_read 0 1
  obtain ⟨fsm', goes, -⟩ := front_handled read (length_first_fits 0 1)
  refine ⟨read, by decide, ⟨_, goes, rfl⟩, fun checked => ?_⟩
  exact absurd (checked_covers read checked).2 (by decide)

end BeeSdk.ReceiveTlvLengths
