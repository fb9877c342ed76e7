import BeeSdk.PcmChunks
import Mathlib.Algebra.Group.Nat.Defs

/-! No sample is lost and none is made up, exactly as long as every call fills up the chunk
begun before it and leaves no more than there is room for. -/
namespace BeeSdk.Pcm
open RingMemory Runs

variable {param : InputParam} {pcm : PcmData param}

/-! ### Sizes -/

theorem toSize_lt (value : Int32) : toSize value < 2 ^ 64 := by
  unfold toSize
  omega

theorem chunk_lt (param : InputParam) : param.chunk < 2 ^ 58 := by
  have small := toSize_lt param.sampleRate
  unfold InputParam.chunk
  omega

/-- The bytes of the samples before one of the call. -/
theorem before_held {i : Nat} (inside : i ≤ pcm.samples) :
    i * param.frame ≤ pcm.data.length := by
  rw [pcm.held]
  exact Nat.mul_le_mul_right _ inside

theorem offset_eq {i : Nat} (inside : i ≤ pcm.samples) :
    i * param.frame % 2 ^ 64 = i * param.frame :=
  Nat.mod_eq_of_lt (Nat.lt_of_le_of_lt (before_held inside) pcm.addressed)

theorem leftOver_small {samples : Nat} (few : samples ≤ param.chunk) :
    leftOver param samples = samples := by
  unfold leftOver
  split
  · omega
  · rw [Nat.mod_eq_of_lt (by omega)]
    omega

theorem leftOver_more {samples : Nat} (many : param.chunk < samples) :
    leftOver param samples = leftOver param (samples - param.chunk) := by
  unfold leftOver
  rw [if_neg (by omega), if_neg (by omega),
    show samples - 1 = samples - param.chunk - 1 + param.chunk by omega, Nat.add_mod_right]

theorem leftOver_le (real : param.chunk ≠ 0) (samples : Nat) : leftOver param samples ≤ param.chunk := by
  unfold leftOver
  split
  · omega
  · exact Nat.mod_lt _ (by omega)

/-! ### The parts of a call -/

/-- The loop sends whole chunks until no more than one is left. -/
theorem sendChunks_sends (real : param.chunk ≠ 0) {fuel i : Nat} (inside : i ≤ pcm.samples)
    (enough : pcm.samples - i < fuel) :
    ∃ j chunks, sendChunks param pcm fuel i = some (j, chunks) ∧
      j + leftOver param (pcm.samples - i) = pcm.samples ∧ i + chunks.length * param.chunk = j ∧
      pcm.data.take (i * param.frame) ++ chunks.flatMap Chunk.bytes = pcm.data.take (j * param.frame) ∧
      ∀ chunk ∈ chunks, chunk.samples = param.chunk ∧
        chunk.bytes.length = param.chunk * param.frame := by
  have small := chunk_lt param
  have counted := pcm.counted
  induction fuel generalizing i with
  | zero => omega
  | succ fuel ih =>
    have sum : (i + param.chunk) % 2 ^ 64 = i + param.chunk := Nat.mod_eq_of_lt (by omega)
    rw [sendChunks, sum]
    by_cases more : i + param.chunk < pcm.samples
    · have fits : i * param.frame + param.chunk * param.frame ≤ pcm.data.length := by
        rw [← Nat.add_mul]
        exact before_held (Nat.le_of_lt more)
      obtain ⟨j, chunks, sends, left, count, bytes, whole⟩ := @ih (i + param.chunk) (by omega) (by omega)
      have same : leftOver param (pcm.samples - i) =
          leftOver param (pcm.samples - (i + param.chunk)) := by
        rw [leftOver_more (by omega), Nat.sub_sub]
      rw [if_pos more, offset_eq inside, copyOut, if_pos fits, Option.bind_some, sends]
      refine ⟨j, _, rfl, by rw [same]; exact left, ?_, ?_, ?_⟩
      · rw [List.length_cons, Nat.succ_mul]
        omega
      · rw [List.flatMap_cons, ← bytes, ← List.append_assoc, Nat.add_mul, List.take_add]
      · intro chunk member
        rcases List.mem_cons.mp member with rfl | member
        · refine ⟨rfl, ?_⟩
          rw [List.length_take, List.length_drop]
          omega
        · exact whole chunk member
    · rw [if_neg more, leftOver_small (by omega)]
      exact ⟨i, [], rfl, by omega, by simp, by simp, fun _ member => by cases member⟩

/-- Empty chunks are sent for ever. -/
theorem sendChunks_stuck (empty : param.chunk = 0) {i : Nat} (inside : i < pcm.samples) (fuel : Nat) :
    sendChunks param pcm fuel i = none := by
  have counted := pcm.counted
  induction fuel with
  | zero => rfl
  | succ fuel ih =>
    have same : (i + param.chunk) % 2 ^ 64 = i := by
      rw [empty]
      exact Nat.mod_eq_of_lt (by omega)
    have fits : i * param.frame + param.chunk * param.frame ≤ pcm.data.length := by
      rw [empty, Nat.zero_mul]
      exact before_held (by omega)
    rw [sendChunks, same, if_pos inside, offset_eq (Nat.le_of_lt inside), copyOut, if_pos fits, Option.bind_some,
      ih]
    rfl

/-- What holds between two calls. -/
structure Books (param : InputParam) (recording : Recording) : Prop where
  carried : Carried param recording
  size : recording.wrapper.pending.length = kPendingSize
  begun : recording.wrapper.pendingLength ≤ param.chunk
  room : recording.wrapper.pendingLength * param.frame ≤ kPendingSize

namespace AudioDeviceModuleWrapper
variable {wrapper next : AudioDeviceModuleWrapper}

theorem kept_length (size : wrapper.pending.length = kPendingSize)
    (room : wrapper.pendingLength * param.frame ≤ kPendingSize) :
    (wrapper.kept param).length = wrapper.pendingLength * param.frame := by
  rw [kept, List.length_take, size]
  omega

/-- A chunk begun is filled up with what was missing to it. -/
theorem sendPending_fills (size : wrapper.pending.length = kPendingSize)
    (begun : wrapper.pendingLength ≤ param.chunk) (pending : wrapper.pendingLength ≠ 0)
    (room : param.chunk * param.frame ≤ kPendingSize)
    (enough : param.chunk - wrapper.pendingLength ≤ pcm.samples) :
    ∃ filled, wrapper.sendPending param pcm = some (param.chunk - wrapper.pendingLength,
        [⟨wrapper.kept param ++ pcm.data.take ((param.chunk - wrapper.pendingLength) * param.frame),
          param.chunk⟩], { wrapper with pending := filled, pendingLength := 0 }) ∧
      filled.length = kPendingSize := by
  have small := chunk_lt param
  have index : (param.chunk + 2 ^ 64 - wrapper.pendingLength) % 2 ^ 64 =
      param.chunk - wrapper.pendingLength := by omega
  have parts : wrapper.pendingLength * param.frame +
      (param.chunk - wrapper.pendingLength) * param.frame = param.chunk * param.frame := by
    rw [← Nat.add_mul]
    congr 1
    omega
  have place : wrapper.pendingLength * param.frame % 2 ^ 64 = wrapper.pendingLength * param.frame := by
    apply Nat.mod_eq_of_lt
    unfold kPendingSize at room
    omega
  have held := @before_held _ pcm _ enough
  have missing : (pcm.data.take ((param.chunk - wrapper.pendingLength) * param.frame)).length =
      (param.chunk - wrapper.pendingLength) * param.frame := by
    rw [List.length_take]
    omega
  have prior := @kept_length param wrapper size (by omega)
  have taken : copyOut pcm.data 0
      ((param.chunk - wrapper.pendingLength) * param.frame % 2 ^ 64) =
      some (pcm.data.take ((param.chunk - wrapper.pendingLength) * param.frame)) := by
    rw [offset_eq enough, copyOut, if_pos (by omega), List.drop_zero]
  have filled : copyIn wrapper.pending (wrapper.pendingLength * param.frame % 2 ^ 64)
      (pcm.data.take ((param.chunk - wrapper.pendingLength) * param.frame)) =
      some (wrapper.kept param ++
        pcm.data.take ((param.chunk - wrapper.pendingLength) * param.frame) ++
        wrapper.pending.drop (param.chunk * param.frame)) := by
    rw [place, copyIn, missing, parts, if_pos (by omega)]
    rfl
  have length : (wrapper.kept param ++
      pcm.data.take ((param.chunk - wrapper.pendingLength) * param.frame) ++
      wrapper.pending.drop (param.chunk * param.frame)).length = kPendingSize := by
    rw [List.length_append, List.length_append, List.length_drop, missing, prior, size]
    omega
  have sent : copyOut (wrapper.kept param ++
      pcm.data.take ((param.chunk - wrapper.pendingLength) * param.frame) ++
      wrapper.pending.drop (param.chunk * param.frame)) 0 (param.chunk * param.frame) =
      some (wrapper.kept param ++
        pcm.data.take ((param.chunk - wrapper.pendingLength) * param.frame)) := by
    rw [copyOut, if_pos (by omega), List.drop_zero, List.take_left']
    rw [List.length_append, prior, missing, parts]
  refine ⟨_, ?_, length⟩
  rw [sendPending, if_pos pending]
  simp only [index, taken, filled, sent, Option.bind_some, Option.map_some]

/-- What is left is kept where there is room for it. -/
theorem keepPending_eq (size : wrapper.pending.length = kPendingSize)
    (sent : wrapper.pendingLength = 0) {i : Nat} (inside : i ≤ pcm.samples) :
    wrapper.keepPending param pcm i = if (pcm.samples - i) * param.frame ≤ kPendingSize then
      some { wrapper with
        pending := pcm.data.drop (i * param.frame) ++
          wrapper.pending.drop ((pcm.samples - i) * param.frame)
        pendingLength := pcm.samples - i } else none := by
  have counted := pcm.counted
  by_cases none_left : i = pcm.samples
  · subst none_left
    have all : pcm.data.drop (pcm.samples * param.frame) = [] := by
      rw [← pcm.held]
      exact List.drop_length
    rw [keepPending, if_neg (by simp), Nat.sub_self, Nat.zero_mul, if_pos (Nat.zero_le _), all,
      List.drop_zero, List.nil_append, ← sent]
  · have length : (pcm.samples + 2 ^ 64 - i) % 2 ^ 64 = pcm.samples - i := by omega
    have parts : i * param.frame + (pcm.samples - i) * param.frame = pcm.data.length := by
      rw [← Nat.add_mul, pcm.held]
      congr 1
      omega
    have rest : (pcm.data.drop (i * param.frame)).length = (pcm.samples - i) * param.frame := by
      rw [List.length_drop]
      omega
    have whole : (pcm.data.drop (i * param.frame)).take ((pcm.samples - i) * param.frame) =
        pcm.data.drop (i * param.frame) := List.take_of_length_le (by omega)
    rw [keepPending, if_pos none_left]
    simp only [length]
    rw [offset_eq inside, offset_eq (Nat.sub_le _ _), copyOut, if_pos (by omega), Option.bind_some,
      whole, copyIn, rest, size, Nat.zero_add]
    split
    · simp
    · rfl

/-- What the chunk begun makes of a call, whether there is one or not: the samples before
the first to go on from are in it. -/
theorem sendPending_sends (size : wrapper.pending.length = kPendingSize)
    (begun : wrapper.pendingLength ≤ param.chunk) (enough : wrapper.missing param ≤ pcm.samples)
    (room : wrapper.pendingLength ≠ 0 → param.chunk * param.frame ≤ kPendingSize) :
    ∃ first filled, wrapper.sendPending param pcm = some (wrapper.missing param, first,
        { wrapper with pending := filled, pendingLength := 0 }) ∧
      filled.length = kPendingSize ∧
      first.flatMap Chunk.bytes =
        wrapper.kept param ++ pcm.data.take (wrapper.missing param * param.frame) ∧
      first.length * param.chunk = wrapper.pendingLength + wrapper.missing param ∧
      ∀ chunk ∈ first, chunk.samples = param.chunk ∧
        chunk.bytes.length = param.chunk * param.frame := by
  by_cases none_begun : wrapper.pendingLength = 0
  · have nothing : wrapper.missing param = 0 := if_pos none_begun
    refine ⟨[], wrapper.pending, ?_, size, ?_, ?_, fun _ member => by cases member⟩
    · rw [sendPending, if_neg (by simpa using none_begun), nothing, ← none_begun]
    · rw [nothing, kept, none_begun]
      simp
    · rw [nothing, none_begun]
      simp
  · have missing : wrapper.missing param = param.chunk - wrapper.pendingLength := if_neg none_begun
    have fits := room none_begun
    rw [missing] at enough ⊢
    obtain ⟨filled, sends, length⟩ := sendPending_fills size begun none_begun fits enough
    have parts : wrapper.pendingLength * param.frame +
        (param.chunk - wrapper.pendingLength) * param.frame = param.chunk * param.frame := by
      rw [← Nat.add_mul]
      congr 1
      omega
    have held := @before_held _ pcm _ enough
    refine ⟨_, filled, sends, length, by simp, by simp; omega, ?_⟩
    intro chunk member
    cases List.mem_singleton.mp member
    refine ⟨rfl, ?_⟩
    rw [List.length_append, kept_length size (by omega), List.length_take]
    omega

/-- A call that comes back has got the lock. -/
theorem onPCMData_unlocked {thread : Nat} {out : List Chunk × AudioDeviceModuleWrapper}
    (called : wrapper.onPCMData param thread pcm = some out) :
    ¬ wrapper.critSect.any (· ≠ thread) = true := by
  intro locked
  rw [onPCMData, if_pos locked] at called
  cases called

/-- A chunk begun is sent from a place it fits into. -/
theorem sendPending_inv (size : wrapper.pending.length = kPendingSize)
    (begun : wrapper.pendingLength ≤ param.chunk) (pending : wrapper.pendingLength ≠ 0)
    {i : Nat} {first : List Chunk}
    (sends : wrapper.sendPending param pcm = some (i, first, next)) :
    i = param.chunk - wrapper.pendingLength ∧ first.length = 1 ∧ next.pendingLength = 0 ∧
      param.chunk * param.frame ≤ kPendingSize := by
  have small := chunk_lt param
  rw [sendPending, if_pos pending] at sends
  obtain ⟨missing, _, sends⟩ := Option.bind_eq_some_iff.mp sends
  obtain ⟨filled, copied, sends⟩ := Option.bind_eq_some_iff.mp sends
  obtain ⟨bytes, out, shape⟩ := Option.map_eq_some_iff.mp sends
  cases shape
  have length := (copyIn_inside copied).2
  refine ⟨by omega, rfl, rfl, ?_⟩
  apply Nat.le_of_not_lt
  intro outside
  rw [copyOut_outside (by omega)] at out
  cases out

end AudioDeviceModuleWrapper

/-! ### Calls -/

variable {recording next : Recording} {reply : List Chunk}

/-- A call with the transport there, from the first sample behind the chunk begun: it is
carried on exactly where what is left over finds room. -/
theorem onPCMData_goes (books : Books param recording) {thread : Nat}
    (free : ∀ other ∈ recording.wrapper.critSect, other = thread)
    (there : recording.wrapper.audioTransport = true)
    (enough : recording.wrapper.missing param ≤ pcm.samples)
    (room : recording.wrapper.pendingLength ≠ 0 → param.chunk * param.frame ≤ kPendingSize)
    (real : pcm.samples ≠ 0 → param.chunk ≠ 0) :
    (leftOver param (pcm.samples - recording.wrapper.missing param) * param.frame ≤ kPendingSize →
      ∃ reply next, step param recording (.onPCMData thread pcm) = some (reply, next) ∧
        Books param next) ∧
    (¬ leftOver param (pcm.samples - recording.wrapper.missing param) * param.frame ≤ kPendingSize →
      step param recording (.onPCMData thread pcm) = none) := by
  obtain ⟨carried, size, begun, fits⟩ := books
  obtain ⟨first, filled, sends, length, bytes, count, whole⟩ :=
    AudioDeviceModuleWrapper.sendPending_sends size begun enough room
  have unlocked : ¬ recording.wrapper.critSect.any (· ≠ thread) = true := by
    cases held : recording.wrapper.critSect with
    | none => simp
    | some other => simp [free other held]
  generalize recording.wrapper.missing param = i at *
  -- without samples and without a chunk the loop ends at once
  obtain ⟨j, chunks, loops, left, counts, loopBytes, loopWhole⟩ : ∃ j chunks,
      sendChunks param pcm (pcm.samples + 1) i = some (j, chunks) ∧
      j + leftOver param (pcm.samples - i) = pcm.samples ∧ i + chunks.length * param.chunk = j ∧
      pcm.data.take (i * param.frame) ++ chunks.flatMap Chunk.bytes = pcm.data.take (j * param.frame) ∧
      ∀ chunk ∈ chunks, chunk.samples = param.chunk ∧
        chunk.bytes.length = param.chunk * param.frame := by
    by_cases empty : pcm.samples = 0
    · have at_end : i = 0 := by omega
      rw [at_end, empty, sendChunks, empty, if_neg (by omega)]
      exact ⟨0, [], rfl, rfl, by simp, by simp, fun _ member => by cases member⟩
    · exact sendChunks_sends (real empty) enough (by omega)
  have inside : j ≤ pcm.samples := by omega
  have rest : pcm.samples - j = leftOver param (pcm.samples - i) := by omega
  have keeps := @AudioDeviceModuleWrapper.keepPending_eq param pcm
    { recording.wrapper with pending := filled, pendingLength := 0 } length rfl j inside
  rw [rest] at keeps
  constructor
  · intro held
    rw [if_pos held] at keeps
    have dropped : (pcm.data.drop (j * param.frame)).length =
        leftOver param (pcm.samples - i) * param.frame := by
      rw [List.length_drop, pcm.held, ← rest, Nat.sub_mul]
    rw [step, AudioDeviceModuleWrapper.onPCMData, if_neg unlocked, if_neg (by simp [there]), sends]
    simp only [Option.bind_some, loops, keeps, Option.map_some]
    refine ⟨_, _, rfl, ⟨⟨?_, ?_, ?_⟩, ?_, ?_, held⟩⟩
    · rw [AudioDeviceModuleWrapper.kept]
      simp only
      rw [List.take_left' dropped, ← carried.bytes, List.flatMap_append, List.flatMap_append, bytes]
      simp only [List.append_assoc]
      rw [← List.append_assoc (pcm.data.take (i * param.frame)), loopBytes, List.take_append_drop]
    · have before := carried.samples
      simp only [List.length_append, Nat.add_mul]
      omega
    · intro chunk member
      rcases List.mem_append.mp member with old | member
      · exact carried.whole chunk old
      · rcases List.mem_append.mp member with member | member
        · exact whole chunk member
        · exact loopWhole chunk member
    · simp only [List.length_append, List.length_drop, dropped, length]
      omega
    · by_cases empty : pcm.samples = 0
      · have nothing : leftOver param (pcm.samples - i) = 0 := by omega
        simp only [nothing]
        omega
      · exact leftOver_le (real empty) _
  · intro large
    rw [if_neg large] at keeps
    rw [step, AudioDeviceModuleWrapper.onPCMData, if_neg unlocked, if_neg (by simp [there]), sends]
    simp only [Option.bind_some, loops, keeps, Option.map_none]

/-- Without the transport and without samples only the lock changes. -/
theorem silent_books (books : Books param recording) {thread : Nat}
    (free : ∀ other ∈ recording.wrapper.critSect, other = thread)
    (absent : ¬ recording.wrapper.audioTransport = true) (empty : pcm.samples = 0) :
    ∃ next, step param recording (.onPCMData thread pcm) = some ([], next) ∧ Books param next := by
  have unlocked : ¬ recording.wrapper.critSect.any (· ≠ thread) = true := by
    cases held : recording.wrapper.critSect with
    | none => simp
    | some other => simp [free other held]
  have nothing : pcm.data = [] := by
    apply List.eq_nil_of_length_eq_zero
    rw [pcm.held, empty, Nat.zero_mul]
  rw [step, AudioDeviceModuleWrapper.onPCMData, if_neg unlocked, if_pos absent, nothing, empty]
  refine ⟨_, rfl, ⟨⟨?_, ?_, ?_⟩, books.size, books.begun, books.room⟩⟩
  · simp only [List.append_nil]
    exact books.carried.bytes
  · simp only [List.append_nil]
    exact books.carried.samples
  · simp only [List.append_nil]
    exact books.carried.whole

/-- A call that carries on has enough samples for the chunk begun. -/
theorem enough_of_carried (books : Books param recording) {thread : Nat}
    (there : recording.wrapper.audioTransport = true) (pending : recording.wrapper.pendingLength ≠ 0)
    (taken : step param recording (.onPCMData thread pcm) = some (reply, next))
    (carried : Carried param next) :
    param.chunk - recording.wrapper.pendingLength ≤ pcm.samples ∧
      param.chunk * param.frame ≤ kPendingSize := by
  have small := chunk_lt param
  have counted := pcm.counted
  have begun := books.begun
  obtain ⟨⟨chunks, wrapper⟩, called, shape⟩ := Option.map_eq_some_iff.mp taken
  cases shape
  have unlocked := AudioDeviceModuleWrapper.onPCMData_unlocked called
  rw [AudioDeviceModuleWrapper.onPCMData, if_neg unlocked, if_neg (by simp [there])] at called
  obtain ⟨⟨i, first, sent⟩, sends, called⟩ := Option.bind_eq_some_iff.mp called
  obtain ⟨rfl, one, none_begun, room⟩ :=
    AudioDeviceModuleWrapper.sendPending_inv books.size begun pending sends
  refine ⟨Nat.le_of_not_lt fun short => ?_, room⟩
  have ends : sendChunks param pcm (pcm.samples + 1) (param.chunk - recording.wrapper.pendingLength) =
      some (param.chunk - recording.wrapper.pendingLength, []) := by
    rw [sendChunks, if_neg]
    rw [Nat.mod_eq_of_lt (by omega)]
    omega
  simp only [ends, Option.bind_some, List.append_nil] at called
  obtain ⟨after, keeps, shape⟩ := Option.map_eq_some_iff.mp called
  cases shape
  rw [AudioDeviceModuleWrapper.keepPending, if_pos (by omega)] at keeps
  obtain ⟨rest, _, keeps⟩ := Option.bind_eq_some_iff.mp keeps
  obtain ⟨kept, _, rfl⟩ := Option.map_eq_some_iff.mp keeps
  -- the length kept is the difference of a larger number, a whole turn of the counter too much
  have before := books.carried.samples
  have behind := carried.samples
  simp only [List.length_append, one, Nat.add_mul, Nat.one_mul] at behind
  omega

/-- A step is defined and carries all samples on exactly where it fits. -/
theorem carried_iff_fits (books : Books param recording) (request : Request param) :
    (∃ reply next, step param recording request = some (reply, next) ∧ Carried param next) ↔
      Fits param recording request := by
  cases request with
  | registerAudioCallback there =>
    exact iff_of_true ⟨_, _, rfl, books.carried.bytes, books.carried.samples, books.carried.whole⟩
      trivial
  | onPCMData thread pcm =>
    constructor
    · rintro ⟨reply, next, taken, carried⟩
      obtain ⟨out, called, _⟩ := Option.map_eq_some_iff.mp taken
      have unlocked := AudioDeviceModuleWrapper.onPCMData_unlocked called
      have free : ∀ other ∈ recording.wrapper.critSect, other = thread := by
        intro other held
        rw [Option.mem_def.mp held] at unlocked
        simpa using unlocked
      refine ⟨free, ?_⟩
      by_cases there : recording.wrapper.audioTransport = true
      · rw [if_pos there]
        have enough : recording.wrapper.missing param ≤ pcm.samples := by
          rw [AudioDeviceModuleWrapper.missing]
          split
          · exact Nat.zero_le _
          · rename_i pending
            exact (enough_of_carried books there pending taken carried).1
        have room : recording.wrapper.pendingLength ≠ 0 → param.chunk * param.frame ≤ kPendingSize :=
          fun pending => (enough_of_carried books there pending taken carried).2
        have real : pcm.samples ≠ 0 → param.chunk ≠ 0 := by
          intro some_samples empty
          have none_begun : recording.wrapper.pendingLength = 0 := by
            have := books.begun
            omega
          rw [AudioDeviceModuleWrapper.onPCMData, if_neg unlocked, if_neg (by simp [there]),
            AudioDeviceModuleWrapper.sendPending, if_neg (by simpa using none_begun)] at called
          simp only [Option.bind_some, sendChunks_stuck empty (Nat.pos_of_ne_zero some_samples),
            Option.bind_none] at called
          cases called
        refine ⟨enough, room, real, ?_⟩
        apply Classical.byContradiction
        intro large
        rw [(onPCMData_goes books free there enough room real).2 large] at taken
        cases taken
      · rw [if_neg there]
        rw [step, AudioDeviceModuleWrapper.onPCMData, if_neg unlocked, if_pos there] at taken
        cases taken
        have before := books.carried.samples
        have behind := carried.samples
        simp only [List.append_nil] at behind
        omega
    · rintro ⟨free, fits⟩
      by_cases there : recording.wrapper.audioTransport = true
      · rw [if_pos there] at fits
        obtain ⟨enough, room, real, held⟩ := fits
        obtain ⟨reply, next, taken, after⟩ := (onPCMData_goes books free there enough room real).1 held
        exact ⟨reply, next, taken, after.carried⟩
      · rw [if_neg there] at fits
        obtain ⟨next, taken, after⟩ := silent_books books free there fits
        exact ⟨[], next, taken, after.carried⟩

theorem books_step (books : Books param recording) {request : Request param}
    (fits : Fits param recording request)
    (taken : step param recording request = some (reply, next)) : Books param next := by
  cases request with
  | registerAudioCallback there =>
    cases taken
    exact ⟨⟨books.carried.bytes, books.carried.samples, books.carried.whole⟩, books.size, books.begun,
      books.room⟩
  | onPCMData thread pcm =>
    obtain ⟨free, fits⟩ := fits
    by_cases there : recording.wrapper.audioTransport = true
    · rw [if_pos there] at fits
      obtain ⟨enough, room, real, held⟩ := fits
      obtain ⟨_, _, same, after⟩ := (onPCMData_goes books free there enough room real).1 held
      rw [taken] at same
      cases same
      exact after
    · rw [if_neg there] at fits
      obtain ⟨_, same, after⟩ := silent_books books free there fits
      rw [taken] at same
      cases same
      exact after

/-! ### Every run -/

/-- The wrapper as it is made, `pending_` holding what the memory held. -/
def constructed (memory : Vector UInt8 kPendingSize) : Recording :=
  { wrapper := { pending := memory.toList } }

/-- Whatever the parameters, along a run every call comes back, stays inside its blocks and
carries all samples on in chunks of ten milliseconds, exactly when every call fits. -/
theorem carried_run_iff (param : InputParam) (memory : Vector UInt8 kPendingSize)
    (requests : List (Request param)) :
    AllTaken (step param) (fun _ _ _ next => Carried param next) (constructed memory) requests ↔
      AllSteps (step param) (Fits param) (constructed memory) requests := by
  apply all_taken_iff (Books param)
  · intro recording request books
    exact carried_iff_fits books request
  · intro recording request reply next books fits taken
    exact books_step books fits taken
  · refine ⟨⟨?_, ?_, fun _ member => by cases member⟩, ?_, Nat.zero_le _, ?_⟩
    · simp [constructed, AudioDeviceModuleWrapper.kept]
    · simp [constructed]
    · simp [constructed]
    · simp [constructed]

/-- Two bytes a sample, one channel, eight thousand samples a second: eighty to a chunk. -/
def speech : InputParam := ⟨1, 8000, 2⟩

/-- Silence, as many samples of it. -/
def silence (samples : Nat) (fits : samples < 2 ^ 32) : PcmData speech where
  data := List.replicate (samples * 2) 0
  samples := samples
  held := List.length_replicate
  addressed := by
    rw [List.length_replicate]
    omega
  counted := by omega

/-- A call of fewer samples than are missing to the chunk begun reads behind them. -/
theorem short_call_outside :
    (run (step speech) (constructed (Vector.replicate kPendingSize 0)) [.registerAudioCallback true,
      .onPCMData 0 (silence 30 (by decide))]).isSome = true ∧
    run (step speech) (constructed (Vector.replicate kPendingSize 0)) [.registerAudioCallback true,
      .onPCMData 0 (silence 30 (by decide)), .onPCMData 0 (silence 20 (by decide))] = none := by
  constructor <;> decide +kernel

end BeeSdk.Pcm
