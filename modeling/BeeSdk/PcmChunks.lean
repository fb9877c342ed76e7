import BeeSdk.RingMemory
import BeeSdk.Runs
import BeeSdk.StateMachine

/-! `AudioDeviceModuleWrapper`: recorded samples on their way to the transport, cut into
chunks of ten milliseconds, what does not fill a chunk kept for the next call. `none` stands
for a call that reads or writes outside `data` and `pending_`, never ends, or waits for a
lock that nobody gives back. -/
namespace BeeSdk.Pcm
open RingMemory Runs StateMachine

/-- `channels_`, `sample_rate_` and `sample_size_`. -/
structure InputParam where
  channels : Int32
  sampleRate : Int32
  sampleSize : Int32
  deriving DecidableEq

/-- The `size_t` an `int32_t` is converted to. -/
def toSize (value : Int32) : Nat := (value.toInt % 2 ^ 64).toNat

def kPendingSize : Nat := 640 * 2 * 2

namespace InputParam
variable (param : InputParam)

/-- The samples of ten milliseconds. -/
def chunk : Nat := toSize param.sampleRate / 100

/-- The bytes of one sample of every channel. -/
def frame : Nat := toSize param.sampleSize * toSize param.channels % 2 ^ 64

end InputParam

/-- What a caller passes: a block that holds the samples it says. -/
structure PcmData (param : InputParam) where
  data : List UInt8
  samples : Nat
  held : data.length = samples * param.frame
  addressed : data.length < 2 ^ 64
  counted : samples < 2 ^ 63

/-- What `RecordedDataIsAvailable` is called with. -/
structure Chunk where
  bytes : List UInt8
  samples : Nat
  deriving DecidableEq

/-- `critSect` is the thread that left it locked. -/
structure AudioDeviceModuleWrapper where
  audioTransport : Bool := false
  critSect : Option Nat := none
  pending : List UInt8
  pendingLength : Nat := 0
  deriving DecidableEq

/-- The wrapper with all it was given and all it has handed on. -/
structure Recording where
  wrapper : AudioDeviceModuleWrapper
  given : List UInt8 := []
  counted : Nat := 0
  handed : List Chunk := []
  deriving DecidableEq

inductive Request (param : InputParam) where
  | registerAudioCallback (there : Bool)
  | onPCMData (thread : Nat) (pcm : PcmData param)

section
variable (param : InputParam)

/-- The loop over the full chunks, from sample `i` on. Where a chunk is not empty no more
turns are needed than there are samples. -/
def sendChunks (pcm : PcmData param) : Nat → Nat → Option (Nat × List Chunk)
  | 0, _ => none
  | fuel + 1, i =>
    if (i + param.chunk) % 2 ^ 64 < pcm.samples then
      (copyOut pcm.data (i * param.frame % 2 ^ 64) (param.chunk * param.frame)).bind fun bytes =>
      (sendChunks pcm fuel ((i + param.chunk) % 2 ^ 64)).map fun (i, chunks) =>
        (i, ⟨bytes, param.chunk⟩ :: chunks)
    else some (i, [])

namespace AudioDeviceModuleWrapper
variable (wrapper : AudioDeviceModuleWrapper)

/-- A chunk that was begun is filled up and sent. The first is the sample to go on from. -/
def sendPending (pcm : PcmData param) : Option (Nat × List Chunk × AudioDeviceModuleWrapper) :=
  if wrapper.pendingLength ≠ 0 then
    let i := (param.chunk + 2 ^ 64 - wrapper.pendingLength) % 2 ^ 64
    (copyOut pcm.data 0 (i * param.frame % 2 ^ 64)).bind fun missing =>
    (copyIn wrapper.pending (wrapper.pendingLength * param.frame % 2 ^ 64) missing).bind fun pending =>
    (copyOut pending 0 (param.chunk * param.frame)).map fun bytes =>
      (i, [⟨bytes, param.chunk⟩], { wrapper with pending, pendingLength := 0 })
  else some (0, [], wrapper)

/-- What is left from sample `i` on is kept. -/
def keepPending (pcm : PcmData param) (i : Nat) : Option AudioDeviceModuleWrapper :=
  if i ≠ pcm.samples then
    let pendingLength := (pcm.samples + 2 ^ 64 - i) % 2 ^ 64
    (copyOut pcm.data (i * param.frame % 2 ^ 64) (pendingLength * param.frame % 2 ^ 64)).bind
      fun rest => (copyIn wrapper.pending 0 rest).map fun pending =>
        { wrapper with pending, pendingLength }
  else some wrapper

def onPCMData (thread : Nat) (pcm : PcmData param) :
    Option (List Chunk × AudioDeviceModuleWrapper) :=
  if wrapper.critSect.any (· ≠ thread) then none
  else if ¬ wrapper.audioTransport then
    -- returns between `Enter` and `Leave`
    some ([], { wrapper with critSect := some thread })
  else
    (wrapper.sendPending param pcm).bind fun (i, first, wrapper) =>
    (sendChunks param pcm (pcm.samples + 1) i).bind fun (i, chunks) =>
    (wrapper.keepPending param pcm i).map fun wrapper => (first ++ chunks, wrapper)

/-- The samples kept, as bytes. -/
def kept : List UInt8 := wrapper.pending.take (wrapper.pendingLength * param.frame)

/-- The samples that are missing to the chunk begun. -/
def missing : Nat := if wrapper.pendingLength = 0 then 0 else param.chunk - wrapper.pendingLength

end AudioDeviceModuleWrapper

def step (recording : Recording) : Request param → Option (List Chunk × Recording)
  | .registerAudioCallback there =>
    some ([], { recording with wrapper := { recording.wrapper with audioTransport := there } })
  | .onPCMData thread pcm =>
    (recording.wrapper.onPCMData param thread pcm).map fun (chunks, wrapper) =>
      (chunks, { wrapper, given := recording.given ++ pcm.data,
                 counted := recording.counted + pcm.samples, handed := recording.handed ++ chunks })

/-- What was handed on, followed by what is kept, is what was given, and every chunk is of
ten milliseconds. -/
structure Carried (recording : Recording) : Prop where
  bytes : recording.handed.flatMap Chunk.bytes ++ recording.wrapper.kept param = recording.given
  samples : recording.handed.length * param.chunk + recording.wrapper.pendingLength =
    recording.counted
  whole : ∀ chunk ∈ recording.handed, chunk.samples = param.chunk ∧
    chunk.bytes.length = param.chunk * param.frame

/-- What is left of some samples when whole chunks are sent while more than one is there. -/
def leftOver (samples : Nat) : Nat := if samples = 0 then 0 else (samples - 1) % param.chunk + 1

/-- Nobody has kept the lock. The transport is there if there are samples; then they fill up
the chunk begun, a chunk is not empty, and neither the filled one nor what is left over is
too large for the place it is kept in. -/
def Fits (recording : Recording) : Request param → Prop
  | .registerAudioCallback _ => True
  | .onPCMData thread pcm =>
    let wrapper := recording.wrapper
    (∀ other ∈ wrapper.critSect, other = thread) ∧
    if wrapper.audioTransport then
      wrapper.missing param ≤ pcm.samples ∧
      (wrapper.pendingLength ≠ 0 → param.chunk * param.frame ≤ kPendingSize) ∧
      (pcm.samples ≠ 0 → param.chunk ≠ 0) ∧
      leftOver param (pcm.samples - wrapper.missing param) * param.frame ≤ kPendingSize
    else pcm.samples = 0

end

end BeeSdk.Pcm
