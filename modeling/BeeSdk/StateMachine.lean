/-! `State` and `AsyncStateMachine`: a state finishes by setting up its output
event and calling `done`; the machine then either switches to the state its
router names or calls `output`. What a router, a transform and `output` act on
is left to the machine that supplies them. -/
namespace BeeSdk.StateMachine

/-- `BeeErrorCode`, the codes the network states set; `other` stands for the
ones they only pass on. -/
inductive BeeErrorCode where
  | success
  | invalidParam
  | invalidState
  | timeout
  | notConnected
  | errorHttpStatus
  | errorData
  | errorStateMachine
  | stateMachineInterrupted
  | stateMachineFinished
  | resolveFail
  | connectFail
  | tlsShakehandFail
  | writeFail
  | readHttpHeaderFail
  | readHttpContentFail
  | readHttpChunkSizeFail
  | readHttpChunkBodyFail
  | eof
  | other (value : Nat)
  deriving DecidableEq

/-! Codes by their place in the enumeration. -/

/-- The enumerators before `kBeeErrorCode_Count`, in their order. -/
def beeErrorCodes : List String :=
  ["Success", "General_Error", "Invalid_Param", "Invalid_State", "Null_Pointer",
    "Insufficient_Session", "Invalid_Session", "Engine_Internal_Error", "Engine_Script_Error",
    "Engine_Not_Loaded", "Engine_Reject", "Give_Up", "Not_Implemented", "Timeout",
    "Service_Not_Started", "Session_Not_Opened", "Not_Connected", "Error_Http_Status",
    "Error_Data", "Error_State_Machine", "State_Machine_Interrupted", "State_Machine_Finished",
    "Resolve_Fail", "Connect_Fail", "Tls_Shakehand_Fail", "Write_Fail", "Read_Fail",
    "Read_Http_Header_Fail", "Read_Http_Content_Fail", "Read_Http_Chunk_Size_Fail",
    "Read_Http_Chunk_Body_Fail", "Crypto_Error", "Decompress_Error", "Signature_Error",
    "Invalid_Protocol_Mark", "Invalid_Message", "Eof", "Not_Enough_Memory", "Lws_Error",
    "Webrtc_Create_Peer_Connection_Fail", "Webrtc_Open_Video_Capture_Fail",
    "Webrtc_Create_Local_Stream_Fail", "Webrtc_Add_Stream_Fail", "Webrtc_Error_Media",
    "OpenGL_Error", "Push_Fail", "Pull_Fail", "Capture_Not_Set", "Renderer_Not_Set",
    "Member_Existed", "Member_Not_Exist", "Webrtc_Ice_Fail", "Existed", "Not_Found",
    "Service_Not_Supported", "Service_Not_Registered", "Create_Device_Info_Failed", "No_Camera",
    "Open_Camera_Failed", "No_Network", "Network_Not_Allow"]

def kBeeErrorCode_Count : Int := beeErrorCodes.length
def kBeeErrorCode_Not_Compatible : Int := kBeeErrorCode_Count + 1

example : kBeeErrorCode_Count = 61 := rfl

@[match_pattern] abbrev BeeErrorCode.nullPointer : BeeErrorCode := .other 4
@[match_pattern] abbrev BeeErrorCode.insufficientSession : BeeErrorCode := .other 5
@[match_pattern] abbrev BeeErrorCode.engineInternalError : BeeErrorCode := .other 7
@[match_pattern] abbrev BeeErrorCode.engineScriptError : BeeErrorCode := .other 8
@[match_pattern] abbrev BeeErrorCode.engineReject : BeeErrorCode := .other 10
@[match_pattern] abbrev BeeErrorCode.serviceNotStarted : BeeErrorCode := .other 14
@[match_pattern] abbrev BeeErrorCode.sessionNotOpened : BeeErrorCode := .other 15
@[match_pattern] abbrev BeeErrorCode.readFail : BeeErrorCode := .other 26
@[match_pattern] abbrev BeeErrorCode.cryptoError : BeeErrorCode := .other 31
@[match_pattern] abbrev BeeErrorCode.decompressError : BeeErrorCode := .other 32
@[match_pattern] abbrev BeeErrorCode.signatureError : BeeErrorCode := .other 33
@[match_pattern] abbrev BeeErrorCode.invalidProtocolMark : BeeErrorCode := .other 34
@[match_pattern] abbrev BeeErrorCode.invalidMessage : BeeErrorCode := .other 35
@[match_pattern] abbrev BeeErrorCode.notFound : BeeErrorCode := .other 53
@[match_pattern] abbrev BeeErrorCode.serviceNotSupported : BeeErrorCode := .other 54
@[match_pattern] abbrev BeeErrorCode.serviceNotRegistered : BeeErrorCode := .other 55

/-- `boost::system::error_code`. -/
inductive ErrorCode where
  | none
  | eof
  | timedOut
  | operationAborted
  | other (value : Nat)
  deriving DecidableEq

/-- `error_code::operator bool`. -/
def ErrorCode.isError (ec : ErrorCode) : Bool := ec ≠ .none

structure StateEvent where
  ec1 : BeeErrorCode := .success
  ec2 : ErrorCode := .none
  setup : Bool := false
  data : List UInt8 := []
  deriving DecidableEq

def kInvalidState : Int := -1
def kFinishedState : Int := -2

/-- What a state is set up with: its router, its transforms, and the `output`
of its machine. A transform also answers for `AsyncStateMachine::switch_to_state`,
which looks the next state up, lets the transform fill its input event and posts
its `execute`. -/
structure Wiring (Machine : Type) where
  router : Option (StateEvent → Machine → Int × StateEvent × Machine)
  transform : Int → Option (StateEvent → Machine → Bool × StateEvent × Machine)
  output : StateEvent → Machine → Machine

variable {Machine : Type}

/-- What `switch_to_next` does before it may call `output`. -/
def route (wiring : Wiring Machine) (event : StateEvent) (machine : Machine) :
    Bool × StateEvent × Machine :=
  if ¬ event.setup then (false, event, machine)
  else match wiring.router with
    | none => (false, { event with ec1 := .errorStateMachine }, machine)
    | some router =>
      let (next, event, machine) := router event machine
      if next = kInvalidState then
        let ec1 := if event.ec1 = .success then .stateMachineInterrupted else event.ec1
        (false, { event with ec1 }, machine)
      else if next = kFinishedState then
        (false, { event with ec1 := .stateMachineFinished }, machine)
      else match wiring.transform next with
        | none => (false, { event with ec1 := .errorStateMachine }, machine)
        | some transform => transform event machine

section

variable {wiring : Wiring Machine} {event other : StateEvent} {machine next : Machine}
variable {router : StateEvent → Machine → Int × StateEvent × Machine}

theorem route_unset (unset : event.setup = false) :
    route wiring event machine = (false, event, machine) := by
  rw [route, if_pos (by simp [unset])]

/-- An event that is set up goes to the router, and what it names decides. -/
theorem route_set (setup : event.setup = true) (held : wiring.router = some router)
    (routed : router event machine = (target, other, next)) :
    route wiring event machine =
      if target = kInvalidState then
        (false, { other with
          ec1 := if other.ec1 = .success then .stateMachineInterrupted else other.ec1 }, next)
      else if target = kFinishedState then
        (false, { other with ec1 := .stateMachineFinished }, next)
      else match wiring.transform target with
        | none => (false, { other with ec1 := .errorStateMachine }, next)
        | some transform => transform other next := by
  rw [route, if_neg (by simp [setup]), held]
  dsimp only
  rw [routed]

/-- A router that refuses leaves an event that names the reason. -/
theorem route_refused (machine : Machine) (setup : event.setup = true)
    (held : wiring.router = some router) (refuses : router event machine = (kInvalidState, other, next)) :
    ∃ named : StateEvent, named.ec1 ≠ .success ∧
      route wiring event machine = (false, named, next) := by
  rw [route_set setup held refuses, if_pos rfl]
  refine ⟨_, ?_, rfl⟩
  dsimp only
  split
  · decide
  · assumption

theorem route_finished (machine : Machine) (setup : event.setup = true)
    (held : wiring.router = some router) (finishes : router event machine = (kFinishedState, other, next)) :
    ∃ named : StateEvent, named.ec1 ≠ .success ∧
      route wiring event machine = (false, named, next) := by
  rw [route_set setup held finishes, if_neg (by decide), if_pos rfl]
  exact ⟨{ other with ec1 := .stateMachineFinished }, by simp, rfl⟩

theorem route_transformed (setup : event.setup = true) (held : wiring.router = some router)
    (goes : router event machine = (target, other, next)) (valid : target ≠ kInvalidState)
    (unfinished : target ≠ kFinishedState) (found : wiring.transform target = some transform) :
    route wiring event machine = transform other next := by
  rw [route_set setup held goes, if_neg valid, if_neg unfinished, found]

end

/-- `State::switch_to_next`: whether the machine advanced, and what is left of
the output event. -/
def switchToNext (wiring : Wiring Machine) (event : StateEvent) (machine : Machine) :
    Bool × StateEvent × Machine :=
  let (advanced, event, machine) := route wiring event machine
  if advanced then (true, event, machine) else (false, event, wiring.output event machine)

/-- `State::done(ec1, ec2)`. -/
def done (wiring : Wiring Machine) (ec1 : BeeErrorCode) (ec2 : ErrorCode) (event : StateEvent)
    (machine : Machine) : Bool × StateEvent × Machine :=
  switchToNext wiring { event with ec1, ec2 } machine

end BeeSdk.StateMachine
