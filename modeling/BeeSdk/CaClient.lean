import BeeSdk.CaReplies
import BeeSdk.SendQueue
import BeeSdk.TcpConnect

/-! `CAClient`: the machine that resolves and connects to a CA server and then, for
each of the four replies, sends a request and receives the answer. An event asks the
client, completes one operation it waits for, in any order and with any result, or is
a tick of a timer that runs. -/
namespace BeeSdk.CaClient
open ByteOrder CaSignature CaReplies SendQueue StateMachine TcpConnect

def CLIENT_CA_PUBLIC_KEY : Nat := 0x10
def CLIENT_CA_SIGNATURE : Nat := 0x11
def CLIENT_REQUEST_ENCRYPT_KEY_WITH_STR : Nat := 0x13
def CLIENT_REQUEST_LUA : Nat := 0x14

/-- "new_live". -/
def DRM_LUA_NAME : List UInt8 := [110, 101, 119, 95, 108, 105, 118, 101]

def kClientPubPkgLen : Nat := kCAHeaderLen + PUBLIC_KEY_LENGTH

def kCAService : String := "80"

def kBackupCAIps : List String :=
  ["220.181.119.4", "111.13.123.133", "61.135.131.77", "220.181.119.4", "111.13.123.133"]

def kBackupCAIpCount : Nat := kBackupCAIps.length

/-! ### The states -/

/-- The states; one pair sends and receives for each reply. -/
inductive CAState where
  | resolve
  | connectCA
  | send (reply : Reply)
  | rcv (reply : Reply)
  deriving DecidableEq

def CAState.id : CAState → Int
  | .resolve => eCAState_Resolve
  | .connectCA => eCAState_ConnectCA
  | .send .pubKey => eCAState_SendPubKey
  | .rcv .pubKey => eCAState_RcvPubKey
  | .send .signature => eCAState_SendSignature
  | .rcv .signature => eCAState_RcvSignature
  | .send .shareKey => eCAState_RequestShareKey
  | .rcv .shareKey => eCAState_RcvShareKey
  | .send .lua => eCAState_RequestLua
  | .rcv .lua => eCAState_RcvLua

/-- `TcpResolveState`, its input and the event it is done with. -/
structure TcpResolveState (Endpoint : Type) where
  setup : Bool := false
  host : String := ""
  service : String := ""
  outputEvent : StateEvent := {}
  resolvedEndpoints : List Endpoint := []

/-- A `TcpSendState` and the data it is given. -/
structure SendState where
  setup : Bool := false
  data : IOBuffer := {}
  state : TcpSendState := {}

/-- A `TcpReceiveTlvState`, with the error codes of its output event. -/
structure RcvState where
  state : ReceiveTlv.TcpReceiveTlvState := {}
  ec1 : BeeErrorCode := .success
  ec2 : ErrorCode := .none

/-- An operation the client waits for. A connect carries the index its handler is
bound to. -/
inductive Operation where
  | requestCore (host service : String) (timeout : Int)
  | execute (state : CAState)
  | resolve
  | connect (index : Nat)
  | write (reply : Reply)
  | readLength (reply : Reply)
  | readData (reply : Reply)
  deriving DecidableEq

/-- What has happened: the connect state called `done`, the handler of a reply was
called, or the `CAHandler` was told something. -/
inductive Entry (Rsa : Type) where
  | connectDone (ec1 : BeeErrorCode) (ec2 : ErrorCode)
  | replied (reply : Reply) (client : CAClient Rsa) (ev : Received)
  | told (told : Told)

/-- The client with its machine and its states; `requests` counts how often it has
been asked. -/
structure Exchange (Rsa Endpoint : Type) where
  client : CAClient Rsa := {}
  fsm : TcpStateMachine := {}
  criobuff : IOBuffer := IOBuffer.ofCapacity ReceiveTlv.kDefaultReadBuffLen
  rcvStreambuf : List UInt8 := []
  sockets : Nat := 0
  currentStateId : Int := -1
  connectTimeout : Int := -1
  usingBackupCaAddr : Bool := false
  /-- Static in the source: earlier clients have left it. -/
  lastConnectedBackupCaIndex : Int := 0
  resolve : TcpResolveState Endpoint := {}
  connect : TcpConnectState Endpoint := {}
  sends : Reply → SendState := fun _ => {}
  rcvs : Reply → RcvState := fun _ => {}
  requests : Nat := 0
  pending : List Operation := []
  timers : List Nat := []
  nextTimer : Nat := 0
  log : List (Entry Rsa) := []

/-- What lies around the client: the functions of the libraries, and the endpoint an
address and a service stand for. -/
structure Surroundings (Rsa Endpoint : Type) where
  crypto : Crypto Rsa
  rsaSize : Rsa → Nat
  publicEncrypt : Rsa → List UInt8 → Option (List UInt8)
  address : String → String → Option Endpoint

/-- A key `rsa_generate_key` makes, and its text. -/
structure GeneratedKey (Rsa : Type) where
  rsa : Rsa
  publicKey : List UInt8
  long : sizeofBeginPublicKey + 128 ≤ publicKey.length

/-- What one step is answered: the clock, the key generator and the `CAHandler`. -/
structure Answers (Rsa : Type) where
  tickcount : UInt32
  generated : Option (GeneratedKey Rsa)
  handler : CAHandler

/-- How an operation completes. -/
inductive Completion (Endpoint : Type) where
  | executed
  | resolved (ec2 : ErrorCode) (endpoints : List Endpoint)
  | connected (ec2 : ErrorCode)
  | written (ec2 : ErrorCode) (bytesTransferred : Nat)
  | received (ec2 : ErrorCode) (bytes : List UInt8)

inductive Event (Rsa Endpoint : Type) where
  | asks (host service : String) (timeout : Int)
  | completes (position : Nat) (completion : Completion Endpoint) (answers : Answers Rsa)
  | ticks (timer : Nat) (answers : Answers Rsa)

section Machine

variable {Rsa Endpoint : Type}

namespace Exchange

def note (exchange : Exchange Rsa Endpoint) (entry : Entry Rsa) : Exchange Rsa Endpoint :=
  { exchange with log := exchange.log ++ [entry] }

def await (exchange : Exchange Rsa Endpoint) (operation : Operation) : Exchange Rsa Endpoint :=
  { exchange with pending := exchange.pending ++ [operation] }

/-- What `AsyncStateMachine::switch_to_state` does once the transform agrees. -/
def post (exchange : Exchange Rsa Endpoint) (state : CAState) : Exchange Rsa Endpoint :=
  { exchange with currentStateId := state.id }.await (.execute state)

def setSend (exchange : Exchange Rsa Endpoint) (reply : Reply) (send : SendState) :
    Exchange Rsa Endpoint :=
  { exchange with sends := fun other => if other = reply then send else exchange.sends other }

def setRcv (exchange : Exchange Rsa Endpoint) (reply : Reply) (rcv : RcvState) :
    Exchange Rsa Endpoint :=
  { exchange with rcvs := fun other => if other = reply then rcv else exchange.rcvs other }

/-- What `reset_caches` does beside the caches for writing. -/
def resetReading (exchange : Exchange Rsa Endpoint) : Exchange Rsa Endpoint :=
  { exchange with criobuff := exchange.criobuff.clear, rcvStreambuf := [] }

/-- What a receiving state sees of the machine. -/
def receiving (exchange : Exchange Rsa Endpoint) : ReceiveTlv.TcpStateMachine :=
  ⟨exchange.fsm.connected, exchange.criobuff, exchange.rcvStreambuf⟩

/-- `CAClient::output`, with the handler still there. -/
def output (event : StateEvent) (exchange : Exchange Rsa Endpoint) : Exchange Rsa Endpoint :=
  if event.ec1 ≠ .success ∧ event.ec1 ≠ .stateMachineFinished then
    exchange.note (.told (.handleCaData event.ec1 event.ec2 [] [] [] 0))
  else exchange

/-! ### Routers -/

/-- `handle_Resolve`. -/
def handleResolve (event : StateEvent) (exchange : Exchange Rsa Endpoint) :
    Int × StateEvent × Exchange Rsa Endpoint :=
  let exchange := if event.ec1 ≠ .success ∨ event.ec2.isError then
      { exchange with usingBackupCaAddr := 0 < kBackupCAIpCount }
    else exchange
  (eCAState_ConnectCA, event, exchange)

/-- `generate_client_rsa_key`. -/
def generateClientRsaKey (exchange : Exchange Rsa Endpoint) (answers : Answers Rsa) :
    Bool × Exchange Rsa Endpoint :=
  if exchange.client.clientRsa.isSome then (true, exchange)
  else
    match answers.generated with
    | none => (false, exchange)
    | some key =>
      (true, { exchange with client := { exchange.client with
        clientRsa := some key.rsa, clientPublicKey := key.publicKey, generated := .inr key.long } })

/-- `handle_ConnectCA`. -/
def handleConnectCA (answers : Answers Rsa) (event : StateEvent)
    (exchange : Exchange Rsa Endpoint) : Int × StateEvent × Exchange Rsa Endpoint :=
  if event.ec1 ≠ .success ∨ event.ec2.isError then (kInvalidState, event, exchange)
  else
    let (generated, exchange) := exchange.generateClientRsaKey answers
    if ¬ generated then (kInvalidState, { event with ec1 := .cryptoError }, exchange)
    else if exchange.usingBackupCaAddr then
      (eCAState_SendPubKey, event,
        { exchange with lastConnectedBackupCaIndex := exchange.connect.outputEvent.index })
    else (eCAState_SendPubKey, event, exchange)

/-- What the routers of the sending states share. -/
def handleSent (next : Int) (event : StateEvent) (exchange : Exchange Rsa Endpoint) :
    Int × StateEvent × Exchange Rsa Endpoint :=
  if event.ec1 ≠ .success ∨ event.ec2.isError then (kInvalidState, event, exchange)
  else (next, event, exchange)

/-- `handle_SendPubKey`. -/
def handleSendPubKey (event : StateEvent) (exchange : Exchange Rsa Endpoint) :=
  handleSent eCAState_RcvPubKey event exchange

/-- `handle_SendSignature`. -/
def handleSendSignature (event : StateEvent) (exchange : Exchange Rsa Endpoint) :=
  handleSent eCAState_RcvSignature event exchange

/-- `handle_RequestShareKey`. -/
def handleRequestShareKey (event : StateEvent) (exchange : Exchange Rsa Endpoint) :=
  handleSent eCAState_RcvShareKey event exchange

/-- `handle_RequestLua`. -/
def handleRequestLua (event : StateEvent) (exchange : Exchange Rsa Endpoint) :=
  handleSent eCAState_RcvLua event exchange

def sentRouter : Reply → StateEvent → Exchange Rsa Endpoint →
    Int × StateEvent × Exchange Rsa Endpoint
  | .pubKey => handleSendPubKey
  | .signature => handleSendSignature
  | .shareKey => handleRequestShareKey
  | .lua => handleRequestLua

/-- What the handler of a reply finds. -/
def received (exchange : Exchange Rsa Endpoint) (reply : Reply) (event : StateEvent) : Received :=
  let outputEvent := (exchange.rcvs reply).state.outputEvent
  ⟨event.ec1, event.ec2, if outputEvent.setup then some outputEvent.rcvBuffer else none⟩

/-- `handle_RcvPubKey`, `handle_RcvSignature`, `handle_RcvShareKey` and `handle_RcvLua`. -/
def handleRcv (surroundings : Surroundings Rsa Endpoint) (answers : Answers Rsa) (reply : Reply)
    (event : StateEvent) (exchange : Exchange Rsa Endpoint) :
    Option (Int × StateEvent × Exchange Rsa Endpoint) :=
  let ev := exchange.received reply event
  (reply.handle surroundings.crypto answers.tickcount (some answers.handler) exchange.client ev).map
    fun (_, handled) =>
      (handled.next, { event with ec1 := handled.ec1 }, { exchange with
        client := handled.client
        log := exchange.log ++ .replied reply exchange.client ev :: handled.told.map .told })

/-! ### Transforms -/

/-- `Transform_Resolve_To_ConnectCA`. -/
def transformResolveToConnectCA (surroundings : Surroundings Rsa Endpoint) (event : StateEvent)
    (exchange : Exchange Rsa Endpoint) : Bool × StateEvent × Exchange Rsa Endpoint :=
  let resolvedEndpoints :=
    if exchange.resolve.resolvedEndpoints = [] ∧ exchange.usingBackupCaAddr ∧ 0 < kBackupCAIpCount then
      kBackupCAIps.filterMap fun ip => surroundings.address ip kCAService
    else exchange.resolve.resolvedEndpoints
  let startIndex :=
    if exchange.usingBackupCaAddr ∧ exchange.lastConnectedBackupCaIndex ≥ 0 ∧
        exchange.lastConnectedBackupCaIndex < kBackupCAIpCount then
      exchange.lastConnectedBackupCaIndex
    else exchange.connect.inputEvent.startIndex
  let inputEvent := {
    setup := true, endpoints := resolvedEndpoints, startIndex
    connectTimeout := exchange.connectTimeout }
  (true, event, { exchange with
    resolve := { exchange.resolve with resolvedEndpoints }
    connect := { exchange.connect with inputEvent } }.post .connectCA)

/-- A packed `CAHeader`. -/
def header (length code : Nat) : List UInt8 :=
  storeLittle 2 (ntohs length) ++ UInt8.ofNat code :: storeLittle 4 (ntohl CA_MARK)

/-- `Transform_ConnectCA_To_SendPubKey`. -/
def transformConnectCAToSendPubKey (event : StateEvent) (exchange : Exchange Rsa Endpoint) :
    Option (Bool × StateEvent × Exchange Rsa Endpoint) :=
  let publicKey := exchange.client.clientPublicKey
  if publicKey = [] then some (false, event, exchange)
  else
    let data := IOBuffer.ofCapacity kClientPubPkgLen
    let pkg := header kClientPubPkgLen CLIENT_CA_PUBLIC_KEY ++ publicKey.take PUBLIC_KEY_LENGTH
    (RingMemory.copyIn data.buffer 0 pkg).map fun buffer =>
      let send := { exchange.sends .pubKey with data := { data with buffer }, setup := true }
      (true, event, (exchange.setSend .pubKey send).post (.send .pubKey))

/-- `rsa_encrypt` with `RSA_PKCS1_PADDING`; nothing where it fails. -/
def rsaEncrypt (surroundings : Surroundings Rsa Endpoint) (rsa : Option Rsa) (inData : List UInt8) :
    Option (List UInt8) :=
  rsa.bind fun rsa =>
    if inData = [] then none
    else
      let limit := UInt32.ofNat (surroundings.rsaSize rsa) - 11
      let inLen := UInt32.ofNat inData.length
      let realLen := if inLen > limit then limit else inLen
      surroundings.publicEncrypt rsa (inData.take realLen.toNat)

/-- `output->data` of a transform that wants 1024 bytes. -/
def roomyData (data : IOBuffer) : IOBuffer :=
  if data.size < 1024 then IOBuffer.ofCapacity 1024 else data

/-- What the two transforms that encrypt share. -/
def transformEncrypted (surroundings : Surroundings Rsa Endpoint) (reply : Reply) (code : Nat)
    (plain : List UInt8) (event : StateEvent) (exchange : Exchange Rsa Endpoint) :
    Option (Bool × StateEvent × Exchange Rsa Endpoint) :=
  let data := roomyData (exchange.sends reply).data
  match rsaEncrypt surroundings exchange.client.serverRsa plain with
  | none =>
    some (false, { event with ec1 := .cryptoError },
      exchange.setSend reply { exchange.sends reply with data })
  | some out =>
    let len := (kCAHeaderLen + out.length) % 2 ^ 16
    (RingMemory.copyIn data.buffer (data.beginOffset + kCAHeaderLen) out).bind fun buffer =>
    (RingMemory.copyIn buffer data.beginOffset (header len code)).map fun buffer =>
      let data := { data with buffer }
      let data := if len < data.capacity then data.resize len else data
      let send := { exchange.sends reply with data, setup := true }
      (true, event, (exchange.setSend reply send).post (.send reply))

/-- `Transform_RcvPubKey_To_SendSignature`. -/
def transformRcvPubKeyToSendSignature (surroundings : Surroundings Rsa Endpoint)
    (event : StateEvent) (exchange : Exchange Rsa Endpoint) :
    Option (Bool × StateEvent × Exchange Rsa Endpoint) :=
  transformEncrypted surroundings .signature CLIENT_CA_SIGNATURE exchange.client.signature.memory
    event exchange

/-- `Transform_RcvSignature_To_RequestShareKey`. -/
def transformRcvSignatureToRequestShareKey (surroundings : Surroundings Rsa Endpoint)
    (event : StateEvent) (exchange : Exchange Rsa Endpoint) :
    Option (Bool × StateEvent × Exchange Rsa Endpoint) :=
  transformEncrypted surroundings .shareKey CLIENT_REQUEST_ENCRYPT_KEY_WITH_STR DRM_LUA_NAME
    event exchange

/-- `Transform_RcvShareKey_To_RequestLua`. -/
def transformRcvShareKeyToRequestLua (event : StateEvent) (exchange : Exchange Rsa Endpoint) :
    Option (Bool × StateEvent × Exchange Rsa Endpoint) :=
  let data := roomyData (exchange.sends .lua).data
  (RingMemory.copyIn data.buffer data.beginOffset (header kCAHeaderLen CLIENT_REQUEST_LUA)).map
    fun buffer =>
      let data := { data with buffer }.resize kCAHeaderLen
      let send := { exchange.sends .lua with data, setup := true }
      (true, event, (exchange.setSend .lua send).post (.send .lua))

/-- `Transform_To_RcvTlv` and `Transform_To_RcvBigTlv`. -/
def transformToRcv (reply : Reply) (event : StateEvent) (exchange : Exchange Rsa Endpoint) :
    Bool × StateEvent × Exchange Rsa Endpoint :=
  let rcv := exchange.rcvs reply
  let rcv := { rcv with state := { rcv.state with inputEvent := reply.inputEvent } }
  (true, event, (exchange.setRcv reply rcv).post (.rcv reply))

/-! ### The wiring -/

/-- What a router or a transform comes to on a machine that may have become
undefined. -/
def onDefined {Answer : Type} (otherwise : Answer)
    (act : StateEvent → Exchange Rsa Endpoint → Option (Answer × StateEvent × Exchange Rsa Endpoint))
    (event : StateEvent) (machine : Option (Exchange Rsa Endpoint)) :
    Answer × StateEvent × Option (Exchange Rsa Endpoint) :=
  match machine.bind (act event) with
  | some (answer, event, exchange) => (answer, event, some exchange)
  | none => (otherwise, event, none)

def router (surroundings : Surroundings Rsa Endpoint) (answers : Answers Rsa) (state : CAState)
    (event : StateEvent) (exchange : Exchange Rsa Endpoint) :
    Option (Int × StateEvent × Exchange Rsa Endpoint) :=
  match state with
  | .resolve => some (handleResolve event exchange)
  | .connectCA => some (handleConnectCA answers event exchange)
  | .send reply => some (sentRouter reply event exchange)
  | .rcv reply => handleRcv surroundings answers reply event exchange

/-- The `SWITCH_TO` of a state; `RcvLua` has none. -/
def transform (surroundings : Surroundings Rsa Endpoint) (state : CAState) :
    Option (Int × (StateEvent → Exchange Rsa Endpoint →
      Option (Bool × StateEvent × Exchange Rsa Endpoint))) :=
  match state with
  | .resolve => some (eCAState_ConnectCA, fun event exchange =>
      some (transformResolveToConnectCA surroundings event exchange))
  | .connectCA => some (eCAState_SendPubKey, transformConnectCAToSendPubKey)
  | .send reply => some ((CAState.rcv reply).id, fun event exchange =>
      some (transformToRcv reply event exchange))
  | .rcv .pubKey => some (eCAState_SendSignature, transformRcvPubKeyToSendSignature surroundings)
  | .rcv .signature =>
    some (eCAState_RequestShareKey, transformRcvSignatureToRequestShareKey surroundings)
  | .rcv .shareKey => some (eCAState_RequestLua, transformRcvShareKeyToRequestLua)
  | .rcv .lua => none

def wiring (surroundings : Surroundings Rsa Endpoint) (answers : Answers Rsa) (state : CAState) :
    Wiring (Option (Exchange Rsa Endpoint)) where
  router := some (onDefined kInvalidState (router surroundings answers state))
  transform := fun target => (transform surroundings state).bind fun (next, act) =>
    if target = next then some (onDefined false act) else none
  output := fun event machine => machine.map (output event)

/-- The output event of a state. -/
def outputEvent (exchange : Exchange Rsa Endpoint) : CAState → StateEvent
  | .resolve => exchange.resolve.outputEvent
  | .connectCA => exchange.connect.outputEvent.event
  | .send reply => (exchange.sends reply).state.outputEvent
  | .rcv reply =>
    let rcv := exchange.rcvs reply
    { ec1 := rcv.ec1, ec2 := rcv.ec2, setup := rcv.state.outputEvent.setup }

def setOutputEvent (exchange : Exchange Rsa Endpoint) (state : CAState) (event : StateEvent) :
    Exchange Rsa Endpoint :=
  match state with
  | .resolve => { exchange with resolve := { exchange.resolve with outputEvent := event } }
  | .connectCA => { exchange with connect := { exchange.connect with
      outputEvent := { exchange.connect.outputEvent with event } } }
  | .send reply =>
    let send := exchange.sends reply
    exchange.setSend reply { send with state := { send.state with outputEvent := event } }
  | .rcv reply =>
    exchange.setRcv reply { exchange.rcvs reply with ec1 := event.ec1, ec2 := event.ec2 }

variable (surroundings : Surroundings Rsa Endpoint) (answers : Answers Rsa)

/-- `State::done()` of one of the states. -/
def doneSetUp (exchange : Exchange Rsa Endpoint) (state : CAState) : Option (Exchange Rsa Endpoint) :=
  let (_, event, machine) :=
    switchToNext (wiring surroundings answers state) (exchange.outputEvent state) (some exchange)
  machine.map fun exchange => exchange.setOutputEvent state event

/-- `State::done(ec1, ec2)`. -/
def done (exchange : Exchange Rsa Endpoint) (state : CAState) (ec1 : BeeErrorCode)
    (ec2 : ErrorCode) : Option (Exchange Rsa Endpoint) :=
  (exchange.setOutputEvent state { exchange.outputEvent state with ec1, ec2 }).doneSetUp
    surroundings answers state

/-! ### Resolving and connecting -/

/-- `TcpResolveState::execute`. -/
def executeResolve (exchange : Exchange Rsa Endpoint) :
    Option (BeeErrorCode × Exchange Rsa Endpoint) :=
  let resolve := exchange.resolve
  if ¬ resolve.setup then some (.invalidParam, exchange)
  else
    match surroundings.address resolve.host resolve.service with
    | some endpoint =>
      let resolve := { resolve with
        resolvedEndpoints := resolve.resolvedEndpoints ++ [endpoint]
        outputEvent := { resolve.outputEvent with setup := true } }
      ({ exchange with resolve }.doneSetUp surroundings answers .resolve).map fun exchange =>
        (.success, exchange)
    | none => some (.success, exchange.await .resolve)

/-- `TcpResolveState::handle_resolve`. -/
def resolveHandled (exchange : Exchange Rsa Endpoint) (ec2 : ErrorCode) (endpoints : List Endpoint) :
    Option (Exchange Rsa Endpoint) :=
  let ec1 := if endpoints = [] then .resolveFail else .success
  let resolve := { exchange.resolve with
    resolvedEndpoints := exchange.resolve.resolvedEndpoints ++ endpoints
    outputEvent := { exchange.resolve.outputEvent with ec1, ec2, setup := true } }
  { exchange with resolve }.done surroundings answers .resolve ec1 ec2

def performConnect (exchange : Exchange Rsa Endpoint) :
    TcpConnect.Command Endpoint → Option (Exchange Rsa Endpoint)
  | .asyncConnect _ index => some (exchange.await (.connect index))
  | .startTimer timer => some { exchange with timers := timer :: exchange.timers }
  | .cancelTimer timer => some { exchange with timers := exchange.timers.filter (· ≠ timer) }
  | .resetSocket => some { exchange.resetReading with
      fsm := exchange.fsm.resetSocket true exchange.sockets, sockets := exchange.sockets + 1 }
  -- The client is not set up for TLS and has no socket to shake hands on.
  | .asyncHandshake => none
  | .setConnected => some { exchange with fsm := { exchange.fsm with connected := true } }
  | .done ec1 ec2 =>
    (exchange.note (.connectDone ec1 ec2)).done surroundings answers .connectCA ec1 ec2

def afterConnect (exchange : Exchange Rsa Endpoint) (outcome : TcpConnect.Outcome Endpoint) :
    Option (Exchange Rsa Endpoint) :=
  outcome.2.foldlM (performConnect surroundings answers) { exchange with connect := outcome.1 }

def executeConnect (exchange : Exchange Rsa Endpoint) :
    Option (BeeErrorCode × Exchange Rsa Endpoint) :=
  let (code, outcome) := exchange.connect.execute exchange.nextTimer
  ({ exchange with nextTimer := exchange.nextTimer + 1 }.afterConnect surroundings answers
    outcome).map fun exchange => (code, exchange)

/-! ### Sending and receiving -/

/-- What is handed to the socket is waited for. -/
def hand (exchange : Exchange Rsa Endpoint) (reply : Reply) (handed : Option (Nat × List UInt8)) :
    Exchange Rsa Endpoint :=
  if handed.isSome then exchange.await (.write reply) else exchange

/-- `TcpSendState::execute`. -/
def executeSend (exchange : Exchange Rsa Endpoint) (reply : Reply) :
    Option (BeeErrorCode × Exchange Rsa Endpoint) :=
  if ¬ (exchange.sends reply).setup then some (.invalidParam, exchange)
  else if ¬ exchange.fsm.connected then some (.notConnected, exchange)
  else (exchange.fsm.asyncWrite (exchange.sends reply).data).map fun (handed, fsm) =>
    (.success, { exchange with fsm }.hand reply handed)

/-- `TcpSendState::handle_write`. -/
def handleWrite (exchange : Exchange Rsa Endpoint) (reply : Reply) (ec2 : ErrorCode)
    (bytesTransferred : Nat) : Option (Exchange Rsa Endpoint) :=
  let send := exchange.sends reply
  (send.state.handleWrite exchange.fsm ec2 bytesTransferred).bind fun handled =>
    let exchange := ({ exchange with fsm := handled.fsm }.setSend reply
      { send with state := handled.state }).hand reply handled.handed
    match handled.done with
    | some ended => exchange.done surroundings answers (.send reply) ended.ec1 ended.ec2
    | none => some exchange

/-- What a call of a receiving state leaves. -/
def left (exchange : Exchange Rsa Endpoint) (reply : Reply) (outcome : ReceiveTlv.Outcome) :
    Exchange Rsa Endpoint :=
  { exchange with criobuff := outcome.fsm.criobuff, rcvStreambuf := outcome.fsm.rcvStreambuf }.setRcv
    reply { exchange.rcvs reply with state := outcome.state }

/-- `TcpReceiveTlvState::execute`. -/
def executeRcv (exchange : Exchange Rsa Endpoint) (reply : Reply) :
    BeeErrorCode × Exchange Rsa Endpoint :=
  let outcome := (exchange.rcvs reply).state.execute exchange.receiving
  let exchange := exchange.left reply outcome
  (outcome.code, if outcome.read.isSome then exchange.await (.readLength reply) else exchange)

/-- `handle_read_length`, with what was read in the stream buffer. -/
def handleReadLength (exchange : Exchange Rsa Endpoint) (reply : Reply) (ec2 : ErrorCode)
    (bytes : List UInt8) : Option (Exchange Rsa Endpoint) :=
  let exchange := { exchange with rcvStreambuf := exchange.rcvStreambuf ++ bytes }
  ((exchange.rcvs reply).state.handleReadLength exchange.receiving ec2 bytes.length).bind
    fun outcome =>
      let exchange := exchange.left reply outcome
      if outcome.code = .success then some (exchange.await (.readData reply))
      else exchange.done surroundings answers (.rcv reply) outcome.code ec2

/-- `handle_read_data`. -/
def handleReadData (exchange : Exchange Rsa Endpoint) (reply : Reply) (ec2 : ErrorCode)
    (bytes : List UInt8) : Option (Exchange Rsa Endpoint) :=
  let exchange := { exchange with rcvStreambuf := exchange.rcvStreambuf ++ bytes }
  ((exchange.rcvs reply).state.handleReadData exchange.receiving ec2 bytes.length).bind
    fun outcome =>
      (exchange.left reply outcome).done surroundings answers (.rcv reply) outcome.code ec2

/-! ### Steps -/

/-- `AsyncStateMachine::execute_state`. -/
def executeState (exchange : Exchange Rsa Endpoint) (state : CAState) :
    Option (Exchange Rsa Endpoint) :=
  let executed := match state with
    | .resolve => exchange.executeResolve surroundings answers
    | .connectCA => exchange.executeConnect surroundings answers
    | .send reply => exchange.executeSend reply
    | .rcv reply => some (exchange.executeRcv reply)
  executed.map fun (code, exchange) =>
    if code ≠ .success then
      let event := { exchange.outputEvent state with ec1 := code }
      output event (exchange.setOutputEvent state event)
    else exchange

/-- `TcpStateMachine::active` and `AsyncStateMachine::activate_state_machine`. -/
def active (exchange : Exchange Rsa Endpoint) (host service : String) :
    Bool × Exchange Rsa Endpoint :=
  if host = "" ∨ service = "" then (false, exchange)
  else
    let exchange := { exchange with resolve := { exchange.resolve with host, service, setup := true } }
    if ¬ exchange.fsm.ios ∨ exchange.currentStateId ≠ -1 then (false, exchange)
    else (true, exchange.post .resolve)

/-- `TcpStateMachine::start`; the states are there from the beginning. -/
def start (exchange : Exchange Rsa Endpoint) (host service : String) : Bool × Exchange Rsa Endpoint :=
  let (opened, fsm) := exchange.fsm.setupSocket false true exchange.sockets
  if ¬ opened then (false, { exchange with fsm })
  else { exchange.resetReading with fsm, sockets := exchange.sockets + 1 }.active host service

/-- `CAClient::request_core`. -/
def requestCore (exchange : Exchange Rsa Endpoint) (host service : String) (timeout : Int) :
    Exchange Rsa Endpoint :=
  let (started, exchange) := { exchange with connectTimeout := timeout }.start host service
  if started then exchange
  else exchange.note (.told (.handleCaData .errorStateMachine .none [] [] [] 0))

/-- The handler an operation completes with, where the completion is one it can
have. -/
def complete (exchange : Exchange Rsa Endpoint) :
    Operation → Completion Endpoint → Option (Exchange Rsa Endpoint)
  | .requestCore host service timeout, .executed => some (exchange.requestCore host service timeout)
  | .execute state, .executed => exchange.executeState surroundings answers state
  | .resolve, .resolved ec2 endpoints => exchange.resolveHandled surroundings answers ec2 endpoints
  | .connect index, .connected ec2 =>
    exchange.afterConnect surroundings answers
      (exchange.connect.handleConnect exchange.fsm.isTls ec2 index)
  | .write reply, .written ec2 bytesTransferred =>
    exchange.handleWrite surroundings answers reply ec2 bytesTransferred
  | .readLength reply, .received ec2 bytes =>
    exchange.handleReadLength surroundings answers reply ec2 bytes
  | .readData reply, .received ec2 bytes =>
    exchange.handleReadData surroundings answers reply ec2 bytes
  | _, _ => none

/-- `CAClient::async_request_core`. -/
def asyncRequestCore (exchange : Exchange Rsa Endpoint) (host service : String) (timeout : Int) :
    BeeErrorCode × Exchange Rsa Endpoint :=
  if ¬ exchange.fsm.ios then (.serviceNotStarted, exchange)
  else (.success, { exchange with requests := exchange.requests + 1 }.await
    (.requestCore host service timeout))

/-- One step; there is none for an operation nobody waits for or a timer that does
not run. -/
def step (exchange : Exchange Rsa Endpoint) : Event Rsa Endpoint →
    Option (Unit × Exchange Rsa Endpoint)
  | .asks host service timeout => some ((), (exchange.asyncRequestCore host service timeout).2)
  | .completes position completion answers =>
    exchange.pending[position]?.bind fun operation =>
      ({ exchange with pending := exchange.pending.eraseIdx position }.complete surroundings answers
        operation completion).map fun exchange => ((), exchange)
  | .ticks timer answers =>
    if timer ∈ exchange.timers then
      (exchange.connect.handlePeriodTimeout exchange.fsm.isTls).bind fun outcome =>
        (exchange.afterConnect surroundings answers outcome).map fun exchange => ((), exchange)
    else none

/-- A new client. -/
def constructed (lastConnectedBackupCaIndex : Int) : Exchange Rsa Endpoint :=
  { lastConnectedBackupCaIndex }

end Exchange
end Machine

/-! ### What the handler is promised -/

section Promise

variable {Rsa Endpoint : Type}

/-- The handler is told how the request ends. -/
def Entry.notifies : Entry Rsa → Bool
  | .told (.handleCaData ..) => true
  | .told (.checkLuaMd5 _ same) => same
  | _ => false

def Entry.reports : Entry Rsa → Bool
  | .connectDone .. => true
  | _ => false

def Operation.asks : Operation → Bool
  | .requestCore .. => true
  | _ => false

namespace Exchange

def notified (exchange : Exchange Rsa Endpoint) : Nat := exchange.log.countP Entry.notifies

/-- The requests that have not been begun. -/
def waiting (exchange : Exchange Rsa Endpoint) : Nat := exchange.pending.countP Operation.asks

/-- No request is answered twice or before it has begun, and every one has been
answered when nothing is waited for and no timer runs. -/
structure EndsOnce (exchange : Exchange Rsa Endpoint) : Prop where
  atMost : exchange.notified + exchange.waiting ≤ exchange.requests
  ended : exchange.pending = [] → exchange.timers = [] → exchange.notified = exchange.requests

end Exchange

/-- A reply was handled as it has to be before a script may follow: the public key
accepted, the signature decrypted and found right, the share key decrypted. -/
inductive Proves (crypto : Crypto Rsa) : Reply → Entry Rsa → Prop where
  | pubKey (held : ev.rcvBuffer = some memory)
      (read : readBytes memory kCAHeaderLen PUBLIC_KEY_LENGTH = some (uses, pubKey))
      (accepted : (client.processServerRsaKey crypto pubKey).1 = true) :
      Proves crypto .pubKey (.replied .pubKey client ev)
  | signature (held : ev.rcvBuffer = some memory)
      (decrypted : decryptPayload crypto client memory = some (uses, some (decBuff, outLen)))
      (right : checkSignature crypto.digest decBuff (UInt32.ofNat outLen) client.serverPublicKey
        (UInt32.ofNat client.serverPublicKey.length) = some true) :
      Proves crypto .signature (.replied .signature client ev)
  | shareKey (held : ev.rcvBuffer = some memory)
      (decrypted : decryptPayload crypto client memory = some (uses, some (decBuff, outLen))) :
      Proves crypto .shareKey (.replied .shareKey client ev)

/-- The replies were handled as they have to be, in this order. -/
def Passed (crypto : Crypto Rsa) (replies : List Reply) (log : List (Entry Rsa)) : Prop :=
  ∃ entries, List.Sublist entries log ∧ List.Forall₂ (Proves crypto) replies entries

/-- Before the handler is given a script, key, signature and share key have passed. -/
def VerifiedFirst (crypto : Crypto Rsa) (log : List (Entry Rsa)) : Prop :=
  ∀ before after ec2 lua md5 gslbKey gslbTs,
    log = before ++ .told (.handleCaData .success ec2 lua md5 gslbKey gslbTs) :: after →
      Passed crypto [.pubKey, .signature, .shareKey] before

namespace Exchange

/-- The connect state has called `done`. -/
def Reported (exchange : Exchange Rsa Endpoint) : Prop := exchange.log.any Entry.reports = true

/-- A connect is stale by its index, or fails with a try left or as timed out. -/
def Retries (exchange : Exchange Rsa Endpoint) (ec2 : ErrorCode) : Operation → Prop
  | .connect index => index ≠ exchange.connect.index ∨ (ec2.isError = true ∧
      (exchange.connect.triedCount < exchange.connect.totalCount ∨ ec2 = .timedOut))
  | _ => True

/-- The connect state makes no report: a connect that completes is stale or makes it
try again, and a timer ticks before the total timeout. -/
def Silent (exchange : Exchange Rsa Endpoint) : Event Rsa Endpoint → Prop
  | .completes position (.connected ec2) _ =>
    ∀ operation ∈ exchange.pending[position]?, Retries exchange ec2 operation
  | .asks .. | .completes .. => True
  | .ticks .. =>
    exchange.connect.currentSpentTime + kTcpCheckConnectPeriod < exchange.connect.totalTimeout

def SilentAfterReport (exchange : Exchange Rsa Endpoint) (event : Event Rsa Endpoint) : Prop :=
  exchange.Reported → Silent exchange event

instance (exchange : Exchange Rsa Endpoint) : Decidable exchange.Reported :=
  inferInstanceAs (Decidable (_ = true))

instance (exchange : Exchange Rsa Endpoint) (ec2 : ErrorCode) (operation : Operation) :
    Decidable (Retries exchange ec2 operation) := by
  cases operation <;> unfold Retries <;> infer_instance

instance (exchange : Exchange Rsa Endpoint) (event : Event Rsa Endpoint) :
    Decidable (Silent exchange event) :=
  match event with
  | .completes _ (.connected _) _ => inferInstanceAs (Decidable (∀ operation ∈ _, Retries _ _ operation))
  | .completes _ .executed _ => isTrue trivial
  | .completes _ (.resolved _ _) _ => isTrue trivial
  | .completes _ (.written _ _) _ => isTrue trivial
  | .completes _ (.received _ _) _ => isTrue trivial
  | .asks .. => isTrue trivial
  | .ticks .. => inferInstanceAs (Decidable (_ < _))

instance (exchange : Exchange Rsa Endpoint) (event : Event Rsa Endpoint) :
    Decidable (SilentAfterReport exchange event) :=
  inferInstanceAs (Decidable (_ → _))

end Exchange
end Promise

end BeeSdk.CaClient
