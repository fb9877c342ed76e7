import BeeSdk.Runs

/-! The video room and the white board of the Android client, as far as they register
their service, join, leave and follow the network: calls of the application and of
the network monitor queue tasks on the one executor, `onNotWifiConnect` asks the user
on a thread of its own. What the native calls return is part of the request that runs
a task. -/
namespace BeeSdk.AndroidService

inductive ConnectionType where
  | none | wifi | other
  deriving DecidableEq

/-- `BeeVideoRoom` and `BeeWhiteBoard`. -/
inductive Service where
  | videoRoom | whiteBoard
  deriving DecidableEq

/-- The arguments of `join`, any of which may be null. -/
structure JoinArgs where
  roomName : Option String := none
  uid : Option String := none
  nickName : Option String := none
  creator : Bool := false
  role : Option Nat := none
  deriving DecidableEq

/-- Who asked: the application, or a change of the network. -/
inductive Origin where
  | application | connectivity
  deriving DecidableEq

/-- The runnables of the executor. `connect` carries whether its renderer opens,
`localJoin` is the result of an executed `Join`, and nothing depends on who asked for
a `leave`. -/
inductive Task where
  | join (args : JoinArgs)
  | reConnect
  | leave (origin : Origin)
  | connect (uid streamName : Option String) (view opens : Bool)
  | disconnect (uid streamName : Option String)
  | localJoin (origin : Origin)
  deriving DecidableEq

/-- Where the callback of the network monitor stands. -/
inductive Monitor where
  | idle | changed | left
  deriving DecidableEq

/-- What `nativeReg`, `nativeUnReg` and `nativeExecute` return: success or not. -/
structure Natives where
  reg : Bool := true
  unReg : Bool := true
  execute : Bool := true
  deriving DecidableEq

/-- What a task does that others can see: `registered` is the state of the native
service when the command is executed. -/
inductive Event where
  | executes (command : String) (registered success : Bool)
  | onJoin
  | onLeave
  | onConnect
  | onDisConnect
  deriving DecidableEq

/-- `registered` is the native service's side of `isRegister`, `netType` the network
monitor's, `asking` the threads in `onNotWifiConnect`. -/
structure State where
  service : Service
  token : Option String := some ""
  isAutoConnect : Bool := true
  isAllowNotWifiConnection : Bool := false
  isRegister : Bool := false
  registered : Bool := false
  netType : ConnectionType := .none
  currentNetType : ConnectionType := .none
  monitor : Monitor := .idle
  sink : Bool := true
  args : JoinArgs := {}
  queue : List Task := []
  asking : Nat := 0
  /-- The executed `Join`s whose result has not come. -/
  awaited : List Origin := []
  deriving DecidableEq

namespace State

def execute (state : State) (task : Task) : State := { state with queue := state.queue ++ [task] }

def isOnline (state : State) : Bool := state.netType ≠ .none

def isOnlineButNotWifi (state : State) : Bool := state.isOnline ∧ state.netType ≠ .wifi

def register (state : State) (natives : Natives) : State :=
  { state with isRegister := true, registered := state.registered || natives.reg }

def unRegister (state : State) (natives : Natives) : State :=
  { state with isRegister := false, registered := state.registered && !natives.unReg }

/-- A notification, if there is somebody to notify. -/
def notify (state : State) (event : Event) : List Event := if state.sink then [event] else []

def notWifiReConnect (state : State) : State :=
  if state.currentNetType = .none then state
  else if state.isAllowNotWifiConnection then state.execute .reConnect
  else { state with asking := state.asking + 1 }

/-- Whether `joinInternal` gets past its check of the arguments. -/
def accepts (state : State) (args : JoinArgs) : Bool :=
  args.roomName.isSome ∧ args.uid.isSome ∧ args.nickName.isSome ∧ state.token.isSome

/-- From the network check on. Offline the white board stops with success; a null role
throws. -/
def joinOnline (state : State) (origin : Origin) (natives : Natives) : List Event × State :=
  if ¬ state.isOnline then
    match state.service with
    | .videoRoom => (state.notify .onJoin, state)
    | .whiteBoard => ([], state)
  else if state.service = .videoRoom ∧ state.isOnlineButNotWifi ∧ ¬ state.isAllowNotWifiConnection then
    (state.notify .onJoin, state.notWifiReConnect)
  else if state.args.role = none then ([], state)
  else if natives.execute then
    ([.executes "Join" state.registered true], { state with awaited := origin :: state.awaited })
  else (.executes "Join" state.registered false :: state.notify .onJoin, state)

def joinInternal (state : State) (args : JoinArgs) (origin : Origin) (natives : Natives) :
    List Event × State :=
  if ¬ state.accepts args then (state.notify .onJoin, state)
  else if state.isRegister then { state with args }.joinOnline origin natives
  else
    let state := state.register natives
    if natives.reg then { state with args }.joinOnline origin natives
    else (state.notify .onJoin, state)

def reConnectInternal (state : State) (natives : Natives) : List Event × State :=
  state.joinInternal { state.args with creator := false } .connectivity natives

/-- The video room notifies what failed, the white board everything, and then nobody any
more. -/
def leaveInternal (state : State) (natives : Natives) : List Event × State :=
  let executed := if state.isRegister then [.executes "Leave" state.registered natives.execute] else []
  let failed := ¬ state.isRegister ∨ ¬ natives.execute
  let state := if state.isRegister then state.unRegister natives else state
  match state.service with
  | .videoRoom => (executed ++ if failed then state.notify .onLeave else [], state)
  | .whiteBoard => (executed ++ state.notify .onLeave, { state with sink := false })

def connectInternal (state : State) (uid streamName : Option String) (view opens : Bool)
    (natives : Natives) : List Event × State :=
  if uid = none ∨ streamName = none ∨ ¬ view then (state.notify .onConnect, state)
  else if ¬ state.isRegister ∨ ¬ opens then (state.notify .onConnect, state)
  else if natives.execute then ([.executes "ConnectStream" state.registered true], state)
  else (.executes "ConnectStream" state.registered false :: state.notify .onConnect, state)

def disconnectInternal (state : State) (uid streamName : Option String) (natives : Natives) :
    List Event × State :=
  if uid = none ∨ streamName = none then (state.notify .onDisConnect, state)
  else if ¬ state.isRegister then (state.notify .onDisConnect, state)
  else if natives.execute then ([.executes "DisconnectStream" state.registered true], state)
  else (.executes "DisconnectStream" state.registered false :: state.notify .onDisConnect, state)

def runTask (state : State) (natives : Natives) : Task → List Event × State
  | .join args => state.joinInternal args .application natives
  | .reConnect => state.reConnectInternal natives
  | .leave _ => state.leaveInternal natives
  | .connect uid streamName view opens => state.connectInternal uid streamName view opens natives
  | .disconnect uid streamName => state.disconnectInternal uid streamName natives
  | .localJoin _ => (state.notify .onJoin, state)

/-- The first part of `onConnectionTypeChanged`, up to its `leave`. -/
def onConnectionTypeChanged (state : State) : State :=
  match state.service with
  | .videoRoom =>
    if ¬ state.isAutoConnect then { state with monitor := .idle }
    else if state.currentNetType ≠ .none ∨ state.netType = .none then
      { state.execute (.leave .connectivity) with monitor := .left }
    else { state with monitor := .left }
  | .whiteBoard =>
    if state.netType = .none ∨ state.currentNetType ≠ .none then
      { state.execute (.leave .connectivity) with monitor := .left }
    else { state with monitor := .left }

/-- The rest of it. The video room sets `currentNetType` first, the white board last. -/
def connectionTypeChanged (state : State) : State :=
  match state.service with
  | .videoRoom =>
    let state := { state with currentNetType := state.netType, monitor := .idle }
    if state.netType = .wifi then state.execute .reConnect else state.notWifiReConnect
  | .whiteBoard =>
    let state := if state.netType = .none then state else state.execute .reConnect
    { state with currentNetType := state.netType, monitor := .idle }

/-- The thread behind `onNotWifiConnect` goes on with what the user said. -/
def onNotWifiConnect (state : State) (allows : Bool) : State :=
  let state := { state with asking := state.asking - 1 }
  if ¬ state.sink then state
  else
    let state := { state with isAllowNotWifiConnection := allows }
    if allows then state.execute .reConnect else state

end State

/-! ### Requests -/

/-- The calls of the application. -/
inductive Call where
  | join (args : JoinArgs)
  | leave
  | connect (uid streamName : Option String) (view opens : Bool)
  | disconnect (uid streamName : Option String)
  deriving DecidableEq

def Call.task : Call → Task
  | .join args => .join args
  | .leave => .leave .application
  | .connect uid streamName view opens => .connect uid streamName view opens
  | .disconnect uid streamName => .disconnect uid streamName

/-- Only the video room has streams to connect. -/
def Call.offered : Call → Service → Bool
  | .connect _ _ _ _, service | .disconnect _ _, service => service = .videoRoom
  | _, _ => true

/-- What may happen next: a call, the executor runs its first task, the monitor sees
another network and makes its callback in two parts, the user answers, or the result
of an executed `Join` comes. -/
inductive Request where
  | call (call : Call)
  | run (natives : Natives)
  | change (netType : ConnectionType)
  | callback
  | callbackEnds
  | answer (allows : Bool)
  | result (origin : Origin)
  deriving DecidableEq

def State.step (state : State) : Request → Option (List Event × State)
  | .call call => if call.offered state.service then some ([], state.execute call.task) else none
  | .run natives =>
    match state.queue with
    | [] => none
    | task :: queue => some ({ state with queue }.runTask natives task)
  | .change netType =>
    if state.monitor = .idle then some ([], { state with netType, monitor := .changed }) else none
  | .callback =>
    if state.monitor = .changed then some ([], state.onConnectionTypeChanged) else none
  | .callbackEnds =>
    if state.monitor = .left then some ([], state.connectionTypeChanged) else none
  | .answer allows => if 0 < state.asking then some ([], state.onNotWifiConnect allows) else none
  | .result origin =>
    if origin ∈ state.awaited then
      some ([], { state with awaited := state.awaited.erase origin }.execute (.localJoin origin))
    else none

/-! ### What is promised -/

/-- The service with what has happened: a `Join` succeeded and no `Leave` was executed
since, the application's last `join` or `leave` that ran was a `join`, and the last one
that it called was. -/
structure History where
  state : State
  inside : Bool := false
  joined : Bool := false
  called : Bool := false
  deriving DecidableEq

/-- Whether a successful `Join` stands behind an event. -/
def Event.inside (inside : Bool) : Event → Bool
  | .executes command _ success =>
    if command = "Leave" then false else inside || (command = "Join" && success)
  | _ => inside

def Task.joined (state : State) (joined : Bool) : Task → Bool
  | .join args => joined || state.accepts args
  | .leave .application => false
  | _ => joined

def History.step (history : History) (request : Request) : Option (List Event × History) :=
  (history.state.step request).map fun (events, state) => (events, {
    state
    inside := events.foldl Event.inside history.inside
    joined :=
      match request, history.state.queue with
      | .run _, task :: _ => task.joined history.state history.joined
      | _, _ => history.joined
    called :=
      match request with
      | .call call => call.task.joined history.state history.called
      | _ => history.called })

/-- What a step owes: `Join` is executed registered and succeeds only when there is
none to leave, a reconnection is tried for an application that has joined, and its
result reaches the sink. -/
structure Lawful (before : History) (request : Request) (events : List Event) (after : History) :
    Prop where
  joins : ∀ registered success, .executes "Join" registered success ∈ events →
    registered = true ∧ (success = true → before.inside = false)
  attempts : ∀ natives, request = .run natives →
    before.state.queue.head? = some .reConnect → before.joined = true
  results : ∀ natives, request = .run natives → before.state.queue.head? = some .reConnect →
    .onJoin ∈ events ∨ .executes "Join" true true ∈ events ∧ after.state.sink = true
  told : ∀ natives, request = .run natives →
    before.state.queue.head? = some (.localJoin .connectivity) → .onJoin ∈ events

/-- The network checks of `joinInternal` pass. -/
def State.mayJoin (state : State) : Bool :=
  state.isOnline ∧
    (state.service = .whiteBoard ∨ ¬ state.isOnlineButNotWifi ∨ state.isAllowNotWifiConnection)

/-- Whether the end of the monitor's callback queues a `reConnect`. -/
def State.reconnects (state : State) : Bool :=
  match state.service with
  | .videoRoom => state.netType = .wifi ∨ state.netType ≠ .none ∧ state.isAllowNotWifiConnection
  | .whiteBoard => state.netType ≠ .none

/-- A join registers where it has to, and nobody is inside where it can succeed. -/
def JoinKept (history : History) (args : JoinArgs) (natives : Natives) : Prop :=
  history.state.accepts args →
    (history.state.isRegister = false → natives.reg = true) ∧
      (history.state.mayJoin → natives.execute = true → history.inside = false)

/-- What a task asks for: natives that register and unregister when they are called,
no second `Join` without a `Leave`, a role, and on a white board a sink that no leave
has taken away, a network for a reconnection, and no leave before its result. -/
def TaskKept (history : History) (natives : Natives) : Task → Prop
  | .join args => JoinKept history args natives
  | .reConnect => JoinKept history history.state.args natives ∧
    (history.state.service = .whiteBoard → history.state.sink = true) ∧
    (history.state.accepts history.state.args →
      (history.state.service = .whiteBoard → history.state.isOnline) ∧
        (history.state.mayJoin → history.state.args.role ≠ none))
  | .leave _ => (history.state.isRegister = true → natives.unReg = true) ∧
    (history.state.service = .whiteBoard →
      .connectivity ∉ history.state.awaited ∧ .localJoin .connectivity ∉ history.state.queue)
  | _ => True

/-- A reconnection is queued, by the monitor or by the user's yes, only while the last
call of the application is a `join`. -/
def Kept (history : History) : Request → Prop
  | .run natives => ∀ task ∈ history.state.queue.head?, TaskKept history natives task
  | .callbackEnds => history.state.reconnects → history.called = true
  | .answer allows => allows = true → history.state.sink = true → history.called = true
  | _ => True

instance : Decidable (JoinKept history args natives) := inferInstanceAs (Decidable (_ → _))

instance : ∀ task, Decidable (TaskKept history natives task)
  | .join _ => inferInstanceAs (Decidable (JoinKept _ _ _))
  | .reConnect | .leave _ => inferInstanceAs (Decidable (_ ∧ _))
  | .connect _ _ _ _ | .disconnect _ _ | .localJoin _ => isTrue trivial

instance : ∀ request, Decidable (Kept history request)
  | .run _ => inferInstanceAs (Decidable (∀ task ∈ _, _))
  | .callbackEnds | .answer _ => inferInstanceAs (Decidable (_ → _))
  | .call _ | .change _ | .callback | .result _ => isTrue trivial

/-- A service just constructed. -/
def start (service : Service) (token : Option String) (isAutoConnect isNotWifiAutoConnect : Bool)
    (netType : ConnectionType) : History where
  state := {
    service, token, isAutoConnect, netType
    isAllowNotWifiConnection := isNotWifiAutoConnect
    currentNetType := netType }

end BeeSdk.AndroidService
