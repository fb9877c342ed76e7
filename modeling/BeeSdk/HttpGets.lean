import BeeSdk.HttpRedirect
import BeeSdk.Runs
import Mathlib.Tactic.Tauto

/-! `LuaHttpSession::get` and `async_get` down to the activation of the state machine:
which calls that fail leave the session as it was. `none` stands for undefined: a null
pointer followed or a header list searched in vain. -/
namespace BeeSdk.HttpGets
open HttpMessage HttpHeader TextSearch StateMachine Runs
open Session (eHttpState_Resolve eHttpState_Connect eHttpState_Request eHttpState_RcvHeader
  eHttpState_RcvBody)

inductive StateType where
  | resolve
  | connect
  | request
  | readHeader
  | readBody
  deriving DecidableEq

structure State where
  id : Int
  type : StateType
  /-- Host and service of the input event, once it is set up. -/
  inputEvent : Option (Text × Text) := none
  deriving DecidableEq

def State.setupInputEvent (state : State) (host service : Text) : Bool × State :=
  if host = [] ∨ service = [] then (false, state)
  else (true, { state with inputEvent := some (host, service) })

/-- The states of `HttpSession` as its table declares them, and which are to be activated. -/
def declared : List (State × Bool) :=
  [(⟨eHttpState_Resolve, .resolve, none⟩, true), (⟨eHttpState_Connect, .connect, none⟩, false),
    (⟨eHttpState_Request, .request, none⟩, false), (⟨eHttpState_RcvHeader, .readHeader, none⟩, false),
    (⟨eHttpState_RcvBody, .readBody, none⟩, false)]

/-- The machine below a session. `verifyFileLoaded` is shared by all machines; a socket
counts only as there or not. -/
structure HttpStateMachine where
  ios : Bool
  stateGraph : List Int := []
  activateState : Option State := none
  currentStateId : Int := kInvalidState
  connected : Bool := false
  isTls : Bool := false
  host : Text := []
  sock : Bool := false
  tlsSock : Bool := false
  verifyFileLoaded : Bool := false
  request : Option HttpRequest := none
  cookie : Text := []
  userAgent : Text := []
  proxyHost : Text := []
  proxyPort : Nat := 0
  /-- States posted to be executed. -/
  posted : List Int := []

namespace HttpStateMachine

def addState (machine : HttpStateMachine) (state : State) (activate : Bool) : Bool × HttpStateMachine :=
  if activate ∧ machine.activateState.isSome then (false, machine)
  else if state.id ∈ machine.stateGraph then (false, machine)
  else (true, { machine with
    stateGraph := machine.stateGraph ++ [state.id]
    activateState := if activate then some state else machine.activateState })

/-- `setup_state_machine`. `State::setup` does not ask what `add_state` returned. -/
def setupStateMachine (machine : HttpStateMachine) : Bool × HttpStateMachine :=
  let machine := declared.foldl (fun machine state => (machine.addState state.1 state.2).2) machine
  (!machine.stateGraph.isEmpty, machine)

def setupRequest (machine : HttpStateMachine) (url refUrl : Text) (rangeStart rangeEnd : Int) :
    Option (Option HttpRequest) :=
  if url = [] then some none
  else (HttpRequest.createFromUrl url refUrl rangeStart rangeEnd).bind fun made =>
    match made with
    | none => some none
    | some request =>
      (if machine.userAgent ≠ [] then request.setHeader "User-Agent".toList machine.userAgent
        else some request).bind fun request =>
      (if machine.cookie ≠ [] then request.setHeader "Cookie".toList machine.cookie
        else some request).bind fun request =>
      (if machine.proxyHost ≠ [] ∧ machine.proxyPort > 0 then
        request.setProxy machine.proxyHost machine.proxyPort else some request).map some

/-- `setup_socket`; the paths OpenSSL verifies with may fail to load. -/
def setupSocket (machine : HttpStateMachine) (tls : Bool) (host : Text) (pathsLoad : Bool) :
    Bool × HttpStateMachine :=
  if machine.ios = false then (false, machine)
  else if tls = false then (true, { machine with sock := true, isTls := tls, host })
  else if machine.verifyFileLoaded = false ∧ pathsLoad = false then (false, machine)
  else (true, { machine with tlsSock := true, verifyFileLoaded := true, isTls := tls, host })

def activateStateMachine (machine : HttpStateMachine) : Bool × HttpStateMachine :=
  if machine.ios = false then (false, machine)
  else if machine.currentStateId ≠ -1 then (false, machine)
  else match machine.activateState with
    | none => (false, machine)
    | some state =>
      if machine.stateGraph = [] then (false, machine)
      else (true, { machine with
        currentStateId := state.id, posted := machine.posted ++ [state.id] })

def makeRequest (machine : HttpStateMachine) (url refUrl : Text) (rangeStart rangeEnd : Int)
    (pathsLoad : Bool) : Option (Bool × HttpStateMachine) :=
  match machine.setupStateMachine with
  | (false, machine) => some (false, machine)
  | (true, machine) =>
    (machine.setupRequest url refUrl rangeStart rangeEnd).bind fun made =>
    let machine := { machine with request := made }
    match made with
    | none => some (false, machine)
    | some request =>
      let (tls, host, service) := request.connection
      match machine.setupSocket tls host pathsLoad with
      | (false, machine) => some (false, machine)
      | (true, machine) => machine.activateState.map fun state =>
        if state.type ≠ .resolve then (false, machine)
        else match state.setupInputEvent host service with
          | (false, _) => (false, machine)
          | (true, state) => { machine with activateState := some state }.activateStateMachine

/-- `stop`. Uninstalling forgets the states but not which was to be activated. -/
def stop (machine : HttpStateMachine) : HttpStateMachine :=
  if machine.connected then
    if machine.isTls then
      { machine with tlsSock := false, connected := false, ios := false, stateGraph := [] }
    else { machine with sock := false, connected := false, ios := false, stateGraph := [] }
  else machine

end HttpStateMachine

/-- The session; a `lua_State` is known by a number. -/
structure LuaHttpSession where
  http : HttpStateMachine
  main : Option Nat := none
  co : Option Nat := none
  manualReadBody : Bool := false
  oneOff : Bool := true
  getCallback : Int := -1
  yielding : Bool := false

def LUA_REFNIL : Int := -1

/-- What `get` and `async_get` are both given. -/
structure Params where
  url : Text
  manualReadBody : Bool := false
  oneOff : Bool := true
  refUrl : Text := []
  rangeStart : Int := -1
  rangeEnd : Int := -1

namespace LuaHttpSession

def get (session : LuaHttpSession) (main co : Option Nat) (params : Params) (pathsLoad : Bool) :
    Option (BeeErrorCode × LuaHttpSession) :=
  if main = none ∨ co = none then some (.invalidParam, session)
  else if session.main ≠ none then some (.invalidState, session)
  else
    let session := { session with
      main, co, manualReadBody := params.manualReadBody, oneOff := params.oneOff }
    (session.http.makeRequest params.url params.refUrl params.rangeStart params.rangeEnd
      pathsLoad).map fun (requested, http) =>
    if requested = false then (.errorStateMachine, { session with http })
    else (.success, { session with http, yielding := true })

def asyncGet (session : LuaHttpSession) (main : Option Nat) (getCallback : Int) (params : Params)
    (pathsLoad : Bool) : Option (BeeErrorCode × LuaHttpSession) :=
  if main = none ∨ getCallback = LUA_REFNIL then some (.invalidParam, session)
  else if session.main ≠ none then some (.invalidState, session)
  else
    let session := { session with
      main, getCallback, manualReadBody := params.manualReadBody, oneOff := params.oneOff }
    (session.http.makeRequest params.url params.refUrl params.rangeStart params.rangeEnd
      pathsLoad).map fun (requested, http) =>
    if requested = false then (.errorStateMachine, { session with http })
    else (.success, { session with http })

def close (session : LuaHttpSession) : LuaHttpSession :=
  { session with main := none, co := none, http := session.http.stop }

end LuaHttpSession

/-! ### What the calls are for -/

/-- A call from Lua, or a step of the machine that was started, which is then in another
state, connected or not. -/
inductive Event where
  | get (main co : Option Nat) (params : Params) (pathsLoad : Bool)
  | asyncGet (main : Option Nat) (getCallback : Int) (params : Params) (pathsLoad : Bool)
  | close
  | proceeds (state : Nat) (connected : Bool)

def step (session : LuaHttpSession) : Event → Option (BeeErrorCode × LuaHttpSession)
  | .get main co params pathsLoad => session.get main co params pathsLoad
  | .asyncGet main getCallback params pathsLoad => session.asyncGet main getCallback params pathsLoad
  | .close => some (.success, session.close)
  | .proceeds state connected =>
    if session.http.currentStateId = -1 then none
    else some (.success, { session with http := { session.http with
      currentStateId := state, connected } })

/-- The fields that say whether the session is taken and by whom. -/
structure SameMarks (before after : LuaHttpSession) : Prop where
  main : after.main = before.main
  co : after.co = before.co
  getCallback : after.getCallback = before.getCallback
  manualReadBody : after.manualReadBody = before.manualReadBody
  oneOff : after.oneOff = before.oneOff

/-- A call that fails leaves the marks as they were, and what would have been accepted is
accepted still. -/
def Atomic (session : LuaHttpSession) (_event : Event) (code : BeeErrorCode) (next : LuaHttpSession) :
    Prop :=
  code ≠ .success → SameMarks session next ∧ ∀ later last,
    step session later = some (.success, last) → ∃ last', step next later = some (.success, last')

/-- What the machine asks of itself and of the URL: it was not stopped or started before,
the URL has a protocol and a host, and for a secured one the verify paths load. -/
def Requestable (machine : HttpStateMachine) (url : Text) (pathsLoad : Bool) : Prop :=
  machine.ios = true ∧ machine.currentStateId = -1 ∧ url ≠ [] ∧
    (HttpRequest.parseUrl url).1 ≠ [] ∧ (HttpRequest.parseUrl url).2.1 ≠ [] ∧
    ((HttpRequest.parseUrl url).1 = "https".toList → machine.verifyFileLoaded = true ∨ pathsLoad = true)

instance (machine : HttpStateMachine) (url : Text) (pathsLoad : Bool) :
    Decidable (Requestable machine url pathsLoad) :=
  inferInstanceAs (Decidable (_ ∧ _ ∧ _ ∧ _ ∧ _ ∧ _))

/-- The call is turned down before it marks the session, or its request is in order. -/
def Checked (session : LuaHttpSession) : Event → Prop
  | .get main co params pathsLoad => (main = none ∨ co = none) ∨ session.main ≠ none ∨
    Requestable session.http params.url pathsLoad
  | .asyncGet main getCallback params pathsLoad => (main = none ∨ getCallback = LUA_REFNIL) ∨
    session.main ≠ none ∨ Requestable session.http params.url pathsLoad
  | .close => True
  | .proceeds _ _ => True

instance (session : LuaHttpSession) : ∀ event, Decidable (Checked session event)
  | .get _ _ _ _ => inferInstanceAs (Decidable (_ ∨ _ ∨ _))
  | .asyncGet _ _ _ _ => inferInstanceAs (Decidable (_ ∨ _ ∨ _))
  | .close => isTrue trivial
  | .proceeds _ _ => isTrue trivial

/-- Without a state to activate there are no states, and the one there is resolves. -/
structure Formed (machine : HttpStateMachine) : Prop where
  none_yet : machine.activateState = none → machine.stateGraph = []
  resolves : ∀ state, machine.activateState = some state → state.type = .resolve

/-! ### The request -/

section
variable {machine : HttpStateMachine} {url refUrl : Text} {rangeStart rangeEnd : Int}

theorem absent_before {symbol : Char} {text : Text} {position : Nat}
    (found : findFirstOf symbol text = some position) (within : count ≤ position) :
    symbol ∉ text.take count := by
  obtain ⟨_, none⟩ | ⟨before, behind, rfl, absent, there⟩ := findFirstOf_cases symbol text
  · rw [none] at found
    cases found
  · rw [there] at found
    cases found
    rw [List.take_append_of_le_length within]
    exact fun member => absent (List.mem_of_mem_take member)

/-- The host of a URL ends in front of the first colon. -/
theorem parseBehindScheme_host (portStr rest : Text) :
    ':' ∉ (HttpRequest.parseBehindScheme portStr rest).1 := by
  rw [HttpRequest.parseBehindScheme]
  cases colon : findFirstOf ':' rest with
  | none =>
    have absent := findFirstOf_eq_none_iff.mp colon
    cases findFirstOf '/' rest with
    | none => exact absent
    | some posSlash => exact fun member => absent (List.mem_of_mem_take member)
  | some posHost =>
    cases findFirstOf '/' rest with
    | none => exact absent_before colon (Nat.le_refl _)
    | some posSlash =>
      simp only
      split
      · split
        · exact absent_before colon (Nat.le_refl _)
        · exact absent_before colon (Nat.le_refl _)
      · exact absent_before colon (by omega)

theorem parseUrl_host (url : Text) : ':' ∉ (HttpRequest.parseUrl url).2.1 :=
  parseBehindScheme_host _ _

theorem parseUrl_path (url : Text) : (HttpRequest.parseUrl url).2.2.2 ≠ [] := by
  have rooted : ∀ text : Text, (if text = [] then "/".toList else text) ≠ [] := by
    intro text
    split
    · simp
    · assumption
  exact rooted _

/-- A request can be sent on: its headers agree and there is a host to connect to. -/
structure Sendable (https : Bool) (request : HttpRequest) : Prop where
  same : request.SameHeaders
  host : (request.getConnHostPort [] 0).1 ≠ []
  scheme : request.isHttps = https

/-- A header other than `Host` leaves a request that can be sent on one. -/
theorem sendable_set {request : HttpRequest} (sendable : Sendable https request) (name val : Text)
    (other : name ≠ "Host".toList) (present : Prop) [Decidable present] :
    HttpRequest.Yields (Sendable https)
      (if present then request.setHeader name val else some request) := by
  split
  · obtain ⟨next, assigned, same⟩ := HttpRequest.setHeader_same sendable.same name val
    obtain ⟨shape, values⟩ := HttpRequest.setHeader_spec assigned
    refine ⟨next, assigned, same, ?_, ?_⟩
    · have host := sendable.host
      have proxy : next.proxyHost = request.proxyHost := by rw [shape]
      have port : next.proxyPort = request.proxyPort := by rw [shape]
      rw [HttpRequest.getConnHostPort, HttpRequest.getHostPort, values, if_neg other, proxy, port]
      exact host
    · rw [shape]
      exact sendable.scheme
  · exact ⟨request, rfl, sendable⟩

/-- A proxy is where the request is sent to. -/
theorem sendable_proxy {request : HttpRequest} (sendable : Sendable https request) {host : Text}
    (filled : host ≠ []) : HttpRequest.Yields (Sendable https) (request.setProxy host port) := by
  obtain ⟨next, proxied, same⟩ := HttpRequest.setProxy_same sendable.same host port
  refine ⟨next, proxied, same, ?_, ?_⟩
  · rw [HttpRequest.setProxy] at proxied
    obtain ⟨_, _, proxied⟩ := Option.bind_eq_some_iff.mp proxied
    obtain ⟨_, _, rfl⟩ := Option.map_eq_some_iff.mp proxied
    rw [HttpRequest.getConnHostPort, if_neg filled]
    exact filled
  · have scheme := sendable.scheme
    rw [HttpRequest.setProxy] at proxied
    obtain ⟨_, removed, proxied⟩ := Option.bind_eq_some_iff.mp proxied
    obtain ⟨_, assigned, rfl⟩ := Option.map_eq_some_iff.mp proxied
    obtain ⟨shape, _⟩ := HttpRequest.setHeader_spec assigned
    obtain ⟨_, _, rfl⟩ := Option.map_eq_some_iff.mp removed
    rw [shape]
    simp only
    split <;> exact scheme

theorem host_of_header {request : HttpRequest} {host port : Text}
    (header : request.getHeader "Host".toList =
      if port = [] then host else host ++ ":".toList ++ port)
    (filled : host ≠ []) (no_colon : ':' ∉ host) : (request.getHostPort [] 0).1 ≠ [] := by
  rw [HttpRequest.getHostPort, header]
  by_cases default : port = []
  · rw [if_pos default]
    rw [if_neg filled, findFirstOf_eq_none_iff.mpr no_colon]
    exact filled
  · have found : findFirstOf ':' (host ++ ":".toList ++ port) = some host.length := by
      rw [List.append_assoc]
      exact findFirstOf_append port no_colon
    rw [if_neg default, if_neg (by simp [filled]), found, List.append_assoc]
    simp only [List.take_left]
    exact filled

/-- `setup_request` makes a request that can be sent on, or null where the URL has no
protocol or no host. -/
theorem setupRequest_spec (machine : HttpStateMachine) (url refUrl : Text)
    (rangeStart rangeEnd : Int) :
    ((url = [] ∨ (HttpRequest.parseUrl url).1 = [] ∨ (HttpRequest.parseUrl url).2.1 = []) ∧
        machine.setupRequest url refUrl rangeStart rangeEnd = some none) ∨
      (url ≠ [] ∧ (HttpRequest.parseUrl url).1 ≠ [] ∧ (HttpRequest.parseUrl url).2.1 ≠ [] ∧
        ∃ request, machine.setupRequest url refUrl rangeStart rangeEnd = some (some request) ∧
          Sendable (decide ((HttpRequest.parseUrl url).1 = "https".toList)) request) := by
  rw [HttpStateMachine.setupRequest]
  by_cases empty : url = []
  · rw [if_pos empty]
    exact Or.inl ⟨Or.inl empty, rfl⟩
  rw [if_neg empty]
  have no_colon := parseUrl_host url
  have path_filled := parseUrl_path url
  generalize parsed : HttpRequest.parseUrl url = parts at *
  obtain ⟨protocol, host, port, path⟩ := parts
  simp only at no_colon path_filled ⊢
  by_cases missing : protocol = [] ∨ host = []
  · left
    refine ⟨Or.inr missing, ?_⟩
    rw [HttpRequest.createFromUrl, parsed]
    simp only
    rw [if_pos (by tauto)]
    rfl
  · right
    obtain ⟨protocol_filled, host_filled⟩ := not_or.mp missing
    refine ⟨empty, protocol_filled, host_filled, ?_⟩
    obtain ⟨request, created, _, no_proxy, header, scheme⟩ := HttpRequest.createFromUrl_spec parsed
      ⟨protocol_filled, host_filled, path_filled⟩ refUrl rangeStart rangeEnd
    obtain ⟨made, created', same⟩ := HttpRequest.createFromUrl_same url refUrl rangeStart rangeEnd
    rw [created] at created'
    cases created'
    have begins : Sendable (decide (protocol = "https".toList)) request := by
      refine ⟨same request rfl, ?_, scheme⟩
      rw [HttpRequest.getConnHostPort, if_pos no_proxy]
      exact host_of_header header host_filled no_colon
    rw [created, Option.bind_some]
    have yields : HttpRequest.Yields
        (fun made => ∃ request, made = some request ∧ Sendable (decide (protocol = "https".toList)) request)
        ((if machine.userAgent ≠ [] then request.setHeader "User-Agent".toList machine.userAgent
          else some request).bind fun request =>
        (if machine.cookie ≠ [] then request.setHeader "Cookie".toList machine.cookie
          else some request).bind fun request =>
        (if machine.proxyHost ≠ [] ∧ machine.proxyPort > 0 then
          request.setProxy machine.proxyHost machine.proxyPort else some request).map some) := by
      refine HttpRequest.Yields.bind
        (sendable_set begins "User-Agent".toList machine.userAgent (by decide) _) ?_
      intro request sendable
      refine HttpRequest.Yields.bind
        (sendable_set sendable "Cookie".toList machine.cookie (by decide) _) ?_
      intro request sendable
      refine HttpRequest.Yields.map (?_ : HttpRequest.Yields (Sendable _) _) fun request sendable =>
        ⟨request, rfl, sendable⟩
      split
      · next proxied => exact sendable_proxy sendable proxied.1
      · exact ⟨request, rfl, sendable⟩
    obtain ⟨_, made, request, rfl, sendable⟩ := yields
    exact ⟨request, made, sendable⟩

end

/-! ### The machine -/

section
variable {machine : HttpStateMachine}

theorem addState_other (machine : HttpStateMachine) (state : State) :
    ∃ stateGraph, stateGraph ≠ [] ∧ (machine.addState state false).2 = { machine with stateGraph } := by
  rw [HttpStateMachine.addState, if_neg (by simp)]
  by_cases known : state.id ∈ machine.stateGraph
  · rw [if_pos known]
    exact ⟨machine.stateGraph, List.ne_nil_of_mem known, rfl⟩
  · rw [if_neg known]
    exact ⟨machine.stateGraph ++ [state.id], by simp, rfl⟩

/-- Setting up succeeds however often it is done, and there is a state to activate. -/
theorem setupStateMachine_spec (formed : Formed machine) :
    ∃ stateGraph state, stateGraph ≠ [] ∧ state.type = .resolve ∧ machine.setupStateMachine =
      (true, { machine with stateGraph, activateState := some state }) := by
  have first : ∃ stateGraph state, state.type = .resolve ∧
      (machine.addState ⟨eHttpState_Resolve, .resolve, none⟩ true).2 =
        { machine with stateGraph, activateState := some state } := by
    rw [HttpStateMachine.addState]
    cases activate : machine.activateState with
    | none =>
      rw [if_neg (by simp), if_neg (by simp [formed.none_yet activate])]
      exact ⟨_, _, rfl, rfl⟩
    | some state =>
      rw [if_pos (by simp)]
      refine ⟨machine.stateGraph, state, formed.resolves state activate, ?_⟩
      rw [← activate]
  obtain ⟨_, state, resolves, begun⟩ := first
  rw [HttpStateMachine.setupStateMachine]
  simp only [declared, List.foldl_cons, List.foldl_nil, begun]
  obtain ⟨_, _, connect⟩ := addState_other { machine with
    stateGraph := _, activateState := some state } ⟨eHttpState_Connect, .connect, none⟩
  rw [connect]
  obtain ⟨_, _, request⟩ := addState_other { machine with
    stateGraph := _, activateState := some state } ⟨eHttpState_Request, .request, none⟩
  rw [request]
  obtain ⟨_, _, header⟩ := addState_other { machine with
    stateGraph := _, activateState := some state } ⟨eHttpState_RcvHeader, .readHeader, none⟩
  rw [header]
  obtain ⟨stateGraph, filled, body⟩ := addState_other { machine with
    stateGraph := _, activateState := some state } ⟨eHttpState_RcvBody, .readBody, none⟩
  rw [body]
  refine ⟨stateGraph, state, filled, resolves, ?_⟩
  simp [filled]

theorem service_filled (port : Nat) : (toString port).toList ≠ [] := by
  rw [Nat.toString_eq_ofList_toDigits, String.toList_ofList]
  exact Nat.toDigits_ne_nil

/-- A socket is set up unless there is no `ios_` or the verify paths do not load. -/
theorem setupSocket_spec (machine : HttpStateMachine) (tls : Bool) (host : Text) (pathsLoad : Bool) :
    (¬ (machine.ios = true ∧ (tls = true → machine.verifyFileLoaded = true ∨ pathsLoad = true)) ∧
        machine.setupSocket tls host pathsLoad = (false, machine)) ∨
      ((machine.ios = true ∧ (tls = true → machine.verifyFileLoaded = true ∨ pathsLoad = true)) ∧
        ∃ sock tlsSock verifyFileLoaded isTls host', machine.setupSocket tls host pathsLoad =
          (true, { machine with sock, tlsSock, verifyFileLoaded, isTls, host := host' })) := by
  rw [HttpStateMachine.setupSocket]
  cases there : machine.ios with
  | false => exact Or.inl ⟨by simp, rfl⟩
  | true =>
    rw [if_neg (by simp)]
    cases tls with
    | false => exact Or.inr ⟨by simp, _, _, _, _, _, rfl⟩
    | true =>
      rw [if_neg (by simp)]
      by_cases fails : machine.verifyFileLoaded = false ∧ pathsLoad = false
      · rw [if_pos fails]
        exact Or.inl ⟨by simp [fails], rfl⟩
      · rw [if_neg fails]
        refine Or.inr ⟨⟨rfl, fun _ => ?_⟩, _, _, _, _, _, rfl⟩
        rwa [not_and_or, Bool.not_eq_false, Bool.not_eq_false] at fails

/-- A request succeeds exactly where the machine and the URL are in order, and leaves a
machine with a state to activate. -/
theorem makeRequest_spec (formed : Formed machine) (url refUrl : Text) (rangeStart rangeEnd : Int)
    (pathsLoad : Bool) : ∃ requested next,
      machine.makeRequest url refUrl rangeStart rangeEnd pathsLoad = some (requested, next) ∧
      (requested = true ↔ Requestable machine url pathsLoad) ∧ Formed next := by
  obtain ⟨stateGraph, state, filled, resolves, set_up⟩ := setupStateMachine_spec formed
  have kept : ∀ next : HttpStateMachine, (∃ state, next.activateState = some state ∧
      state.type = .resolve) → Formed next := by
    rintro next ⟨state, activate, resolves⟩
    refine ⟨fun none => ?_, fun other there => ?_⟩
    · rw [activate] at none
      cases none
    · rw [activate] at there
      cases there
      exact resolves
  rw [HttpStateMachine.makeRequest, set_up]
  simp only
  obtain ⟨missing, made⟩ | ⟨url_filled, protocol, host, request, made, sendable⟩ :=
    setupRequest_spec { machine with stateGraph, activateState := some state } url refUrl
      rangeStart rangeEnd
  · rw [made, Option.bind_some]
    refine ⟨false, _, rfl, iff_of_false (by simp) ?_, kept _ ⟨state, rfl, resolves⟩⟩
    rintro ⟨_, _, url_filled, protocol, host, _⟩
    rcases missing with empty | empty | empty
    · exact url_filled empty
    · exact protocol empty
    · exact host empty
  · rw [made, Option.bind_some]
    simp only [HttpRequest.connection]
    obtain ⟨fails, socket⟩ | ⟨opens, sock, tlsSock, verifyFileLoaded, isTls, host', socket⟩ :=
      setupSocket_spec { machine with stateGraph, activateState := some state, request := some request }
        request.isHttps (request.getConnHostPort [] 0).1 pathsLoad
    · rw [socket]
      refine ⟨false, _, rfl, iff_of_false (by simp) ?_, kept _ ⟨state, rfl, resolves⟩⟩
      rintro ⟨there, _, _, _, _, loads⟩
      refine fails ⟨there, fun tls => loads ?_⟩
      rw [sendable.scheme] at tls
      exact of_decide_eq_true tls
    · rw [socket]
      obtain ⟨there, loads⟩ := opens
      simp only at there
      simp only [Option.map_some, resolves, ne_eq, not_true_eq_false, if_false, State.setupInputEvent,
        if_neg (not_or.mpr ⟨sendable.host, service_filled _⟩), HttpStateMachine.activateStateMachine,
        there, Bool.true_eq_false]
      by_cases started : machine.currentStateId = -1
      · rw [if_neg (not_not_intro started), if_neg filled]
        refine ⟨true, _, rfl, iff_of_true rfl ⟨there, started, url_filled, protocol, host, ?_⟩,
          kept _ ⟨_, rfl, rfl⟩⟩
        intro secured
        refine loads ?_
        rw [sendable.scheme]
        exact decide_eq_true secured
      · rw [if_pos started]
        refine ⟨false, _, rfl, iff_of_false (by simp) ?_, kept _ ⟨_, rfl, rfl⟩⟩
        exact fun met => started met.2.1

theorem formed_stop (formed : Formed machine) : Formed machine.stop := by
  rw [HttpStateMachine.stop]
  split
  · split
    · exact ⟨fun _ => rfl, formed.resolves⟩
    · exact ⟨fun _ => rfl, formed.resolves⟩
  · exact formed

end

/-! ### Calls -/

section
variable {session next : LuaHttpSession}

/-- The course of both calls: turned down at once, or marked and then requested. -/
theorem call_course (formed : Formed session.http) (params : Params) (pathsLoad : Bool)
    {turned : Prop} [Decidable turned] (marked finished : HttpStateMachine → LuaHttpSession)
    (keeps : ∀ http, (marked http).http = http ∧ (finished http).http = http)
    (taken : ∀ http, session.main = none → ¬ turned → (marked http).main ≠ session.main)
    (asked : Option (BeeErrorCode × LuaHttpSession))
    (course : asked = if turned then some (.invalidParam, session)
      else if session.main ≠ none then some (.invalidState, session)
      else (session.http.makeRequest params.url params.refUrl params.rangeStart params.rangeEnd
        pathsLoad).map fun (requested, http) =>
          if requested = false then (.errorStateMachine, marked http) else (.success, finished http)) :
    ∃ code next, asked = some (code, next) ∧ Formed next.http ∧
      ((code = .success ∨ next = session) ↔
        turned ∨ session.main ≠ none ∨ Requestable session.http params.url pathsLoad) ∧
      (code ≠ .success → next = session ∨ next.main ≠ session.main) := by
  rw [course]
  by_cases down : turned
  · rw [if_pos down]
    exact ⟨_, _, rfl, formed, iff_of_true (Or.inr rfl) (Or.inl down), fun _ => Or.inl rfl⟩
  by_cases busy : session.main = none
  · obtain ⟨requested, http, made, exact_request, after⟩ := makeRequest_spec formed params.url
      params.refUrl params.rangeStart params.rangeEnd pathsLoad
    rw [if_neg down, if_neg (not_not_intro busy), made]
    cases requested with
    | true =>
      refine ⟨_, _, rfl, ?_, iff_of_true (Or.inl rfl) (Or.inr (Or.inr (exact_request.mp rfl))),
        fun failed => absurd rfl failed⟩
      simp only [(keeps http).2]
      exact after
    | false =>
      have moved := taken http busy down
      refine ⟨_, _, rfl, ?_, iff_of_false ?_ ?_, fun _ => Or.inr moved⟩
      · simp only [(keeps http).1]
        exact after
      · rintro (succeeded | same)
        · cases succeeded
        · exact moved (congrArg LuaHttpSession.main same)
      · rintro (turned_down | marked | requestable)
        · exact down turned_down
        · exact marked busy
        · cases exact_request.mpr requestable
  · rw [if_neg down, if_pos busy]
    exact ⟨_, _, rfl, formed, iff_of_true (Or.inr rfl) (Or.inr (Or.inl busy)), fun _ => Or.inl rfl⟩

theorem step_course (formed : Formed session.http) (event : Event) :
    (∃ state connected, event = .proceeds state connected ∧ step session event = none) ∨
    ∃ code next, step session event = some (code, next) ∧ Formed next.http ∧
      ((code = .success ∨ next = session) ↔ Checked session event) ∧
      (code ≠ .success → next = session ∨ next.main ≠ session.main) := by
  cases event with
  | get main co params pathsLoad =>
    right
    refine call_course formed params pathsLoad
      (fun http => { session with
        http, main, co, manualReadBody := params.manualReadBody, oneOff := params.oneOff })
      (fun http => { session with
        http, main, co, manualReadBody := params.manualReadBody, oneOff := params.oneOff
        yielding := true })
      (fun http => ⟨rfl, rfl⟩) ?_ _ rfl
    intro http free there same
    exact there (Or.inl (same.trans free))
  | asyncGet main getCallback params pathsLoad =>
    right
    refine call_course formed params pathsLoad
      (fun http => { session with
        http, main, getCallback, manualReadBody := params.manualReadBody, oneOff := params.oneOff })
      (fun http => { session with
        http, main, getCallback, manualReadBody := params.manualReadBody, oneOff := params.oneOff })
      (fun http => ⟨rfl, rfl⟩) ?_ _ rfl
    intro http free there same
    exact there (Or.inl (same.trans free))
  | close =>
    exact Or.inr ⟨_, _, rfl, formed_stop formed, iff_of_true (Or.inl rfl) trivial,
      fun failed => absurd rfl failed⟩
  | proceeds state connected =>
    rw [step]
    by_cases idle : session.http.currentStateId = -1
    · rw [if_pos idle]
      exact Or.inl ⟨_, _, rfl, rfl⟩
    · rw [if_neg idle]
      exact Or.inr ⟨_, _, rfl, ⟨formed.none_yet, formed.resolves⟩,
        iff_of_true (Or.inl rfl) trivial, fun failed => absurd rfl failed⟩

/-- A step is atomic exactly where what it asks for is checked before it marks. -/
theorem atomic_iff_checked (formed : Formed session.http) {event : Event} {code : BeeErrorCode}
    (taken : step session event = some (code, next)) :
    Atomic session event code next ↔ Checked session event := by
  obtain ⟨_, _, _, undefined⟩ | ⟨_, _, taken', _, exact_check, moves⟩ := step_course formed event
  · rw [undefined] at taken
    cases taken
  rw [taken] at taken'
  cases taken'
  rw [← exact_check]
  constructor
  · intro atomic
    by_cases succeeded : code = .success
    · exact Or.inl succeeded
    · obtain same | moved := moves succeeded
      · exact Or.inr same
      · exact absurd (atomic succeeded).1.main moved
  · rintro (succeeded | rfl) failed
    · exact absurd succeeded failed
    · exact ⟨⟨rfl, rfl, rfl, rfl, rfl⟩, fun later last accepted => ⟨last, accepted⟩⟩

/-- Along every run, from whatever session, every call that fails leaves the session as it
was exactly where every call is turned down at once or its request is in order. -/
theorem atomic_run_iff (formed : Formed session.http)
    (ran : run step session events = some (codes, last)) :
    AllTaken step Atomic session events ↔ AllSteps step Checked session events := by
  refine taken_iff_of_defined (fun session => Formed session.http) ?_ ?_ formed ran
  · intro session event code next formed taken
    exact atomic_iff_checked formed taken
  · intro session event code next formed _ taken
    obtain ⟨_, _, _, undefined⟩ | ⟨_, _, taken', after, _⟩ := step_course formed event
    · rw [undefined] at taken
      cases taken
    · rw [taken] at taken'
      cases taken'
      exact after

end

/-- A session as it is made. -/
def constructed : LuaHttpSession := { http := { ios := true } }

theorem constructed_formed : Formed constructed.http :=
  ⟨fun _ => rfl, fun _ none => by cases none⟩

/-- Without a coroutine the call is turned down, and the next one is taken. -/
theorem turned_down_first :
    let address : Params := { url := "http://a:81/b".toList }
    AllTaken step Atomic constructed
      [.get (some 1) none address true, .get (some 1) (some 2) address true,
        .asyncGet (some 1) 5 address true, .close] := by
  intro address
  obtain ⟨⟨codes, last⟩, ran⟩ : ∃ after, run step constructed
      [.get (some 1) none address true, .get (some 1) (some 2) address true,
        .asyncGet (some 1) 5 address true, .close] = some after :=
    Option.isSome_iff_exists.mp (by decide +kernel)
  exact (atomic_run_iff constructed_formed ran).mpr (by decide +kernel)

/-- A URL without a host fails, and after it one with a host is turned down. -/
theorem bad_url_takes_session :
    (run step constructed [.asyncGet (some 1) 5 { url := "http://".toList } true,
        .get (some 1) (some 2) { url := "http://a".toList } true]).map Prod.fst =
      some [.errorStateMachine, .invalidState] ∧
    (run step constructed [.get (some 1) (some 2) { url := "http://a".toList } true]).map Prod.fst =
      some [.success] ∧
    ¬ AllTaken step Atomic constructed [.asyncGet (some 1) 5 { url := "http://".toList } true] := by
  refine ⟨by decide +kernel, by decide +kernel, ?_⟩
  rintro ⟨code, next, taken, atomic, _⟩
  have marked : (step constructed (.asyncGet (some 1) 5 { url := "http://".toList } true)).map
      (fun after => (decide (after.1 = .success), after.2.main)) = some (false, some 1) := by
    decide +kernel
  rw [taken] at marked
  obtain ⟨failed, main⟩ := Prod.ext_iff.mp (Option.some.inj marked)
  have same := (atomic (of_decide_eq_false failed)).1.main
  rw [show next.main = some 1 from main] at same
  cases same

end BeeSdk.HttpGets
