import BeeSdk.HttpHeaderProofs
import BeeSdk.HttpUrl

/-! Following a redirect against asking for its target. `redirect` takes URLs apart on
its own and changes the request it finds; only a target behind `http://`, on a request
that is neither secured nor sent through another proxy, is then asked for as a request
made from the target would. -/
namespace BeeSdk.HttpMessage
open TextSearch HttpHeader

namespace HttpRequest

/-- `redirect` up to where it asks for host and port. -/
def redirected (request : HttpRequest) (url : Text) : Option HttpRequest :=
  let scheme := "http://".toList
  if scheme <+: url then
    let behind := url.drop scheme.length
    match findFirstOf '/' behind with
    | some endPos => (request.setHost (behind.take endPos)).map fun request =>
      { request with path := behind.drop endPos }
    | none => (request.setHost behind).map fun request => { request with path := "/".toList }
  else
    let slash := if url.head? = some '/' then [] else "/".toList
    some { request with path := slash ++ url }

/-- The kind of socket set up for a request, and the host and the service resolved. -/
def connection (request : HttpRequest) : Bool × Text × Text :=
  let (host, port) := request.getConnHostPort [] 0
  (request.isHttps, host, (toString port).toList)

/-- `HttpStateMachine::redirect`: the request it leaves, and what is set up for it. -/
def redirect (request : HttpRequest) (url : Text) : Option (HttpRequest × Bool × Text × Text) :=
  (request.redirected url).map fun request => (request, request.connection)

/-- The request as the session that follows redirects keeps it. -/
def inSession (request : HttpRequest) : Session.HttpRequest where
  isHttps := request.isHttps
  host := String.ofList (request.getHeader "Host".toList)
  path := String.ofList request.path
  proxyHost := String.ofList request.proxyHost
  proxyPort := request.proxyPort

/-- Host and port are read off the `Host` header alike. -/
theorem getHostPort_inSession (request : HttpRequest) :
    request.inSession.getHostPort = request.getHostPort [] 0 := by
  simp only [Session.HttpRequest.getHostPort, getHostPort, inSession, String.toList_ofList]
  split
  · rfl
  · rcases findFirstOf_cases ':' (request.getHeader "Host".toList) with
      ⟨absent, none⟩ | ⟨before, behind, shape, absent, found⟩
    · rw [none, takeWhile_ne_of_absent absent, dropWhile_ne_of_absent absent]
      rfl
    · rw [found, shape, takeWhile_ne behind absent, dropWhile_ne behind absent]
      simp

theorem getConnHostPort_inSession (request : HttpRequest) :
    request.inSession.getConnHostPort = request.getConnHostPort [] 0 := by
  rw [Session.HttpRequest.getConnHostPort, getConnHostPort, getHostPort_inSession]
  simp only [inSession, String.ofList_eq_empty_iff, String.toList_ofList]

/-- Assigning a header changes the headers only, and the value of that header only. -/
theorem setHeader_spec {request next : HttpRequest} {name val : Text}
    (assigned : request.setHeader name val = some next) :
    next = { request with toHeaderTable := next.toHeaderTable } ∧
      ∀ other, next.getHeader other = if name = other then val else request.getHeader other := by
  obtain ⟨table, set, same⟩ := Option.map_eq_some_iff.mp assigned
  cases same
  refine ⟨rfl, fun other => ?_⟩
  have bound := HeaderTable.lookup_assigned set other
  rw [getHeader, HeaderTable.getHeader, bound]
  simp only [id]
  split <;> rfl

private theorem setHost_inSession {request next : HttpRequest} {hostStr : Text}
    (set : request.setHost hostStr = some next) :
    next.inSession = request.inSession.setHost (String.ofList hostStr) := by
  rw [setHost] at set
  rw [Session.HttpRequest.setHost]
  by_cases empty : hostStr = []
  · rw [if_neg (by simpa using empty)] at set
    cases set
    rw [if_neg (by simp [empty])]
  · rw [if_pos empty] at set
    obtain ⟨same, values⟩ := setHeader_spec set
    rw [if_pos (by simpa using empty), same]
    rw [same] at values
    simp only [inSession, Session.HttpRequest.mk.injEq, true_and, and_true]
    rw [values, if_pos rfl]

/-- A redirect of the whole request is the redirect the session makes. -/
theorem redirected_inSession {request next : HttpRequest} {url : Text}
    (redirected : request.redirected url = some next) :
    next.inSession = request.inSession.redirected url := by
  rw [HttpRequest.redirected] at redirected
  rw [Session.HttpRequest.redirected]
  simp only at redirected ⊢
  split at redirected
  · rename_i http
    rw [if_pos http]
    rcases findFirstOf_cases '/' (url.drop "http://".toList.length) with
      ⟨absent, none⟩ | ⟨before, behind, shape, absent, found⟩
    · rw [none] at redirected
      obtain ⟨middle, set, rfl⟩ := Option.map_eq_some_iff.mp redirected
      rw [takeWhile_ne_of_absent absent, dropWhile_ne_of_absent absent, ← setHost_inSession set]
      rfl
    · rw [found, shape] at redirected
      obtain ⟨middle, set, rfl⟩ := Option.map_eq_some_iff.mp redirected
      rw [List.take_left] at set
      rw [shape, takeWhile_ne behind absent, dropWhile_ne behind absent, ← setHost_inSession set,
        if_neg (List.cons_ne_nil _ _), List.drop_left]
      rfl
  · rename_i path
    rw [if_neg path]
    cases redirected
    rfl

/-- Redirects of the whole request, one behind the other, are those the session makes. -/
theorem redirects_inSession {request next : HttpRequest} {urls : List Text}
    (followed : urls.foldlM redirected request = some next) :
    next.inSession = urls.foldl Session.HttpRequest.redirected request.inSession := by
  induction urls generalizing request with
  | nil =>
    cases followed
    rfl
  | cons url urls ih =>
    obtain ⟨reached, first, rest⟩ := Option.bind_eq_some_iff.mp followed
    rw [List.foldl_cons, ← redirected_inSession first]
    exact ih rest

theorem redirects_followed : ∃ next : HttpRequest, next.inSession =
    ["http://a:8/b".toList, "c".toList].foldl Session.HttpRequest.redirected (inSession {}) :=
  ⟨_, redirects_inSession (show List.foldlM redirected _ _ = some _ from rfl)⟩

/-! ### The request made from a URL -/

/-- A request on the way from a URL to what it is made into. -/
private structure Begun (path host : Text) (request : HttpRequest) : Prop where
  same : request.SameHeaders
  path : request.path = path
  host : request.getHeader "Host".toList = host
  proxy : request.proxyHost = []

private theorem begun_set {request : HttpRequest} {path host : Text}
    (begun : Begun path host request) (name val : Text) (other : name ≠ "Host".toList) :
    Yields (Begun path host) (request.setHeader name val) := by
  obtain ⟨next, assigned, same⟩ := setHeader_same begun.same name val
  obtain ⟨shape, values⟩ := setHeader_spec assigned
  refine ⟨next, assigned, same, ?_, ?_, ?_⟩
  · rw [shape]
    exact begun.path
  · rw [values, if_neg other]
    exact begun.host
  · rw [shape]
    exact begun.proxy

private theorem begun_host {request : HttpRequest} {path host hostStr : Text}
    (begun : Begun path host request) (filled : hostStr ≠ []) :
    Yields (Begun path hostStr) (request.setHost hostStr) := by
  obtain ⟨next, assigned, same⟩ := setHeader_same begun.same "Host".toList hostStr
  obtain ⟨shape, values⟩ := setHeader_spec assigned
  refine ⟨next, by rw [setHost, if_pos filled, assigned], same, ?_, ?_, ?_⟩
  · rw [shape]
    exact begun.path
  · rw [values, if_pos rfl]
  · rw [shape]
    exact begun.proxy

private theorem begun_range {request : HttpRequest} {path host : Text}
    (begun : Begun path host request) (rangeBeg rangeEnd : Int) :
    Yields (Begun path host) (request.setRange rangeBeg rangeEnd) := by
  unfold setRange
  split
  · exact begun_set begun _ _ (by decide)
  · exact ⟨request, rfl, begun⟩

/-- What a URL with a protocol and a host is made into. -/
theorem createFromUrl_spec {url protocol host port path : Text}
    (parsed : parseUrl url = (protocol, host, port, path))
    (filled : protocol ≠ [] ∧ host ≠ [] ∧ path ≠ []) (referUrl : Text) (rangeBeg rangeEnd : Int) :
    ∃ request, createFromUrl url referUrl rangeBeg rangeEnd = some (some request) ∧
      request.path = path ∧ request.proxyHost = [] ∧
      request.getHeader "Host".toList = (if port = [] then host else host ++ ":".toList ++ port) ∧
      request.isHttps = decide (protocol = "https".toList) := by
  have yields : Yields (fun made => ∃ request, made = some request ∧
      Begun path (if port = [] then host else host ++ ":".toList ++ port) request ∧
      request.isHttps = decide (protocol = "https".toList))
      (createFromUrl url referUrl rangeBeg rangeEnd) := by
    have named : (if port = [] then host else host ++ ":".toList ++ port) ≠ [] := by
      split
      · exact filled.2.1
      · simp
    have begins : Begun path [] { method := "GET".toList, protocolAndVersion := "HTTP/1.1".toList, path } :=
      ⟨fun name => rfl, rfl, rfl, rfl⟩
    have whole : ¬ (protocol = [] ∨ host = [] ∨ path = []) := by simp [filled]
    rw [createFromUrl, parsed]
    simp only
    rw [if_neg whole]
    apply Yields.bind (begun_set begins _ _ (by decide))
    intro _ begun
    apply Yields.bind (begun_set begun _ _ (by decide))
    intro _ begun
    refine Yields.bind (?_ : Yields (Begun path []) _) ?_
    · split
      · exact begun_set begun _ _ (by decide)
      · exact ⟨_, rfl, begun⟩
    intro _ begun
    apply Yields.bind (begun_set begun _ _ (by decide))
    intro _ begun
    apply Yields.bind (begun_host begun named)
    intro _ begun
    apply Yields.bind (begun_set begun _ _ (by decide))
    intro _ begun
    apply Yields.map (begun_range begun _ _)
    intro _ begun
    exact ⟨_, rfl, ⟨begun.same, begun.path, begun.host, begun.proxy⟩, rfl⟩
  obtain ⟨made, created, request, rfl, begun, scheme⟩ := yields
  exact ⟨request, created, begun.path, begun.proxy, begun.host, scheme⟩

/-! ### Following a redirect -/

/-- What a `Location` header holds: an absolute URL, or a path on the same origin. -/
inductive Location where
  | absolute (parts : UrlParts)
  | relative (path : Text)

def Location.Formed : Location → Prop
  | .absolute parts => parts.WellFormed ∧ parts.host ≠ [] ∧
    (parts.scheme = some "http".toList ∨ parts.scheme = some "https".toList)
  | .relative path => path.head? = some '/'

/-- The redirected request asks what a request made from the URL asks, and the same is
set up for it; of a path on the same origin only the path is taken. -/
def Follows (request : HttpRequest) : Location → Prop
  | .absolute parts => ∃ next fresh, request.redirect parts.render = some (next, fresh.connection) ∧
    createFromUrl parts.render [] (-1) (-1) = some (some fresh) ∧
    next.getHostPort [] 0 = fresh.getHostPort [] 0 ∧ next.path = fresh.path ∧
    next.isHttps = fresh.isHttps
  | .relative path => ∃ next, request.redirect path = some (next, next.connection) ∧
    next = { request with path }

/-- The port of a target behind `http://`. -/
def targetPort (parts : UrlParts) : Nat :=
  (castUnsigned (parts.port.getD "80".toList)).getD 80

/-- The target is not secured, nor is the request; the request goes through no proxy, other
than the target's own host and port; and a `Host` header it binds is in its list. -/
def Plainly (request : HttpRequest) : Location → Prop
  | .absolute parts => parts.scheme = some "http".toList ∧ request.isHttps = false ∧
    (request.proxyHost = [] ∨
      request.proxyHost = parts.host ∧ request.proxyPort = targetPort parts) ∧
    (request.lookup id "Host".toList ≠ none → ∃ header ∈ request.headers, header.name = "Host".toList)
  | .relative _ => True

/-- Host and port as a `Host` header names them. -/
def hostPort (parts : UrlParts) : Text :=
  parts.host ++ (parts.port.map (':' :: ·)).getD []

variable {request : HttpRequest} {parts : UrlParts}

/-- Behind `http://` stands what the `Host` header will name, then the path. -/
private theorem redirected_http (formed : parts.WellFormed) (named : parts.host ≠ [])
    (http : parts.scheme = some "http".toList) :
    request.redirected parts.render = (request.setHeader "Host".toList (hostPort parts)).map
      fun next => { next with path := parts.path.getD "/".toList } := by
  have shape : parts.render = "http://".toList ++ parts.behindScheme := by
    rw [UrlParts.render, http]
    rfl
  have noSlash : '/' ∉ hostPort parts := by
    rw [hostPort, List.mem_append, not_or]
    refine ⟨formed.host.2, ?_⟩
    cases port : parts.port with
    | none => simp
    | some port' => simpa using (formed.port port' port).2
  have filled : hostPort parts ≠ [] := by simp [hostPort, named]
  rw [HttpRequest.redirected, shape]
  simp only
  rw [if_pos (List.prefix_append _ _), List.drop_left, UrlParts.behindScheme, ← List.append_assoc]
  cases path : parts.path with
  | none =>
    have found : findFirstOf '/' (hostPort parts) = none := findFirstOf_eq_none_iff.mpr noSlash
    rw [Option.getD_none, List.append_nil, ← hostPort, found, setHost, if_pos filled]
    rfl
  | some path' =>
    obtain ⟨rest, rfl⟩ := List.head?_eq_some_iff.mp (formed.path path' path)
    rw [Option.getD_some, ← hostPort, findFirstOf_append rest noSlash]
    simp only [List.take_left, List.drop_left]
    rw [setHost, if_pos filled]
    rfl

/-- Any other location is taken for a path. -/
private theorem redirected_path {url : Text} (other : ¬ "http://".toList <+: url) :
    request.redirected url =
      some { request with path := (if url.head? = some '/' then [] else "/".toList) ++ url } := by
  rw [HttpRequest.redirected]
  simp only
  rw [if_neg other]

private theorem setHeader_some_iff {name val : Text} :
    (∃ next, request.setHeader name val = some next) ↔
      (request.lookup id name ≠ none → ∃ header ∈ request.headers, header.name = name) := by
  rw [setHeader, HeaderTable.setHeader]
  cases request.lookup id name with
  | none => simp
  | some old =>
    by_cases held : request.headers.any (headerEqualTo name)
    · simp only [held, if_true, Option.map_some, Option.some.injEq, exists_eq', true_iff]
      obtain ⟨header, member, same⟩ := List.any_eq_true.mp held
      exact fun _ => ⟨header, member, (of_decide_eq_true same).symm⟩
    · simp only [held, if_false, Option.map_none, reduceCtorEq, exists_false, false_iff]
      intro all
      obtain ⟨header, member, same⟩ := all (by simp)
      exact held (List.any_eq_true.mpr ⟨header, member, by simp [headerEqualTo, same]⟩)

/-- What a `Host` header of a host and a port that may be left out is read as. -/
private theorem getHostPort_hostPort (parts : UrlParts) (formed : parts.WellFormed) (named : parts.host ≠ [])
    (bound : request.getHeader "Host".toList = hostPort parts) :
    request.getHostPort [] 0 = (parts.host, targetPort parts) := by
  have filled : hostPort parts ≠ [] := by simp [hostPort, named]
  rw [getHostPort, bound, if_neg filled, hostPort, targetPort]
  cases port : parts.port with
  | none =>
    have absent := findFirstOf_eq_none_iff.mpr formed.host.1
    simp only [Option.map_none, Option.getD_none, List.append_nil, absent]
    rfl
  | some port' =>
    simp only [Option.map_some, Option.getD_some, findFirstOf_append port' formed.host.1,
      List.take_left, drop_behind]

private theorem digits_injective {left right : Nat}
    (same : (toString left).toList = (toString right).toList) : left = right := by
  have digits : ∀ value : Nat, (toString value).toList = Nat.toDigits 10 value :=
    fun _ => Nat.toList_repr
  rw [digits, digits] at same
  rw [← @Nat.ofDigitChars_ten_toDigits left, same, Nat.ofDigitChars_ten_toDigits]

/-- The request made from an absolute URL. -/
private theorem made_from (formed : parts.WellFormed) (named : parts.host ≠ []) {scheme : Text}
    (given : parts.scheme = some scheme) (filled : scheme ≠ []) :
    ∃ fresh, createFromUrl parts.render [] (-1) (-1) = some (some fresh) ∧
      fresh.path = parts.path.getD "/".toList ∧ fresh.proxyHost = [] ∧
      fresh.getHeader "Host".toList =
        hostPort { parts with port := some (parts.port.getD parts.defaultPort) } ∧
      fresh.isHttps = decide (scheme = "https".toList) := by
  have scheme_is : parts.schemeOrDefault = scheme := by rw [UrlParts.schemeOrDefault, given]; rfl
  have port_filled : parts.port.getD parts.defaultPort ≠ [] := by
    cases port : parts.port with
    | none =>
      rw [Option.getD_none, UrlParts.defaultPort]
      split <;> decide
    | some port' => exact (formed.port port' port).1
  have path_filled : parts.path.getD "/".toList ≠ [] := by
    cases path : parts.path with
    | none => decide
    | some path' =>
      obtain ⟨rest, rfl⟩ := List.head?_eq_some_iff.mp (formed.path path' path)
      simp
  have parsed := UrlParts.parseUrl_of_scheme formed given
  obtain ⟨fresh, made, path, proxy, host, secure⟩ := createFromUrl_spec parsed
    ⟨by rw [scheme_is]; exact filled, named, path_filled⟩ [] (-1) (-1)
  refine ⟨fresh, made, path, proxy, ?_, by rw [secure, scheme_is]⟩
  rw [host, if_neg port_filled, hostPort]
  simp

/-- What a request made from a target behind `http://` asks host and port. -/
private theorem made_from_http (formed : parts.WellFormed) (named : parts.host ≠ [])
    (http : parts.scheme = some "http".toList) :
    ∃ fresh, createFromUrl parts.render [] (-1) (-1) = some (some fresh) ∧
      fresh.path = parts.path.getD "/".toList ∧ fresh.isHttps = false ∧
      fresh.getHostPort [] 0 = (parts.host, targetPort parts) ∧
      fresh.connection = (false, parts.host, (toString (targetPort parts)).toList) := by
  obtain ⟨fresh, made, path, proxy, host, secure⟩ := made_from formed named http (by decide)
  have default : parts.defaultPort = "80".toList := by
    rw [UrlParts.defaultPort, UrlParts.schemeOrDefault, http]
    rfl
  rw [default] at host
  have port_filled : ∀ port ∈ some (parts.port.getD "80".toList), port ≠ [] ∧ '/' ∉ port := by
    rintro _ ⟨⟩
    cases port : parts.port with
    | none => decide
    | some port' => exact formed.port port' port
  have asked : fresh.getHostPort [] 0 = (parts.host, targetPort parts) :=
    getHostPort_hostPort { parts with port := some (parts.port.getD "80".toList) }
      ⟨formed.scheme, formed.host, port_filled, formed.path⟩ named host
  refine ⟨fresh, made, path, secure, asked, ?_⟩
  rw [connection, getConnHostPort, if_pos proxy, asked]
  simp only
  rw [secure]
  rfl

private theorem follows_http_iff (formed : parts.WellFormed) (named : parts.host ≠ [])
    (http : parts.scheme = some "http".toList) :
    Follows request (.absolute parts) ↔ Plainly request (.absolute parts) := by
  obtain ⟨fresh, made, path, plain, asked, connects⟩ := made_from_http formed named http
  have redirects : request.redirect parts.render =
      ((request.setHeader "Host".toList (hostPort parts)).map fun next =>
        { next with path := parts.path.getD "/".toList }).map fun next => (next, next.connection) := by
    rw [redirect, redirected_http formed named http]
  constructor
  · rintro ⟨next, fresh', taken, made', asks, _, secure⟩
    rw [made] at made'
    cases made'
    rw [redirects, Option.map_map, Option.map_eq_some_iff] at taken
    obtain ⟨middle, assigned, same⟩ := taken
    obtain ⟨shape, _⟩ := setHeader_spec assigned
    simp only [Function.comp_apply, Prod.mk.injEq] at same
    obtain ⟨rfl, connected⟩ := same
    have clear : request.isHttps = false := by
      rw [plain, shape] at secure
      exact secure
    refine ⟨http, clear, ?_, setHeader_some_iff.mp ⟨middle, assigned⟩⟩
    have proxy : middle.proxyHost = request.proxyHost ∧ middle.proxyPort = request.proxyPort := by
      rw [shape]
      exact ⟨rfl, rfl⟩
    by_cases direct : request.proxyHost = []
    · exact .inl direct
    · right
      rw [connects, connection, getConnHostPort, if_neg (by simpa [proxy.1] using direct)] at connected
      simp only [Prod.mk.injEq, proxy.1, proxy.2] at connected
      exact ⟨connected.2.1, digits_injective connected.2.2⟩
  · rintro ⟨_, clear, proxied, held⟩
    obtain ⟨middle, assigned⟩ := setHeader_some_iff.mpr held
    obtain ⟨shape, values⟩ := setHeader_spec assigned
    have next_asks : HttpRequest.getHostPort { middle with path := parts.path.getD "/".toList } [] 0 =
        (parts.host, targetPort parts) := by
      apply getHostPort_hostPort parts formed named
      exact (values "Host".toList).trans (if_pos rfl)
    have next_clear : middle.isHttps = false := by
      rw [shape]
      exact clear
    have connected : HttpRequest.connection { middle with path := parts.path.getD "/".toList } =
        fresh.connection := by
      have proxy : middle.proxyHost = request.proxyHost ∧ middle.proxyPort = request.proxyPort := by
        rw [shape]
        exact ⟨rfl, rfl⟩
      rw [connects, connection, getConnHostPort, next_asks]
      simp only [proxy.1, proxy.2, next_clear]
      rcases proxied with direct | ⟨sameHost, samePort⟩
      · rw [if_pos direct]
      · rw [sameHost, samePort]
        split <;> rfl
    refine ⟨_, fresh, ?_, made, next_asks.trans asked.symm, path.symm, next_clear.trans plain.symm⟩
    rw [redirects, assigned, ← connected]
    rfl

/-- A target behind `https://` is taken for a path, and longer than any path it names. -/
private theorem not_follows_https (formed : parts.WellFormed) (named : parts.host ≠ [])
    (https : parts.scheme = some "https".toList) : ¬ Follows request (.absolute parts) := by
  rintro ⟨next, fresh, taken, made, _, path, _⟩
  obtain ⟨fresh', made', freshPath, _⟩ := made_from formed named https (by decide)
  rw [made] at made'
  cases made'
  have shape : parts.render = "https://".toList ++ parts.behindScheme := by
    rw [UrlParts.render, https]
    rfl
  have other : ¬ "http://".toList <+: parts.render := by
    rw [shape]
    intro held
    have same := List.prefix_of_prefix_length_le held (List.prefix_append "https://".toList _)
      (by decide)
    exact absurd same (by decide)
  rw [redirect, redirected_path other, Option.map_some, Option.some.injEq, Prod.mk.injEq] at taken
  obtain ⟨rfl, _⟩ := taken
  have lengths := congrArg List.length (path.trans freshPath)
  rw [shape] at lengths
  have most : (parts.path.getD "/".toList).length ≤ (parts.path.getD []).length + 1 := by
    cases parts.path <;> simp
  simp [UrlParts.behindScheme] at lengths most
  omega

private theorem follows_relative {path : Text} (begins : path.head? = some '/') :
    Follows request (.relative path) := by
  have other : ¬ "http://".toList <+: path := by
    rintro ⟨rest, rfl⟩
    exact absurd begins (by simp)
  refine ⟨{ request with path }, ?_, rfl⟩
  rw [redirect, redirected_path other, if_pos begins]
  rfl

/-- Following a redirect is asking for its target exactly where the target is a path on
the same origin, or all of the plain case holds. -/
theorem redirect_follows_iff {location : Location} (formed : location.Formed) :
    Follows request location ↔ Plainly request location := by
  cases location with
  | relative path => exact ⟨fun _ => trivial, fun _ => follows_relative formed⟩
  | absolute parts =>
    obtain ⟨formed, named, http | https⟩ := formed
    · exact follows_http_iff formed named http
    · constructor
      · exact fun follows => absurd follows (not_follows_https formed named https)
      · rintro ⟨http, _⟩
        rw [https] at http
        exact absurd http (by decide)

/-- `http://b:81/p`, and `https://b`. -/
def plainTarget : UrlParts := ⟨some "http".toList, "b".toList, some "81".toList, some "/p".toList⟩

def securedTarget : UrlParts := ⟨some "https".toList, "b".toList, none, none⟩

private theorem plainTarget_formed : (Location.absolute plainTarget).Formed := by
  refine ⟨⟨?_, by decide, ?_, ?_⟩, by decide, .inl rfl⟩
  · rintro _ ⟨⟩
    exact List.all_eq_true.mp (by decide)
  · rintro _ ⟨⟩
    decide
  · rintro _ ⟨⟩
    decide

private theorem securedTarget_formed : (Location.absolute securedTarget).Formed := by
  refine ⟨⟨?_, by decide, nofun, nofun⟩, by decide, .inr rfl⟩
  rintro _ ⟨⟩
  exact List.all_eq_true.mp (by decide)

/-- A request that has just been made goes on to another host. -/
theorem plain_target_followed : (Location.absolute plainTarget).Formed ∧
    Follows { path := "/".toList } (.absolute plainTarget) :=
  ⟨plainTarget_formed, (redirect_follows_iff plainTarget_formed).mpr
    ⟨rfl, rfl, .inl rfl, fun bound => absurd rfl bound⟩⟩

/-- A plain request is told to come back secured. -/
theorem secured_target_not_followed : ¬ ∀ (request : HttpRequest) (location : Location),
    location.Formed → Follows request location := by
  intro all
  exact not_follows_https securedTarget_formed.1 (by decide) rfl
    (all { path := "/".toList } (.absolute securedTarget) securedTarget_formed)

end HttpRequest
end BeeSdk.HttpMessage
