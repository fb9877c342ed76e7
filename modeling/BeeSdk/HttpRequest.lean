import BeeSdk.HttpResponse

/-! `HttpRequest`: the request line, the headers, and the URL a request is made from.
Names are equal here only in the same letters. -/
namespace BeeSdk.HttpMessage
open TextSearch HttpHeader

structure HttpRequest extends HeaderTable where
  method : Text := []
  path : Text := []
  protocolAndVersion : Text := []
  body : Text := []
  url : Text := []
  proxyHost : Text := []
  proxyPort : Nat := 0
  isValid : Bool := false
  isHttps : Bool := false

namespace HttpRequest

/-- `ParseUrl` behind the scheme: host, port and path, the path empty where none is
found. A colon counts only in front of the first slash. -/
def parseBehindScheme (portStr rest : Text) : Text × Text × Text :=
  match findFirstOf ':' rest, findFirstOf '/' rest with
  | some posHost, some posSlash =>
    if posHost < posSlash then
      let port := rest.drop (posHost + 1)
      match findFirstOf '/' port with
      | some posPort => (rest.take posHost, port.take posPort, port.drop posPort)
      | none => (rest.take posHost, portStr, [])
    else (rest.take posSlash, portStr, rest.drop posSlash)
  | none, some posSlash => (rest.take posSlash, portStr, rest.drop posSlash)
  | some posHost, none => (rest.take posHost, rest.drop (posHost + 1), [])
  | none, none => (rest, portStr, [])

/-- Protocol, host, port and path of a URL. -/
def parseUrl (url : Text) : Text × Text × Text × Text :=
  let (protocol, posHostBeg) := match find "://".toList url with
    | none => ("http".toList, 0)
    | some posProtocol => (url.take posProtocol, posProtocol + 3)
  let portStr := if protocol = "https".toList then "443".toList else "80".toList
  let (hostStr, portStr, pathStr) := parseBehindScheme portStr (url.drop posHostBeg)
  (protocol, hostStr, portStr, if pathStr = [] then "/".toList else pathStr)

def getHeader (request : HttpRequest) (name : Text) : Text :=
  HeaderTable.getHeader id request.toHeaderTable name

def setHeader (request : HttpRequest) (name val : Text) : Option HttpRequest :=
  (HeaderTable.setHeader id request.toHeaderTable name val).map fun toHeaderTable =>
    { request with toHeaderTable }

def removeHeader (request : HttpRequest) (name : Text) : Option HttpRequest :=
  (HeaderTable.removeHeader id request.toHeaderTable name).map fun toHeaderTable =>
    { request with toHeaderTable }

def setHost (request : HttpRequest) (hostStr : Text) : Option HttpRequest :=
  if hostStr ≠ [] then request.setHeader "Host".toList hostStr else some request

/-- The value of the `Range` header, where the two ends make sense. -/
def rangeText (rangeBeg rangeEnd : Int) : Option Text :=
  let number (value : Int) : Text := (toString value).toList
  if rangeBeg > -1 then
    if rangeEnd > -1 then
      if rangeBeg ≤ rangeEnd then
        some ("bytes=".toList ++ number rangeBeg ++ "-".toList ++ number rangeEnd)
      else none
    else some ("bytes=".toList ++ number rangeBeg ++ "-".toList)
  else if rangeEnd > 0 then some ("bytes=".toList ++ "-".toList ++ number rangeEnd)
  else none

def setRange (request : HttpRequest) (rangeBeg rangeEnd : Int) : Option HttpRequest :=
  match rangeText rangeBeg rangeEnd with
  | some val => request.setHeader "Range".toList val
  | none => some request

def setProxy (request : HttpRequest) (host : Text) (port : Nat) : Option HttpRequest :=
  let request := if ¬ "http://".toList <+: request.path then
      { request with
        path := "http://".toList ++ request.getHeader "Host".toList ++ request.path }
    else request
  (request.removeHeader "Connection".toList).bind fun request =>
  (request.setHeader "Proxy-Connection".toList "Keep-Alive".toList).map fun request =>
  { request with proxyHost := host, proxyPort := port }

/-- The path, the scheme, the proxy and the header map keep what they hold. -/
def reset (request : HttpRequest) : HttpRequest :=
  { request with
    isValid := false, method := [], url := [], protocolAndVersion := [], headers := [], body := [] }

/-- The browser `create_from_url` pretends to be. -/
def userAgent : Text :=
  ("Mozilla/4.0 (compatible; MSIE 6.0; Windows NT 5.1; SV1; .NET CLR 2.0.50727; .NET CLR 3.0.04506.648; "
    ++ ".NET CLR 3.5.21022; .NET CLR 3.0.4506.2152; .NET CLR 3.5.30729)").toList

/-- Null where the URL has no protocol or no host, undefined where a header call is. -/
def createFromUrl (url referUrl : Text) (rangeBeg rangeEnd : Int) : Option (Option HttpRequest) :=
  let (protocol, host, port, path) := parseUrl url
  if protocol = [] ∨ host = [] ∨ path = [] then some none
  else
    let request : HttpRequest :=
      { method := "GET".toList, protocolAndVersion := "HTTP/1.1".toList, path }
    (request.setHeader "Accept".toList "*/*".toList).bind fun request =>
    (request.setHeader "Accept-Language".toList "zh-CN".toList).bind fun request =>
    (if referUrl ≠ [] then request.setHeader "Referer".toList referUrl else some request).bind fun request =>
    (request.setHeader "User-Agent".toList userAgent).bind fun request =>
    (request.setHost (if port = [] then host else host ++ ":".toList ++ port)).bind fun request =>
    (request.setHeader "Connection".toList "Keep-Alive".toList).bind fun request =>
    (request.setRange rangeBeg rangeEnd).map fun request =>
    some { request with isValid := true, isHttps := protocol = "https".toList }

def parseBody (request : HttpRequest) : Bool × HttpRequest :=
  if find "\r\n\r\n".toList request.body = none then (false, request)
  else match split request.body "\r\n".toList with
    | [] => (false, request)
    | first :: rest =>
      match split first " ".toList with
      | [method, path, protocolAndVersion] =>
        (true, { request with
          method, path, protocolAndVersion
          toHeaderTable := (rest.filterMap fieldOf).foldl (HeaderTable.addField id)
            request.toHeaderTable })
      | _ => (false, request)

/-- `HttpRequest(request_lines)`; the proxy port and the scheme are whatever the memory
held. -/
def ofLines (memory : Nat × Bool) (requestLines : Text) : HttpRequest :=
  let (isValid, request) :=
    parseBody { body := requestLines, proxyPort := memory.1, isHttps := memory.2 }
  { request with isValid }

def getHostPort (request : HttpRequest) (host : Text) (port : Nat) : Text × Nat :=
  let hostStr := request.getHeader "Host".toList
  if hostStr = [] then (host, port)
  else match findFirstOf ':' hostStr with
    | some pos => (hostStr.take pos, (castUnsigned (hostStr.drop (pos + 1))).getD 80)
    | none => (hostStr, 80)

def getConnHostPort (request : HttpRequest) (host : Text) (port : Nat) : Text × Nat :=
  if request.proxyHost = [] then request.getHostPort host port
  else (request.proxyHost, request.proxyPort)

def serializeToString (request : HttpRequest) : Text :=
  let pathLine := request.method ++ " ".toList ++ request.path ++ " ".toList ++
    request.protocolAndVersion ++ "\r\n".toList
  request.headers.foldl headerAppender pathLine ++ "\r\n".toList

/-! ### Calls -/

/-- The calls that change the headers. -/
inductive Call where
  | setHeader (name val : Text)
  | removeHeader (name : Text)
  | setHost (hostStr : Text)
  | setRange (rangeBeg rangeEnd : Int)
  | setProxy (host : Text) (port : Nat)
  | reset
  deriving DecidableEq

def step (request : HttpRequest) : Call → Option (Unit × HttpRequest)
  | .setHeader name val => (request.setHeader name val).map ((), ·)
  | .removeHeader name => (request.removeHeader name).map ((), ·)
  | .setHost hostStr => (request.setHost hostStr).map ((), ·)
  | .setRange rangeBeg rangeEnd => (request.setRange rangeBeg rangeEnd).map ((), ·)
  | .setProxy host port => (request.setProxy host port).map ((), ·)
  | .reset => some ((), request.reset)

end HttpRequest
end BeeSdk.HttpMessage
