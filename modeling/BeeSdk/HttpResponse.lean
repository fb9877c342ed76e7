import BeeSdk.HttpHeader
import BeeSdk.Session

/-! `HttpResponse`: the status line, the headers, and the calls by which a proxy
changes the headers before it passes a response on. Names are equal here whatever
the case of their letters. -/
namespace BeeSdk.HttpMessage
open TextSearch HttpHeader

/-- `boost::to_lower_copy`, by which `lower_comp` compares. -/
def toLowerCopy (name : Text) : Text := name.map Char.toLower

/-- `boost::lexical_cast<unsigned int>`. -/
abbrev castUnsigned : Text → Option Nat := Session.HttpRequest.castPort

/-- `sh_http_status_reason_str`: the entries that are not null. -/
def shHttpStatusReasonStr : List (Nat × String) :=
  [(100, "Continue"), (101, "Switching Protocols"),
    (200, "OK"), (201, "Created"), (202, "Accepted"), (203, "Non-Authoritative Information"),
    (204, "No Content"), (205, "Reset Content"), (206, "Partial Content"),
    (300, "Multiple Choices"), (301, "Moved Permanently"), (302, "Found"), (303, "See Other"),
    (304, "Not Modified"), (305, "Use Proxy"), (306, "Temporary Redirect"),
    (400, "Bad Request"), (401, "Unauthorized"), (402, "Payment Required"), (403, "Forbidden"),
    (404, "Not Found"), (405, "Method Not Allowed"), (406, "Not Acceptable"),
    (407, "Proxy Authentication Required"), (408, "Request Time-out"), (409, "Conflict"),
    (410, "Gone"), (411, "Length Required"), (412, "Precondition Failed"),
    (413, "Request Entity Too Large"), (414, "Request-URI Too Large"),
    (415, "Unsupported Media Type"), (416, "Requested range not satisfiable"),
    (417, "Expectation Failed"),
    (500, "Internal Server Error"), (501, "Not Implemented"), (502, "Bad Gateway"),
    (503, "Service Unavailable"), (504, "Gateway Time-out"), (505, "HTTP Version not supported")]

/-- Undefined at a null entry and beyond the end of the table. -/
def reasonOf (statusCode : Nat) : Option Text :=
  (shHttpStatusReasonStr.lookup statusCode).map String.toList

structure HttpResponse extends HeaderTable where
  protocolAndVersion : Text := []
  statusCode : Nat
  reasonStr : Text := []
  headerBody : Text := []
  isValid : Bool := false

namespace HttpResponse

/-- `parse_body` from the blank behind the protocol on, up to the header fields. Nothing
is assigned where only blanks follow. -/
def parseStatus (response : HttpResponse) (behind : Text) : Bool × HttpResponse :=
  match findFirstNotOf ' ' behind with
  | none => (true, response)
  | some posStatusBeg =>
    let status := behind.drop posStatusBeg
    match findFirstOf ' ' status with
    | none => (false, response)
    | some posStatus =>
      match castUnsigned (status.take posStatus) with
      | none => (false, response)
      | some statusCode =>
        let response := { response with statusCode }
        let reason := status.drop posStatus
        match findFirstNotOf ' ' reason with
        | none => (false, response)
        | some posReason => (true, { response with reasonStr := reason.drop posReason })

/-- `parse_body` up to the header fields. -/
def parseStart (response : HttpResponse) (first : Text) : Bool × HttpResponse :=
  if find "HTTP".toList first = none then (false, response)
  else match findFirstOf ' ' first with
    | none => (false, response)
    | some posProtocol =>
      { response with protocolAndVersion := first.take posProtocol }.parseStatus
        (first.drop posProtocol)

def parseBody (response : HttpResponse) : Bool × HttpResponse :=
  if find "\r\n\r\n".toList response.headerBody = none then (false, response)
  else match split response.headerBody "\r\n".toList with
    | [] => (false, response)
    | first :: rest =>
      let (started, response) := response.parseStart first
      if ¬ started then (false, response)
      else (true, { response with
        toHeaderTable := (rest.filterMap fieldOf).foldl (HeaderTable.addField toLowerCopy)
          response.toHeaderTable })

/-- `HttpResponse(header_lines)`; the status code is whatever the memory held. -/
def ofLines (memory : Nat) (headerLines : Text) : HttpResponse :=
  let (isValid, response) := parseBody { headerBody := headerLines, statusCode := memory }
  { response with isValid }

/-- `HttpResponse(protocol_and_version, status_code)`. -/
def ofStatus (protocolAndVersion : Text) (statusCode : Nat) : Option HttpResponse :=
  (reasonOf statusCode).map fun reasonStr =>
    { protocolAndVersion, statusCode, reasonStr, isValid := true }

def getHeader (response : HttpResponse) (name : Text) : Text :=
  HeaderTable.getHeader toLowerCopy response.toHeaderTable name

def setHeader (response : HttpResponse) (name val : Text) : Option HttpResponse :=
  (HeaderTable.setHeader toLowerCopy response.toHeaderTable name val).map fun toHeaderTable =>
    { response with toHeaderTable }

def setContentLen (response : HttpResponse) (contentLen : Int) : Option HttpResponse :=
  response.setHeader "Content-Length".toList (toString contentLen).toList

def hasHeader (response : HttpResponse) (name : Text) : Option Bool :=
  HeaderTable.hasHeader toLowerCopy response.toHeaderTable name

def setStatusCode (response : HttpResponse) (statusCode : Nat) : Option HttpResponse :=
  (reasonOf statusCode).map fun reasonStr => { response with statusCode, reasonStr }

def removeHeader (response : HttpResponse) (name : Text) : Option HttpResponse :=
  (HeaderTable.removeHeader toLowerCopy response.toHeaderTable name).map fun toHeaderTable =>
    { response with toHeaderTable }

def hasRange (response : HttpResponse) : Option Bool :=
  response.hasHeader "Content-Range".toList

def removeRange (response : HttpResponse) : Option HttpResponse :=
  response.removeHeader "Content-Range".toList

def serializeToString (response : HttpResponse) : Text :=
  let statusLine := response.protocolAndVersion ++ " ".toList ++
    (toString response.statusCode).toList ++ " ".toList ++ response.reasonStr ++ "\r\n".toList
  response.headers.foldl headerAppender statusLine ++ "\r\n".toList

/-! ### Calls -/

/-- The calls that change or look up a header. -/
inductive Call where
  | setHeader (name val : Text)
  | setContentLen (contentLen : Int)
  | hasHeader (name : Text)
  | removeHeader (name : Text)
  | hasRange
  | removeRange
  deriving DecidableEq

/-- One call and its answer, if it has one. -/
def step (response : HttpResponse) : Call → Option (Option Bool × HttpResponse)
  | .setHeader name val => (response.setHeader name val).map (none, ·)
  | .setContentLen contentLen => (response.setContentLen contentLen).map (none, ·)
  | .hasHeader name => (response.hasHeader name).map (some ·, response)
  | .removeHeader name => (response.removeHeader name).map (none, ·)
  | .hasRange => response.hasRange.map (some ·, response)
  | .removeRange => response.removeRange.map (none, ·)

/-- The header a call is about. -/
def Call.name : Call → Text
  | .setHeader name _ | .hasHeader name | .removeHeader name => name
  | .setContentLen _ => "Content-Length".toList
  | .hasRange | .removeRange => "Content-Range".toList

end HttpResponse
end BeeSdk.HttpMessage
