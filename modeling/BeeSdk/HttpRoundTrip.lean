import BeeSdk.HttpHeaderProofs

/-! What a message sends and what is read back: the start line and the header list
always come back, the values asked for come back where the message's own map holds
what its list sends. -/
namespace BeeSdk.HttpMessage
open TextSearch HttpHeader

/-! ### One header line -/

/-- A word of a start line. -/
structure Word (text : Text) : Prop where
  some : text ≠ []
  solid : ∀ symbol ∈ text, symbol ≠ ' ' ∧ symbol ≠ '\r' ∧ symbol ≠ '\n'

/-- A header that keeps to its line, and whose name ends at the colon behind it. -/
structure PlainHeader (header : Header) : Prop where
  named : header.name ≠ []
  noColon : ':' ∉ header.name
  nameLine : ∀ symbol ∈ header.name, symbol ≠ '\r' ∧ symbol ≠ '\n'
  valLine : ∀ symbol ∈ header.val, symbol ≠ '\r' ∧ symbol ≠ '\n'
  nameTrimmed : Trimmed isSpace header.name
  valTrimmed : Trimmed isSpace header.val

/-- The line a header is sent in. -/
def lineOf (header : Header) : Text := header.name ++ ": ".toList ++ header.val

private theorem colon_no_space : isSpace ':' = false := by decide

private theorem blank_space : isSpace ' ' = true := by decide

/-- Trimming a header line takes at most the blank behind the colon. -/
private theorem trim_line {header : Header} (plain : PlainHeader header) :
    ∃ rest, trim isSpace (lineOf header) = header.name ++ ':' :: rest ∧
      trim isSpace rest = header.val := by
  have begins : ∀ symbol ∈ (lineOf header).head?, isSpace symbol = false := by
    obtain ⟨first, tail, same⟩ := List.exists_cons_of_ne_nil plain.named
    intro symbol member
    apply plain.nameTrimmed.1
    rw [lineOf, same] at member
    rw [same]
    exact member
  by_cases empty : header.val = []
  · refine ⟨[], ?_, by rw [empty]; rfl⟩
    have shape : lineOf header = header.name ++ [':'] ++ [' '] := by simp [lineOf, empty]
    rw [trim_of_head begins, shape, List.rdropWhile_concat_pos _ _ _ blank_space,
      List.rdropWhile_concat_neg _ _ _ (by simp [colon_no_space])]
  · refine ⟨' ' :: header.val, ?_, ?_⟩
    · have ends : ∀ symbol ∈ (lineOf header).getLast?, isSpace symbol = false := by
        intro symbol member
        rw [lineOf, List.getLast?_append_of_ne_nil _ empty] at member
        exact plain.valTrimmed.2 symbol member
      have trimmed : Trimmed isSpace (lineOf header) := ⟨begins, ends⟩
      rw [trimmed.trim_eq]
      simp [lineOf]
    · rw [trim_cons blank_space, plain.valTrimmed.trim_eq]

/-- A plain header is read back off its line. -/
theorem fieldOf_line {header : Header} (plain : PlainHeader header) :
    fieldOf (lineOf header) = some header := by
  obtain ⟨rest, shape, value⟩ := trim_line plain
  rw [fieldOf, shape]
  have filled : header.name ++ ':' :: rest ≠ [] := by simp
  simp only [if_neg filled, findFirstOf_append rest plain.noColon]
  rw [List.take_left, plain.nameTrimmed.trim_eq, drop_behind, value]

/-! ### The lines of a message -/

private theorem appended_lines (headers : List Header) (start : Text) :
    headers.foldl headerAppender start =
      start ++ (headers.map lineOf).flatMap (· ++ "\r\n".toList) := by
  induction headers generalizing start with
  | nil => simp
  | cons header rest ih => simp [ih, headerAppender, lineOf]

/-- A text in lines: a start line, one line for each header, and an empty one. -/
theorem message_lines (headers : List Header) (first : Text) :
    headers.foldl headerAppender (first ++ "\r\n".toList) ++ "\r\n".toList =
      (first :: (headers.map lineOf ++ [[]])).flatMap (· ++ "\r\n".toList) := by
  rw [appended_lines]
  simp

private theorem one_line {text : Text} (line : ∀ symbol ∈ text, symbol ≠ '\r' ∧ symbol ≠ '\n') :
    ¬ "\r\n".toList <:+: text ++ "\r\n".toList.dropLast :=
  free_of_head_absent ['\n'] fun member => (line '\r' member).1 rfl

private theorem line_plain {header : Header} (plain : PlainHeader header) :
    ∀ symbol ∈ lineOf header, symbol ≠ '\r' ∧ symbol ≠ '\n' := by
  intro symbol member
  simp only [lineOf, List.mem_append] at member
  rcases member with (name | between) | val
  · exact plain.nameLine symbol name
  · simp at between
    rcases between with rfl | rfl <;> decide
  · exact plain.valLine symbol val

variable {headers : List Header} {first : Text}

/-- The pieces of a message are its lines. -/
theorem split_message (plain : ∀ header ∈ headers, PlainHeader header)
    (line : ¬ "\r\n".toList <:+: first ++ "\r\n".toList.dropLast) :
    split (headers.foldl headerAppender (first ++ "\r\n".toList) ++ "\r\n".toList) "\r\n".toList =
      first :: (headers.map lineOf ++ [[]]) := by
  rw [message_lines]
  apply split_lines (by simp)
  intro text member
  simp only [List.mem_cons, List.mem_append, List.mem_map, List.not_mem_nil, or_false] at member
  rcases member with rfl | ⟨header, held, rfl⟩ | rfl
  · exact line
  · exact one_line (line_plain (plain header held))
  · exact one_line (by simp)

/-- A message ends in an empty line. -/
theorem message_ends (headers : List Header) (first : Text) :
    find "\r\n\r\n".toList
      (headers.foldl headerAppender (first ++ "\r\n".toList) ++ "\r\n".toList) ≠ none := by
  rw [ne_eq, find_eq_none_iff, not_not, message_lines]
  obtain ⟨front, last, same⟩ : ∃ front last, first :: headers.map lineOf = front ++ [last] :=
    ⟨_, _, (List.dropLast_append_getLast (List.cons_ne_nil _ _)).symm⟩
  rw [← List.cons_append, same]
  refine ⟨front.flatMap (· ++ "\r\n".toList) ++ last, [], ?_⟩
  simp

/-- Behind the start line the headers are read back in order. -/
theorem fields_of_lines (plain : ∀ header ∈ headers, PlainHeader header) :
    (headers.map lineOf ++ [[]]).filterMap fieldOf = headers := by
  rw [List.filterMap_append, List.filterMap_map]
  have read : headers.filterMap (fieldOf ∘ lineOf) = headers.filterMap some := by
    apply List.filterMap_congr
    intro header member
    exact fieldOf_line (plain header member)
  have last : [([] : Text)].filterMap fieldOf = [] := by decide
  rw [read, List.filterMap_some, last, List.append_nil]

/-! ### Requests -/

/-- A table read from header lines holds what the lines send. -/
private theorem ofFields_bound (fold : Text → Text) (fields : List Header) (name : Text) :
    HeaderTable.getHeader fold (.ofFields fold fields) name =
      ((HeaderTable.sent fold fields name).getLast?).getD [] := by
  rw [HeaderTable.getHeader, HeaderTable.ofFields_lookup]

namespace HttpRequest

/-- A request that can be sent. -/
structure Plain (request : HttpRequest) : Prop where
  method : Word request.method
  path : Word request.path
  protocol : Word request.protocolAndVersion
  headers : ∀ header ∈ request.headers, PlainHeader header

/-- What was read is a request with the start line, the headers and the values of the
one that was sent. -/
structure ReadBack (request read : HttpRequest) : Prop where
  isValid : read.isValid = true
  method : read.method = request.method
  path : read.path = request.path
  protocolAndVersion : read.protocolAndVersion = request.protocolAndVersion
  headers : read.headers = request.headers
  values : ∀ name, read.getHeader name = request.getHeader name

/-- Every name has the value of the last line sent under it, or none. -/
def BindsSent (request : HttpRequest) : Prop :=
  ∀ name, request.getHeader name = ((HeaderTable.sent id request.headers name).getLast?).getD []

private theorem split_start {request : HttpRequest} (plain : request.Plain) :
    split (request.method ++ " ".toList ++ request.path ++ " ".toList ++
      request.protocolAndVersion) " ".toList =
      [request.method, request.path, request.protocolAndVersion] := by
  have free : ∀ {text : Text}, Word text → ¬ " ".toList <:+: text ++ " ".toList.dropLast :=
    fun word => free_of_head_absent [] fun member => (word.solid ' ' member).1 rfl
  have last := free plain.protocol
  rw [List.append_assoc, List.append_assoc, split_append _ (by simp) (free plain.method),
    ← List.append_assoc, split_append _ (by simp) (free plain.path),
    split_of_free plain.protocol.some (by simpa using last)]

/-- What is read off a text in lines with three words in the first. -/
theorem parseBody_of_pieces (request : HttpRequest) {first method path protocolAndVersion : Text}
    {rest : List Text} (ends : find "\r\n\r\n".toList request.body ≠ none)
    (pieces : split request.body "\r\n".toList = first :: rest)
    (words : split first " ".toList = [method, path, protocolAndVersion]) :
    request.parseBody = (true, { request with
      method, path, protocolAndVersion
      toHeaderTable := (rest.filterMap fieldOf).foldl (HeaderTable.addField id)
        request.toHeaderTable }) := by
  rw [parseBody, if_neg ends, pieces]
  simp only [words]

/-- What is read off a request that was sent. -/
theorem ofLines_serialized {request : HttpRequest} (plain : request.Plain)
    (memory : Nat × Bool) :
    ofLines memory request.serializeToString =
      { toHeaderTable := HeaderTable.ofFields id request.headers
        method := request.method, path := request.path
        protocolAndVersion := request.protocolAndVersion
        body := request.serializeToString
        proxyPort := memory.1, isHttps := memory.2, isValid := true } := by
  have line : ¬ "\r\n".toList <:+: (request.method ++ " ".toList ++ request.path ++ " ".toList ++
      request.protocolAndVersion) ++ "\r\n".toList.dropLast := by
    apply one_line
    intro symbol member
    simp only [List.mem_append] at member
    rcases member with (((method | blank) | path) | blank) | protocol
    · exact (plain.method.solid symbol method).2
    · simp at blank
      subst blank
      decide
    · exact (plain.path.solid symbol path).2
    · simp at blank
      subst blank
      decide
    · exact (plain.protocol.solid symbol protocol).2
  have parsed := parseBody_of_pieces
    { body := request.serializeToString, proxyPort := memory.1, isHttps := memory.2 }
    (message_ends request.headers _) (split_message plain.headers line) (split_start plain)
  rw [fields_of_lines plain.headers] at parsed
  rw [ofLines, parsed]
  rfl

/-- A request is read back exactly when it binds what it sends. -/
theorem readBack_iff {request : HttpRequest} (plain : request.Plain) (memory : Nat × Bool) :
    request.ReadBack (ofLines memory request.serializeToString) ↔ request.BindsSent := by
  rw [ofLines_serialized plain memory]
  constructor
  · intro read name
    rw [← read.values name]
    exact ofFields_bound id request.headers name
  · intro binds
    refine ⟨rfl, rfl, rfl, rfl, HeaderTable.ofFields_headers _, fun name => ?_⟩
    rw [binds name]
    exact ofFields_bound id request.headers name

end HttpRequest

/-! ### Responses -/

/-- A number is read back off its digits. -/
theorem castUnsigned_digits {value : Nat} (fits : value < 2 ^ 32) :
    castUnsigned (toString value).toList = some value := by
  have text : (toString value).toList = Nat.toDigits 10 value := Nat.toList_repr
  have digits : ∀ symbol ∈ Nat.toDigits 10 value, symbol.isDigit := fun _ member =>
    Nat.isDigit_of_mem_toDigits (by decide) (by decide) member
  have number : (Nat.toDigits 10 value).foldl
      (fun value digit => 10 * value + (digit.toNat - '0'.toNat)) 0 = value := by
    rw [← Nat.ofDigitChars_eq_foldl, Nat.ofDigitChars_ten_toDigits]
  rw [text]
  cases shape : Nat.toDigits 10 value with
  | nil => exact absurd shape Nat.toDigits_ne_nil
  | cons first rest =>
    rw [shape] at digits number
    have plus : first ≠ '+' := fun same => absurd (digits first (by simp)) (by rw [same]; decide)
    have minus : first ≠ '-' := fun same => absurd (digits first (by simp)) (by rw [same]; decide)
    have all : (first :: rest).all Char.isDigit := List.all_eq_true.mpr digits
    unfold castUnsigned Session.HttpRequest.castPort
    split
    rename_i negative unsigned signs
    split at signs
    · simp_all
    · simp_all
    · cases signs
      simp only [number, all]
      simp
      omega

theorem castUnsigned_fits {text : Text} {value : Nat} (cast : castUnsigned text = some value) :
    value < 2 ^ 32 := by
  unfold castUnsigned Session.HttpRequest.castPort at cast
  split at cast
  simp only at cast
  split at cast
  · cases cast
  · rename_i read
    cases cast
    simp only [not_or] at read
    split
    · exact Nat.mod_lt _ (by decide)
    · omega

namespace HttpResponse

/-- A response that came about through the constructors and calls. The status code is an
`unsigned int`, whatever it holds. -/
inductive Made : HttpResponse → Prop where
  | ofLines (memory : Nat) (fits : memory < 2 ^ 32) (text : Text) : Made (ofLines memory text)
  | ofStatus (protocol : Text) (code : Nat) (made : ofStatus protocol code = some response) :
      Made response
  | called (made : Made response) (call : Call) (taken : response.step call = some (reply, next)) :
      Made next
  | setStatusCode (made : Made response) (code : Nat)
      (set : response.setStatusCode code = some next) : Made next

/-- The status code fits its type, and the reason keeps to its line. -/
structure StatusLine (response : HttpResponse) : Prop where
  fits : response.statusCode < 2 ^ 32
  oneLine : ¬ "\r\n".toList <:+: response.reasonStr

private theorem reasonOf_statusLine {statusCode : Nat} {reasonStr : Text}
    (reason : reasonOf statusCode = some reasonStr) :
    statusCode < 2 ^ 32 ∧ ¬ "\r\n".toList <:+: reasonStr := by
  obtain ⟨text, found, rfl⟩ := Option.map_eq_some_iff.mp reason
  obtain ⟨before, after, shape, _⟩ := List.lookup_eq_some_iff.mp found
  have member : (statusCode, text) ∈ shHttpStatusReasonStr := by rw [shape]; simp
  have all : ∀ entry ∈ shHttpStatusReasonStr, entry.1 < 1000 ∧ '\r' ∉ entry.2.toList := by
    decide +kernel
  obtain ⟨small, oneLine⟩ := all _ member
  exact ⟨Nat.lt_trans small (by decide), fun held => oneLine (held.subset (by simp))⟩

private theorem parseStatus_statusLine {response : HttpResponse} {behind : Text}
    (line : StatusLine response) (free : ¬ "\r\n".toList <:+: behind) :
    StatusLine (response.parseStatus behind).2 := by
  unfold parseStatus
  split
  · exact line
  · simp only
    split
    · exact line
    · split
      · exact line
      · rename_i _ cast
        split
        · exact ⟨castUnsigned_fits cast, line.oneLine⟩
        · refine ⟨castUnsigned_fits cast, fun held => free (held.trans ?_)⟩
          exact ((List.drop_suffix _ _).trans
            ((List.drop_suffix _ _).trans (List.drop_suffix _ _))).isInfix

private theorem parseBody_statusLine {response : HttpResponse} (line : StatusLine response) :
    StatusLine response.parseBody.2 := by
  unfold parseBody
  split
  · exact line
  · split
    · exact line
    · rename_i first rest pieces
      have free : ¬ "\r\n".toList <:+: first := by
        have member : first ∈ split response.headerBody "\r\n".toList := by
          rw [pieces]
          exact List.mem_cons_self
        exact free_of_mem_split (by simp) member
      have started : StatusLine (response.parseStart first).2 := by
        unfold parseStart
        split
        · exact line
        · split
          · exact line
          · apply parseStatus_statusLine
            · exact ⟨line.fits, line.oneLine⟩
            · exact fun held => free (held.trans (List.drop_suffix _ _).isInfix)
      simp only
      split
      · exact started
      · exact ⟨started.fits, started.oneLine⟩

private theorem step_statusLine {response next : HttpResponse} {reply : Option Bool} {call : Call}
    (line : StatusLine response) (taken : response.step call = some (reply, next)) :
    StatusLine next := by
  have sets : ∀ {name val after}, response.setHeader name val = some after → StatusLine after := by
    intro name val after assigned
    obtain ⟨table, _, rfl⟩ := Option.map_eq_some_iff.mp assigned
    exact ⟨line.fits, line.oneLine⟩
  have removes : ∀ {name after}, response.removeHeader name = some after → StatusLine after := by
    intro name after removed
    obtain ⟨table, _, rfl⟩ := Option.map_eq_some_iff.mp removed
    exact ⟨line.fits, line.oneLine⟩
  cases call <;> obtain ⟨_, called, same⟩ := Option.map_eq_some_iff.mp taken <;> cases same
  case setHeader => exact sets called
  case setContentLen => exact sets called
  case hasHeader => exact line
  case removeHeader => exact removes called
  case hasRange => exact line
  case removeRange => exact removes called

theorem Made.statusLine {response : HttpResponse} (made : Made response) : StatusLine response := by
  induction made with
  | ofLines memory fits text =>
    have parsed := parseBody_statusLine (⟨fits, by simp⟩ :
      StatusLine { headerBody := text, statusCode := memory })
    exact ⟨parsed.fits, parsed.oneLine⟩
  | ofStatus protocol code made =>
    obtain ⟨reasonStr, reason, rfl⟩ := Option.map_eq_some_iff.mp made
    obtain ⟨fits, oneLine⟩ := reasonOf_statusLine reason
    exact ⟨fits, oneLine⟩
  | called made call taken ih => exact step_statusLine ih taken
  | setStatusCode made code set ih =>
    obtain ⟨reasonStr, reason, rfl⟩ := Option.map_eq_some_iff.mp set
    obtain ⟨fits, oneLine⟩ := reasonOf_statusLine reason
    exact ⟨fits, oneLine⟩

/-- A response that can be sent. -/
structure Plain (response : HttpResponse) : Prop where
  protocol : Word response.protocolAndVersion
  http : "HTTP".toList <:+: response.protocolAndVersion
  reason : response.reasonStr ≠ []
  reasonBegins : response.reasonStr.head? ≠ some ' '
  headers : ∀ header ∈ response.headers, PlainHeader header

/-- What was read is a response with the status line, the headers and the values of the
one that was sent. -/
structure ReadBack (response read : HttpResponse) : Prop where
  isValid : read.isValid = true
  protocolAndVersion : read.protocolAndVersion = response.protocolAndVersion
  statusCode : read.statusCode = response.statusCode
  reasonStr : read.reasonStr = response.reasonStr
  headers : read.headers = response.headers
  values : ∀ name, read.getHeader name = response.getHeader name

/-- Every name, in whatever case, has the value of the last line sent under it, or none. -/
def BindsSent (response : HttpResponse) : Prop :=
  ∀ name, response.getHeader name =
    ((HeaderTable.sent toLowerCopy response.headers name).getLast?).getD []

/-- What is read off a status line behind the protocol, where single blanks part it. -/
private theorem parseStatus_words (response : HttpResponse) {digits reasonStr : Text}
    {statusCode : Nat} (cast : castUnsigned digits = some statusCode) (number : digits ≠ [])
    (solid : ∀ symbol ∈ digits, symbol ≠ ' ') (filled : reasonStr ≠ [])
    (begins : reasonStr.head? ≠ some ' ') :
    response.parseStatus (' ' :: (digits ++ ' ' :: reasonStr)) =
      (true, { response with statusCode, reasonStr }) := by
  obtain ⟨letter, letters, rfl⟩ := List.exists_cons_of_ne_nil filled
  have other : letter ≠ ' ' := fun same => begins (by rw [same]; rfl)
  have absent : ' ' ∉ digits := fun member => solid ' ' member rfl
  have skips : findFirstNotOf ' ' (' ' :: (digits ++ ' ' :: letter :: letters)) = some 1 := by
    obtain ⟨digit, rest, rfl⟩ := List.exists_cons_of_ne_nil number
    exact findFirstNotOf_skip (solid digit (by simp))
  have stops := findFirstOf_append (letter :: letters) absent
  have reason : findFirstNotOf ' ' (' ' :: letter :: letters) = some 1 := findFirstNotOf_skip other
  rw [parseStatus, skips]
  simp only [List.drop_succ_cons, List.drop_zero, stops, List.take_left, cast, List.drop_left,
    reason]

/-- The status line of a response. -/
private def statusLine (response : HttpResponse) : Text :=
  response.protocolAndVersion ++ ' ' :: ((toString response.statusCode).toList ++
    ' ' :: response.reasonStr)

private theorem parseStart_sent (read : HttpResponse) {response : HttpResponse}
    (plain : response.Plain) (line : StatusLine response) :
    read.parseStart response.statusLine = (true, { read with
      protocolAndVersion := response.protocolAndVersion, statusCode := response.statusCode
      reasonStr := response.reasonStr }) := by
  have text : (toString response.statusCode).toList = Nat.toDigits 10 response.statusCode :=
    Nat.toList_repr
  have number : (toString response.statusCode).toList ≠ [] := by
    rw [text]
    exact Nat.toDigits_ne_nil
  have solid : ∀ symbol ∈ (toString response.statusCode).toList, symbol ≠ ' ' := by
    intro symbol member same
    rw [text, same] at member
    exact absurd (Nat.isDigit_of_mem_toDigits (by decide) (by decide) member) (by decide)
  have absent : ' ' ∉ response.protocolAndVersion :=
    fun member => (plain.protocol.solid ' ' member).1 rfl
  have http : find "HTTP".toList response.statusLine ≠ none := by
    rw [ne_eq, find_eq_none_iff, not_not]
    exact plain.http.trans (List.prefix_append _ _).isInfix
  rw [parseStart, if_neg http, statusLine, findFirstOf_append _ absent]
  simp only [List.take_left, List.drop_left]
  exact parseStatus_words _ (castUnsigned_digits line.fits) number solid plain.reason
    plain.reasonBegins

/-- What is read off a text in lines whose first is a status line. -/
theorem parseBody_of_pieces (response : HttpResponse) {first : Text} {rest : List Text}
    {started : HttpResponse} (ends : find "\r\n\r\n".toList response.headerBody ≠ none)
    (pieces : split response.headerBody "\r\n".toList = first :: rest)
    (status : response.parseStart first = (true, started)) :
    response.parseBody = (true, { started with
      toHeaderTable := (rest.filterMap fieldOf).foldl (HeaderTable.addField toLowerCopy)
        started.toHeaderTable }) := by
  rw [parseBody, if_neg ends, pieces]
  simp only [status]
  rfl

private theorem statusLine_line {response : HttpResponse} (plain : response.Plain)
    (line : StatusLine response) :
    ¬ "\r\n".toList <:+: response.statusLine ++ "\r\n".toList.dropLast := by
  have text : (toString response.statusCode).toList = Nat.toDigits 10 response.statusCode :=
    Nat.toList_repr
  have front : '\r' ∉ response.protocolAndVersion ++ ' ' ::
      ((toString response.statusCode).toList ++ [' ']) := by
    simp only [List.mem_append, List.mem_cons, List.not_mem_nil, or_false]
    rintro (protocol | blank | digit | blank)
    · exact (plain.protocol.solid '\r' protocol).2.1 rfl
    · cases blank
    · rw [text] at digit
      exact absurd (Nat.isDigit_of_mem_toDigits (by decide) (by decide) digit) (by decide)
    · cases blank
  have free : ¬ ['\r', '\n'] <:+: response.statusLine := by
    intro held
    apply line.oneLine
    apply infix_behind ['\n'] front
    simpa [statusLine] using held
  exact free_of_pair (by decide) free

/-- What is read off a response that was sent. -/
theorem ofLines_serialized {response : HttpResponse} (plain : response.Plain)
    (made : Made response) (memory : Nat) :
    ofLines memory response.serializeToString =
      { toHeaderTable := HeaderTable.ofFields toLowerCopy response.headers
        protocolAndVersion := response.protocolAndVersion
        statusCode := response.statusCode, reasonStr := response.reasonStr
        headerBody := response.serializeToString, isValid := true } := by
  have shape : response.serializeToString =
      response.headers.foldl headerAppender (response.statusLine ++ "\r\n".toList) ++
        "\r\n".toList := by
    simp [serializeToString, statusLine]
  have pieces := split_message plain.headers (statusLine_line plain made.statusLine)
  have ends := message_ends response.headers response.statusLine
  rw [← shape] at pieces ends
  have parsed := parseBody_of_pieces
    { headerBody := response.serializeToString, statusCode := memory } ends pieces
    (parseStart_sent _ plain made.statusLine)
  rw [fields_of_lines plain.headers] at parsed
  rw [ofLines, parsed]
  rfl

/-- A response is read back exactly when it binds what it sends. -/
theorem readBack_iff {response : HttpResponse} (plain : response.Plain) (made : Made response)
    (memory : Nat) :
    response.ReadBack (ofLines memory response.serializeToString) ↔ response.BindsSent := by
  rw [ofLines_serialized plain made memory]
  constructor
  · intro read name
    rw [← read.values name]
    exact ofFields_bound toLowerCopy response.headers name
  · intro binds
    refine ⟨rfl, rfl, rfl, rfl, HeaderTable.ofFields_headers _, fun name => ?_⟩
    rw [binds name]
    exact ofFields_bound toLowerCopy response.headers name

end HttpResponse

/-! ### Both -/

/-- A message that can be sent is read back, with the same value under every name, exactly
when its own map holds what its list sends; start line and headers are read back anyway. -/
theorem reads_back_iff (request : HttpRequest) (requestMemory : Nat × Bool)
    (response : HttpResponse) (responseMemory : Nat) :
    (request.Plain →
      (request.ReadBack (.ofLines requestMemory request.serializeToString) ↔ request.BindsSent)) ∧
    (response.Made → response.Plain →
      (response.ReadBack (.ofLines responseMemory response.serializeToString) ↔
        response.BindsSent)) :=
  ⟨fun plain => HttpRequest.readBack_iff plain requestMemory,
    fun made plain => HttpResponse.readBack_iff plain made responseMemory⟩

private theorem plain_header (name val : Char) (letter : name ≠ ':' ∧ isSpace name = false)
    (shown : isSpace val = false) : PlainHeader ⟨[name], [val]⟩ := by
  have kept : ∀ symbol : Char, isSpace symbol = false → symbol ≠ '\r' ∧ symbol ≠ '\n' := by
    intro symbol solid
    constructor <;> (intro same; rw [same] at solid; exact absurd solid (by decide))
  refine ⟨by simp, by simpa using Ne.symm letter.1, ?_, ?_, ⟨?_, ?_⟩, ⟨?_, ?_⟩⟩
  · simpa using kept name letter.2
  · simpa using kept val shown
  · simpa using letter.2
  · simpa using letter.2
  · simpa using shown
  · simpa using shown

/-- `GET / HTTP/1.1` with one header, bound as it is sent or not at all. -/
def getWith (headerFieldsMap : AList fun _ : Text => Text) : HttpRequest :=
  { method := "GET".toList, path := "/".toList, protocolAndVersion := "HTTP/1.1".toList
    headerFieldsMap, headers := [⟨['A'], ['2']⟩], isValid := true
    body := "GET / HTTP/1.1\r\nA: 1\r\nA: 2\r\n\r\n".toList }

private theorem Word.of_all {text : Text} (some : text ≠ [])
    (solid : (text.all fun symbol => decide (symbol ≠ ' ' ∧ symbol ≠ '\r' ∧ symbol ≠ '\n')) = true) :
    Word text :=
  ⟨some, fun symbol member => of_decide_eq_true (List.all_eq_true.mp solid symbol member)⟩

private theorem version_word : Word "HTTP/1.1".toList := .of_all (by decide) (by decide)

private theorem getWith_plain (headerFieldsMap : AList fun _ : Text => Text) :
    (getWith headerFieldsMap).Plain := by
  have get : Word "GET".toList := .of_all (by decide) (by decide)
  have root : Word "/".toList := .of_all (by decide) (by decide)
  refine ⟨get, root, version_word, fun header member => ?_⟩
  rw [List.mem_singleton.mp member]
  exact plain_header 'A' '2' (by decide) (by decide)

/-- A request whose map holds its header, and a response that is given one. -/
theorem plain_messages_read_back :
    (getWith (AList.insert ['A'] ['2'] ∅)).ReadBack
      (.ofLines (0, false) (getWith (AList.insert ['A'] ['2'] ∅)).serializeToString) ∧
    ∃ response next, HttpResponse.ofStatus "HTTP/1.1".toList 200 = some response ∧
      response.step (.setHeader ['A'] ['2']) = some (none, next) ∧
      next.ReadBack (.ofLines 0 next.serializeToString) := by
  obtain ⟨request, response⟩ := reads_back_iff (getWith (AList.insert ['A'] ['2'] ∅)) (0, false)
    { protocolAndVersion := "HTTP/1.1".toList, statusCode := 200, reasonStr := "OK".toList
      isValid := true, headerFieldsMap := AList.insert ['a'] ['2'] ∅, headers := [⟨['A'], ['2']⟩] } 0
  refine ⟨(request (getWith_plain _)).mpr fun name => ?_, _, _, rfl, rfl,
    (response (.called (.ofStatus "HTTP/1.1".toList 200 rfl) (.setHeader ['A'] ['2']) rfl) ?_).mpr
      fun name => ?_⟩
  · exact ofFields_bound id [⟨['A'], ['2']⟩] name
  · refine ⟨version_word, by decide, by decide, by decide, fun header member => ?_⟩
    rw [List.mem_singleton.mp member]
    exact plain_header 'A' '2' (by decide) (by decide)
  · exact ofFields_bound toLowerCopy [⟨['A'], ['2']⟩] name

/-- A text repeats a header, and the header is removed: the object has it no more, what
it sends has it still. -/
theorem removed_header_read_back : ¬ ∀ (origin : HttpRequest.Origin) (begun : HttpRequest)
    (calls : List HttpRequest.Call) (replies : List Unit) (request : HttpRequest),
    origin.begins = some begun → Runs.run HttpRequest.step begun calls = some (replies, request) →
      request.Plain → (request.headers.map Header.name).Nodup →
        ∀ memory, request.ReadBack (.ofLines memory request.serializeToString) := by
  intro all
  have read := all (.lines (0, false) "GET / HTTP/1.1\r\nA: 1\r\nA: 2\r\n\r\n".toList) _
    [.removeHeader ['A']] _ (getWith ∅) rfl rfl (getWith_plain ∅) (by decide) (0, false)
  exact absurd (read.values ['A']) (by decide +kernel)

end BeeSdk.HttpMessage
