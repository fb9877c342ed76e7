import BeeSdk.HttpRoundTrip

/-! Which texts a response is read from. The status line is cut at its blanks, but the
protocol is only looked for anywhere in it, the number may carry a sign, nothing is read
where only blanks follow the protocol, and the lines behind the first empty one are read as
headers too. -/
namespace BeeSdk.HttpMessage.HttpResponse
open TextSearch HttpHeader

/-- A line in three parts with blanks between them: neither of the first two holds a blank,
and the third does not begin with one. -/
structure Parts (line protocol status reason : Text) : Prop where
  shape : ∃ before after, line = protocol ++ ' ' :: (List.replicate before ' ' ++
    (status ++ ' ' :: (List.replicate after ' ' ++ reason)))
  protocol : ' ' ∉ protocol
  status : ' ' ∉ status ∧ status ≠ []
  reason : ∃ letter rest, reason = letter :: rest ∧ letter ≠ ' '

/-- The number a text of digits stands for. -/
def decimal (status : Text) : Nat := Nat.ofDigitChars 10 status 0

/-- A text that ends its head, with a first line of a protocol that begins with `HTTP`, a
decimal number that fits an `unsigned int` and a reason. -/
def WellFormed (text protocol : Text) (statusCode : Nat) (reason : Text) : Prop :=
  "\r\n\r\n".toList <:+: text ∧ ∃ first rest status, split text "\r\n".toList = first :: rest ∧
    Parts first protocol status reason ∧ "HTTP".toList <+: protocol ∧ status.all Char.isDigit ∧
    decimal status = statusCode ∧ statusCode < 2 ^ 32

/-- The header lines: behind the first line and before the first empty one. -/
def headLines (text : Text) : List Text := (split text "\r\n".toList).tail.takeWhile (· ≠ [])

/-- What is promised of a response read from a text. -/
structure ReadRight (text : Text) (response : HttpResponse) : Prop where
  valid : response.isValid = true ↔ ∃ protocol statusCode reason,
    WellFormed text protocol statusCode reason
  parts : response.isValid = true → WellFormed text response.protocolAndVersion response.statusCode
    response.reasonStr
  headers : response.isValid = true → response.toHeaderTable =
    HeaderTable.ofFields toLowerCopy ((headLines text).filterMap fieldOf)

/-! ### Cutting a line -/

theorem findFirstNotOf_blanks (count : Nat) {letter : Char} (rest : Text) (other : letter ≠ ' ') :
    findFirstNotOf ' ' (List.replicate count ' ' ++ letter :: rest) = some count := by
  induction count with
  | zero => simp [findFirstNotOf, List.findIdx?_cons, other]
  | succ count ih =>
    rw [findFirstNotOf] at ih
    rw [List.replicate_succ, List.cons_append, findFirstNotOf, List.findIdx?_cons, ih]
    simp

theorem findFirstNotOf_only_blanks (count : Nat) :
    findFirstNotOf ' ' (List.replicate count ' ') = none := by
  rw [findFirstNotOf, List.findIdx?_eq_none_iff]
  intro symbol member
  simp [List.eq_of_mem_replicate member]

/-- A text is blanks, or blanks in front of another letter. -/
theorem blanks_cases (text : Text) : (∃ count, text = List.replicate count ' ') ∨
    ∃ count letter rest, text = List.replicate count ' ' ++ letter :: rest ∧ letter ≠ ' ' := by
  induction text with
  | nil => exact .inl ⟨0, rfl⟩
  | cons symbol rest ih =>
    by_cases blank : symbol = ' '
    · subst blank
      rcases ih with ⟨count, rfl⟩ | ⟨count, letter, more, rfl, other⟩
      · exact .inl ⟨count + 1, rfl⟩
      · exact .inr ⟨count + 1, letter, more, rfl, other⟩
    · exact .inr ⟨0, symbol, rest, rfl, blank⟩

/-- The status of a line in parts is what stands between its blanks. -/
theorem Parts.status_eq {line protocol status reason : Text} (parts : Parts line protocol status reason) :
    status = ((line.dropWhile (· ≠ ' ')).dropWhile (· = ' ')).takeWhile (· ≠ ' ') := by
  obtain ⟨before, after, rfl⟩ := parts.shape
  have filled := parts.status.2
  have absent := parts.status.1
  obtain ⟨digit, digits, rfl⟩ := List.exists_cons_of_ne_nil filled
  have solid : digit ≠ ' ' := fun same => absent (by simp [same])
  have blanks : ((' ' :: (List.replicate before ' ' ++ (digit :: digits ++ ' ' :: (List.replicate after ' ' ++
      reason)))).dropWhile (· = ' ')) = digit :: digits ++ ' ' :: (List.replicate after ' ' ++ reason) := by
    rw [← List.cons_append, ← List.replicate_succ, List.dropWhile_append_of_pos]
    · rw [List.cons_append, List.dropWhile_cons_of_neg (by simpa using solid)]
    · intro symbol member
      simp [List.eq_of_mem_replicate member]
  rw [dropWhile_ne _ parts.protocol, blanks, takeWhile_ne _ absent]

variable (response : HttpResponse)

/-- A line in parts is read as its parts where its number is one. -/
theorem parseStart_parts {line protocol status reason : Text} (parts : Parts line protocol status reason)
    (http : "HTTP".toList <:+: line) :
    response.parseStart line = match castUnsigned status with
      | none => (false, { response with protocolAndVersion := protocol })
      | some statusCode => (true, { response with
          protocolAndVersion := protocol, statusCode, reasonStr := reason }) := by
  obtain ⟨before, after, rfl⟩ := parts.shape
  obtain ⟨letter, rest, rfl, other⟩ := parts.reason
  obtain ⟨digit, digits, rfl⟩ := List.exists_cons_of_ne_nil parts.status.2
  have absent := parts.status.1
  have solid : digit ≠ ' ' := fun same => absent (by simp [same])
  have found : find "HTTP".toList (protocol ++ ' ' :: (List.replicate before ' ' ++ (digit :: digits ++ ' ' ::
      (List.replicate after ' ' ++ letter :: rest)))) ≠ none :=
    fun missing => find_eq_none_iff.mp missing http
  have gap := findFirstNotOf_blanks (before + 1) (digits ++ ' ' :: (List.replicate after ' ' ++
    letter :: rest)) solid
  have stops := findFirstOf_append (List.replicate after ' ' ++ letter :: rest) absent
  have gap' := findFirstNotOf_blanks (after + 1) rest other
  rw [List.replicate_succ, List.cons_append] at gap gap'
  rw [parseStart, if_neg found, findFirstOf_append _ parts.protocol]
  simp only [List.take_left, List.drop_left]
  rw [parseStatus]
  simp only [List.cons_append] at gap stops gap' ⊢
  rw [gap]
  have behind : (' ' :: (List.replicate before ' ' ++ digit :: (digits ++ ' ' :: (List.replicate after ' ' ++
      letter :: rest)))).drop (before + 1) =
        digit :: (digits ++ ' ' :: (List.replicate after ' ' ++ letter :: rest)) := by
    rw [List.drop_succ_cons, List.drop_left' List.length_replicate]
  have status : (digit :: (digits ++ ' ' :: (List.replicate after ' ' ++ letter :: rest))).take
      (digit :: digits).length = digit :: digits := List.take_left
  have rest' : (digit :: (digits ++ ' ' :: (List.replicate after ' ' ++ letter :: rest))).drop
      (digit :: digits).length = ' ' :: (List.replicate after ' ' ++ letter :: rest) := List.drop_left
  have last : (' ' :: (List.replicate after ' ' ++ letter :: rest)).drop (after + 1) = letter :: rest := by
    rw [List.drop_succ_cons, List.drop_left' List.length_replicate]
  cases parsed : castUnsigned (digit :: digits) with
  | none => simp only [behind, stops, status, parsed]
  | some statusCode => simp only [behind, stops, status, rest', gap', last, parsed]

/-- Only blanks behind the protocol: nothing more is read. -/
theorem parseStart_blanks {line protocol : Text} (count : Nat) (absent : ' ' ∉ protocol)
    (shape : line = protocol ++ ' ' :: List.replicate count ' ') (http : "HTTP".toList <:+: line) :
    response.parseStart line = (true, { response with protocolAndVersion := protocol }) := by
  subst shape
  have found : find "HTTP".toList (protocol ++ ' ' :: List.replicate count ' ') ≠ none :=
    fun missing => find_eq_none_iff.mp missing http
  have none := findFirstNotOf_only_blanks (count + 1)
  rw [List.replicate_succ] at none
  rw [parseStart, if_neg found, findFirstOf_append _ absent]
  simp only [List.take_left, List.drop_left]
  rw [parseStatus, none]

/-- What is read has the protocol and blanks only, or all three parts. -/
theorem parseStart_cases {line : Text} (started : (response.parseStart line).1 = true) :
    "HTTP".toList <:+: line ∧
      ((∃ protocol count, ' ' ∉ protocol ∧ line = protocol ++ ' ' :: List.replicate count ' ') ∨
        ∃ protocol status reason, Parts line protocol status reason ∧
          (castUnsigned status).isSome = true) := by
  have http : "HTTP".toList <:+: line := by
    apply Classical.byContradiction
    intro missing
    rw [parseStart, if_pos (find_eq_none_iff.mpr missing)] at started
    cases started
  refine ⟨http, ?_⟩
  have found : find "HTTP".toList line ≠ none := fun missing => find_eq_none_iff.mp missing http
  rw [parseStart, if_neg found] at started
  rcases findFirstOf_cases ' ' line with ⟨-, missing⟩ | ⟨protocol, behind, rfl, absent, position⟩
  · rw [missing] at started
    cases started
  rw [position] at started
  simp only [List.take_left, List.drop_left] at started
  rcases blanks_cases behind with ⟨count, rfl⟩ | ⟨before, digit, more, rfl, solid⟩
  · exact .inl ⟨protocol, count, absent, rfl⟩
  have gap := findFirstNotOf_blanks (before + 1) more solid
  rw [List.replicate_succ, List.cons_append] at gap
  have behind : (' ' :: (List.replicate before ' ' ++ digit :: more)).drop (before + 1) = digit :: more := by
    rw [List.drop_succ_cons, List.drop_left' List.length_replicate]
  rw [parseStatus, gap] at started
  simp only [behind] at started
  rcases findFirstOf_cases ' ' (digit :: more) with ⟨-, missing⟩ | ⟨status, tail, same, statusAbsent, position⟩
  · rw [missing] at started
    cases started
  rw [position, same] at started
  simp only [List.take_left, List.drop_left] at started
  cases cast : castUnsigned status with
  | none =>
    rw [cast] at started
    cases started
  | some statusCode =>
    rw [cast] at started
    rcases blanks_cases tail with ⟨count, rfl⟩ | ⟨after, letter, rest, rfl, other⟩
    · have none := findFirstNotOf_only_blanks (count + 1)
      rw [List.replicate_succ] at none
      rw [none] at started
      cases started
    · refine .inr ⟨protocol, status, letter :: rest, ⟨⟨before, after, by rw [same]⟩, absent, ⟨statusAbsent, ?_⟩,
        letter, rest, rfl, other⟩, by rw [cast]; rfl⟩
      rintro rfl
      rw [List.nil_append] at same
      cases same
      exact solid rfl

/-! ### The number -/

theorem castUnsigned_decimal {status : Text} (digits : status.all Char.isDigit = true) (filled : status ≠ [])
    (fits : decimal status < 2 ^ 32) : castUnsigned status = some (decimal status) := by
  obtain ⟨first, rest, rfl⟩ := List.exists_cons_of_ne_nil filled
  have all := List.all_eq_true.mp digits
  have plus : first ≠ '+' := fun same => absurd (all first (by simp)) (by rw [same]; decide)
  have minus : first ≠ '-' := fun same => absurd (all first (by simp)) (by rw [same]; decide)
  rw [decimal, Nat.ofDigitChars_eq_foldl] at fits ⊢
  unfold castUnsigned Session.HttpRequest.castPort
  split
  rename_i negative unsigned signs
  split at signs
  · simp_all
  · simp_all
  · cases signs
    rw [if_neg]
    · rfl
    · rintro (none | other | large)
      · cases none
      · exact other digits
      · exact absurd fits (Nat.not_lt_of_le large)

/-- A number without a sign is read off its digits alone. -/
theorem castUnsigned_unsigned {status : Text} {statusCode : Nat}
    (cast : castUnsigned status = some statusCode)
    (unsigned : ∀ sign ∈ status.head?, sign ≠ '+' ∧ sign ≠ '-') :
    status.all Char.isDigit = true ∧ decimal status = statusCode := by
  unfold castUnsigned Session.HttpRequest.castPort at cast
  split at cast
  rename_i negative digits signs
  split at signs
  · exact absurd rfl (unsigned '+' rfl).1
  · exact absurd rfl (unsigned '-' rfl).2
  · cases signs
    simp only [Bool.false_eq_true, if_false] at cast
    split at cast
    · cases cast
    · rename_i read
      simp only [not_or, Decidable.not_not] at read
      cases cast
      rw [decimal, Nat.ofDigitChars_eq_foldl]
      exact ⟨read.2.1, rfl⟩

/-! ### Whole texts -/

/-- What `parse_body` begins with. -/
def begun (memory : Nat) (text : Text) : HttpResponse := { headerBody := text, statusCode := memory }

theorem ofLines_started {memory : Nat} {text first : Text} {rest : List Text}
    {protocol reason : Text} {statusCode : Nat}
    (ends : "\r\n\r\n".toList <:+: text) (pieces : split text "\r\n".toList = first :: rest)
    (started : (begun memory text).parseStart first = (true, { begun memory text with
      protocolAndVersion := protocol, statusCode, reasonStr := reason })) :
    ofLines memory text = { begun memory text with
      protocolAndVersion := protocol, statusCode, reasonStr := reason, isValid := true
      toHeaderTable := HeaderTable.ofFields toLowerCopy (rest.filterMap fieldOf) } := by
  have found : find "\r\n\r\n".toList text ≠ none := fun missing => find_eq_none_iff.mp missing ends
  have parsed := parseBody_of_pieces (begun memory text) found pieces started
  rw [begun] at parsed
  rw [ofLines, parsed]
  rfl

theorem valid_started {memory : Nat} {text : Text} (valid : (ofLines memory text).isValid = true) :
    "\r\n\r\n".toList <:+: text ∧ ∃ first rest, split text "\r\n".toList = first :: rest ∧
      ((begun memory text).parseStart first).1 = true := by
  have valid : (begun memory text).parseBody.1 = true := valid
  rw [parseBody, show (begun memory text).headerBody = text from rfl] at valid
  have ends : "\r\n\r\n".toList <:+: text := by
    apply Classical.byContradiction
    intro missing
    rw [if_pos (find_eq_none_iff.mpr missing)] at valid
    cases valid
  refine ⟨ends, ?_⟩
  rw [if_neg fun missing => find_eq_none_iff.mp missing ends] at valid
  cases pieces : split text "\r\n".toList with
  | nil =>
    rw [pieces] at valid
    cases valid
  | cons first rest =>
    rw [pieces] at valid
    refine ⟨first, rest, rfl, ?_⟩
    cases started : ((begun memory text).parseStart first).1 with
    | true => rfl
    | false => simp [started] at valid

/-- A well-formed text is read as its parts, with the fields of all lines behind the first. -/
theorem ofLines_wellFormed {memory statusCode : Nat} {text protocol reason : Text}
    (formed : WellFormed text protocol statusCode reason) :
    ofLines memory text = { begun memory text with
      protocolAndVersion := protocol, statusCode, reasonStr := reason, isValid := true
      toHeaderTable := HeaderTable.ofFields toLowerCopy
        ((split text "\r\n".toList).tail.filterMap fieldOf) } := by
  obtain ⟨ends, first, rest, status, pieces, parts, http, digits, rfl, fits⟩ := formed
  have inside : "HTTP".toList <:+: first := by
    obtain ⟨before, after, shape⟩ := parts.shape
    rw [shape]
    exact http.isInfix.trans (List.prefix_append _ _).isInfix
  have started := parseStart_parts (begun memory text) parts inside
  rw [castUnsigned_decimal digits parts.status.2 fits] at started
  rw [ofLines_started ends pieces started, pieces]
  rfl

/-- Where the code's reading of a text and the promised one are the same: the protocol is not
followed by blanks alone, and where there are three parts with a number between them, the line
begins with `HTTP`, the number has no sign, and no line behind the first empty one is a
header's. -/
def Strict (text : Text) : Prop :=
  "\r\n\r\n".toList <:+: text → ∀ first rest, split text "\r\n".toList = first :: rest →
    "HTTP".toList <:+: first →
      (¬ ∃ protocol count, ' ' ∉ protocol ∧ first = protocol ++ ' ' :: List.replicate count ' ') ∧
      ∀ protocol status reason, Parts first protocol status reason →
        (castUnsigned status).isSome = true → "HTTP".toList <+: protocol ∧
          (∀ sign ∈ status.head?, sign ≠ '+' ∧ sign ≠ '-') ∧
          ∀ line ∈ rest.dropWhile (· ≠ []), fieldOf line = none

/-- In a strict text what is read is well formed. -/
theorem Strict.formed {memory : Nat} {text : Text} (strict : Strict text)
    (valid : (ofLines memory text).isValid = true) :
    ∃ protocol statusCode reason, WellFormed text protocol statusCode reason ∧
      (split text "\r\n".toList).tail.filterMap fieldOf = (headLines text).filterMap fieldOf := by
  obtain ⟨ends, first, rest, pieces, started⟩ := valid_started valid
  obtain ⟨http, shape⟩ := parseStart_cases _ started
  obtain ⟨unblank, sound⟩ := strict ends first rest pieces http
  rcases shape with blank | ⟨protocol, status, reason, parts, cast⟩
  · exact absurd blank unblank
  obtain ⟨begins, unsigned, silent⟩ := sound protocol status reason parts cast
  obtain ⟨statusCode, cast⟩ := Option.isSome_iff_exists.mp cast
  obtain ⟨digits, value⟩ := castUnsigned_unsigned cast unsigned
  refine ⟨protocol, statusCode, reason, ⟨ends, first, rest, status, pieces, parts, begins, digits, value,
    castUnsigned_fits cast⟩, ?_⟩
  rw [headLines, pieces, List.tail_cons]
  have nothing : (rest.dropWhile (· ≠ [])).filterMap fieldOf = [] :=
    List.filterMap_eq_nil_iff.mpr silent
  have whole := List.takeWhile_append_dropWhile (p := (· ≠ [])) (l := rest)
  calc rest.filterMap fieldOf
      = (rest.takeWhile (· ≠ []) ++ rest.dropWhile (· ≠ [])).filterMap fieldOf := by rw [whole]
    _ = (rest.takeWhile (· ≠ [])).filterMap fieldOf := by
        rw [List.filterMap_append, nothing, List.append_nil]

/-- What is promised leaves only strict texts. -/
theorem ReadRight.strict {memory : Nat} {text : Text} (right : ReadRight text (ofLines memory text)) :
    Strict text := by
  intro ends first rest pieces http
  constructor
  · rintro ⟨protocol, count, absent, blanks⟩
    have started := parseStart_blanks (begun memory text) count absent blanks http
    have read := ofLines_started ends pieces started
    obtain ⟨_, _, _, _, _, parts, -⟩ := right.parts (by rw [read])
    obtain ⟨letter, more, reason, -⟩ := parts.reason
    rw [read] at reason
    cases reason
  · intro protocol status reason parts cast
    obtain ⟨statusCode, cast⟩ := Option.isSome_iff_exists.mp cast
    have started := parseStart_parts (begun memory text) parts http
    rw [cast] at started
    have read := ofLines_started ends pieces started
    have valid : (ofLines memory text).isValid = true := by rw [read]
    have headers := congrArg HeaderTable.headers (right.headers valid)
    obtain ⟨_, first', rest', status', pieces', parts', begins, digits, -⟩ := right.parts valid
    rw [pieces] at pieces'
    cases pieces'
    rw [read] at begins headers
    have same : status = status' := parts.status_eq.trans parts'.status_eq.symm
    refine ⟨begins, fun sign first' => ?_, ?_⟩
    · have digit := List.all_eq_true.mp (same ▸ digits) sign (List.mem_of_mem_head? first')
      constructor
      · rintro rfl
        exact absurd digit (by decide)
      · rintro rfl
        exact absurd digit (by decide)
    · have lists : rest.filterMap fieldOf = (rest.takeWhile (· ≠ [])).filterMap fieldOf := by
        rw [headLines, pieces, List.tail_cons] at headers
        simpa using headers
      have whole := congrArg (List.filterMap fieldOf)
        (List.takeWhile_append_dropWhile (p := (· ≠ [])) (l := rest))
      rw [List.filterMap_append, lists] at whole
      exact List.filterMap_eq_nil_iff.mp (List.append_right_eq_self.mp whole)

/-- A text is read as promised, whatever the memory held before, exactly when it is strict. -/
theorem read_right_iff (memory : Nat) (text : Text) :
    ReadRight text (ofLines memory text) ↔ Strict text := by
  refine ⟨ReadRight.strict, fun strict => ⟨⟨fun valid => ?_, ?_⟩, fun valid => ?_, fun valid => ?_⟩⟩
  · obtain ⟨protocol, statusCode, reason, formed, -⟩ := strict.formed valid
    exact ⟨protocol, statusCode, reason, formed⟩
  · rintro ⟨protocol, statusCode, reason, formed⟩
    rw [ofLines_wellFormed formed]
  · obtain ⟨protocol, statusCode, reason, formed, -⟩ := strict.formed valid
    rw [ofLines_wellFormed formed]
    exact formed
  · obtain ⟨protocol, statusCode, reason, formed, same⟩ := strict.formed valid
    rw [ofLines_wellFormed formed, same]

/-- Behind the protocol nothing but a blank: the status code is what the memory held. -/
theorem blank_status_unset :
    (ofLines 7 "HTTP/1.1 \r\n\r\n".toList).isValid = true ∧
      (ofLines 7 "HTTP/1.1 \r\n\r\n".toList).statusCode = 7 ∧
      ¬ ReadRight "HTTP/1.1 \r\n\r\n".toList (ofLines 7 "HTTP/1.1 \r\n\r\n".toList) := by
  refine ⟨rfl, rfl, fun right => ?_⟩
  obtain ⟨_, _, _, _, _, parts, -⟩ := right.parts rfl
  obtain ⟨letter, rest, reason, -⟩ := parts.reason
  exact List.cons_ne_nil letter rest reason.symm

end BeeSdk.HttpMessage.HttpResponse
