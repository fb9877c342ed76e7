import BeeSdk.HttpRequest
import BeeSdk.Runs

/-! The header list and the header map of a message over whole runs. A response keeps
them in agreement as long as every header is called by the spelling it is held in, a
request as long as it is not reset while it has headers; a text that repeats a header
sets either apart from the start. -/
namespace BeeSdk.HttpMessage
open TextSearch HttpHeader Runs

/-- The header lines of a text, read in order. -/
def fieldsOf (text : Text) : List Header :=
  ((split text "\r\n".toList).drop 1).filterMap fieldOf

/-! ### Responses -/

namespace HttpResponse

/-- No two header lines of the text have names that differ in the case of letters only. -/
def DistinctFields (text : Text) : Prop :=
  ((fieldsOf text).map (toLowerCopy ·.name)).Nodup

private theorem parseStatus_table (response : HttpResponse) (behind : Text) :
    (response.parseStatus behind).2.toHeaderTable = response.toHeaderTable := by
  unfold parseStatus
  split
  · rfl
  · simp only
    split
    · rfl
    · split
      · rfl
      · split <;> rfl

private theorem parseStart_table (response : HttpResponse) (first : Text) :
    (response.parseStart first).2.toHeaderTable = response.toHeaderTable := by
  unfold parseStart
  split
  · rfl
  · split
    · rfl
    · rw [parseStatus_table]

private theorem parseBody_table (response : HttpResponse) :
    response.parseBody.2.toHeaderTable =
      (if response.parseBody.1 then fieldsOf response.headerBody else []).foldl
        (HeaderTable.addField toLowerCopy) response.toHeaderTable := by
  unfold parseBody fieldsOf
  split
  · rfl
  · cases split response.headerBody "\r\n".toList with
    | nil => rfl
    | cons first rest =>
      have kept := response.parseStart_table first
      cases started : (response.parseStart first).1 with
      | false => simp [started, kept]
      | true => simp [started, kept]

/-- A response that is valid has read all header lines of its text, any other none. -/
theorem ofLines_table (memory : Nat) (text : Text) :
    (ofLines memory text).toHeaderTable =
      HeaderTable.ofFields toLowerCopy
        (if (ofLines memory text).isValid then fieldsOf text else []) :=
  parseBody_table { headerBody := text, statusCode := memory }

theorem ofLines_agrees_iff (memory : Nat) (text : Text) :
    (ofLines memory text).Agrees toLowerCopy ↔
      ((ofLines memory text).isValid → DistinctFields text) := by
  rw [ofLines_table, HeaderTable.ofFields_agrees_iff]
  split <;> simp_all [DistinctFields]

private theorem assigning_iff {response : HttpResponse} (agrees : response.Agrees toLowerCopy)
    (name val : Text) :
    (∃ next, response.setHeader name val = some next ∧ next.Agrees toLowerCopy) ↔
      response.Spelled toLowerCopy name := by
  rw [← agrees.setHeader_defined_iff name val, Option.isSome_iff_exists]
  constructor
  · rintro ⟨next, assigned, _⟩
    obtain ⟨table, assigned, _⟩ := Option.map_eq_some_iff.mp assigned
    exact ⟨table, assigned⟩
  · rintro ⟨table, assigned⟩
    exact ⟨{ response with toHeaderTable := table }, by rw [setHeader, assigned]; rfl,
      agrees.set assigned⟩

private theorem removing_iff {response : HttpResponse} (agrees : response.Agrees toLowerCopy)
    (name : Text) :
    (∃ next, response.removeHeader name = some next ∧ next.Agrees toLowerCopy) ↔
      response.Spelled toLowerCopy name := by
  rw [← agrees.removeHeader_defined_iff name, Option.isSome_iff_exists]
  constructor
  · rintro ⟨next, removed, _⟩
    obtain ⟨table, removed, _⟩ := Option.map_eq_some_iff.mp removed
    exact ⟨table, removed⟩
  · rintro ⟨table, removed⟩
    exact ⟨{ response with toHeaderTable := table }, by rw [removeHeader, removed]; rfl,
      agrees.remove removed⟩

private theorem changed_iff {changed : Option HttpResponse} {Good : HttpResponse → Prop} :
    (∃ (reply : Option Bool) (next : HttpResponse),
      changed.map ((none : Option Bool), ·) = some (reply, next) ∧ Good next) ↔
      ∃ next, changed = some next ∧ Good next := by
  simp

private theorem looked_up_iff {response : HttpResponse} {found : Option Bool}
    {Good : HttpResponse → Prop} (good : Good response) :
    (∃ (reply : Option Bool) (next : HttpResponse),
      found.map (some ·, response) = some (reply, next) ∧ Good next) ↔ found.isSome := by
  cases found <;> simp [good]

/-- A call is defined, and list and map agree after it, exactly when its header is
called by the spelling it is held in. -/
theorem step_agrees_iff {response : HttpResponse} (agrees : response.Agrees toLowerCopy)
    (call : Call) :
    (∃ reply next, response.step call = some (reply, next) ∧ next.Agrees toLowerCopy) ↔
      response.Spelled toLowerCopy call.name := by
  cases call with
  | setHeader name val => exact changed_iff.trans (assigning_iff agrees name val)
  | setContentLen contentLen => exact changed_iff.trans (assigning_iff agrees _ _)
  | removeHeader name => exact changed_iff.trans (removing_iff agrees name)
  | removeRange => exact changed_iff.trans (removing_iff agrees _)
  | hasHeader name =>
    exact (looked_up_iff agrees).trans (agrees.hasHeader_defined_iff name)
  | hasRange => exact (looked_up_iff agrees).trans (agrees.hasHeader_defined_iff _)

/-- A response read off a text, and everything called on it in turn, keeps list and map
in agreement exactly when the text repeats no header and every call names its header in
the spelling the list holds. -/
theorem headers_agree_iff (memory : Nat) (text : Text) (calls : List Call) :
    ((ofLines memory text).Agrees toLowerCopy ∧
      AllTaken step (fun _ _ _ next => next.Agrees toLowerCopy) (ofLines memory text) calls) ↔
    ((ofLines memory text).isValid → DistinctFields text) ∧
      AllSteps step (fun response call => response.Spelled toLowerCopy call.name)
        (ofLines memory text) calls := by
  rw [← ofLines_agrees_iff]
  apply and_congr_right
  intro agrees
  apply all_taken_iff (HeaderTable.Agrees toLowerCopy ·.toHeaderTable) _ _ agrees
  · exact fun response call agrees => step_agrees_iff agrees call
  · intro response call reply next agrees spelled taken
    obtain ⟨reply', next', taken', after⟩ := (step_agrees_iff agrees call).mpr spelled
    rw [taken] at taken'
    cases taken'
    exact after

/-- A server writes the name in small letters; the content length is then set. -/
theorem small_letters_not_found : ¬ ∀ (memory : Nat) (text : Text) (calls : List Call),
    (ofLines memory text).Agrees toLowerCopy ∧
      AllTaken step (fun _ _ _ next => next.Agrees toLowerCopy) (ofLines memory text) calls := by
  intro all
  obtain ⟨_, _, _, taken, _⟩ :=
    all 0 "HTTP/1.1 200 OK\r\ncontent-length: 1\r\n\r\n".toList [.setContentLen 2]
  have undefined : (step (ofLines 0 "HTTP/1.1 200 OK\r\ncontent-length: 1\r\n\r\n".toList)
      (.setContentLen 2)).isNone := by decide
  rw [taken] at undefined
  cases undefined

end HttpResponse

/-! ### Requests -/

namespace HttpRequest

/-- The call returns, and what it returns is good. -/
def Yields {α : Type} (Good : α → Prop) (call : Option α) : Prop :=
  ∃ result, call = some result ∧ Good result

theorem Yields.bind {α β : Type} {Good : α → Prop} {Good' : β → Prop} {call : Option α}
    {rest : α → Option β} (first : Yields Good call)
    (behind : ∀ result, Good result → Yields Good' (rest result)) :
    Yields Good' (call.bind rest) := by
  obtain ⟨result, called, good⟩ := first
  rw [called]
  exact behind result good

theorem Yields.map {α β : Type} {Good : α → Prop} {Good' : β → Prop} {call : Option α}
    {rest : α → β} (first : Yields Good call) (behind : ∀ result, Good result → Good' (rest result)) :
    Yields Good' (call.map rest) := by
  obtain ⟨result, called, good⟩ := first
  exact ⟨rest result, by rw [called]; rfl, behind result good⟩

/-- The list sends what the map binds. -/
abbrev SameHeaders (request : HttpRequest) : Prop := request.Agrees id

variable {request next : HttpRequest}

theorem setHeader_same (same : request.SameHeaders) (name val : Text) :
    Yields SameHeaders (request.setHeader name val) := by
  obtain ⟨table, assigned⟩ := Option.isSome_iff_exists.mp
    ((same.setHeader_defined_iff name val).mpr fun _ _ equal => equal)
  exact Yields.map ⟨table, assigned, same.set assigned⟩ fun _ agrees => agrees

private theorem removeHeader_same (same : request.SameHeaders) (name : Text) :
    Yields SameHeaders (request.removeHeader name) := by
  obtain ⟨table, removed⟩ := Option.isSome_iff_exists.mp
    ((same.removeHeader_defined_iff name).mpr fun _ _ equal => equal)
  exact Yields.map ⟨table, removed, same.remove removed⟩ fun _ agrees => agrees

private theorem setHost_same (same : request.SameHeaders) (hostStr : Text) :
    Yields SameHeaders (request.setHost hostStr) := by
  unfold setHost
  split
  · exact setHeader_same same _ _
  · exact ⟨request, rfl, same⟩

private theorem setRange_same (same : request.SameHeaders) (rangeBeg rangeEnd : Int) :
    Yields SameHeaders (request.setRange rangeBeg rangeEnd) := by
  unfold setRange
  split
  · exact setHeader_same same _ _
  · exact ⟨request, rfl, same⟩

theorem setProxy_same (same : request.SameHeaders) (host : Text) (port : Nat) :
    Yields SameHeaders (request.setProxy host port) := by
  have prefixed : ∀ path, SameHeaders { request with path } := fun _ => same
  unfold setProxy
  refine Yields.bind (removeHeader_same (?_ : SameHeaders _) _) fun removed agrees =>
    Yields.map (setHeader_same agrees _ _) fun _ agrees => agrees
  split
  · exact prefixed _
  · exact same

/-- A request made from a URL is null or has the same headers in list and map. -/
theorem createFromUrl_same (url referUrl : Text) (rangeBeg rangeEnd : Int) :
    Yields (fun made => ∀ request ∈ made, SameHeaders request)
      (createFromUrl url referUrl rangeBeg rangeEnd) := by
  unfold createFromUrl
  simp only
  split
  · exact ⟨none, rfl, by simp⟩
  · apply Yields.bind (setHeader_same (by intro name; rfl) _ _)
    intro _ same
    apply Yields.bind (setHeader_same same _ _)
    intro _ same
    refine Yields.bind (?_ : Yields SameHeaders _) ?_
    · split
      · exact setHeader_same same _ _
      · exact ⟨_, rfl, same⟩
    intro _ same
    apply Yields.bind (setHeader_same same _ _)
    intro _ same
    apply Yields.bind (setHost_same same _)
    intro _ same
    apply Yields.bind (setHeader_same same _ _)
    intro _ same
    apply Yields.map (setRange_same same _ _)
    intro _ same request made
    cases made
    exact same

/-- No two header lines of the text have the same name. -/
def DistinctFields (text : Text) : Prop := ((fieldsOf text).map Header.name).Nodup

private theorem parseBody_table (request : HttpRequest) :
    request.parseBody.2.toHeaderTable =
      (if request.parseBody.1 then fieldsOf request.body else []).foldl
        (HeaderTable.addField id) request.toHeaderTable := by
  unfold parseBody fieldsOf
  split
  · rfl
  · cases split request.body "\r\n".toList with
    | nil => rfl
    | cons first rest =>
      rcases parts : split first " ".toList with _ | ⟨_, _ | ⟨_, _ | ⟨_, _ | ⟨_, _⟩⟩⟩⟩ <;>
        (simp only [parts]; rfl)

/-- A request that is valid has read all header lines of its text, any other none. -/
theorem ofLines_table (memory : Nat × Bool) (text : Text) :
    (ofLines memory text).toHeaderTable =
      HeaderTable.ofFields id (if (ofLines memory text).isValid then fieldsOf text else []) :=
  parseBody_table { body := text, proxyPort := memory.1, isHttps := memory.2 }

theorem ofLines_same_iff (memory : Nat × Bool) (text : Text) :
    (ofLines memory text).SameHeaders ↔
      ((ofLines memory text).isValid → DistinctFields text) := by
  rw [SameHeaders, ofLines_table, HeaderTable.ofFields_agrees_iff]
  split <;> simp_all [DistinctFields]

/-- What a request begins as: made from a URL or read off a text. -/
inductive Origin where
  | url (address referUrl : Text) (rangeBeg rangeEnd : Int)
  | lines (memory : Nat × Bool) (requestLines : Text)

/-- Nothing where the URL makes no request. -/
def Origin.begins : Origin → Option HttpRequest
  | .url address referUrl rangeBeg rangeEnd =>
    (createFromUrl address referUrl rangeBeg rangeEnd).join
  | .lines memory requestLines => some (ofLines memory requestLines)

/-- A text that is read as a request repeats no header. -/
def Origin.Distinct : Origin → Prop
  | .url _ _ _ _ => True
  | .lines memory requestLines =>
    (ofLines memory requestLines).isValid → DistinctFields requestLines

theorem origin_same_iff {origin : Origin} (made : origin.begins = some request) :
    request.SameHeaders ↔ origin.Distinct := by
  cases origin with
  | url address referUrl rangeBeg rangeEnd =>
    obtain ⟨result, created, same⟩ := createFromUrl_same address referUrl rangeBeg rangeEnd
    rw [Origin.begins, created] at made
    exact ⟨fun _ => trivial, fun _ => same request made⟩
  | lines memory requestLines =>
    cases made
    exact ofLines_same_iff memory requestLines

/-- What a call leaves behind: the same headers in list and map, no line under a removed
name, and no header at all after a reset. -/
structure Describes (call : Call) (next : HttpRequest) : Prop where
  same : next.SameHeaders
  removed : ∀ name, call = .removeHeader name → HeaderTable.sent id next.headers name = []
  cleared : call = .reset → next.headers = [] ∧ next.headerFieldsMap = ∅

/-- A reset does not touch the map. -/
private theorem reset_same_iff : Describes .reset request.reset ↔ request.headerFieldsMap = ∅ := by
  constructor
  · exact fun describes => (describes.cleared rfl).2
  · intro empty
    have unbound : ∀ name, request.reset.lookup id name = none := by
      intro name
      rw [HeaderTable.lookup, reset, empty]
      exact AList.lookup_empty _
    refine ⟨fun name => ?_, fun _ removed => ?_, fun _ => ⟨rfl, empty⟩⟩
    · rw [unbound name]
      rfl
    · cases removed

/-- A call is defined and leaves the same headers in list and map unless it resets a
request that has some. -/
theorem step_describes_iff (same : request.SameHeaders) (call : Call) :
    (∃ reply next, request.step call = some (reply, next) ∧ Describes call next) ↔
      (call = .reset → request.headerFieldsMap = ∅) := by
  have other : ∀ {changed : Option HttpRequest}, Yields (Describes call) changed →
      call ≠ .reset → ((∃ reply next, changed.map ((), ·) = some (reply, next) ∧
        Describes call next) ↔ (call = .reset → request.headerFieldsMap = ∅)) := by
    rintro _ ⟨next, rfl, describes⟩ kept
    exact ⟨fun _ reset => absurd reset kept, fun _ => ⟨(), next, rfl, describes⟩⟩
  cases call with
  | setHeader name val =>
    obtain ⟨next, assigned, after⟩ := setHeader_same same name val
    exact other ⟨next, assigned, after, by simp, by simp⟩ (by simp)
  | removeHeader name =>
    obtain ⟨next, taken, after⟩ := removeHeader_same same name
    obtain ⟨table, gone, rfl⟩ := Option.map_eq_some_iff.mp taken
    refine other ⟨_, taken, after, ?_, by simp⟩ (by simp)
    rintro name' ⟨⟩
    have unbound := HeaderTable.lookup_removed gone
    exact (after name).trans (congrArg Option.toList unbound)
  | setHost hostStr =>
    obtain ⟨next, assigned, after⟩ := setHost_same same hostStr
    exact other ⟨next, assigned, after, by simp, by simp⟩ (by simp)
  | setRange rangeBeg rangeEnd =>
    obtain ⟨next, assigned, after⟩ := setRange_same same rangeBeg rangeEnd
    exact other ⟨next, assigned, after, by simp, by simp⟩ (by simp)
  | setProxy host port =>
    obtain ⟨next, assigned, after⟩ := setProxy_same same host port
    exact other ⟨next, assigned, after, by simp, by simp⟩ (by simp)
  | reset =>
    rw [← reset_same_iff]
    constructor
    · rintro ⟨_, _, taken, describes⟩ _
      cases taken
      exact describes
    · exact fun describes => ⟨(), request.reset, rfl, describes rfl⟩

/-- A request and everything called on it in turn keeps the same headers in list and map
exactly when the text it was read off repeats no header and it is not reset while it has
headers. -/
theorem headers_described_iff {origin : Origin} (made : origin.begins = some request)
    (calls : List Call) :
    (request.SameHeaders ∧ AllTaken step (fun _ call _ next => Describes call next) request calls) ↔
    origin.Distinct ∧
      AllSteps step (fun request call => call = .reset → request.headerFieldsMap = ∅)
        request calls := by
  rw [← origin_same_iff made]
  apply and_congr_right
  intro same
  apply all_taken_iff SameHeaders (fun request call same => step_describes_iff same call) _ same
  intro request call reply next same kept taken
  obtain ⟨_, _, taken', describes⟩ := (step_describes_iff same call).mpr kept
  rw [taken] at taken'
  cases taken'
  exact describes.same

/-- A request that keeps the rule: it goes through a proxy, and then the range changes. -/
theorem proxied_described : ∃ request,
    (Origin.url "http://a/".toList [] 0 (-1)).begins = some request ∧ request.SameHeaders ∧
      AllTaken step (fun _ call _ next => Describes call next) request
        [.setProxy "p".toList 8080, .setRange 5 9] := by
  have made : (Origin.url "http://a/".toList [] 0 (-1)).begins = some _ := rfl
  refine ⟨_, made, (headers_described_iff made _).mpr ⟨trivial, ?_⟩⟩
  apply AllSteps.of_forall
  intro _ call member
  simp at member
  rcases member with rfl | rfl <;> exact nofun

/-- A text repeats a header, and the header is removed: one of its lines is still sent. -/
theorem repeated_still_sent : ¬ ∀ (origin : Origin) request (calls : List Call),
    origin.begins = some request → request.SameHeaders ∧
      AllTaken step (fun _ call _ next => Describes call next) request calls := by
  intro all
  obtain ⟨_, _, _, taken, describes, _⟩ :=
    all (.lines (0, false) "GET / HTTP/1.1\r\nA: 1\r\nA: 2\r\n\r\n".toList) _
      [.removeHeader "A".toList] rfl
  cases taken
  exact absurd (describes.removed _ rfl) (by decide)

end HttpRequest
end BeeSdk.HttpMessage
