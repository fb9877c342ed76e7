import BeeSdk.LuaLwsSession

/-! What a script is told about its websocket. The session keeps its word as long as
nothing reaches it over a connection of which it has not told the script. -/
namespace BeeSdk.LuaLws
open Runs

/-- What the connect callback is called with, if it is that one. -/
def Callback.answer : Callback → Option Bool
  | .connectionResult success _ => some success
  | .disconnected => some false
  | .readData _ => none

/-- What the connect callback has been called with. -/
def connects (told : List Callback) : List Bool := told.filterMap Callback.answer

/-- Never, false once, true once, or true and then false. -/
def Answers (seen : List Bool) : Prop :=
  seen = [] ∨ seen = [false] ∨ seen = [true] ∨ seen = [true, false]

/-- What a script relies on, over all calls so far. -/
structure Promised (told : List Callback) : Prop where
  answers : Answers (connects told)
  silent : ∀ before call after, told = before ++ call :: after →
    call.answer = some false → after = []
  reads : ∀ before msg after, told = before ++ .readData msg :: after →
    true ∈ connects before

/-- The call is one a script relies on, behind the calls so far. -/
def Allowed (seen : List Bool) : Callback → Prop
  | .connectionResult true _ => seen = []
  | .connectionResult false _ | .disconnected => seen = [] ∨ seen = [true]
  | .readData _ => seen = [true]

/-- What the read callback gets when this comes in. -/
def LuaLwsSession.whole (session : LuaLwsSession) (data : Text) : Text :=
  if session.checkJsonCompleted then session.currentMsg ++ data else data

/-- There is a read callback, and a message for it when this comes in. -/
def HandsOut (parse : Text → Bool) (session : LuaLwsSession) (data : Text) : Prop :=
  session.main = true ∧ session.readCallback ≠ LUA_REFNIL ∧
    (session.checkJsonCompleted = true → parse (session.currentMsg ++ data) = true)

/-- Lua has not been told of a connection, and all the same the session is open and would
call: for a message that is complete, or for the end of a connection it has seen. -/
def Untold (parse : Text → Bool) (session : LuaLwsSession) (event : Event) : Prop :=
  session.wsi = none ∧ session.closing = false ∧ session.closed = false ∧
    match event.reason with
    | .clientReceive => HandsOut parse session event.data
    | .closed | .wsPeerInitiatedClose | .wsiDestroy =>
      session.connected = true ∧ session.main = true ∧ session.connectCallback ≠ LUA_REFNIL
    | _ => False

/-- No event is handled that the session would have to tell of a connection unknown to it. -/
def Fits (parse : Text → Bool) (life : Life) : Step → Prop
  | .event event => ¬ Untold parse life.session event
  | _ => True

instance (parse : Text → Bool) (session : LuaLwsSession) (data : Text) :
    Decidable (HandsOut parse session data) :=
  inferInstanceAs (Decidable (_ ∧ _ ∧ (_ → _)))

instance (parse : Text → Bool) (session : LuaLwsSession) (event : Event) :
    Decidable (Untold parse session event) := by
  unfold Untold
  cases event.reason <;> infer_instance

instance (parse : Text → Bool) (life : Life) (taken : Step) : Decidable (Fits parse life taken) := by
  cases taken <;> unfold Fits <;> infer_instance

/-! ### Calls behind calls -/

theorem connects_append (told : List Callback) (call : Callback) :
    connects (told ++ [call]) = connects told ++ call.answer.toList := by
  simp only [connects, List.filterMap_append, List.filterMap_cons, List.filterMap_nil]
  cases call.answer <;> rfl

theorem promised_nil : Promised [] where
  answers := .inl rfl
  silent := fun before _ _ cut => by cases before <;> cases cut
  reads := fun before _ _ cut => by cases before <;> cases cut

/-- A call put behind a list that is cut somewhere is the cut's own or behind it. -/
private theorem snoc_cut {told before after : List Callback} {last call : Callback}
    (cut : told ++ [last] = before ++ call :: after) :
    (after = [] ∧ before = told ∧ call = last) ∨
      ∃ rest, after = rest ++ [last] ∧ told = before ++ call :: rest := by
  rcases List.eq_nil_or_concat after with rfl | ⟨rest, other, rfl⟩
  · obtain ⟨rfl, same⟩ := List.append_inj' cut rfl
    cases same
    exact .inl ⟨rfl, rfl, rfl⟩
  · right
    rw [List.concat_eq_append, ← List.cons_append, ← List.append_assoc] at cut
    obtain ⟨rfl, same⟩ := List.append_inj' cut rfl
    cases same
    exact ⟨rest, by rw [List.concat_eq_append], rfl⟩

private theorem answers_true {seen : List Bool} (answers : Answers (seen ++ [true])) : seen = [] := by
  rcases seen with _ | ⟨first, _ | ⟨second, rest⟩⟩ <;> simp [Answers] at answers ⊢

private theorem answers_false {seen : List Bool} (answers : Answers (seen ++ [false])) :
    seen = [] ∨ seen = [true] := by
  rcases seen with _ | ⟨first, _ | ⟨second, rest⟩⟩ <;> simp [Answers] at answers ⊢
  exact answers

/-- Where false has been told and the promise is kept, the call is the last one. -/
private theorem Promised.last_of_false {told : List Callback} {call : Callback}
    (promised : Promised (told ++ [call])) : false ∉ connects told := by
  intro failed
  obtain ⟨other, member, answer⟩ := List.mem_filterMap.mp failed
  obtain ⟨before, after, rfl⟩ := List.append_of_mem member
  have silent := promised.silent before other (after ++ [call]) (by simp) answer
  simp at silent

theorem Promised.allowed {told : List Callback} {call : Callback} (held : Promised told)
    (promised : Promised (told ++ [call])) : Allowed (connects told) call := by
  have answers := promised.answers
  rw [connects_append] at answers
  cases call with
  | connectionResult success data =>
    cases success with
    | true => exact answers_true answers
    | false => exact answers_false answers
  | disconnected => exact answers_false answers
  | readData msg =>
    have connected := promised.reads told msg [] rfl
    have last := promised.last_of_false
    rcases held.answers with same | same | same | same
    · simp [same] at connected
    · simp [same] at connected
    · exact same
    · simp [same] at last

theorem Promised.told {told : List Callback} {call : Callback} (held : Promised told)
    (allowed : Allowed (connects told) call) : Promised (told ++ [call]) where
  answers := by
    rw [connects_append]
    cases call with
    | connectionResult success data =>
      cases success with
      | true => simp [show connects told = [] from allowed, Callback.answer, Answers]
      | false => rcases allowed with same | same <;> simp [same, Callback.answer, Answers]
    | disconnected => rcases allowed with same | same <;> simp [same, Callback.answer, Answers]
    | readData msg => simp [show connects told = [true] from allowed, Callback.answer, Answers]
  silent := by
    intro before other after cut failed
    rcases snoc_cut cut with ⟨none, _, _⟩ | ⟨rest, _, earlier⟩
    · exact none
    · have quiet : false ∈ connects told :=
        List.mem_filterMap.mpr ⟨other, by simp [earlier], failed⟩
      cases call with
      | connectionResult success data =>
        cases success with
        | true => simp [show connects told = [] from allowed] at quiet
        | false => rcases allowed with same | same <;> simp [same] at quiet
      | disconnected => rcases allowed with same | same <;> simp [same] at quiet
      | readData msg => simp [show connects told = [true] from allowed] at quiet
  reads := by
    intro before msg after cut
    rcases snoc_cut cut with ⟨_, rfl, same⟩ | ⟨rest, _, earlier⟩
    · subst same
      simp [show connects before = [true] from allowed]
    · exact held.reads before msg rest earlier

/-! ### What the flags say of the calls -/

/-- What the flags of the session say of the calls made so far. -/
structure Tracks (life : Life) : Prop where
  promised : Promised life.told
  unknown : life.session.wsi = none → connects life.told = [] ∨ connects life.told = [false]
  known : life.session.wsi ≠ none → connects life.told = [true] ∨
    connects life.told = [true, false] ∧ life.session.closed = true
  reported : connects life.told ≠ [] → life.session.connectReported = true ∨
    ∃ success data, life.calling = some (.connectionResult success data)
  reports : life.session.connectReported = true → connects life.told ≠ []
  reporting : ∀ success data, life.calling = some (.connectionResult success data) →
    connects life.told ≠ []
  seen : life.session.connected = true → life.session.main = true →
    life.session.connectCallback ≠ LUA_REFNIL → connects life.told ≠ []

/-- A session in which nothing has changed that the flags and calls are compared by. -/
private theorem Tracks.same {before after : Life} (tracks : Tracks before)
    (told : after.told = before.told) (calling : after.calling = before.calling)
    (wsi : after.session.wsi = before.session.wsi)
    (closed : before.session.closed = true → after.session.closed = true)
    (reported : after.session.connectReported = before.session.connectReported)
    (seen : after.session.connected = true → after.session.main = true →
      after.session.connectCallback ≠ LUA_REFNIL → connects before.told ≠ []) : Tracks after where
  promised := told ▸ tracks.promised
  unknown := by rw [told, wsi]; exact tracks.unknown
  known := by
    rw [told, wsi]
    intro known
    rcases tracks.known known with open' | ⟨shut, ended⟩
    · exact .inl open'
    · exact .inr ⟨shut, closed ended⟩
  reported := by rw [told, calling, reported]; exact tracks.reported
  reports := by rw [told, reported]; exact tracks.reports
  reporting := by rw [told, calling]; exact tracks.reporting
  seen := told ▸ seen

/-! ### What a handler comes to -/

/-- The connect callback is called at most once by this handler, and not after a report. -/
theorem reportConnectionResult_cases (session : LuaLwsSession) (wsi : Option Wsi) (success : Bool)
    (data : Text) :
    session.reportConnectionResult wsi success data = (session, none) ∧
        (session.main = false ∨ session.connectReported = true ∨
          session.connectCallback = LUA_REFNIL) ∨
      session.connectReported = false ∧ session.reportConnectionResult wsi success data =
        (if success then { session with wsi } else session, some (.connectionResult success data)) := by
  unfold LuaLwsSession.reportConnectionResult
  by_cases main : session.main = true <;> by_cases reported : session.connectReported = true <;>
    by_cases callback : session.connectCallback = LUA_REFNIL <;> simp [main, reported, callback]

theorem reportDisconnected_cases (session : LuaLwsSession) :
    session.reportDisconnected = (session, none) ∨
      session.connected = true ∧ session.main = true ∧ session.connectCallback ≠ LUA_REFNIL ∧
        session.reportDisconnected = (session, some .disconnected) := by
  unfold LuaLwsSession.reportDisconnected
  by_cases main : session.main = true <;> by_cases connected : session.connected = true <;>
    by_cases callback : session.connectCallback = LUA_REFNIL <;> simp [main, connected, callback]

/-- The text parsed is what has been kept with what has come behind it. -/
theorem getCompletedJsonMessage_cases (parse : Text → Bool) (session : LuaLwsSession) (data : Text) :
    parse (session.currentMsg ++ data) = false ∧ session.getCompletedJsonMessage parse data =
        ({ session with currentMsg := session.currentMsg ++ data }, none) ∨
      parse (session.currentMsg ++ data) = true ∧ ∃ currentMsg,
        session.getCompletedJsonMessage parse data =
          ({ session with currentMsg }, some (session.currentMsg ++ data)) := by
  unfold LuaLwsSession.getCompletedJsonMessage
  by_cases cached : session.currentMsg = []
  · by_cases complete : parse data = true
    · refine .inr ⟨by simpa [cached] using complete, session.currentMsg, ?_⟩
      rw [if_neg (fun kept => kept cached), if_pos complete, cached]
      exact congrArg (fun kept => ({ session with currentMsg := kept }, some data)) cached
    · exact .inl ⟨by simpa [cached] using complete, by simp [cached, complete]⟩
  · by_cases complete : parse (session.currentMsg ++ data) = true
    · exact .inr ⟨complete, session.currentMsg ++ data, by simp [cached, complete]⟩
    · exact .inl ⟨by simpa using complete, by simp [cached, complete]⟩

/-- What comes in is handed to the read callback or kept; nothing else changes. -/
theorem reportReadData_cases (parse : Text → Bool) (session : LuaLwsSession) (data : Text) :
    ∃ currentMsg, ¬ HandsOut parse session data ∧
        session.reportReadData parse data = ({ session with currentMsg }, none) ∨
      HandsOut parse session data ∧ session.reportReadData parse data =
        ({ session with currentMsg }, some (.readData (session.whole data))) := by
  have handed : ∀ currentMsg, (session.checkJsonCompleted = true →
        parse (session.currentMsg ++ data) = true) →
      session.reportReadData parse data = (if ¬ session.main then ({ session with currentMsg }, none)
        else if session.readCallback = LUA_REFNIL then ({ session with currentMsg }, none)
        else ({ session with currentMsg }, some (.readData (session.whole data)))) →
      ¬ HandsOut parse session data ∧
        session.reportReadData parse data = ({ session with currentMsg }, none) ∨
      HandsOut parse session data ∧ session.reportReadData parse data =
        ({ session with currentMsg }, some (.readData (session.whole data))) := by
    intro currentMsg complete comes
    rw [comes]
    by_cases main : session.main = true
    · by_cases callback : session.readCallback = LUA_REFNIL
      · exact .inl ⟨fun hands => hands.2.1 callback, by simp [main, callback]⟩
      · exact .inr ⟨⟨main, callback, complete⟩, by simp [main, callback]⟩
    · exact .inl ⟨fun hands => main hands.1, by simp [main]⟩
  by_cases checks : session.checkJsonCompleted = true
  · rcases getCompletedJsonMessage_cases parse session data with
      ⟨incomplete, kept⟩ | ⟨complete, currentMsg, whole⟩
    · refine ⟨session.currentMsg ++ data, .inl ⟨?_, ?_⟩⟩
      · intro hands
        simp [hands.2.2 checks] at incomplete
      · simp [LuaLwsSession.reportReadData, checks, kept]
    · refine ⟨currentMsg, handed currentMsg (fun _ => complete) ?_⟩
      simp [LuaLwsSession.reportReadData, LuaLwsSession.whole, checks, whole]
  · refine ⟨session.currentMsg, handed session.currentMsg (fun json => absurd json checks) ?_⟩
    unfold LuaLwsSession.reportReadData LuaLwsSession.whole
    rw [if_neg checks, if_neg checks]

/-! ### One step -/

section steps

variable {parse : Text → Bool} {life : Life} (tracks : Tracks life) (idle : life.calling = none)
include tracks idle

/-- A session that has reported nothing has told nothing. -/
private theorem Tracks.nothing (unreported : life.session.connectReported = false) :
    connects life.told = [] := by
  apply Classical.byContradiction
  intro told
  rcases tracks.reported told with reported | ⟨success, data, calling⟩
  · rw [unreported] at reported
    cases reported
  · rw [idle] at calling
    cases calling

omit idle in
private theorem Tracks.known_open (known : life.session.wsi ≠ none)
    (isOpen : life.session.closed = false) : connects life.told = [true] := by
  rcases tracks.known known with open' | ⟨_, closed⟩
  · exact open'
  · rw [isOpen] at closed
    cases closed

/-- A report of success makes the connection known, and is the first call. -/
private theorem Tracks.reports_success {wsi : Option Wsi} (data : Text) (named : wsi ≠ none) :
    Tracks (life.handled
      ({ life.session with connected := true }.reportConnectionResult wsi true data)) := by
  rcases reportConnectionResult_cases { life.session with connected := true } wsi true data with
    ⟨quiet, why⟩ | ⟨unreported, calls⟩
  · rw [quiet]
    refine tracks.same rfl rfl rfl id rfl ?_
    intro _ main callback
    rcases why with gone | reported | none
    · rw [show life.session.main = true from main] at gone
      cases gone
    · exact tracks.reports reported
    · exact absurd none callback
  · rw [calls]
    have nothing : connects life.told = [] := tracks.nothing idle unreported
    have told : connects (life.told ++ [.connectionResult true data]) = [true] := by
      rw [connects_append, nothing]
      rfl
    exact {
      promised := tracks.promised.told nothing
      unknown := fun unknown => absurd unknown named
      known := fun _ => .inl told
      reported := fun _ => .inr ⟨true, data, rfl⟩
      reports := fun _ => by simp [Life.handled, told]
      reporting := fun _ _ _ => by simp [Life.handled, told]
      seen := fun _ _ _ => by simp [Life.handled, told] }

/-- A report of failure is the first call, and leaves the connection unknown. -/
private theorem Tracks.reports_failure (wsi : Option Wsi) (data : Text) :
    Tracks (life.handled (life.session.reportConnectionResult wsi false data)) := by
  rcases reportConnectionResult_cases life.session wsi false data with
    ⟨quiet, _⟩ | ⟨unreported, calls⟩
  · rw [quiet]
    exact tracks.same rfl rfl rfl id rfl tracks.seen
  · rw [calls]
    have nothing : connects life.told = [] := tracks.nothing idle unreported
    have told : connects (life.told ++ [.connectionResult false data]) = [false] := by
      rw [connects_append, nothing]
      rfl
    exact {
      promised := tracks.promised.told (.inl nothing)
      unknown := fun _ => .inr told
      known := fun known => by
        rcases tracks.known known with same | ⟨same, _⟩ <;> simp [nothing] at same
      reported := fun _ => .inr ⟨false, data, rfl⟩
      reports := fun _ => by simp [Life.handled, told]
      reporting := fun _ _ _ => by simp [Life.handled, told]
      seen := fun _ _ _ => by simp [Life.handled, told] }

/-- The end of a known connection is the second call and the last. -/
private theorem Tracks.reports_end (isOpen : life.session.closed = false)
    (known : life.session.connected = true → life.session.main = true →
      life.session.connectCallback ≠ LUA_REFNIL → life.session.wsi ≠ none) :
    Tracks (life.handled { life.session with closed := true }.reportDisconnected) := by
  rcases reportDisconnected_cases { life.session with closed := true } with
    quiet | ⟨connected, main, callback, calls⟩
  · rw [quiet]
    exact tracks.same rfl rfl rfl (fun _ => rfl) rfl tracks.seen
  · rw [calls]
    have connection := known connected main callback
    have one := tracks.known_open connection isOpen
    have told : connects (life.told ++ [.disconnected]) = [true, false] := by
      rw [connects_append, one]
      rfl
    have reported : life.session.connectReported = true := by
      rcases tracks.reported (by simp [one]) with reported | ⟨success, data, calling⟩
      · exact reported
      · simp [idle] at calling
    exact {
      promised := tracks.promised.told (.inr one)
      unknown := fun unknown => absurd unknown connection
      known := fun _ => .inr ⟨told, rfl⟩
      reported := fun _ => .inl reported
      reports := fun _ => by simp [Life.handled, told]
      reporting := fun _ _ _ => by simp [Life.handled, told]
      seen := fun _ _ _ => by simp [Life.handled, told] }

/-- A message over a known connection is told between the two. -/
private theorem Tracks.reports_data (data : Text) (isOpen : life.session.closed = false)
    (known : HandsOut parse life.session data → life.session.wsi ≠ none) :
    Tracks (life.handled (life.session.reportReadData parse data)) := by
  obtain ⟨currentMsg, ⟨_, quiet⟩ | ⟨hands, calls⟩⟩ := reportReadData_cases parse life.session data
  · rw [quiet]
    exact tracks.same rfl rfl rfl id rfl tracks.seen
  · rw [calls]
    have connection := known hands
    have one := tracks.known_open connection isOpen
    have told : connects (life.told ++ [.readData (life.session.whole data)]) = [true] := by
      rw [connects_append, one]
      rfl
    have reported : life.session.connectReported = true := by
      rcases tracks.reported (by simp [one]) with reported | ⟨success, data, calling⟩
      · exact reported
      · simp [idle] at calling
    exact {
      promised := tracks.promised.told one
      unknown := fun unknown => absurd unknown connection
      known := fun _ => .inl told
      reported := fun _ => .inl reported
      reports := fun _ => by simp [Life.handled, told]
      reporting := fun _ _ _ => by simp [Life.handled, told]
      seen := fun _ _ _ => by simp [Life.handled, told] }

private theorem Tracks.event (event : Event) (fits : ¬ Untold parse life.session event) :
    Tracks (life.handled (life.session.onEvent parse event)) := by
  by_cases shut : life.session.closing = true ∨ life.session.closed = true
  · rw [LuaLwsSession.onEvent, if_pos shut]
    exact tracks.same rfl rfl rfl id rfl tracks.seen
  · rw [LuaLwsSession.onEvent, if_neg shut]
    simp only [not_or, Bool.not_eq_true] at shut
    obtain ⟨lasting, isOpen⟩ := shut
    have ends : (event.reason = .closed ∨ event.reason = .wsPeerInitiatedClose ∨
        event.reason = .wsiDestroy) → Tracks (life.handled
          { life.session with closed := true }.reportDisconnected) := by
      intro reason
      apply tracks.reports_end idle isOpen
      intro connected main callback unknown
      apply fits
      refine ⟨unknown, lasting, isOpen, ?_⟩
      rcases reason with reason | reason | reason <;> rw [reason] <;> exact ⟨connected, main, callback⟩
    cases reason : event.reason with
    | clientEstablished => exact tracks.reports_success idle event.data (event.named reason)
    | clientConnectionError => exact tracks.reports_failure idle event.wsi event.data
    | closed => exact ends (.inl reason)
    | wsPeerInitiatedClose => exact ends (.inr (.inl reason))
    | wsiDestroy => exact ends (.inr (.inr reason))
    | clientWriteable => exact tracks.same rfl rfl rfl id rfl tracks.seen
    | clientReceive =>
      apply tracks.reports_data idle event.data isOpen
      intro hands unknown
      apply fits
      refine ⟨unknown, lasting, isOpen, ?_⟩
      rw [reason]
      exact hands

private theorem Tracks.timeout : Tracks (life.handled life.session.handleConnectTimeout) := by
  have waited : Tracks { life with session := { life.session with connectTimer := false } } :=
    tracks.same rfl rfl rfl id rfl tracks.seen
  unfold LuaLwsSession.handleConnectTimeout
  by_cases reported : life.session.connectReported = true
  · rw [if_pos reported]
    exact waited
  · rw [if_neg reported]
    exact waited.reports_failure idle none "timeout".toList

end steps

private theorem Tracks.returns {life : Life} {call : Callback} (tracks : Tracks life)
    (calling : life.calling = some call) :
    Tracks { life with session := life.session.returned call, calling := none } := by
  have within : (∀ success data, call ≠ .connectionResult success data) → connects life.told ≠ [] →
      life.session.connectReported = true := by
    intro other told
    rcases tracks.reported told with reported | ⟨success, data, same⟩
    · exact reported
    · rw [calling] at same
      cases same
      exact absurd rfl (other success data)
  cases call with
  | connectionResult success data =>
    exact {
      promised := tracks.promised
      unknown := tracks.unknown
      known := tracks.known
      reported := fun _ => .inl rfl
      reports := fun _ => tracks.reporting success data calling
      reporting := fun _ _ none => by cases none
      seen := tracks.seen }
  | disconnected =>
    exact { tracks with
      reported := fun told => .inl (within (fun _ _ same => by cases same) told)
      reporting := fun _ _ none => by cases none }
  | readData msg =>
    exact {
      promised := tracks.promised
      unknown := tracks.unknown
      known := tracks.known
      reported := fun told => .inl (within (fun _ _ same => by cases same) told)
      reports := tracks.reports
      reporting := fun _ _ none => by cases none
      seen := tracks.seen }

private theorem Tracks.close {life : Life} (tracks : Tracks life) :
    Tracks { life with session := life.session.close } := by
  unfold LuaLwsSession.close
  split
  · exact tracks
  · dsimp only
    split
    · exact tracks.same rfl rfl rfl id rfl tracks.seen
    · exact tracks.same rfl rfl rfl id rfl tracks.seen

/-- Whatever a step that fits does, flags and calls still agree. -/
theorem tracks_step {parse : Text → Bool} {life next : Life} {taken : Step} (tracks : Tracks life)
    (fits : Fits parse life taken) (ran : step parse life taken = some ((), next)) : Tracks next := by
  cases taken with
  | event event =>
    simp only [step, Option.ite_none_left_eq_some, Classical.not_not, Option.some.injEq,
      Prod.mk.injEq] at ran
    obtain ⟨idle, _, rfl⟩ := ran
    exact tracks.event idle event fits
  | timeout =>
    simp only [step, Option.ite_none_left_eq_some, not_or, Classical.not_not, Option.some.injEq,
      Prod.mk.injEq] at ran
    obtain ⟨⟨idle, _⟩, _, rfl⟩ := ran
    exact tracks.timeout idle
  | returns =>
    simp only [step, Option.map_eq_some_iff, Prod.mk.injEq] at ran
    obtain ⟨call, calling, _, rfl⟩ := ran
    exact tracks.returns calling
  | close =>
    cases ran
    exact tracks.close
  | clearsClosing =>
    simp only [step, Option.ite_none_left_eq_some, Option.some.injEq, Prod.mk.injEq] at ran
    obtain ⟨_, _, rfl⟩ := ran
    exact tracks.same rfl rfl rfl id rfl tracks.seen
  | setsClosed =>
    simp only [step, Option.ite_none_left_eq_some, Option.some.injEq, Prod.mk.injEq] at ran
    obtain ⟨_, _, rfl⟩ := ran
    exact tracks.same rfl rfl rfl (fun _ => rfl) rfl tracks.seen

/-- A step that does not fit leads to a call a script does not expect. -/
theorem fits_of_promised {parse : Text → Bool} {life next : Life} {taken : Step}
    (tracks : Tracks life) (ran : step parse life taken = some ((), next))
    (promised : Promised next.told) : Fits parse life taken := by
  cases taken with
  | event event =>
    rintro ⟨unknown, lasting, isOpen, calls⟩
    simp only [step, Option.ite_none_left_eq_some, Classical.not_not, Option.some.injEq,
      Prod.mk.injEq] at ran
    obtain ⟨_, _, rfl⟩ := ran
    rw [LuaLwsSession.onEvent, if_neg (by simp [lasting, isOpen])] at promised
    have untold := tracks.unknown unknown
    have ends : life.session.connected = true ∧ life.session.main = true ∧
        life.session.connectCallback ≠ LUA_REFNIL →
        ¬ Promised (life.handled { life.session with closed := true }.reportDisconnected).told := by
      rintro ⟨connected, main, callback⟩ kept
      rcases reportDisconnected_cases { life.session with closed := true } with
        quiet | ⟨_, _, _, called⟩
      · simp [LuaLwsSession.reportDisconnected, connected, main, callback] at quiet
      · rw [called] at kept
        have some' := tracks.seen connected main callback
        rcases tracks.promised.allowed kept with none | one
        · exact some' none
        · simp [one] at untold
    cases reason : event.reason with
    | clientEstablished => simp [reason] at calls
    | clientConnectionError => simp [reason] at calls
    | clientWriteable => simp [reason] at calls
    | closed => simp only [reason] at calls promised; exact ends calls promised
    | wsPeerInitiatedClose => simp only [reason] at calls promised; exact ends calls promised
    | wsiDestroy => simp only [reason] at calls promised; exact ends calls promised
    | clientReceive =>
      simp only [reason] at calls promised
      obtain ⟨currentMsg, ⟨quiet, _⟩ | ⟨_, called⟩⟩ :=
        reportReadData_cases parse life.session event.data
      · exact quiet calls
      · rw [called] at promised
        have one : connects life.told = [true] := tracks.promised.allowed promised
        simp [one] at untold
  | timeout => trivial
  | returns => trivial
  | close => trivial
  | clearsClosing => trivial
  | setsClosed => trivial

/-- Nothing has been told and nothing is known when the session is asked to connect. -/
private theorem tracks_connecting (ios lwsService checkJsonCompleted main : Bool)
    (readCallback : Int) (url : Option Text) (timeout callback : Int) :
    Tracks (connecting (opened ios lwsService checkJsonCompleted main readCallback) url timeout
      callback) := by
  have fresh : ∃ connectCallback connectTimer,
      connecting (opened ios lwsService checkJsonCompleted main readCallback) url timeout callback =
        { session := { ios, lwsService, checkJsonCompleted, main, readCallback, connectCallback,
                       connectTimer } } := by
    unfold connecting LuaLwsSession.connect opened
    split
    · exact ⟨_, _, rfl⟩
    · dsimp only
      split
      · exact ⟨_, _, rfl⟩
      · exact ⟨_, _, rfl⟩
  obtain ⟨connectCallback, connectTimer, same⟩ := fresh
  rw [same]
  exact {
    promised := promised_nil
    unknown := fun _ => .inl rfl
    known := fun known => absurd rfl known
    reported := fun told => absurd rfl told
    reports := fun reported => by cases reported
    reporting := fun _ _ calling => by cases calling
    seen := fun connected => by cases connected }

/-! ### Runs -/

/-- In every run of a session that was asked to connect, what Lua is told is what it relies
on all along exactly when no step has the session tell of a connection Lua does not know. -/
theorem told_as_promised_iff (parse : Text → Bool) (ios lwsService checkJsonCompleted main : Bool)
    (readCallback : Int) (url : Option Text) (timeout callback : Int) (steps : List Step)
    (replies : List Unit) (final : Life)
    (ran : run (step parse) (connecting (opened ios lwsService checkJsonCompleted main readCallback)
      url timeout callback) steps = some (replies, final)) :
    (∀ made, made <+: steps → ∀ replies reached,
      run (step parse) (connecting (opened ios lwsService checkJsonCompleted main readCallback)
        url timeout callback) made = some (replies, reached) → Promised reached.told) ↔
      AllSteps (step parse) (Fits parse)
        (connecting (opened ios lwsService checkJsonCompleted main readCallback)
          url timeout callback) steps := by
  apply all_reached_iff Tracks (fun life => Promised life.told) (fun _ => True) _ _
    (fun _ tracks => tracks.promised) (fun _ _ => trivial) (tracks_connecting ..) ran
  · intro life taken reply next tracks _ fits ran
    exact tracks_step tracks fits ran
  · intro life taken reply next tracks _ ran promised
    exact fits_of_promised tracks ran promised

/-- A session that connects, receives something and is closed by its peer. -/
theorem connected_received_closed :
    (run (step fun _ => true) (connecting (opened true true false true 1) (some []) 0 2)
        [.event (.of 7 .clientEstablished []), .returns, .event (.of 7 .clientReceive ['a']), .returns,
          .event (.of 7 .wsPeerInitiatedClose []), .returns, .event (.of 7 .closed [])]).map
      (fun ran => ran.2.told) = some [.connectionResult true [], .readData ['a'], .disconnected] ∧
    ∀ made, made <+: [.event (.of 7 .clientEstablished []), .returns,
        .event (.of 7 .clientReceive ['a']), .returns, .event (.of 7 .wsPeerInitiatedClose []), .returns,
        .event (.of 7 .closed [])] →
      ∀ replies reached, run (step fun _ => true)
        (connecting (opened true true false true 1) (some []) 0 2) made = some (replies, reached) →
      Promised reached.told :=
  ⟨rfl, (told_as_promised_iff (fun _ => true) true true false true 1 (some []) 0 2 _ _ _ rfl).mpr
    (by decide)⟩

/-- The timer gives up before the connection is there; the connection comes and goes, and
Lua is told a second time that there is none. -/
theorem told_of_failure_twice :
    ¬ ∀ (parse : Text → Bool) (ios lwsService checkJsonCompleted main : Bool) (readCallback : Int)
      (url : Option Text) (timeout callback : Int) (steps : List Step) (replies : List Unit)
      (final : Life), run (step parse)
        (connecting (opened ios lwsService checkJsonCompleted main readCallback) url timeout callback)
        steps = some (replies, final) → Promised final.told := by
  intro always
  have promised := always (fun _ => true) true true false true 1 (some []) 1000 2
    [.timeout, .returns, .event (.of 7 .clientEstablished []), .event (.of 7 .closed [])] _ _ rfl
  have twice : connects [.connectionResult false "timeout".toList, .disconnected] = [false, false] := rfl
  have answers : Answers [false, false] := twice ▸ promised.answers
  simp [Answers] at answers

end BeeSdk.LuaLws
