import BeeSdk.LuaHttpSession
import BeeSdk.SessionPaced
import BeeSdk.SessionTold

/-! How often Lua is told the end of a `get`. A coroutine is resumed at most once
in every run. The callback of `async_get` is called again by a body that is
refused after it has been reported, and by a connect that concludes under a
report it has already made. -/
namespace BeeSdk.LuaHttp
open StateMachine HttpBody Session SessionRouting SessionPaced LuaHttpSession

variable {Endpoint : Type}

/-- The machine hands a content over in the step, without an error. -/
def handsOver (surroundings : Surroundings Endpoint) (http : HttpSession Endpoint)
    (event : Session.Event Endpoint) : Bool :=
  match HttpSession.step surroundings http event with
  | none => false
  | some (entries, _) => entries.any fun
    | .rcvBody event => event.ec1 = .success && !event.ec2.isError
    | _ => false

/-- The body callback rejects or fails, and being told does not make Lua close
the session. -/
def RefusesBody (session : LuaHttpSession Endpoint) (lua : Lua) : Prop :=
  session.luaCallbacks .body > LUA_REFNIL ∧ lua.stage.verdict ≠ .success ∧
    lua.closes session.signals.length = false

/-- Lua can be told by a callback. -/
def Callable (session : LuaHttpSession Endpoint) : Prop :=
  session.main = true ∧ session.getCallback ≠ LUA_REFNIL

/-- No content handed over to a session with a callback is refused, and once the
callback has been called, a connect completes silently or a timer ticks early. -/
def Fits (surroundings : Surroundings Endpoint) (session : LuaHttpSession Endpoint) :
    Event Endpoint → Prop
  | .completes position completion socketOpens lua => Callable session →
    ∀ operation ∈ session.http.pending[position]?,
      let event := session.completing surroundings lua socketOpens position operation completion
      (handsOver surroundings session.http event = true → ¬ RefusesBody session lua) ∧
        (session.signals ≠ [] → Silent session.http event)
  | .ticks timer lua => Callable session → session.signals ≠ [] →
    Silent session.http (session.ticking lua timer)
  | _ => True

instance (session : LuaHttpSession Endpoint) (lua : Lua) : Decidable (RefusesBody session lua) :=
  inferInstanceAs (Decidable (_ ∧ _ ∧ _))

instance (session : LuaHttpSession Endpoint) : Decidable (Callable session) :=
  inferInstanceAs (Decidable (_ ∧ _))

instance (surroundings : Surroundings Endpoint) (session : LuaHttpSession Endpoint)
    (event : Event Endpoint) : Decidable (Fits surroundings session event) :=
  match event with
  | .completes position completion socketOpens lua => inferInstanceAs (Decidable
      (Callable session → ∀ operation ∈ session.http.pending[position]?,
        (handsOver surroundings session.http (session.completing surroundings lua socketOpens
          position operation completion) = true → ¬ RefusesBody session lua) ∧
        (session.signals ≠ [] → Silent session.http (session.completing surroundings lua
          socketOpens position operation completion))))
  | .ticks timer lua => inferInstanceAs (Decidable (Callable session → session.signals ≠ [] →
      Silent session.http (session.ticking lua timer)))
  | .sets _ _ | .closes | .closesLater => isTrue trivial

/-! ### Telling -/

variable {session before middle after : LuaHttpSession Endpoint} (lua : Lua)

/-- What telling Lua and closing keep of a session. -/
structure Keeps (before after : LuaHttpSession Endpoint) : Prop where
  getCallback : after.getCallback = before.getCallback
  pending : after.http.pending = before.http.pending
  paced : Paced before.http → Paced after.http

theorem Keeps.refl (session : LuaHttpSession Endpoint) : Keeps session session := ⟨rfl, rfl, id⟩

theorem Keeps.trans (first : Keeps before middle) (second : Keeps middle after) :
    Keeps before after :=
  ⟨second.getCallback.trans first.getCallback, second.pending.trans first.pending,
    fun paced => second.paced (first.paced paced)⟩

theorem close_keeps (session : LuaHttpSession Endpoint) : Keeps session session.close := by
  unfold close
  dsimp only
  split
  · refine ⟨rfl, rfl, fun paced => ?_⟩
    have steady := paced.steady
    exact ⟨⟨steady.timed, steady.waits, steady.bodyWaits, steady.checked⟩, paced.single,
      paced.connecting⟩
  · exact ⟨rfl, rfl, id⟩

theorem close_tells (session : LuaHttpSession Endpoint) :
    session.close.signals = session.signals ∧ session.close.main = false ∧
      session.close.resumed = session.resumed := by
  unfold close
  dsimp only
  split <;> exact ⟨rfl, rfl, rfl⟩

theorem tell_keeps (session : LuaHttpSession Endpoint) (signal : Signal) :
    Keeps session (session.tell lua signal) := by
  have told : Keeps session { session with signals := session.signals ++ [signal] } := ⟨rfl, rfl, id⟩
  unfold LuaHttpSession.tell
  dsimp only
  split
  · exact told.trans (close_keeps _)
  · exact told

theorem tell_tells (session : LuaHttpSession Endpoint) (signal : Signal) :
    (session.tell lua signal).signals = session.signals ++ [signal] ∧
      (session.tell lua signal).resumed = session.resumed := by
  unfold LuaHttpSession.tell
  dsimp only
  split
  · obtain ⟨signals, _, resumed⟩ := close_tells
      { session with signals := session.signals ++ [signal] }
    exact ⟨signals, resumed⟩
  · exact ⟨rfl, rfl⟩

/-- Being told may make Lua close the session. -/
theorem tell_closes (signal : Signal) (closes : lua.closes session.signals.length = true) :
    (session.tell lua signal).main = false := by
  unfold LuaHttpSession.tell
  dsimp only
  rw [if_pos closes]
  exact (close_tells _).2.1

theorem closeLater_keeps (session : LuaHttpSession Endpoint) : Keeps session session.closeLater := by
  unfold closeLater
  split <;> exact ⟨rfl, rfl, id⟩

theorem closeLater_tells (session : LuaHttpSession Endpoint) :
    session.closeLater.signals = session.signals ∧ session.closeLater.main = session.main ∧
      session.closeLater.resumed = session.resumed := by
  unfold closeLater
  split <;> exact ⟨rfl, rfl, rfl⟩

variable (ec1 : BeeErrorCode) (ec2 : ErrorCode) (body : List UInt8)

theorem report_keeps (session : LuaHttpSession Endpoint) :
    Keeps session (session.report lua ec1 ec2 body) := by
  unfold report reportAsyncGetResult resume
  split
  · split
    · exact tell_keeps lua session _
    · exact .refl session
  · split
    · have marked : Keeps session { session with resumed := true, yielding := false } :=
        ⟨rfl, rfl, id⟩
      exact marked.trans (tell_keeps lua _ _)
    · exact .refl session

/-- A closed session tells nobody. -/
theorem report_closed (closed : session.main = false) :
    session.report lua ec1 ec2 body = session := by
  unfold report reportAsyncGetResult resume
  simp [closed]

theorem report_called (callable : Callable session) : ∃ signal,
    (session.report lua ec1 ec2 body).signals = session.signals ++ [signal] ∧
    (lua.closes session.signals.length = true → (session.report lua ec1 ec2 body).main = false) := by
  unfold report reportAsyncGetResult
  rw [if_pos callable.2, if_pos (show session.main = true ∧ _ from callable)]
  exact ⟨_, (tell_tells lua session _).1, tell_closes lua _⟩

/-! ### A coroutine -/

/-- A coroutine has not been resumed, or it is marked as resumed. -/
structure Guarded (session : LuaHttpSession Endpoint) : Prop where
  uncalled : session.getCallback = LUA_REFNIL
  once : session.signals.length ≤ 1
  marked : session.signals ≠ [] → session.resumed = true

theorem Guarded.report (guarded : Guarded session) :
    Guarded (session.report lua ec1 ec2 body) := by
  unfold LuaHttpSession.report
  rw [if_neg (fun called => called guarded.uncalled)]
  unfold resume
  split
  · rename_i resumes
    have none : session.signals = [] := Classical.not_not.mp fun some =>
      resumes.2.2.2 (guarded.marked some)
    generalize told : ({ session with resumed := true, yielding := false } :
      LuaHttpSession Endpoint) = waking
    obtain ⟨signals, resumed⟩ := tell_tells lua waking
      (.resumed ⟨ec1, ec2, session.statusCode, body⟩)
    have keeps := tell_keeps lua waking (.resumed ⟨ec1, ec2, session.statusCode, body⟩)
    subst told
    refine ⟨keeps.getCallback.trans guarded.uncalled, ?_, fun _ => resumed⟩
    rw [signals]
    simp [none]
  · exact guarded

theorem Guarded.close (guarded : Guarded session) : Guarded session.close := by
  obtain ⟨signals, _, resumed⟩ := close_tells session
  refine ⟨(close_keeps session).getCallback.trans guarded.uncalled, ?_, ?_⟩
  · rw [signals]
    exact guarded.once
  · rw [signals, resumed]
    exact guarded.marked

theorem Guarded.closeLater (guarded : Guarded session) : Guarded session.closeLater := by
  obtain ⟨signals, _, resumed⟩ := closeLater_tells session
  refine ⟨(closeLater_keeps session).getCallback.trans guarded.uncalled, ?_, ?_⟩
  · rw [signals]
    exact guarded.once
  · rw [signals, resumed]
    exact guarded.marked

theorem Guarded.handHeader (guarded : Guarded session) (header : Option HttpResponse) :
    Guarded (LuaHttpSession.handHeader lua session header) := by
  cases header with
  | none => exact guarded
  | some header =>
    have headed : Guarded { session with statusCode := header.statusCode } :=
      ⟨guarded.uncalled, guarded.once, guarded.marked⟩
    simp only [LuaHttpSession.handHeader, handleRcvHeader]
    split
    · exact guarded
    · split
      · exact headed
      · exact headed.report lua _ _ []

theorem Guarded.hear (guarded : Guarded session) (entry : Entry Endpoint) :
    Guarded (hear lua session entry) := by
  cases entry with
  | rcvBody event =>
    simp only [LuaHttpSession.hear]
    split
    · exact guarded
    · unfold handleRcvContent
      split
      · exact guarded
      · exact (guarded.report lua _ _ _).closeLater
  | output event =>
    simp only [LuaHttpSession.hear, LuaHttpSession.output]
    split
    · exact (guarded.report lua _ _ _).closeLater
    · exact guarded
  | _ => exact guarded

theorem Guarded.hears (guarded : Guarded session) (entries : List (Entry Endpoint)) :
    Guarded (entries.foldl (LuaHttpSession.hear lua) session) := by
  induction entries generalizing session with
  | nil => exact guarded
  | cons entry rest ih => exact ih (guarded.hear lua entry)

theorem Guarded.follow (surroundings : Surroundings Endpoint) (guarded : Guarded session)
    {header : Option HttpResponse} {event : Session.Event Endpoint}
    (follows : session.follow surroundings lua header event = some after) : Guarded after := by
  obtain ⟨⟨entries, http⟩, _, rfl⟩ := Option.map_eq_some_iff.mp follows
  have stepped : Guarded { session with http } := ⟨guarded.uncalled, guarded.once, guarded.marked⟩
  exact (stepped.handHeader lua header).hears lua entries

/-- One step of a session whose coroutine waits. -/
theorem Guarded.step (surroundings : Surroundings Endpoint) (guarded : Guarded session)
    {event : Event Endpoint} (taken : session.step surroundings event = some (reply, after)) :
    Guarded after := by
  cases event with
  | completes position completion socketOpens lua =>
    obtain ⟨operation, _, rest⟩ := Option.bind_eq_some_iff.mp taken
    split at rest
    · obtain ⟨followed, follows, shape⟩ := Option.map_eq_some_iff.mp rest
      cases shape
      exact guarded.follow lua surroundings follows
    · cases rest
      exact ⟨guarded.uncalled, guarded.once, guarded.marked⟩
  | ticks timer lua =>
    simp only [LuaHttpSession.step] at taken
    split at taken
    · obtain ⟨followed, follows, shape⟩ := Option.map_eq_some_iff.mp taken
      cases shape
      exact guarded.follow lua surroundings follows
    · split at taken
      · cases taken
        exact guarded
      · cases taken
  | sets type callback =>
    cases taken
    exact ⟨guarded.uncalled, guarded.once, guarded.marked⟩
  | closes =>
    cases taken
    exact guarded.close
  | closesLater =>
    simp only [LuaHttpSession.step] at taken
    split at taken
    · cases taken
    · cases taken
      have taken : Guarded { session with closings := session.closings - 1 } :=
        ⟨guarded.uncalled, guarded.once, guarded.marked⟩
      exact taken.close

/-! ### A callback -/

theorem hear_unvoiced {entry : Entry Endpoint} (unvoiced : voiced entry = false)
    (session : LuaHttpSession Endpoint) : hear lua session entry = session := by
  cases entry with
  | rcvBody event => cases unvoiced
  | output event => cases unvoiced
  | _ => rfl

/-- Only what is voiced is heard. -/
theorem hears_voiced (entries : List (Entry Endpoint)) (session : LuaHttpSession Endpoint) :
    entries.foldl (hear lua) session = (entries.filter voiced).foldl (hear lua) session := by
  rw [List.foldl_filter]
  congr 1
  funext heard entry
  split
  · rfl
  · rename_i unvoiced
    exact hear_unvoiced lua (Bool.eq_false_iff.mpr unvoiced) heard

theorem hear_keeps (session : LuaHttpSession Endpoint) (entry : Entry Endpoint) :
    Keeps session (hear lua session entry) := by
  cases entry with
  | rcvBody event =>
    simp only [hear]
    split
    · exact .refl session
    · unfold handleRcvContent
      split
      · exact .refl session
      · exact (report_keeps lua _ _ _ session).trans (closeLater_keeps _)
  | output event =>
    simp only [hear, output]
    split
    · exact (report_keeps lua _ _ _ session).trans (closeLater_keeps _)
    · exact .refl session
  | _ => exact .refl session

theorem hears_keeps (entries : List (Entry Endpoint)) (session : LuaHttpSession Endpoint) :
    Keeps session (entries.foldl (hear lua) session) := by
  induction entries generalizing session with
  | nil => exact .refl session
  | cons entry rest ih => exact (hear_keeps lua session entry).trans (ih _)

theorem handHeader_keeps (session : LuaHttpSession Endpoint) (header : Option HttpResponse) :
    Keeps session (handHeader lua session header) := by
  cases header with
  | none => exact .refl session
  | some header =>
    have headed : Keeps session { session with statusCode := header.statusCode } := ⟨rfl, rfl, id⟩
    simp only [handHeader, handleRcvHeader]
    split
    · exact .refl session
    · split
      · exact headed
      · exact headed.trans (report_keeps lua _ _ [] _)

/-! #### A closed session -/

theorem hear_closed (closed : session.main = false) (entry : Entry Endpoint) :
    (hear lua session entry).signals = session.signals ∧ (hear lua session entry).main = false := by
  cases entry with
  | rcvBody event =>
    simp only [hear]
    split
    · exact ⟨rfl, closed⟩
    · unfold handleRcvContent
      rw [if_pos (by simp [closed])]
      exact ⟨rfl, closed⟩
  | output event =>
    simp only [hear, output]
    split
    · rw [report_closed lua _ _ _ closed]
      obtain ⟨signals, main, _⟩ := closeLater_tells session
      exact ⟨signals, main.trans closed⟩
    · exact ⟨rfl, closed⟩
  | _ => exact ⟨rfl, closed⟩

theorem hears_closed (closed : session.main = false) (entries : List (Entry Endpoint)) :
    (entries.foldl (hear lua) session).signals = session.signals ∧
      (entries.foldl (hear lua) session).main = false := by
  induction entries generalizing session with
  | nil => exact ⟨rfl, closed⟩
  | cons entry rest ih =>
    obtain ⟨signals, closed⟩ := hear_closed lua closed entry
    obtain ⟨signals', closed'⟩ := ih closed
    exact ⟨signals'.trans signals, closed'⟩

theorem handHeader_closed (closed : session.main = false) (header : Option HttpResponse) :
    handHeader lua session header = session := by
  cases header with
  | none => rfl
  | some header =>
    simp only [handHeader, handleRcvHeader]
    rw [if_pos (by simp [closed])]

/-! #### An open session -/

theorem output_once (callable : Callable session) (none : session.signals = [])
    (event : StateEvent) : (session.output lua event).signals.length ≤ 1 := by
  unfold output
  split
  · obtain ⟨signal, signals, _⟩ := report_called lua event.ec1 event.ec2 [] callable
    rw [(closeLater_tells _).1, signals, none]
    exact Nat.le_refl 1
  · rw [none]
    exact Nat.zero_le 1

theorem output_finished {event : StateEvent} (finished : event.ec1 = .stateMachineFinished)
    (session : LuaHttpSession Endpoint) : session.output lua event = session := by
  unfold output
  rw [if_neg]
  rintro ⟨_, other⟩
  exact other finished

theorem content_code (opens : session.main = true) : (session.handleRcvContent lua ec1 ec2 body).1 =
    if session.luaCallbacks .body > LUA_REFNIL then lua.stage.verdict else .success := by
  unfold handleRcvContent
  rw [if_neg (fun closed => closed opens)]

/-- A content is reported, and what is output behind it is reported only where
the body callback refuses it and the session stays open. -/
theorem content_once (callable : Callable session) (none : session.signals = [])
    {event other : StateEvent} (fine : Fine event) (kept : ¬ RefusesBody session lua)
    (finishes : (session.handleRcvContent lua .success .none []).1 = .success →
      other.ec1 = .stateMachineFinished) :
    ((hear lua session (.rcvBody event : Entry Endpoint)).output lua other).signals.length ≤ 1 := by
  have heard : hear lua session (.rcvBody event : Entry Endpoint) =
      (session.report lua event.ec1 event.ec2 event.data).closeLater := by
    simp only [hear, handleRcvContent]
    rw [if_neg (by simp [fine.1, fine.2]), if_neg (fun closed => closed callable.1)]
  obtain ⟨signal, signals, closes⟩ := report_called lua event.ec1 event.ec2 event.data callable
  obtain ⟨same, main, _⟩ := closeLater_tells (session.report lua event.ec1 event.ec2 event.data)
  rw [heard]
  by_cases accepted : (session.handleRcvContent lua .success .none []).1 = .success
  · rw [output_finished lua (finishes accepted), same, signals, none]
    exact Nat.le_refl 1
  · have refuses : session.luaCallbacks .body > LUA_REFNIL ∧ lua.stage.verdict ≠ .success := by
      rw [content_code lua _ _ _ callable.1] at accepted
      split at accepted
      · rename_i set
        exact ⟨set, accepted⟩
      · exact absurd rfl accepted
    have closing : lua.closes session.signals.length = true :=
      Bool.not_eq_false _ ▸ fun leaves => kept ⟨refuses.1, refuses.2, leaves⟩
    have shut := main.trans (closes closing)
    have silent := (hear_closed lua shut (.output other : Entry Endpoint)).1
    rw [show (LuaHttpSession.output _ lua other).signals = _ from silent, same, signals, none]
    exact Nat.le_refl 1

/-- The first step in which anything is heard tells Lua once. -/
theorem voices_once (callable : Callable session) (none : session.signals = [])
    {verdict : Verdict} {stage : Int} {entries : List (Entry Endpoint)}
    (voices : Voices verdict stage entries)
    (agrees : AtBody stage → (session.handleRcvContent lua .success .none []).1 = .success →
      verdict.Agrees)
    (kept : AtBody stage → ∀ event, .rcvBody event ∈ entries → Fine event →
      ¬ RefusesBody session lua) :
    (entries.foldl (hear lua) session).signals.length ≤ 1 := by
  cases voices with
  | none =>
    rw [List.foldl_nil, none]
    exact Nat.zero_le 1
  | output event => exact output_once lua callable none event
  | @content event other body finishes =>
    by_cases fine : Fine event
    · exact content_once lua callable none fine (kept body event (by simp) fine)
        fun accepted => finishes fine (agrees body accepted)
    · have unheard : hear lua session (.rcvBody event : Entry Endpoint) = session := by
        simp only [hear]
        rw [if_pos]
        refine Classical.byContradiction fun none => fine ⟨?_, ?_⟩
        · exact Classical.not_not.mp fun fails => none (.inl fails)
        · exact Bool.eq_false_iff.mpr fun error => none (.inr error)
      rw [List.foldl_cons, unheard]
      exact output_once lua callable none other

/-! #### Steps -/

theorem verdict_at_body {state : Int} (body : AtBody state) (header : Option HttpResponse)
    (session : LuaHttpSession Endpoint) :
    (session.verdict lua state header).own = (session.handleRcvContent lua .success .none []).1 := by
  unfold verdict
  dsimp only
  rw [if_neg body.resolved, if_neg body.connected, if_neg body.requested, if_neg body.headed]

theorem headerRead_some {surroundings : Surroundings Endpoint} {http : HttpSession Endpoint}
    {operation : Operation} {completion : Completion Endpoint}
    (read : headerRead surroundings http operation completion = some response) :
    ∃ ec2 bytes, operation = .readHeader ∧ completion = .received ec2 bytes ∧
      ec2.isError = false ∧ surroundings.parse
        (HttpSession.takeHeader [] (http.rcvStreambuf ++ bytes)).1 = some response := by
  unfold headerRead at read
  split at read
  · rename_i ec2 bytes
    split at read
    · cases read
    · rename_i fine
      exact ⟨ec2, bytes, rfl, rfl, Bool.eq_false_iff.mpr fine, read⟩
  · cases read

theorem headerRead_connects (surroundings : Surroundings Endpoint) (http : HttpSession Endpoint)
    {operation : Operation} (connects : Connects operation) (completion : Completion Endpoint) :
    headerRead surroundings http operation completion = none := by
  cases read : headerRead surroundings http operation completion with
  | none => rfl
  | some response =>
    obtain ⟨_, _, rfl, _⟩ := headerRead_some read
    cases connects

/-- Lua has been told at most once, and once it has been, only something that
connects is outstanding in a session it has not closed. -/
structure Told (session : LuaHttpSession Endpoint) : Prop where
  called : session.getCallback ≠ LUA_REFNIL
  paced : Paced session.http
  once : session.signals.length ≤ 1
  connects : session.main = true → session.signals ≠ [] →
    ∀ operation ∈ session.http.pending, Connects operation

theorem Told.close (told : Told session) : Told session.close := by
  obtain ⟨signals, main, _⟩ := close_tells session
  have keeps := close_keeps session
  refine ⟨keeps.getCallback ▸ told.called, keeps.paced told.paced, signals ▸ told.once, ?_⟩
  intro stays
  rw [main] at stays
  cases stays

theorem handsOver_of_mem {surroundings : Surroundings Endpoint} {http after : HttpSession Endpoint}
    {event : Session.Event Endpoint} {entries : List (Entry Endpoint)}
    (taken : HttpSession.step surroundings http event = some (entries, after)) {content : StateEvent}
    (member : .rcvBody content ∈ entries) (fine : Fine content) :
    handsOver surroundings http event = true := by
  unfold handsOver
  rw [taken]
  exact List.any_eq_true.mpr ⟨_, member, by simp [fine.1, fine.2]⟩

/-- A header behind which the body is waited for is only noted. -/
private theorem header_noted (opens : session.main = true) (automatic : session.manualReadBody = false)
    (response : HttpResponse) : handHeader lua session (some response) =
      { session with statusCode := response.statusCode } := by
  simp only [handHeader, handleRcvHeader]
  rw [if_neg (fun closed => closed opens), if_pos (by simp [automatic])]

private theorem header_finishes (opens : session.main = true) (manual : session.manualReadBody = true)
    (response : HttpResponse) :
    (session.handleRcvHeader lua .success .none (some response)).1 = .stateMachineFinished := by
  simp only [handleRcvHeader]
  rw [if_neg (fun closed => closed opens), if_neg (by simp [manual])]

/-- A header whose body Lua reads by itself tells it, and is output as finished. -/
private theorem header_once (callable : Callable session) (none : session.signals = [])
    (manual : session.manualReadBody = true) (response : HttpResponse) {event : StateEvent}
    (finished : event.ec1 = .stateMachineFinished) :
    ((handHeader lua session (some response)).output lua event).signals.length ≤ 1 := by
  have noted : Callable { session with statusCode := response.statusCode } := callable
  have headed : handHeader lua session (some response) =
      { session with statusCode := response.statusCode }.report lua .success .none [] := by
    simp only [handHeader, handleRcvHeader]
    rw [if_neg (fun closed => closed callable.1), if_neg (by simp [manual])]
  obtain ⟨signal, signals, _⟩ := report_called lua .success .none [] noted
  rw [output_finished lua finished, headed, signals, none]
  exact Nat.le_refl 1

variable (surroundings : Surroundings Endpoint)

/-- The first completion that tells Lua tells it once, and then it is heard of. -/
private theorem first_once (callable : Callable session) (none : session.signals = [])
    {position : Nat} {operation : Operation} {completion : Completion Endpoint} {socketOpens : Bool}
    {entries : List (Entry Endpoint)} {http : HttpSession Endpoint}
    (held : session.http.pending[position]? = some operation)
    (voices : Voices (session.verdict lua operation.state
      (headerRead surroundings session.http operation completion)) operation.state
      (entries.filter voiced))
    (kept : handsOver surroundings session.http
      (session.completing surroundings lua socketOpens position operation completion) = true →
        ¬ RefusesBody session lua)
    (taken : HttpSession.step surroundings session.http (session.completing surroundings lua
      socketOpens position operation completion) = some (entries, http)) :
    let after := (entries.filter voiced).foldl (hear lua) (handHeader lua { session with http }
      (headerRead surroundings session.http operation completion))
    after.signals.length ≤ 1 ∧ (entries.filter voiced = [] → after.signals = []) := by
  intro after
  subst after
  have stepped : Callable { session with http } := callable
  have agrees : ∀ header, AtBody operation.state →
      (if session.luaCallbacks .body > LUA_REFNIL then lua.stage.verdict else .success) = .success →
        (session.verdict lua operation.state header).Agrees := fun header body accepted => by
    refine ⟨by simp [verdict], by simp [verdict], ?_⟩
    rw [verdict_at_body lua body header session, content_code lua _ _ _ callable.1]
    exact accepted
  have kept : ∀ event, .rcvBody event ∈ entries.filter voiced → Fine event →
      ¬ RefusesBody session lua := fun event member fine =>
    kept (handsOver_of_mem taken (List.mem_filter.mp member).1 fine)
  cases read : headerRead surroundings session.http operation completion with
  | none =>
    refine ⟨voices_once lua stepped none voices (fun body accepted => agrees _ body ?_)
      (fun _ => kept),
      fun unheard => unheard ▸ none⟩
    rw [content_code lua _ _ _ stepped.1] at accepted
    exact accepted
  | some response =>
    have headed : Callable
        { session with http, statusCode := response.statusCode } := callable
    by_cases manual : session.manualReadBody = true
    · have finishes := header_finishes lua callable.1 manual response
      obtain ⟨ec2, bytes, rfl, rfl, fine, parsed⟩ := headerRead_some read
      have own : (session.verdict lua eHttpState_RcvHeader (some response)).own =
          .stateMachineFinished := finishes
      unfold completing at taken
      dsimp only at taken
      rw [read] at taken
      obtain ⟨event, named, heard⟩ := header_outputs _ surroundings held fine parsed rfl rfl
        (by rw [show Operation.readHeader.state = eHttpState_RcvHeader from rfl, own]; simp) taken
      rw [heard]
      exact ⟨header_once lua stepped none manual response (named.trans own), fun unheard => by
        cases unheard⟩
    · rw [header_noted lua stepped.1 (Bool.eq_false_iff.mpr manual)]
      refine ⟨voices_once lua headed none voices (fun body accepted => agrees _ body ?_)
        (fun _ => kept),
        fun unheard => unheard ▸ none⟩
      rw [content_code lua _ _ _ headed.1] at accepted
      exact accepted

theorem follow_inv {header : Option HttpResponse} {event : Session.Event Endpoint}
    (follows : session.follow surroundings lua header event = some after) : ∃ entries http,
    HttpSession.step surroundings session.http event = some (entries, http) ∧
      after = (entries.filter voiced).foldl (hear lua) (handHeader lua { session with http } header) ∧
      Keeps { session with http } after := by
  obtain ⟨⟨entries, http⟩, taken, shape⟩ := Option.map_eq_some_iff.mp follows
  dsimp only at shape
  refine ⟨entries, http, taken, shape.symm.trans (hears_voiced lua entries _), ?_⟩
  rw [← shape]
  exact (handHeader_keeps lua _ header).trans (hears_keeps lua entries _)

/-- A closed session stays closed, and nobody is told. -/
private theorem follow_closed (closed : session.main = false) {header : Option HttpResponse}
    {http : HttpSession Endpoint} (voices : List (Entry Endpoint))
    (shape : after = voices.foldl (hear lua) (handHeader lua { session with http } header)) :
    after.signals = session.signals ∧ after.main = false := by
  have stepped : ({ session with http } : LuaHttpSession Endpoint).main = false := closed
  rw [shape, handHeader_closed lua stepped header]
  exact hears_closed lua stepped voices

/-- What one completion makes of a session with a callback. -/
theorem Told.completes (told : Told session) {position : Nat} {operation : Operation}
    {completion : Completion Endpoint} {socketOpens : Bool}
    (held : session.http.pending[position]? = some operation)
    (fits : Callable session →
      (handsOver surroundings session.http
        (session.completing surroundings lua socketOpens position operation completion) = true →
          ¬ RefusesBody session lua) ∧
      (session.signals ≠ [] → Silent session.http
        (session.completing surroundings lua socketOpens position operation completion)))
    (follows : session.follow surroundings lua
      (headerRead surroundings session.http operation completion)
      (session.completing surroundings lua socketOpens position operation completion) =
        some after) : Told after := by
  obtain ⟨entries, http, taken, shape, keeps⟩ := follow_inv lua surroundings follows
  obtain ⟨voices, nothing, paced⟩ := completes_paced _ surroundings told.paced held taken
  have called : after.getCallback ≠ LUA_REFNIL := keeps.getCallback.symm ▸ told.called
  cases opens : session.main with
  | false =>
    obtain ⟨signals, closed⟩ := follow_closed lua opens _ shape
    exact ⟨called, keeps.paced paced, signals.symm ▸ told.once, fun stays => by
      rw [closed] at stays
      cases stays⟩
  | true =>
    have callable : Callable session := ⟨opens, told.called⟩
    obtain ⟨kept, silent⟩ := fits callable
    by_cases none : session.signals = []
    · obtain ⟨once, unheard⟩ := first_once lua surroundings callable none held voices kept taken
      rw [← shape] at once unheard
      refine ⟨called, keeps.paced paced, once, fun _ some operation member => ?_⟩
      rw [keeps.pending, nothing fun quiet => some (unheard quiet)] at member
      cases member
    · have connects := told.connects opens none
      obtain ⟨unheard, connects'⟩ := silent_unheard surroundings told.paced connects (silent none) taken
      have header := headerRead_connects surroundings session.http
        (connects operation (List.mem_of_getElem? held)) completion
      rw [unheard, header] at shape
      refine ⟨called, keeps.paced paced, ?_, fun _ _ operation member => ?_⟩
      · rw [shape]
        exact told.once
      · rw [keeps.pending] at member
        exact connects' operation member

/-- A tick that tells Lua leaves only what connects. -/
theorem Told.ticks (told : Told session) {timer : Nat}
    (fits : Callable session → session.signals ≠ [] → Silent session.http (session.ticking lua timer))
    (follows : session.follow surroundings lua none (session.ticking lua timer) = some after) :
    Told after := by
  obtain ⟨entries, http, taken, shape, keeps⟩ := follow_inv lua surroundings follows
  obtain ⟨voices, pending, connects, paced⟩ : Voices (session.verdict lua eHttpState_Connect none)
      eHttpState_Connect (entries.filter voiced) ∧ _ ∧ _ ∧ _ :=
    ticks_paced _ surroundings told.paced taken
  have called : after.getCallback ≠ LUA_REFNIL := keeps.getCallback.symm ▸ told.called
  have left : ∀ operation ∈ after.http.pending, Connects operation := fun operation member =>
    connects operation (pending ▸ keeps.pending ▸ member)
  refine ⟨called, keeps.paced paced, ?_, fun _ _ => left⟩
  cases opens : session.main with
  | false =>
    obtain ⟨signals, _⟩ := follow_closed lua opens _ shape
    exact signals.symm ▸ told.once
  | true =>
    have callable : Callable session := ⟨opens, told.called⟩
    have stepped : Callable { session with http } := callable
    by_cases none : session.signals = []
    · rw [shape]
      exact voices_once lua stepped none voices (fun body => absurd rfl body.connected)
        (fun body => absurd rfl body.connected)
    · obtain ⟨unheard, _⟩ := silent_unheard surroundings told.paced connects (fits callable none) taken
      rw [shape, unheard]
      exact told.once

/-- One step that fits tells Lua at most once in all. -/
theorem Told.step (told : Told session) {event : Event Endpoint}
    (fits : Fits surroundings session event)
    (taken : session.step surroundings event = some (reply, after)) : Told after := by
  cases event with
  | completes position completion socketOpens lua =>
    obtain ⟨operation, held, rest⟩ := Option.bind_eq_some_iff.mp taken
    split at rest
    · obtain ⟨followed, follows, shape⟩ := Option.map_eq_some_iff.mp rest
      cases shape
      exact told.completes lua surroundings held (fun callable => fits callable operation held) follows
    · cases rest
      have steady := told.paced.steady
      have none := SessionHops.alone told.paced.single held
      refine ⟨told.called, .of_none ?_ none, told.once, fun _ _ operation member => ?_⟩
      · exact ⟨steady.timed, steady.waits, steady.bodyWaits, steady.checked⟩
      · have member : operation ∈ session.http.pending.eraseIdx position := member
        rw [none] at member
        cases member
  | ticks timer lua =>
    simp only [LuaHttpSession.step] at taken
    split at taken
    · obtain ⟨followed, follows, shape⟩ := Option.map_eq_some_iff.mp taken
      cases shape
      exact told.ticks lua surroundings fits follows
    · split at taken
      · cases taken
        exact told
      · cases taken
  | sets type callback =>
    cases taken
    exact ⟨told.called, told.paced, told.once, told.connects⟩
  | closes =>
    cases taken
    exact told.close
  | closesLater =>
    simp only [LuaHttpSession.step] at taken
    split at taken
    · cases taken
    · cases taken
      have taken : Told { session with closings := session.closings - 1 } :=
        ⟨told.called, told.paced, told.once, told.connects⟩
      exact taken.close

/-! ### Runs -/

/-- The coroutine of a `get` is resumed at most once, whatever happens. -/
theorem get_resumes_once {request : HttpRequest} {manualReadBody oneOff : Bool}
    {luaCallbacks : LuaHttpCallbackType → Int} {final : LuaHttpSession Endpoint}
    (starts : LuaHttpSession.get request manualReadBody oneOff luaCallbacks = some session)
    (ran : Runs.run (LuaHttpSession.step surroundings) session events = some (replies, final)) :
    final.signals.length ≤ 1 := by
  obtain ⟨begun, begins, rfl⟩ := Option.map_eq_some_iff.mp starts
  obtain ⟨http, _, rfl⟩ := Option.map_eq_some_iff.mp begins
  refine (Runs.run_preserves Guarded ?_ ?_ ran).once
  · intro before event reply after guarded taken
    exact guarded.step surroundings taken
  · exact ⟨rfl, Nat.zero_le 1, fun told => absurd rfl told⟩

/-- The callback of an `async_get` is called at most once while every step fits. -/
theorem asyncGet_calls_once {request : HttpRequest} {manualReadBody oneOff : Bool}
    {luaCallbacks : LuaHttpCallbackType → Int} {getCallback : Int} {final : LuaHttpSession Endpoint}
    (starts : LuaHttpSession.asyncGet getCallback request manualReadBody oneOff luaCallbacks =
      some session)
    (fits : Runs.AllSteps (LuaHttpSession.step surroundings) (Fits surroundings) session events)
    (ran : Runs.run (LuaHttpSession.step surroundings) session events = some (replies, final)) :
    final.signals.length ≤ 1 := by
  unfold asyncGet at starts
  split at starts
  · cases starts
  rename_i called
  obtain ⟨begun, begins, rfl⟩ := Option.map_eq_some_iff.mp starts
  obtain ⟨http, requests, rfl⟩ := Option.map_eq_some_iff.mp begins
  refine (Runs.run_invariant Told ?_ ?_ fits ran).once
  · intro before event reply after told fits taken
    exact told.step surroundings fits taken
  · exact ⟨called, requested_paced requests, Nat.zero_le 1, fun _ told => absurd rfl told⟩

/-- However a request was made, Lua is told at most once in every run whose
steps fit; a coroutine needs no step to. -/
theorem signalled_at_most_once {request : HttpRequest} {manualReadBody oneOff : Bool}
    {luaCallbacks : LuaHttpCallbackType → Int} {getCallback : Int} {final : LuaHttpSession Endpoint}
    (starts : LuaHttpSession.get request manualReadBody oneOff luaCallbacks = some session ∨
      LuaHttpSession.asyncGet getCallback request manualReadBody oneOff luaCallbacks = some session)
    (fits : Runs.AllSteps (LuaHttpSession.step surroundings) (Fits surroundings) session events)
    (ran : Runs.run (LuaHttpSession.step surroundings) session events = some (replies, final)) :
    final.signals.length ≤ 1 := by
  rcases starts with resumes | calls
  · exact get_resumes_once surroundings resumes ran
  · exact asyncGet_calls_once surroundings calls fits ran

/-- A header that announces two bytes, with the body behind it. -/
def okAnswer : List UInt8 :=
  HttpMessage.bytesOf "HTTP/1.1 200 OK\r\nContent-Length: 2\r\n\r\nAB"

/-- Every host is one address. -/
def oneAnswer : Surroundings Nat := HttpMessage.reading (fun _ _ => some 7) 0

/-- The body is the only stage with a callback. -/
def bodyCallback : LuaHttpCallbackType → Int
  | .body => 2
  | _ => LUA_REFNIL

/-- Everything succeeds until the body is there; then Lua is asked about it. -/
def answeredBy (lua : Lua) : List (Event Nat) :=
  [.completes 0 .executed true {}, .completes 0 .executed true {}, .completes 0 (.ended .none) true {},
    .completes 0 .executed true {}, .completes 0 (.written .none 18) true {},
    .completes 0 .executed true {}, .completes 0 (.received .none okAnswer) true {},
    .completes 0 .executed true lua]

private theorem accepted_fits :
    ((LuaHttpSession.asyncGet 1 SessionTold.getRequest false true bodyCallback).bind fun session =>
      (Runs.run (LuaHttpSession.step oneAnswer) session (answeredBy {})).map fun result =>
        (result.2.signals, decide (Runs.AllSteps (LuaHttpSession.step oneAnswer) (Fits oneAnswer)
          session (answeredBy {})))) =
      some ([.called 1 ⟨.success, .none, 200, [65, 66]⟩], true) := by
  decide +kernel

/-- A body that the callback accepts is told once. -/
theorem accepted_body_told_once : ∃ session replies final,
    LuaHttpSession.asyncGet 1 SessionTold.getRequest false true bodyCallback = some session ∧
    Runs.run (LuaHttpSession.step oneAnswer) session (answeredBy {}) = some (replies, final) ∧
    final.signals.length ≤ 1 := by
  obtain ⟨session, starts, rest⟩ := Option.bind_eq_some_iff.mp accepted_fits
  obtain ⟨⟨replies, final⟩, ran, fits⟩ := Option.map_eq_some_iff.mp rest
  exact ⟨session, replies, final, starts, ran, signalled_at_most_once oneAnswer (.inr starts)
    (of_decide_eq_true (Prod.mk.inj fits).2) ran⟩

private theorem rejected_signals :
    ((LuaHttpSession.asyncGet 1 SessionTold.getRequest false true bodyCallback).bind fun session =>
      (Runs.run (LuaHttpSession.step oneAnswer) session
        (answeredBy { stage := .ok [false] })).map fun result => result.2.signals) =
      some [.called 1 ⟨.success, .none, 200, [65, 66]⟩, .called 1 ⟨.engineReject, .none, 200, []⟩] := by
  decide +kernel

/-- A body that the callback rejects is told twice: as received, and as rejected. -/
theorem rejected_body_told_twice : ∃ session replies final,
    LuaHttpSession.asyncGet 1 SessionTold.getRequest false true bodyCallback = some session ∧
    Runs.run (LuaHttpSession.step oneAnswer) session (answeredBy { stage := .ok [false] }) =
      some (replies, final) ∧ ¬ final.signals.length ≤ 1 := by
  obtain ⟨session, starts, rest⟩ := Option.bind_eq_some_iff.mp rejected_signals
  obtain ⟨⟨replies, final⟩, ran, signals⟩ := Option.map_eq_some_iff.mp rest
  refine ⟨session, replies, final, starts, ran, ?_⟩
  rw [show final.signals = _ from signals]
  decide

end BeeSdk.LuaHttp
