import BeeSdk.LuaLwsSessionProofs
import BeeSdk.Reassembly

/-! JSON messages that reach a session in fragments. Between its callbacks the session is
the machine that puts pieces together: what it keeps is `current_msg_`, except that inside
the read callback the message just handed out still lies there. -/
namespace BeeSdk.LuaLws
open Runs Reassembly

/-- What is kept for the fragments to come. -/
def Life.kept (life : Life) : Text :=
  match life.calling with
  | some (.readData _) => []
  | _ => life.session.currentMsg

/-- The messages handed to the read callback. -/
def reads (told : List Callback) : List Text :=
  told.filterMap fun
    | .readData msg => some msg
    | _ => none

/-- The fragment a step brings, if it brings one. -/
def Step.fragment : Step → Option Text
  | .event posted => if posted.reason = .clientReceive then some posted.data else none
  | _ => none

/-- Fragments reach the session before it closes. -/
def ReceivesOpen (life : Life) (taken : Step) : Prop :=
  taken.fragment ≠ none → life.session.closing = false ∧ life.session.closed = false

instance (life : Life) (taken : Step) : Decidable (ReceivesOpen life taken) :=
  inferInstanceAs (Decidable (_ → _))

/-- The session is asked for whole messages and has somebody to hand them to. -/
structure Listens (session : LuaLwsSession) : Prop where
  json : session.checkJsonCompleted = true
  main : session.main = true
  callback : session.readCallback ≠ LUA_REFNIL

/-- A step that brings no fragment, or the next one: what is kept and what is handed out
are those of the machine that puts pieces together. -/
def Feeds (parse : Text → Bool) (before after : Life) (fragment : Option Text) : Prop :=
  after.kept = (feedAll parse before.kept fragment.toList).1 ∧
    reads after.told = reads before.told ++ (feedAll parse before.kept fragment.toList).2 ∧
    Listens after.session

private theorem feeds_none {parse : Text → Bool} {before after : Life} (kept : after.kept = before.kept)
    (told : reads after.told = reads before.told) (listens : Listens after.session) :
    Feeds parse before after none :=
  ⟨kept, by simpa [feedAll] using told, listens⟩

/-- Besides the read callback's no call is a message, and no handler touches what is kept. -/
private theorem feeds_handled {parse : Text → Bool} {life : Life} (idle : life.calling = none)
    (session : LuaLwsSession) (call : Option Callback)
    (kept : session.currentMsg = life.session.currentMsg) (listens : Listens session)
    (other : ∀ msg, call ≠ some (.readData msg)) :
    Feeds parse life (life.handled (session, call)) none := by
  cases call with
  | none => exact feeds_none (by simpa [Life.kept, Life.handled, idle] using kept) rfl listens
  | some call =>
    cases call with
    | readData msg => exact absurd rfl (other msg)
    | connectionResult success data =>
      exact feeds_none (by simpa [Life.kept, Life.handled, idle] using kept)
        (by simp [Life.handled, reads]) listens
    | disconnected =>
      exact feeds_none (by simpa [Life.kept, Life.handled, idle] using kept)
        (by simp [Life.handled, reads]) listens

private theorem feeds_report {parse : Text → Bool} {life : Life} (idle : life.calling = none)
    (session : LuaLwsSession) (kept : session.currentMsg = life.session.currentMsg)
    (listens : Listens session) (wsi : Option Wsi) (success : Bool) (data : Text) :
    Feeds parse life (life.handled (session.reportConnectionResult wsi success data)) none := by
  rcases reportConnectionResult_cases session wsi success data with ⟨quiet, _⟩ | ⟨_, calls⟩
  · rw [quiet]
    exact feeds_handled idle session none kept listens (fun _ same => by cases same)
  · rw [calls]
    have known : Listens { session with wsi } := ⟨listens.json, listens.main, listens.callback⟩
    cases success with
    | true => exact feeds_handled idle _ _ kept known (fun _ same => by cases same)
    | false => exact feeds_handled idle _ _ kept listens (fun _ same => by cases same)

private theorem feeds_end {parse : Text → Bool} {life : Life} (idle : life.calling = none)
    (session : LuaLwsSession) (kept : session.currentMsg = life.session.currentMsg)
    (listens : Listens session) :
    Feeds parse life (life.handled session.reportDisconnected) none := by
  rcases reportDisconnected_cases session with quiet | ⟨_, _, _, calls⟩
  · rw [quiet]
    exact feeds_handled idle session none kept listens (fun _ same => by cases same)
  · rw [calls]
    exact feeds_handled idle session _ kept listens (fun _ same => by cases same)

/-- A fragment makes a message whole or is kept. -/
private theorem feeds_fragment {parse : Text → Bool} {life : Life} (idle : life.calling = none)
    (listens : Listens life.session) (data : Text) :
    Feeds parse life (life.handled (life.session.reportReadData parse data)) (some data) := by
  have kept : life.kept = life.session.currentMsg := by simp [Life.kept, idle]
  unfold Feeds
  rw [kept, Option.toList_some, feedAll_cons]
  rcases getCompletedJsonMessage_cases parse life.session data with
    ⟨incomplete, keeps⟩ | ⟨complete, currentMsg, hands⟩
  · have quiet : life.session.reportReadData parse data =
        ({ life.session with currentMsg := life.session.currentMsg ++ data }, none) := by
      simp [LuaLwsSession.reportReadData, listens.json, keeps]
    rw [quiet]
    refine ⟨?_, ?_, listens.json, listens.main, listens.callback⟩
    · simp [Life.kept, Life.handled, idle, feed, incomplete, feedAll]
    · simp [Life.handled, feed, incomplete, feedAll]
  · have calls : life.session.reportReadData parse data = ({ life.session with currentMsg },
        some (.readData (life.session.currentMsg ++ data))) := by
      simp [LuaLwsSession.reportReadData, listens.json, listens.main, listens.callback, hands]
    rw [calls]
    refine ⟨?_, ?_, listens.json, listens.main, listens.callback⟩
    · simp [Life.kept, Life.handled, feed, complete, feedAll]
    · simp [Life.handled, feed, complete, feedAll, reads]

private theorem feeds_event {parse : Text → Bool} {life : Life} (idle : life.calling = none)
    (listens : Listens life.session) (posted : Event) (receives : ReceivesOpen life (.event posted)) :
    Feeds parse life (life.handled (life.session.onEvent parse posted)) (Step.event posted).fragment := by
  by_cases fragment : posted.reason = .clientReceive
  · have brings : (Step.event posted).fragment = some posted.data := if_pos fragment
    obtain ⟨lasting, isOpen⟩ := receives (by rw [brings]; exact Option.some_ne_none _)
    rw [brings, LuaLwsSession.onEvent, if_neg (by simp [lasting, isOpen])]
    simp only [fragment]
    exact feeds_fragment idle listens posted.data
  · have brings : (Step.event posted).fragment = none := if_neg fragment
    rw [brings, LuaLwsSession.onEvent]
    split
    · exact feeds_handled idle life.session none rfl listens (fun _ same => by cases same)
    · have shut : Listens { life.session with closed := true } :=
        ⟨listens.json, listens.main, listens.callback⟩
      cases reason : posted.reason with
      | clientEstablished =>
        exact feeds_report idle { life.session with connected := true } rfl
          ⟨listens.json, listens.main, listens.callback⟩ _ _ _
      | clientConnectionError => exact feeds_report idle life.session rfl listens _ _ _
      | closed => exact feeds_end idle _ rfl shut
      | wsPeerInitiatedClose => exact feeds_end idle _ rfl shut
      | wsiDestroy => exact feeds_end idle _ rfl shut
      | clientWriteable => exact feeds_handled idle life.session none rfl listens (fun _ same => by cases same)
      | clientReceive => exact absurd reason fragment

private theorem feeds_timeout {parse : Text → Bool} {life : Life} (idle : life.calling = none)
    (listens : Listens life.session) :
    Feeds parse life (life.handled life.session.handleConnectTimeout) none := by
  have waited : Listens { life.session with connectTimer := false } :=
    ⟨listens.json, listens.main, listens.callback⟩
  unfold LuaLwsSession.handleConnectTimeout
  dsimp only
  split
  · exact feeds_handled idle _ none rfl waited (fun _ same => by cases same)
  · exact feeds_report idle { life.session with connectTimer := false } rfl waited _ _ _

private theorem feeds_returns {parse : Text → Bool} {life : Life} {call : Callback}
    (calling : life.calling = some call) (listens : Listens life.session) :
    Feeds parse life { life with session := life.session.returned call, calling := none } none := by
  cases call with
  | readData msg =>
    exact feeds_none (by simp [Life.kept, calling, LuaLwsSession.returned]) rfl
      ⟨listens.json, listens.main, listens.callback⟩
  | connectionResult success data =>
    exact feeds_none (by simp [Life.kept, calling, LuaLwsSession.returned]) rfl
      ⟨listens.json, listens.main, listens.callback⟩
  | disconnected =>
    exact feeds_none (by simp [Life.kept, calling, LuaLwsSession.returned]) rfl listens

private theorem feeds_close {parse : Text → Bool} {life : Life} (listens : Listens life.session) :
    Feeds parse life { life with session := life.session.close } none := by
  unfold LuaLwsSession.close
  split
  · exact feeds_none rfl rfl listens
  · dsimp only
    split
    · exact feeds_none rfl rfl ⟨listens.json, listens.main, listens.callback⟩
    · exact feeds_none rfl rfl ⟨listens.json, listens.main, listens.callback⟩

/-- Every step feeds the fragment it brings to the machine that puts pieces together. -/
theorem feeds_step {parse : Text → Bool} {life next : Life} {taken : Step}
    (listens : Listens life.session) (receives : ReceivesOpen life taken)
    (ran : step parse life taken = some ((), next)) : Feeds parse life next taken.fragment := by
  cases taken with
  | event posted =>
    simp only [step, Option.ite_none_left_eq_some, Classical.not_not, Option.some.injEq,
      Prod.mk.injEq] at ran
    obtain ⟨idle, _, rfl⟩ := ran
    exact feeds_event idle listens posted receives
  | timeout =>
    simp only [step, Option.ite_none_left_eq_some, not_or, Classical.not_not, Option.some.injEq,
      Prod.mk.injEq] at ran
    obtain ⟨⟨idle, _⟩, _, rfl⟩ := ran
    exact feeds_timeout idle listens
  | returns =>
    simp only [step, Option.map_eq_some_iff, Prod.mk.injEq] at ran
    obtain ⟨call, calling, _, rfl⟩ := ran
    exact feeds_returns calling listens
  | close =>
    cases ran
    exact feeds_close listens
  | clearsClosing =>
    simp only [step, Option.ite_none_left_eq_some, Option.some.injEq, Prod.mk.injEq] at ran
    obtain ⟨_, _, rfl⟩ := ran
    exact feeds_none rfl rfl ⟨listens.json, listens.main, listens.callback⟩
  | setsClosed =>
    simp only [step, Option.ite_none_left_eq_some, Option.some.injEq, Prod.mk.injEq] at ran
    obtain ⟨_, _, rfl⟩ := ran
    exact feeds_none rfl rfl ⟨listens.json, listens.main, listens.callback⟩

/-- A whole run feeds the fragments it brings, one after the other. -/
theorem feeds_run {parse : Text → Bool} {life final : Life} {steps : List Step} {replies : List Unit}
    (listens : Listens life.session) (receives : AllSteps (step parse) ReceivesOpen life steps)
    (ran : run (step parse) life steps = some (replies, final)) :
    final.kept = (feedAll parse life.kept (steps.filterMap Step.fragment)).1 ∧
      reads final.told =
        reads life.told ++ (feedAll parse life.kept (steps.filterMap Step.fragment)).2 := by
  induction steps generalizing life replies with
  | nil =>
    cases ran
    exact ⟨rfl, (List.append_nil _).symm⟩
  | cons taken rest ih =>
    obtain ⟨reply, next, tail, made, remainder, _⟩ := run_cons_inv ran
    obtain ⟨kept, told, still⟩ := feeds_step listens receives.1 made
    obtain ⟨keeps, tells⟩ := ih still (receives.2 _ _ made) remainder
    have split : (taken :: rest).filterMap Step.fragment =
        taken.fragment.toList ++ rest.filterMap Step.fragment := by
      rw [List.filterMap_cons]
      cases taken.fragment <;> rfl
    rw [split, feedAll_append, ← kept]
    exact ⟨keeps, by rw [tells, told, List.append_assoc]⟩

/-- In every run in which the fragments that reach an open session are messages cut
anyhow, whatever else is handled between them, the read callback is handed each message
once, whole and in order, and nothing is left for the next. `parse` is the JSON reader,
which takes each message for complete and nothing that it begins with. -/
theorem messages_read_whole (parse : Text → Bool) (cuts : List (List Text))
    (whole : ∀ pieces ∈ cuts, Whole parse pieces.flatten) (life : Life)
    (listens : Listens life.session) (empty : life.kept = []) (steps : List Step)
    (receives : AllSteps (step parse) ReceivesOpen life steps)
    (fragments : steps.filterMap Step.fragment = cuts.flatten) (replies : List Unit) (final : Life)
    (ran : run (step parse) life steps = some (replies, final)) :
    reads final.told = reads life.told ++ cuts.map List.flatten ∧ final.kept = [] := by
  obtain ⟨keeps, tells⟩ := feeds_run listens receives ran
  have fed : feedAll parse [] (steps.filterMap Step.fragment) = ([], cuts.map List.flatten) := by
    rw [fragments, feedAll_messages cuts whole]
  rw [empty, fed] at keeps tells
  exact ⟨tells, keeps⟩

/-- As many brackets close as open: how a reader tells whole texts from those below. -/
def closesAll (text : Text) : Bool :=
  text ≠ [] ∧ text.countP (· ∈ ['{', '[']) = text.countP (· ∈ ['}', ']'])

/-- Two messages in eight fragments, three of them empty, while the connection is reported. -/
theorem two_messages_in_eight :
    (run (step closesAll) (connecting (opened true true true true 1) (some []) 0 2)
        [.event (.of 7 .clientReceive []), .event (.of 7 .clientReceive ['{', '"', 'a']),
          .event (.of 7 .clientEstablished []), .returns, .event (.of 7 .clientReceive ['"', ':', '[']),
          .event (.of 7 .clientReceive []), .event (.of 7 .clientReceive ['1', ']', '}']), .returns,
          .event (.of 7 .clientReceive []), .event (.of 7 .clientReceive ['[']),
          .event (.of 7 .clientReceive [']'])]).map (fun ran => (reads ran.2.told, ran.2.kept)) =
      some ([['{', '"', 'a', '"', ':', '[', '1', ']', '}'], ['[', ']']], []) := by
  have read := messages_read_whole closesAll
    [[[], ['{', '"', 'a'], ['"', ':', '['], [], ['1', ']', '}'], []], [['['], [']']]] (by decide)
    (connecting (opened true true true true 1) (some []) 0 2) ⟨rfl, rfl, by decide⟩ rfl
    [.event (.of 7 .clientReceive []), .event (.of 7 .clientReceive ['{', '"', 'a']),
      .event (.of 7 .clientEstablished []), .returns, .event (.of 7 .clientReceive ['"', ':', '[']),
      .event (.of 7 .clientReceive []), .event (.of 7 .clientReceive ['1', ']', '}']), .returns,
      .event (.of 7 .clientReceive []), .event (.of 7 .clientReceive ['[']),
      .event (.of 7 .clientReceive [']'])] (by decide) rfl _ _ rfl
  exact congrArg some (Prod.ext read.1 read.2)

end BeeSdk.LuaLws
