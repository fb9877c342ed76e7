import Mathlib.Logic.Function.Basic
import BeeSdk.LuaLwsServiceProofs

/-! What a step of either thread is to the connections: whose each of them is, and which
sessions are closing or closed. -/
namespace BeeSdk.LuaLws
open Function (update)

/-- What the connections are judged by in a session. -/
structure Flags where
  closing : Bool := false
  closed : Bool := false
  asked : Bool := false
  deriving DecidableEq

def LuaLwsSession.flags (session : LuaLwsSession) : Flags where
  closing := session.closing
  closed := session.closed
  asked := session.connectCallback ≠ LUA_REFNIL

namespace Lws

/-- The session a connection of the table belongs to. -/
def owner (lws : Lws) (wsi : Wsi) : Option Nat := (lws.wsiTable.lookup wsi).map (·.session)

/-- A handle without a session is that of one not opened yet. -/
def flags (lws : Lws) (handle : Nat) : Flags :=
  match lws.sessions[handle]? with
  | some session => session.flags
  | none => {}

/-- A connection of the table whose session is not closed. -/
def unclosed (lws : Lws) (wsi : Wsi) : Bool :=
  (lws.owner wsi).any fun handle => ! (lws.flags handle).closed

/-- A connection of the table, while the service is running. -/
def known (lws : Lws) (wsi : Option Wsi) : Option Wsi :=
  if lws.running ∧ (lws.found wsi).isSome then wsi else none

/-- The connection that a step gives to `notify_writeable`. -/
def notified (lws : Lws) : Request → Option Wsi
  | .connect handle url timeout callback wsi => lws.sessions[handle]?.bind fun session =>
    if (session.connect url timeout callback).1 = .success ∧ lws.running then wsi else none
  | .write handle data => lws.sessions[handle]?.bind fun session =>
    (session.write data).2.bind fun (wsi, _) => lws.known wsi
  | .close handle => lws.sessions[handle]?.bind fun session =>
    if session.closed ∨ session.closing ∨ ¬ session.lwsService then none else lws.known session.wsi
  | .calls wsi .clientEstablished _ _ => (lws.owner wsi).bind fun handle =>
    if (lws.flags handle).closing then none else some wsi
  | _ => none

end Lws

/-- What one step comes to. -/
inductive Effect (lws : Lws) (request : Request) (next : Lws) : Prop where
  | still (owner : next.owner = lws.owner) (flags : next.flags = lws.flags)
      (clearing : next.clearing = lws.clearing)
  | ends (handle : Nat) (owner : next.owner = lws.owner)
      (live : (lws.flags handle).closing = false)
      (flags : next.flags = update lws.flags handle { lws.flags handle with closed := true })
      (clearing : next.clearing = lws.clearing)
  | connects (handle : Nat) (wsi : Option Wsi)
      (asks : ∃ url timeout callback given, request = .connect handle url timeout callback given)
      (unasked : (lws.flags handle).asked = false)
      (owner : next.owner = match wsi with
        | some wsi => update lws.owner wsi (some handle)
        | none => lws.owner)
      (flags : next.flags = update lws.flags handle { lws.flags handle with asked := true })
      (clearing : next.clearing = lws.clearing) (made : lws.notified request = wsi)
  | closes (handle : Nat) (asks : request = .close handle) (owner : next.owner = lws.owner)
      (live : (lws.flags handle).closing = false ∧ (lws.flags handle).closed = false)
      (flags : next.flags = update lws.flags handle { lws.flags handle with closing := true })
      (clearing : next.clearing = lws.clearing)
  | erases (wsi : Wsi) (handle : Nat)
      (calls : ∃ reason data n, request = .calls wsi reason data n) (own : lws.owner wsi = some handle)
      (closing : (lws.flags handle).closing = true) (owner : next.owner = update lws.owner wsi none)
      (flags : next.flags = update lws.flags handle { lws.flags handle with closing := false })
      (idle : lws.clearing = none) (clearing : next.clearing = some handle)
  | shuts (handle : Nat) (due : lws.clearing = some handle) (owner : next.owner = lws.owner)
      (flags : next.flags = update lws.flags handle { lws.flags handle with closed := true })
      (clearing : next.clearing = none)

/-! ### Flags and owners of the parts -/

theorem mem_keys_of_owner {lws : Lws} {wsi : Wsi} {handle : Nat} (own : lws.owner wsi = some handle) :
    wsi ∈ lws.wsiTable.keys := by
  unfold Lws.owner at own
  obtain ⟨obj, entry, _⟩ := Option.map_eq_some_iff.mp own
  exact AList.mem_keys.mp (AList.lookup_isSome.mp (by rw [entry]; rfl))

theorem unclosed_iff {lws : Lws} {wsi : Wsi} : lws.unclosed wsi = true ↔
    ∃ handle, lws.owner wsi = some handle ∧ (lws.flags handle).closed = false := by
  unfold Lws.unclosed
  cases own : lws.owner wsi with
  | none => simp
  | some handle => simp

theorem flags_of_session {lws : Lws} {handle : Nat} {session : LuaLwsSession}
    (held : lws.sessions[handle]? = some session) : lws.flags handle = session.flags := by
  simp [Lws.flags, held]

theorem flags_setSession {lws : Lws} {handle : Nat} {session : LuaLwsSession}
    (held : lws.sessions[handle]? = some session) (next : LuaLwsSession) :
    (lws.setSession handle next).flags = update lws.flags handle next.flags := by
  funext other
  unfold Lws.setSession Lws.flags
  by_cases same : other = handle
  · subst same
    obtain ⟨within, _⟩ := List.getElem?_eq_some_iff.mp held
    rw [Function.update_self, List.getElem?_set_self within]
  · rw [Function.update_of_ne same, List.getElem?_set_ne (Ne.symm same)]

theorem flags_setSession_same {lws : Lws} {handle : Nat} {session next : LuaLwsSession}
    (held : lws.sessions[handle]? = some session) (same : next.flags = session.flags) :
    (lws.setSession handle next).flags = lws.flags := by
  rw [flags_setSession held, same, ← flags_of_session held, Function.update_eq_self]

theorem reportEvent_owner (lws : Lws) (handle : Nat) (session : LuaLwsSession) (event : Event) :
    (lws.reportEvent handle session event).owner = lws.owner := by
  unfold Lws.reportEvent
  split <;> rfl

theorem reportEvent_flags (lws : Lws) (handle : Nat) (session : LuaLwsSession) (event : Event) :
    (lws.reportEvent handle session event).flags = lws.flags := by
  unfold Lws.reportEvent
  split <;> rfl

theorem reportEvent_clearing (lws : Lws) (handle : Nat) (session : LuaLwsSession) (event : Event) :
    (lws.reportEvent handle session event).clearing = lws.clearing := by
  unfold Lws.reportEvent
  split <;> rfl

theorem owner_insert {lws next : Lws} {wsi : Wsi} {obj : WsiObj}
    (table : next.wsiTable = lws.wsiTable.insert wsi obj) :
    next.owner = update lws.owner wsi (some obj.session) := by
  funext other
  unfold Lws.owner
  rw [table]
  by_cases same : other = wsi
  · rw [same, Function.update_self, AList.lookup_insert]
    rfl
  · rw [Function.update_of_ne same, AList.lookup_insert_ne same]

/-- Another queue for a connection. -/
theorem owner_requeue {lws next : Lws} {wsi : Wsi} {obj : WsiObj} {sendQueuqe : List Text}
    (entry : lws.wsiTable.lookup wsi = some obj)
    (table : next.wsiTable = lws.wsiTable.insert wsi { obj with sendQueuqe := sendQueuqe }) :
    next.owner = lws.owner := by
  have own : lws.owner wsi = some obj.session := by simp [Lws.owner, entry]
  rw [owner_insert table, ← own, Function.update_eq_self]

theorem handled_owner (lws : Lws) (handle : Nat) (result : LuaLwsSession × Option Callback) :
    (lws.handled handle result).owner = lws.owner := by
  obtain ⟨session, call⟩ := result
  cases call <;> rfl

theorem handled_clearing (lws : Lws) (handle : Nat) (result : LuaLwsSession × Option Callback) :
    (lws.handled handle result).clearing = lws.clearing := by
  obtain ⟨session, call⟩ := result
  cases call <;> rfl

theorem handled_flags {lws : Lws} {handle : Nat} {session : LuaLwsSession}
    (held : lws.sessions[handle]? = some session) (result : LuaLwsSession × Option Callback) :
    (lws.handled handle result).flags = update lws.flags handle result.1.flags := by
  obtain ⟨next, call⟩ := result
  cases call with
  | none => exact flags_setSession held next
  | some call => exact flags_setSession held next

/-! ### Handlers -/

theorem reportConnectionResult_flags (session : LuaLwsSession) (wsi : Option Wsi) (success : Bool)
    (data : Text) : (session.reportConnectionResult wsi success data).1.flags = session.flags := by
  rcases reportConnectionResult_cases session wsi success data with ⟨quiet, _⟩ | ⟨_, calls⟩
  · rw [quiet]
  · rw [calls]
    cases success <;> rfl

theorem reportDisconnected_flags (session : LuaLwsSession) :
    session.reportDisconnected.1.flags = session.flags := by
  rcases reportDisconnected_cases session with quiet | ⟨_, _, _, calls⟩
  · rw [quiet]
  · rw [calls]

/-- An event leaves the flags, or closes a session that is not closing. -/
theorem onEvent_flags (parse : Text → Bool) (session : LuaLwsSession) (event : Event) :
    (session.onEvent parse event).1.flags = session.flags ∨
      session.flags.closing = false ∧
        (session.onEvent parse event).1.flags = { session.flags with closed := true } := by
  unfold LuaLwsSession.onEvent
  split
  · exact .inl rfl
  · rename_i live
    have lasting : session.flags.closing = false := by
      cases closing : session.closing with
      | false => exact closing
      | true => exact absurd (.inl closing) live
    cases event.reason with
    | clientEstablished => exact .inl (reportConnectionResult_flags { session with connected := true } ..)
    | clientConnectionError => exact .inl (reportConnectionResult_flags session ..)
    | closed => exact .inr ⟨lasting, reportDisconnected_flags { session with closed := true }⟩
    | wsPeerInitiatedClose =>
      exact .inr ⟨lasting, reportDisconnected_flags { session with closed := true }⟩
    | wsiDestroy => exact .inr ⟨lasting, reportDisconnected_flags { session with closed := true }⟩
    | clientWriteable => exact .inl rfl
    | clientReceive =>
      obtain ⟨currentMsg, ⟨_, quiet⟩ | ⟨_, calls⟩⟩ := reportReadData_cases parse session event.data
      · exact .inl (congrArg (fun result => result.1.flags) quiet)
      · exact .inl (congrArg (fun result => result.1.flags) calls)

theorem handleConnectTimeout_flags (session : LuaLwsSession) :
    session.handleConnectTimeout.1.flags = session.flags := by
  unfold LuaLwsSession.handleConnectTimeout
  dsimp only
  split
  · rfl
  · exact reportConnectionResult_flags { session with connectTimer := false } ..

/-- Closing does nothing to a session that is closing or closed. -/
theorem close_flags (session : LuaLwsSession) :
    session.close = session ∧ (session.closing = true ∨ session.closed = true) ∨
      session.flags.closing = false ∧ session.flags.closed = false ∧
        session.close.flags = { session.flags with closing := true } := by
  unfold LuaLwsSession.close
  split
  · rename_i spent
    exact .inl ⟨rfl, spent.symm⟩
  · rename_i live
    rw [not_or] at live
    refine .inr ⟨eq_false_of_ne_true live.2, eq_false_of_ne_true live.1, ?_⟩
    dsimp only
    split <;> rfl

/-- A session that is asked has its callback from then on, and its other flags. -/
theorem connect_flags (session : LuaLwsSession) (url : Option Text) (timeout callback : Int) :
    (∃ next, session.connect url timeout callback = (.success, next) ∧
      next.flags = { session.flags with asked := true }) ∨
    session.connect url timeout callback = (.invalidParam, session) := by
  unfold LuaLwsSession.connect
  split
  · exact .inr rfl
  · rename_i given
    simp only [not_or] at given
    refine .inl ⟨_, rfl, ?_⟩
    split <;> simp [LuaLwsSession.flags, given.2.2]

/-! ### Steps -/

theorem onWritable_still {lws : Lws} {wsi : Wsi} {obj : WsiObj}
    (entry : lws.wsiTable.lookup wsi = some obj) (n : Int) :
    (lws.onWritable wsi obj n).2.owner = lws.owner ∧ (lws.onWritable wsi obj n).2.flags = lws.flags ∧
      (lws.onWritable wsi obj n).2.clearing = lws.clearing := by
  unfold Lws.onWritable
  split
  · exact ⟨rfl, rfl, rfl⟩
  · exact ⟨owner_requeue entry rfl, rfl, rfl⟩

/-- libwebsockets' call erases the connection of a session that is closing. -/
theorem innerCallback_effect {lws : Lws} (idle : lws.clearing = none) (wsi : Wsi)
    (reason : LwsCallbackReasons) (data : Text) (n : Int) :
    Effect lws (.calls wsi reason data n) (lws.innerCallback wsi reason data n).2 := by
  unfold Lws.innerCallback
  split
  · exact .still rfl rfl rfl
  · rename_i obj entry
    split
    · exact .still rfl rfl rfl
    · rename_i session held
      split
      · rename_i closing
        have own : lws.owner wsi = some obj.session := by simp [Lws.owner, entry]
        refine .erases wsi obj.session ⟨reason, data, n, rfl⟩ own ?_ ?_ ?_ idle rfl
        · rw [flags_of_session held]
          exact closing
        · funext other
          unfold Lws.owner
          by_cases same : other = wsi
          · rw [same, Function.update_self]
            dsimp only
            rw [AList.lookup_erase]
            rfl
          · rw [Function.update_of_ne same]
            dsimp only
            rw [AList.lookup_erase_ne same]
        · rw [flags_of_session held]
          exact flags_setSession held { session with closing := false }
      · split
        · obtain ⟨owner, flags, clearing⟩ := onWritable_still entry n
          exact .still owner flags clearing
        · exact .still (reportEvent_owner ..) (reportEvent_flags ..) (reportEvent_clearing ..)

theorem step_effect {parse : Text → Bool} {lws next : Lws} {request : Request} {reply : Reply}
    (ran : lws.step parse request = some (reply, next)) : Effect lws request next := by
  cases request with
  | open' ios lwsService checkJsonCompleted main readCallback =>
    cases ran
    refine .still rfl (funext fun handle => ?_) rfl
    unfold Lws.flags
    dsimp only
    rcases Nat.lt_trichotomy handle lws.sessions.length with small | rfl | large
    · rw [List.getElem?_append_left small]
    · rw [List.getElem?_append_right (Nat.le_refl _), Nat.sub_self,
        List.getElem?_eq_none (Nat.le_refl _)]
      rfl
    · rw [List.getElem?_eq_none (by simp only [List.length_append, List.length_singleton]; omega),
        List.getElem?_eq_none (Nat.le_of_lt large)]
  | connect handle url timeout callback wsi =>
    simp only [Lws.step, Option.bind_eq_some_iff, Option.ite_none_left_eq_some,
      Classical.not_not] at ran
    obtain ⟨session, held, unasked, ran⟩ := ran
    rcases connect_flags session url timeout callback with ⟨asked, connects, flags⟩ | refuses
    · rw [connects] at ran
      cases ran
      have fresh : (lws.flags handle).asked = false := by
        rw [flags_of_session held]
        simp [LuaLwsSession.flags, unasked]
      have flagged := flags_setSession held asked
      rw [flags, ← flags_of_session held] at flagged
      have notifies : ∀ next, (if lws.running then wsi else none) = next →
          lws.notified (.connect handle url timeout callback wsi) = next := by
        rintro next rfl
        simp [Lws.notified, held, connects]
      unfold Lws.connect
      split
      · rename_i given
        refine .connects handle none ⟨_, _, _, _, rfl⟩ fresh ?_ ?_ ?_ (notifies none given)
        · exact reportEvent_owner ..
        · exact (reportEvent_flags ..).trans flagged
        · exact reportEvent_clearing ..
      · rename_i wsi' given
        have owns : ∀ made : Lws, made.wsiTable = lws.wsiTable.insert wsi' { session := handle } →
            made.owner = update lws.owner wsi' (some handle) := fun _ table => owner_insert table
        exact .connects handle (some wsi') ⟨_, _, _, _, rfl⟩ fresh (owns _ rfl) flagged rfl
          (notifies _ given)
    · rw [refuses] at ran
      cases ran
      exact .still rfl (flags_setSession_same held rfl) rfl
  | write handle data =>
    simp only [Lws.step, Option.map_eq_some_iff] at ran
    obtain ⟨session, held, ran⟩ := ran
    rcases write_cases session data with ⟨_, nothing, _⟩ | ⟨text, _, _, _, _, asks⟩
    · have asked : session.write data = ((session.write data).1, none) := Prod.ext rfl nothing
      rw [asked] at ran
      cases ran
      exact .still rfl rfl rfl
    · rw [asks] at ran
      cases ran
      rcases service_write_cases lws session.wsi text with ⟨_, same⟩ | ⟨_, known, obj, _, entry, made⟩
      · rw [same]
        exact .still rfl rfl rfl
      · rw [made]
        exact .still (owner_requeue entry rfl) rfl rfl
  | close handle =>
    simp only [Lws.step, Option.map_eq_some_iff, Prod.mk.injEq] at ran
    obtain ⟨session, held, _, rfl⟩ := ran
    have flagged := flags_of_session held
    rcases close_flags session with ⟨same, _⟩ | ⟨lasting, isOpen, flags⟩
    · rw [same]
      exact .still rfl (flags_setSession_same held rfl) rfl
    · refine .closes handle rfl rfl (by rw [flagged]; exact ⟨lasting, isOpen⟩) ?_ rfl
      rw [flags_setSession held, flags, flagged]
  | handle =>
    simp only [Lws.step, Option.ite_none_left_eq_some] at ran
    obtain ⟨_, ran⟩ := ran
    split at ran
    · cases ran
    · rename_i handle event rest _
      simp only [Option.map_eq_some_iff, Prod.mk.injEq] at ran
      obtain ⟨session, held, _, rfl⟩ := ran
      have found : ({ lws with posted := rest } : Lws).sessions[handle]? = some session := held
      have flagged := flags_of_session held
      have set := handled_flags found (session.onEvent parse event)
      rcases onEvent_flags parse session event with same | ⟨lasting, closed⟩
      · refine .still (handled_owner ..) ?_ (handled_clearing ..)
        rw [set, same, ← flagged]
        exact Function.update_eq_self handle lws.flags
      · refine .ends handle (handled_owner ..) (by rw [flagged]; exact lasting) ?_
          (handled_clearing ..)
        rw [set, closed, flagged]
        rfl
  | timeout handle =>
    simp only [Lws.step, Option.ite_none_left_eq_some, Option.bind_eq_some_iff, Option.some.injEq,
      Prod.mk.injEq] at ran
    obtain ⟨_, session, held, _, _, rfl⟩ := ran
    refine .still (handled_owner ..) ?_ (handled_clearing ..)
    rw [handled_flags held, handleConnectTimeout_flags, ← flags_of_session held,
      Function.update_eq_self]
  | returns =>
    simp only [Lws.step, Option.bind_eq_some_iff, Option.map_eq_some_iff, Prod.mk.injEq] at ran
    obtain ⟨⟨handle, call⟩, _, session, held, _, rfl⟩ := ran
    exact .still rfl (flags_setSession_same held (by cases call <;> rfl)) rfl
  | calls wsi reason data n =>
    simp only [Lws.step, Option.ite_none_left_eq_some, Option.some.injEq, Prod.mk.injEq,
      Classical.not_not] at ran
    obtain ⟨idle, _, rfl⟩ := ran
    exact innerCallback_effect idle wsi reason data n
  | setsClosed =>
    simp only [Lws.step, Option.bind_eq_some_iff, Option.map_eq_some_iff, Prod.mk.injEq] at ran
    obtain ⟨handle, due, session, held, _, rfl⟩ := ran
    refine .shuts handle due rfl ?_ rfl
    rw [flags_of_session held]
    exact flags_setSession held { session with closed := true }

/-! ### What always holds -/

/-- A connection of the table is the only one of its session, which has been asked for it and
is not being cleared. Only a session without one is closing and closed at once. -/
structure Linked (lws : Lws) : Prop where
  unique : ∀ wsi wsi' handle, lws.owner wsi = some handle → lws.owner wsi' = some handle → wsi = wsi'
  asked : ∀ wsi handle, lws.owner wsi = some handle → (lws.flags handle).asked = true
  kept : ∀ wsi handle, lws.owner wsi = some handle → lws.clearing ≠ some handle
  cleared : ∀ handle, lws.clearing = some handle → (lws.flags handle).asked = true
  apart : ∀ handle, (lws.flags handle).closing = true → (lws.flags handle).closed = true →
    (lws.flags handle).asked = true ∧ ∀ wsi, lws.owner wsi ≠ some handle

theorem linked_start (running : Bool) : Linked { running } where
  unique := by rintro wsi wsi' handle ⟨⟩
  asked := by rintro wsi handle ⟨⟩
  kept := by rintro wsi handle ⟨⟩
  cleared := by rintro handle ⟨⟩
  apart := by rintro handle ⟨⟩

/-- Where the owners stay and no session forgets that it was asked, only closing and being
cleared need a look. -/
private theorem Linked.reflagged {lws next : Lws} (linked : Linked lws) {handle : Nat}
    {flags : Flags} (owner : next.owner = lws.owner)
    (changed : next.flags = update lws.flags handle flags)
    (asked : flags.asked = (lws.flags handle).asked)
    (cleared : next.clearing = lws.clearing ∨ next.clearing = none)
    (apart : flags.closing = true → flags.closed = true →
      flags.asked = true ∧ ∀ wsi, lws.owner wsi ≠ some handle) : Linked next := by
  have sameAsked : ∀ other, (next.flags other).asked = (lws.flags other).asked := by
    intro other
    rw [changed]
    by_cases same : other = handle
    · rw [same, Function.update_self, asked]
    · rw [Function.update_of_ne same]
  have clears : ∀ other, next.clearing = some other → lws.clearing = some other := by
    intro other due
    rcases cleared with same | gone
    · exact same ▸ due
    · rw [gone] at due
      cases due
  refine ⟨?_, ?_, ?_, ?_, ?_⟩
  · rw [owner]
    exact linked.unique
  · intro wsi other own
    rw [sameAsked]
    exact linked.asked wsi other (owner ▸ own)
  · intro wsi other own due
    exact linked.kept wsi other (owner ▸ own) (clears other due)
  · intro other due
    rw [sameAsked]
    exact linked.cleared other (clears other due)
  · intro other closing closed
    rw [owner, sameAsked]
    rw [changed] at closing closed
    by_cases same : other = handle
    · subst same
      rw [Function.update_self] at closing closed
      rw [← asked]
      exact apart closing closed
    · rw [Function.update_of_ne same] at closing closed
      exact linked.apart other closing closed

private theorem Linked.connects {lws next : Lws} (linked : Linked lws) {handle : Nat}
    {wsi : Option Wsi} (unasked : (lws.flags handle).asked = false)
    (owner : next.owner = match wsi with
      | some wsi => update lws.owner wsi (some handle)
      | none => lws.owner)
    (flags : next.flags = update lws.flags handle { lws.flags handle with asked := true })
    (clearing : next.clearing = lws.clearing) : Linked next := by
  have none_yet : ∀ wsi, lws.owner wsi ≠ some handle := fun wsi own =>
    Bool.noConfusion ((linked.asked wsi handle own).symm.trans unasked)
  have owns : ∀ wsi' other, next.owner wsi' = some other →
      lws.owner wsi' = some other ∨ other = handle ∧ wsi = some wsi' := by
    intro wsi' other own
    cases wsi with
    | none =>
      have same : next.owner = lws.owner := owner
      exact .inl (same ▸ own)
    | some wsi =>
      have made : next.owner = update lws.owner wsi (some handle) := owner
      rw [made] at own
      by_cases same : wsi' = wsi
      · subst same
        rw [Function.update_self] at own
        cases own
        exact .inr ⟨rfl, rfl⟩
      · exact .inl ((Function.update_of_ne same ..).symm.trans own)
  have asks : ∀ other, (lws.flags other).asked = true → (next.flags other).asked = true := by
    intro other asked
    rw [flags]
    by_cases same : other = handle
    · rw [same, Function.update_self]
    · rw [Function.update_of_ne same]
      exact asked
  have now : (next.flags handle).asked = true := by rw [flags, Function.update_self]
  refine ⟨?_, ?_, ?_, ?_, ?_⟩
  · intro wsi' wsi'' other own own'
    rcases owns wsi' other own with old | ⟨rfl, made⟩
    · rcases owns wsi'' other own' with old' | ⟨rfl, _⟩
      · exact linked.unique wsi' wsi'' other old old'
      · exact absurd old (none_yet wsi')
    · rcases owns wsi'' other own' with old' | ⟨_, made'⟩
      · exact absurd old' (none_yet wsi'')
      · exact Option.some.inj (made.symm.trans made')
  · intro wsi' other own
    rcases owns wsi' other own with old | ⟨rfl, _⟩
    · exact asks other (linked.asked wsi' other old)
    · exact now
  · intro wsi' other own due
    rw [clearing] at due
    rcases owns wsi' other own with old | ⟨rfl, _⟩
    · exact linked.kept wsi' other old due
    · exact Bool.noConfusion ((linked.cleared other due).symm.trans unasked)
  · intro other due
    exact asks other (linked.cleared other (clearing ▸ due))
  · intro other closing closed
    have before : (lws.flags other).asked = true ∧ ∀ wsi, lws.owner wsi ≠ some other := by
      apply linked.apart other
      · rw [flags] at closing
        by_cases same : other = handle
        · subst same
          rwa [Function.update_self] at closing
        · rwa [Function.update_of_ne same] at closing
      · rw [flags] at closed
        by_cases same : other = handle
        · subst same
          rwa [Function.update_self] at closed
        · rwa [Function.update_of_ne same] at closed
    refine ⟨asks other before.1, fun wsi' own => ?_⟩
    rcases owns wsi' other own with old | ⟨rfl, _⟩
    · exact before.2 wsi' old
    · exact Bool.noConfusion (before.1.symm.trans unasked)

private theorem Linked.erases {lws next : Lws} (linked : Linked lws) {wsi : Wsi} {handle : Nat}
    (own : lws.owner wsi = some handle) (owner : next.owner = update lws.owner wsi none)
    (flags : next.flags = update lws.flags handle { lws.flags handle with closing := false })
    (clearing : next.clearing = some handle) : Linked next := by
  have owns : ∀ wsi' other, next.owner wsi' = some other →
      lws.owner wsi' = some other ∧ wsi' ≠ wsi := by
    intro wsi' other own'
    rw [owner] at own'
    by_cases same : wsi' = wsi
    · rw [same, Function.update_self] at own'
      cases own'
    · exact ⟨(Function.update_of_ne same ..).symm.trans own', same⟩
  have sameAsked : ∀ other, (next.flags other).asked = (lws.flags other).asked := by
    intro other
    rw [flags]
    by_cases same : other = handle
    · rw [same, Function.update_self]
    · rw [Function.update_of_ne same]
  refine ⟨?_, ?_, ?_, ?_, ?_⟩
  · intro wsi' wsi'' other first second
    exact linked.unique wsi' wsi'' other (owns wsi' other first).1 (owns wsi'' other second).1
  · intro wsi' other own'
    rw [sameAsked]
    exact linked.asked wsi' other (owns wsi' other own').1
  · intro wsi' other own' due
    rw [clearing] at due
    cases due
    obtain ⟨old, apart⟩ := owns wsi' handle own'
    exact apart (linked.unique wsi' wsi handle old own)
  · intro other due
    rw [clearing] at due
    cases due
    rw [sameAsked]
    exact linked.asked wsi handle own
  · intro other closing closed
    rw [flags] at closing closed
    by_cases same : other = handle
    · subst same
      rw [Function.update_self] at closing
      cases closing
    · rw [Function.update_of_ne same] at closing closed
      obtain ⟨asked, none_yet⟩ := linked.apart other closing closed
      rw [sameAsked]
      exact ⟨asked, fun wsi' own' => none_yet wsi' (owns wsi' other own').1⟩

/-- Whichever step is taken. -/
theorem linked_step {parse : Text → Bool} {lws next : Lws} {request : Request} {reply : Reply}
    (linked : Linked lws) (ran : lws.step parse request = some (reply, next)) : Linked next := by
  cases step_effect ran with
  | still owner flags clearing =>
    exact linked.reflagged owner (flags.trans (Function.update_eq_self 0 lws.flags).symm)
      rfl (.inl clearing) (linked.apart 0)
  | ends handle owner live flags clearing =>
    exact linked.reflagged owner flags rfl (.inl clearing)
      fun closing => Bool.noConfusion (closing.symm.trans live)
  | connects handle wsi _ unasked owner flags clearing _ =>
    exact linked.connects unasked owner flags clearing
  | closes handle _ owner live flags clearing =>
    exact linked.reflagged owner flags rfl (.inl clearing)
      fun _ closed => Bool.noConfusion (closed.symm.trans live.2)
  | erases wsi handle _ own _ owner flags _ clearing =>
    exact linked.erases own owner flags clearing
  | shuts handle due owner flags clearing =>
    exact linked.reflagged owner flags rfl (.inr clearing)
      fun _ _ => ⟨linked.cleared handle due, fun wsi own => linked.kept wsi handle own due⟩

end BeeSdk.LuaLws
