import BeeSdk.BeeSessionProofs
import BeeSdk.SessionManager

/-! The two tables split the sessions between them. Opening and closing move one
session across, and are the same move seen from either side. -/
namespace BeeSdk.SessionManagerProofs
open Runs StateMachine BeeSessionProofs SessionManager

/-- The pointer is of a session of the manager with this id, at rest in this state. -/
structure Holds (sessions : List BeeSession) (made : List Nat) (state id : Int) (pointer : Nat) :
    Prop where
  member : pointer ∈ made
  session : ∃ session, sessions[pointer]? = some session ∧ session.sessionId = id ∧
    Rests session ∧ session.currentState = state

/-- Two tables split the sessions: each files sessions that rest in its own state,
and together they file every id once. -/
structure Split (sessions : List BeeSession) (made : List Nat) (count : Nat)
    (leftState rightState : Int) (left right : SessionTable) : Prop where
  inLeft : ∀ id pointer, left.lookup id = some pointer → Holds sessions made leftState id pointer
  inRight : ∀ id pointer, right.lookup id = some pointer → Holds sessions made rightState id pointer
  disjoint : ∀ id, id ∈ left → id ∉ right
  ids : ∀ id, (id ∈ left ∨ id ∈ right) ↔ ∃ i, i < count ∧ toInt32 i = id
  every : count ≤ 2 ^ 32 → ∀ pointer ∈ made, ∃ session, sessions[pointer]? = some session ∧
    (left.lookup session.sessionId = some pointer ∨ right.lookup session.sessionId = some pointer)

variable {sessions : List BeeSession} {made : List Nat} {count : Nat}
variable {leftState rightState : Int} {left right : SessionTable}

theorem Split.symm
    (split : Split sessions made count leftState rightState left right) :
    Split sessions made count rightState leftState right left where
  inLeft := split.inRight
  inRight := split.inLeft
  disjoint id member other := split.disjoint id other member
  ids id := Or.comm.trans (split.ids id)
  every few pointer member := by
    obtain ⟨session, found, filed⟩ := split.every few pointer member
    exact ⟨session, found, filed.symm⟩

/-- A session is stored without touching those of other ids. -/
theorem Holds.stored {session after : BeeSession} {id : Int}
    (holds : Holds sessions made state id pointer)
    (found : sessions[other]? = some session) (apart : session.sessionId ≠ id) :
    Holds (sessions.set other after) made state id pointer := by
  obtain ⟨member, current, held, own, rest⟩ := holds
  refine ⟨member, current, ?_, own, rest⟩
  have different : other ≠ pointer := by
    rintro rfl
    rw [found] at held
    cases held
    exact apart own
  rw [List.getElem?_set_ne different]
  exact held

/-- A session is stored in its own place. -/
theorem stored_holds {session after : BeeSession} {id : Int}
    (found : sessions[pointer]? = some session) (member : pointer ∈ made)
    (own : after.sessionId = id) (rests : Rests after) (state : after.currentState = current) :
    Holds (sessions.set pointer after) made current id pointer := by
  have inside : pointer < sessions.length := (List.getElem?_eq_some_iff.mp found).1
  exact ⟨member, after, List.getElem?_set_self inside, own, rests, state⟩

theorem Split.filed_own {session : BeeSession} {id : Int}
    (split : Split sessions made count leftState rightState left right)
    (filed : left.lookup id = some pointer) (found : sessions[pointer]? = some session) :
    session.sessionId = id ∧ Rests session ∧ session.currentState = leftState := by
  obtain ⟨_, current, held, own⟩ := split.inLeft id pointer filed
  rw [found] at held
  cases held
  exact own

section Stored
variable {session : BeeSession} {id : Int} (after : BeeSession)
variable (split : Split sessions made count leftState rightState left right)
  (filed : left.lookup id = some pointer) (found : sessions[pointer]? = some session)
  (own : after.sessionId = id) (rests : Rests after)
include split filed found own rests

/-- A session that changes nothing but its own content stays where it is. -/
theorem Split.stays (state : after.currentState = leftState) :
    Split (sessions.set pointer after) made count leftState rightState left right where
  inLeft other pointer' filed' := by
    by_cases same : id = other
    · subst same
      rw [filed] at filed'
      cases filed'
      exact stored_holds found (split.inLeft id pointer filed).member own rests state
    · exact (split.inLeft other pointer' filed').stored found
        ((split.filed_own filed found).1 ▸ same)
  inRight other pointer' filed' := by
    have same : id ≠ other := by
      rintro rfl
      exact split.disjoint id (AList.lookup_isSome.mp (by simp [filed]))
        (AList.lookup_isSome.mp (by simp [filed']))
    exact (split.inRight other pointer' filed').stored found
      ((split.filed_own filed found).1 ▸ same)
  disjoint := split.disjoint
  ids := split.ids
  every few pointer' member := by
    obtain ⟨current, held, where_⟩ := split.every few pointer' member
    by_cases same : pointer = pointer'
    · subst same
      have inside : pointer < sessions.length := (List.getElem?_eq_some_iff.mp found).1
      refine ⟨after, List.getElem?_set_self inside, .inl ?_⟩
      rw [own]
      exact filed
    · exact ⟨current, by rw [List.getElem?_set_ne same]; exact held, where_⟩

/-- A session that comes to rest in the other state moves to the other table. -/
theorem Split.moves (state : after.currentState = rightState) :
    Split (sessions.set pointer after) made count leftState rightState (left.erase id)
      (right.insert id pointer) where
  inLeft other pointer' filed' := by
    by_cases same : other = id
    · subst same
      rw [AList.lookup_erase] at filed'
      cases filed'
    · rw [AList.lookup_erase_ne same] at filed'
      exact (split.inLeft other pointer' filed').stored found
        ((split.filed_own filed found).1 ▸ Ne.symm same)
  inRight other pointer' filed' := by
    by_cases same : other = id
    · subst same
      rw [AList.lookup_insert] at filed'
      cases filed'
      exact stored_holds found (split.inLeft other pointer filed).member own rests state
    · rw [AList.lookup_insert_ne same] at filed'
      exact (split.inRight other pointer' filed').stored found
        ((split.filed_own filed found).1 ▸ Ne.symm same)
  disjoint other member := by
    rw [AList.mem_erase] at member
    rw [AList.mem_insert, not_or]
    exact ⟨member.1, split.disjoint other member.2⟩
  ids other := by
    rw [← split.ids other, AList.mem_erase, AList.mem_insert]
    by_cases same : other = id
    · have member : id ∈ left := AList.lookup_isSome.mp (by simp [filed])
      subst same
      simp [member]
    · simp [same]
  every few pointer' member := by
    obtain ⟨current, held, where_⟩ := split.every few pointer' member
    by_cases same : pointer = pointer'
    · subst same
      have inside : pointer < sessions.length := (List.getElem?_eq_some_iff.mp found).1
      refine ⟨after, List.getElem?_set_self inside, .inr ?_⟩
      rw [own]
      exact AList.lookup_insert _
    · refine ⟨current, by rw [List.getElem?_set_ne same]; exact held, ?_⟩
      by_cases shared : current.sessionId = id
      · rcases where_ with before | behind
        · rw [shared, filed] at before
          cases before
          exact absurd rfl same
        · rw [shared] at behind
          exact absurd (AList.lookup_isSome.mp (by simp [behind]))
            (split.disjoint id (AList.lookup_isSome.mp (by simp [filed])))
      · rw [AList.lookup_erase_ne shared, AList.lookup_insert_ne shared]
        exact where_

end Stored

/-! ### The manager -/

/-- What a manager is between two calls. -/
inductive Kept (manager : SessionManager) : Prop where
  | cleared (closed : manager.initialized = false) (idle : manager.idleSessions = ∅)
      (busy : manager.busySessions = ∅) (none : manager.allSessions = [])
  | split (initialized : manager.initialized = true)
      (split : Split manager.sessions manager.allSessions manager.count kBeeSessionState_Idle
        kBeeSessionState_Ready manager.idleSessions manager.busySessions)

theorem Kept.consistent {manager : SessionManager} (kept : Kept manager) :
    manager.Consistent := by
  cases kept with
  | cleared closed idle busy none =>
    refine ⟨?_, ?_, ?_, ?_, ?_, fun _ => ⟨idle, busy⟩⟩
    · intro id member
      rw [idle] at member
      exact absurd member (AList.notMem_empty id)
    · intro id pointer filed
      rw [idle, AList.lookup_empty] at filed
      cases filed
    · intro id pointer filed
      rw [busy, AList.lookup_empty] at filed
      cases filed
    · intro initialized
      rw [closed] at initialized
      cases initialized
    · intro _ pointer member
      rw [none] at member
      cases member
  | split initialized split =>
    refine ⟨split.disjoint, ?_, ?_, fun _ => split.ids, ?_, ?_⟩
    · intro id pointer filed
      obtain ⟨_, session, held, own, _, state⟩ := split.inLeft id pointer filed
      exact ⟨session, held, own, state⟩
    · intro id pointer filed
      obtain ⟨_, session, held, own, _, state⟩ := split.inRight id pointer filed
      exact ⟨session, held, own, state⟩
    · intro few pointer member session held
      obtain ⟨session', held', filed⟩ := split.every few pointer member
      rw [held] at held'
      cases held'
      have idle : manager.idleSessions.lookup session.sessionId = some pointer →
          session.currentState = kBeeSessionState_Idle := fun filed =>
        (split.filed_own filed held).2.2
      have busy : manager.busySessions.lookup session.sessionId = some pointer →
          session.currentState = kBeeSessionState_Ready := fun filed =>
        (split.symm.filed_own filed held).2.2
      have apart : kBeeSessionState_Idle ≠ kBeeSessionState_Ready := by decide
      refine ⟨⟨busy, fun ready => ?_⟩, ⟨idle, fun rests => ?_⟩⟩
      · exact filed.resolve_left fun other => apart ((idle other).symm.trans ready)
      · exact filed.resolve_right fun other => apart (rests.symm.trans (busy other))
    · intro closed
      rw [initialized] at closed
      cases closed

/-! ### Opening and closing -/

/-- A session found in the idle table is at rest and Idle. -/
theorem open_kept {manager : SessionManager} (kept : Kept manager) (first : Nat)
    (opening : Opening) :
    ∃ opened next, manager.openIdleSession first opening = some (opened, next) ∧ Kept next ∧
      (opened.ec ≠ .success → next.idleSessions = manager.idleSessions ∧
        next.busySessions = manager.busySessions) := by
  rw [openIdleSession]
  cases entry : manager.idleSessions.entries[first % manager.idleSessions.entries.length]? with
  | none => exact ⟨_, _, rfl, kept, fun _ => ⟨rfl, rfl⟩⟩
  | some found =>
    obtain ⟨key, pointer⟩ := found
    have filed : manager.idleSessions.lookup key = some pointer :=
      AList.mem_lookup_iff.mpr (List.mem_of_getElem? entry)
    cases kept with
    | cleared closed idle busy none =>
      rw [idle, AList.lookup_empty] at filed
      cases filed
    | split initialized split =>
      obtain ⟨_, session, found, own, rests, state⟩ := split.inLeft key pointer filed
      have machine := rests.machine
      rw [state] at machine
      simp only [found, open_idle machine]
      by_cases ok : opening.opened = .success
      · simp only [ok, if_true, Option.map_some, ne_eq, not_true_eq_false, if_false]
        refine ⟨_, _, rfl, .split initialized ?_, fun failed => absurd rfl failed⟩
        have moved := split.moves { session with
          machine := inState kBeeSessionState_Ready kBeeSessionState_Opening
          ios := some opening.ios, luaEngine := some opening.engine
          liveSessionId := opening.liveSessionId, capabilities := opening.capability }
          filed found own (rests_ready rfl) rfl
        rw [← own] at moved ⊢
        exact moved
      · simp only [ok, if_false, Option.map_some, ne_eq, not_false_eq_true, if_true]
        obtain ⟨_, ⟨_, none, incapable⟩ | ready⟩ := rests
        · refine ⟨_, _, rfl, .split initialized ?_, fun _ => ⟨rfl, rfl⟩⟩
          exact split.stays _ filed found own (rests_idle rfl none incapable) rfl
        · rw [state] at ready
          exact absurd ready (by decide)

theorem close_kept {manager : SessionManager} (kept : Kept manager) (sessionId : Int) :
    ∃ ret next, manager.closeBusySession sessionId = some (ret, next) ∧ Kept next ∧
      (ret = false → next.idleSessions = manager.idleSessions ∧
        next.busySessions = manager.busySessions) := by
  rw [closeBusySession]
  cases filed : manager.busySessions.lookup sessionId with
  | none => exact ⟨_, _, rfl, kept, fun _ => ⟨rfl, rfl⟩⟩
  | some pointer =>
    cases kept with
    | cleared closed idle busy none =>
      rw [busy, AList.lookup_empty] at filed
      cases filed
    | split initialized split =>
      obtain ⟨_, session, found, own, rests, state⟩ := split.inRight sessionId pointer filed
      have machine := rests.machine
      rw [state] at machine
      simp only [found, close_ready machine, Option.map_some, ne_eq, not_true_eq_false, if_false]
      refine ⟨_, _, rfl, .split initialized ?_, fun failed => by cases failed⟩
      exact (split.symm.moves { session with
        machine := inState kBeeSessionState_Idle kBeeSessionState_Closing, ios := none
        luaEngine := none, liveSessionId := "", services := [], capabilities := [] }
        filed found own (rests_idle rfl rfl rfl) rfl).symm

/-! ### Clearing -/

/-- Sessions of different ids that are all Ready can be closed one after the other. -/
theorem closeAll_defined (entries : List (Sigma fun _ : Int => Nat))
    (unique : entries.NodupKeys)
    (ready : ∀ entry ∈ entries, ∃ session, sessions[entry.2]? = some session ∧
      session.sessionId = entry.1 ∧ Rests session ∧ session.currentState = kBeeSessionState_Ready) :
    ∃ after, closeAll entries sessions = some after := by
  induction entries generalizing sessions with
  | nil => exact ⟨sessions, rfl⟩
  | cons entry rest ih =>
    obtain ⟨session, found, own, rests, state⟩ := ready entry (by simp)
    have machine := rests.machine
    rw [state] at machine
    rw [List.nodupKeys_cons] at unique
    obtain ⟨fresh, others⟩ := unique
    obtain ⟨after, closed⟩ := @ih (sessions.set entry.2 { session with
        machine := inState kBeeSessionState_Idle kBeeSessionState_Closing, ios := none
        luaEngine := none, liveSessionId := "", services := [], capabilities := [] }) others (by
      intro other member
      obtain ⟨current, held, same, still⟩ := ready other (List.mem_cons_of_mem _ member)
      refine ⟨current, ?_, same, still⟩
      rw [List.getElem?_set_ne]
      · exact held
      · intro shared
        rw [← shared, found] at held
        cases held
        apply fresh
        rw [← own, same]
        exact List.mem_map_of_mem member)
    refine ⟨after, ?_⟩
    rw [closeAll, List.foldlM_cons]
    simp only [found, close_ready machine, Option.map_some]
    exact closed

theorem uninit_kept {manager : SessionManager} (kept : Kept manager) :
    ∃ next, manager.uninit = some next ∧ Kept next := by
  rw [uninit]
  cases kept with
  | cleared closed idle busy none =>
    rw [closed]
    exact ⟨manager, rfl, .cleared closed idle busy none⟩
  | split initialized split =>
    obtain ⟨after, closed⟩ := closeAll_defined manager.busySessions.entries
      manager.busySessions.nodupKeys (fun entry member =>
        (split.inRight entry.1 entry.2 (AList.mem_lookup_iff.mpr member)).session)
    rw [initialized, closed]
    exact ⟨_, rfl, .cleared rfl rfl rfl rfl⟩

/-! ### Making the sessions -/

theorem toInt32_injective {i j : Nat} (first : i < 2 ^ 32) (second : j < 2 ^ 32)
    (same : toInt32 i = toInt32 j) : i = j := by
  have residues : (i : Int) % ((2 ^ 32 : Nat) : Int) = (j : Int) % ((2 ^ 32 : Nat) : Int) := by
    unfold toInt32 at same
    rw [← @Int.bmod_emod i, ← @Int.bmod_emod j, same]
  omega

def freshSession (i : Nat) : BeeSession := (BeeSession.constructed (toInt32 i)).initStateMachine

/-- What the loop of `init` has made behind the sessions made before. -/
structure Filled (start : Nat) (turns : Nat) (manager : SessionManager) : Prop where
  length : manager.sessions.length = start + turns
  fresh : ∀ i < turns, manager.sessions[start + i]? = some (freshSession i)
  all : ∀ pointer, pointer ∈ manager.allSessions ↔ ∃ i, i < turns ∧ pointer = start + i
  filed : ∀ id pointer, manager.idleSessions.lookup id = some pointer →
    ∃ i, i < turns ∧ pointer = start + i ∧ toInt32 i = id
  member : ∀ i < turns, toInt32 i ∈ manager.idleSessions
  every : turns ≤ 2 ^ 32 → ∀ i < turns, manager.idleSessions.lookup (toInt32 i) = some (start + i)
  idle : manager.busySessions = ∅

theorem initSession_filled {manager : SessionManager} {turns : Nat} (filled : Filled start turns manager) :
    Filled start (turns + 1) (manager.initSession turns) := by
  obtain ⟨length, fresh, all, filed, member, every, idle⟩ := filled
  refine ⟨?_, ?_, ?_, ?_, ?_, ?_, idle⟩
  · simp only [initSession, List.length_append, length, List.length_singleton]
    omega
  · intro i bound
    simp only [initSession]
    by_cases last : i = turns
    · subst last
      rw [List.getElem?_append_right (by omega), length, Nat.sub_self]
      rfl
    · rw [List.getElem?_append_left (by omega)]
      exact fresh i (by omega)
  · intro pointer
    simp only [initSession, List.mem_append, List.mem_singleton, all, length]
    constructor
    · rintro (⟨i, bound, same⟩ | same)
      · exact ⟨i, by omega, same⟩
      · exact ⟨turns, by omega, same⟩
    · rintro ⟨i, bound, same⟩
      by_cases last : i = turns
      · exact .inr (last ▸ same)
      · exact .inl ⟨i, by omega, same⟩
  · intro id pointer found
    simp only [initSession] at found
    by_cases own : id = toInt32 turns
    · subst own
      rw [AList.lookup_insert, length] at found
      cases found
      exact ⟨turns, by omega, rfl, rfl⟩
    · rw [AList.lookup_insert_ne own] at found
      obtain ⟨i, bound, same⟩ := filed id pointer found
      exact ⟨i, by omega, same⟩
  · intro i bound
    simp only [initSession, AList.mem_insert]
    by_cases last : i = turns
    · exact .inl (last ▸ rfl)
    · exact .inr (member i (by omega))
  · intro few i bound
    simp only [initSession]
    by_cases last : i = turns
    · subst last
      rw [AList.lookup_insert, length]
    · rw [AList.lookup_insert_ne]
      · exact every (by omega) i (by omega)
      · intro same
        exact last (toInt32_injective (by omega) (by omega) same)

theorem loop_filled (manager : SessionManager) (none : manager.allSessions = [])
    (idle : manager.idleSessions = ∅) (busy : manager.busySessions = ∅) (turns : Nat) :
    Filled manager.sessions.length turns ((List.range turns).foldl initSession manager) := by
  induction turns with
  | zero =>
    refine ⟨rfl, ?_, ?_, ?_, ?_, ?_, busy⟩
    · intro i bound
      omega
    · intro pointer
      simp [none]
    · intro id pointer found
      simp only [List.range_zero, List.foldl_nil, idle, AList.lookup_empty] at found
      cases found
    · intro i bound
      omega
    · intro _ i bound
      omega
  | succ turns ih =>
    rw [List.range_succ, List.foldl_append]
    exact initSession_filled ih

theorem loop_keeps_count (manager : SessionManager) (indices : List Nat) :
    (indices.foldl initSession manager).count = manager.count := by
  induction indices generalizing manager with
  | nil => rfl
  | cons i rest ih => exact ih (manager.initSession i)

/-- All sessions that were made are idle. -/
theorem filled_split {manager : SessionManager} {turns : Nat} (filled : Filled start turns manager) :
    Split manager.sessions manager.allSessions turns kBeeSessionState_Idle kBeeSessionState_Ready
      manager.idleSessions manager.busySessions where
  inLeft id pointer found := by
    obtain ⟨i, bound, rfl, own⟩ := filled.filed id pointer found
    exact ⟨(filled.all _).mpr ⟨i, bound, rfl⟩, freshSession i, filled.fresh i bound, own,
      constructed_rests _, rfl⟩
  inRight id pointer found := by
    rw [filled.idle, AList.lookup_empty] at found
    cases found
  disjoint id _ := by
    rw [filled.idle]
    exact AList.notMem_empty id
  ids id := by
    rw [filled.idle]
    constructor
    · rintro (member | member)
      · obtain ⟨pointer, found⟩ := Option.isSome_iff_exists.mp (AList.lookup_isSome.mpr member)
        obtain ⟨i, bound, _, own⟩ := filled.filed id pointer found
        exact ⟨i, bound, own⟩
      · exact absurd member (AList.notMem_empty id)
    · rintro ⟨i, bound, rfl⟩
      exact .inl (filled.member i bound)
  every few pointer member := by
    obtain ⟨i, bound, rfl⟩ := (filled.all pointer).mp member
    exact ⟨freshSession i, filled.fresh i bound, .inl (filled.every few i bound)⟩

theorem init_kept {manager : SessionManager} (kept : Kept manager) (count : Nat) :
    Kept (manager.init count) := by
  cases kept with
  | split initialized split =>
    rw [SessionManager.init, if_pos initialized]
    exact .split initialized split
  | cleared closed idle busy none =>
    rw [SessionManager.init, if_neg (by simp [closed])]
    generalize (if count = 0 then kDefaultSessionCount else count) = turns
    have filled := loop_filled { manager with count := turns } none idle busy turns
    have counted := loop_keeps_count { manager with count := turns } (List.range turns)
    refine .split rfl ?_
    have split := filled_split filled
    dsimp only
    rw [counted]
    exact split

/-! ### Every run -/

/-- Along every run of the manager the tables agree with the sessions, and a call
that fails leaves them unchanged. -/
theorem tables_kept (requests : List SessionManager.Request) : AllTaken step Keeps {} requests := by
  apply all_taken_of_invariant Kept
  · intro manager request kept
    cases request with
    | init count =>
      have after := init_kept kept count
      exact ⟨_, _, rfl, ⟨after.consistent, fun failed => by cases failed⟩, after⟩
    | uninit =>
      obtain ⟨next, cleared, after⟩ := uninit_kept kept
      refine ⟨.returned true, next, ?_, ⟨after.consistent, fun failed => by cases failed⟩, after⟩
      rw [step, cleared]
      rfl
    | openIdleSession first opening =>
      obtain ⟨opened, next, taken, after, unchanged⟩ := open_kept kept first opening
      refine ⟨.opened opened, next, ?_, ⟨after.consistent, unchanged⟩, after⟩
      rw [step, taken]
      rfl
    | closeBusySession sessionId =>
      obtain ⟨ret, next, taken, after, unchanged⟩ := close_kept kept sessionId
      refine ⟨.returned ret, next, ?_, ⟨after.consistent, unchanged⟩, after⟩
      rw [step, taken]
      rfl
  · exact .cleared rfl rfl rfl rfl

theorem uninit_clears {manager next : SessionManager} (initialized : manager.initialized = true)
    (taken : manager.uninit = some next) :
    next.idleSessions = ∅ ∧ next.busySessions = ∅ ∧ next.count = manager.count := by
  rw [uninit, if_neg (by simp [initialized]), Option.map_eq_some_iff] at taken
  obtain ⟨sessions, _, rfl⟩ := taken
  exact ⟨rfl, rfl, rfl⟩

/-- Every Idle session of the manager is filed in the idle table. -/
def FilesIdle (manager : SessionManager) : Prop :=
  ∀ pointer ∈ manager.allSessions, ∀ session, manager.sessions[pointer]? = some session →
    (manager.idleSessions.lookup session.sessionId = some pointer ↔
      session.currentState = kBeeSessionState_Idle)

theorem toInt32_wraps (n : Nat) : toInt32 (n + 2 ^ 32) = toInt32 n := by
  unfold toInt32
  rw [Int.natCast_add]
  exact Int.add_bmod_right ..

/-- Of two sessions that share an id only one is filed. -/
theorem shared_not_filed {count i j : Nat} (first : i < count) (second : j < count) (apart : i ≠ j)
    (shared : toInt32 i = toInt32 j) : ¬ FilesIdle (SessionManager.init {} count) := by
  intro files
  have filled := loop_filled { count } rfl rfl rfl count
  have same : SessionManager.init {} count =
      { (List.range count).foldl initSession { count } with initialized := true } := by
    rw [SessionManager.init, if_neg (by simp), if_neg (by omega)]
  rw [same] at files
  have filed : ∀ k, k < count → ((List.range count).foldl initSession { count }).idleSessions.lookup
      (toInt32 k) = some (0 + k) := fun k bound =>
    (files (0 + k) ((filled.all _).mpr ⟨k, bound, rfl⟩) (freshSession k) (filled.fresh k bound)).mpr rfl
  have left := filed i first
  rw [shared, filed j second] at left
  have same := Option.some.inj left
  omega

/-- Behind `uninit` the manager still counts its session but files it nowhere, and
of more than 2^32 sessions not all are filed. -/
theorem tables_not_whole :
    (∃ replies reached, run step {} [.init 1, .uninit] = some (replies, reached) ∧
      reached.count = 1 ∧ ¬ reached.FilesIds) ∧
    ¬ FilesIdle (SessionManager.init {} (2 ^ 32 + 1)) := by
  have wraps := toInt32_wraps 0
  rw [Nat.zero_add] at wraps
  refine ⟨?_, shared_not_filed (Nat.lt_succ_self (2 ^ 32)) (Nat.succ_pos _) (by omega) wraps⟩
  obtain ⟨next, cleared, _⟩ := uninit_kept (init_kept (.cleared rfl rfl rfl rfl : Kept {}) 1)
  obtain ⟨idle, busy, count⟩ := uninit_clears rfl cleared
  have counted : next.count = 1 := count.trans rfl
  refine ⟨[.returned true, .returned true], next, ?_, counted, ?_⟩
  · have last : step (SessionManager.init {} 1) .uninit = some (.returned true, next) := by
      rw [step, cleared]
      rfl
    exact run_cons_some rfl (run_cons_some last rfl)
  · intro files
    rcases (files (toInt32 0)).mpr ⟨0, by omega, rfl⟩ with member | member
    · rw [idle] at member
      exact absurd member (AList.notMem_empty _)
    · rw [busy] at member
      exact absurd member (AList.notMem_empty _)

end BeeSdk.SessionManagerProofs
