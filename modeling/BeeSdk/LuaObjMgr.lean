import Mathlib.Algebra.Group.Nat.Defs
import Mathlib.Data.List.AList
import Mathlib.Logic.Function.Basic
import BeeSdk.Runs

/-! The managers through which scripts hold objects of the SDK: every manager of one type
keeps its own table, but the handles of all of them are drawn from one static counter of
32 bits. -/
namespace BeeSdk.LuaObjMgr
open Function (update)
open Runs

/-- What an entry of a table points to. A null `obj` is what `set_lua_obj` may leave. -/
structure LuaObj (Obj : Type) where
  obj : Option Obj
  handle : UInt32

/-- An entry of `obj_table_` is a shared pointer, which the lookups compare with null. -/
abbrev LuaObjTable (Obj : Type) := AList fun _ : UInt32 => Option (LuaObj Obj)

structure Managers (Manager Obj : Type) where
  counter : UInt32 := 0
  objTable : Manager → LuaObjTable Obj := fun _ => ∅

inductive Request (Manager Obj : Type) where
  | newLuaObj (manager : Manager) (obj : Option Obj)
  | deleteLuaObj (manager : Manager) (handle : UInt32)
  | getObj (manager : Manager) (handle : UInt32)
  | setLuaObj (manager : Manager) (handle : UInt32) (obj : Option Obj)

inductive Reply (Obj : Type) where
  | handle (handle : UInt32)
  | object (obj : Option Obj)
  | nothing

variable {Manager Obj : Type}

namespace Managers

/-- The object a lookup ends at, if the entry is there and not null. -/
def found (managers : Managers Manager Obj) (manager : Manager) (handle : UInt32) :
    Option (LuaObj Obj) :=
  ((managers.objTable manager).lookup handle).join

def getObj (managers : Managers Manager Obj) (manager : Manager) (handle : UInt32) : Option Obj :=
  (managers.found manager handle).bind (·.obj)

/-- The handle is in the table of the manager. -/
def Live (managers : Managers Manager Obj) (manager : Manager) (handle : UInt32) : Prop :=
  handle ∈ managers.objTable manager

variable [DecidableEq Manager]

def newLuaObj (managers : Managers Manager Obj) (manager : Manager) (obj : Option Obj) :
    UInt32 × Managers Manager Obj :=
  match obj with
  | none => (0, managers)
  | some obj =>
    let handle := managers.counter + 1
    let luaObj : LuaObj Obj := { obj := some obj, handle := handle }
    (handle, { counter := handle
               objTable := update managers.objTable manager
                 ((managers.objTable manager).insert handle (some luaObj)) })

def deleteLuaObj (managers : Managers Manager Obj) (manager : Manager) (handle : UInt32) :
    Option Obj × Managers Manager Obj :=
  match managers.found manager handle with
  | none => (none, managers)
  | some luaObj =>
    (luaObj.obj, { managers with
      objTable := update managers.objTable manager ((managers.objTable manager).erase handle) })

def setLuaObj (managers : Managers Manager Obj) (manager : Manager) (handle : UInt32)
    (obj : Option Obj) : Managers Manager Obj :=
  match managers.found manager handle with
  | none => managers
  | some luaObj =>
    { managers with
      objTable := update managers.objTable manager
        ((managers.objTable manager).insert handle (some { luaObj with obj := obj })) }

def step (managers : Managers Manager Obj) :
    Request Manager Obj → Option (Reply Obj × Managers Manager Obj)
  | .newLuaObj manager obj =>
    let (handle, next) := managers.newLuaObj manager obj
    some (.handle handle, next)
  | .deleteLuaObj manager handle =>
    let (obj, next) := managers.deleteLuaObj manager handle
    some (.object obj, next)
  | .getObj manager handle => some (.object (managers.getObj manager handle), managers)
  | .setLuaObj manager handle obj => some (.nothing, managers.setLuaObj manager handle obj)

end Managers

namespace Request

/-- An object is given, so that a handle is drawn. -/
def registers : Request Manager Obj → Bool
  | .newLuaObj _ obj => obj.isSome
  | _ => false

/-- The handle of the manager is deleted or given another object. -/
def Changes (manager : Manager) (handle : UInt32) : Request Manager Obj → Prop
  | .deleteLuaObj other name => other = manager ∧ name = handle
  | .setLuaObj other name _ => other = manager ∧ name = handle
  | _ => False

end Request

open Managers

/-- A handle drawn for an object is not zero, is live in no manager before and stands for
the object afterwards. -/
def Fresh (before : Managers Manager Obj) (request : Request Manager Obj) (reply : Reply Obj)
    (after : Managers Manager Obj) : Prop :=
  ∀ manager obj, request = .newLuaObj manager (some obj) →
    ∃ handle, reply = .handle handle ∧ handle ≠ 0 ∧ (∀ other, ¬ before.Live other handle) ∧
      after.Live manager handle ∧ after.getObj manager handle = some obj

/-- Whatever handle the request neither deletes nor sets stays live and stands for the
same object. -/
def Kept (before : Managers Manager Obj) (request : Request Manager Obj)
    (after : Managers Manager Obj) : Prop :=
  ∀ manager handle, before.Live manager handle → ¬ request.Changes manager handle →
    after.Live manager handle ∧ after.getObj manager handle = before.getObj manager handle

def Right (before : Managers Manager Obj) (request : Request Manager Obj) (reply : Reply Obj)
    (after : Managers Manager Obj) : Prop :=
  Fresh before request reply after ∧ Kept before request after

/-- The counter has a number left for the object. -/
def Room (managers : Managers Manager Obj) (request : Request Manager Obj) : Prop :=
  request.registers → managers.counter.toNat + 1 < 2 ^ 32

/-- Every live handle has been drawn from the counter. -/
def Drawn (managers : Managers Manager Obj) : Prop :=
  ∀ manager handle, managers.Live manager handle →
    0 < handle.toNat ∧ handle.toNat ≤ managers.counter.toNat

variable {managers next : Managers Manager Obj} {manager : Manager}
variable {request : Request Manager Obj} {reply : Reply Obj}

/-- Where the tables agree on a handle, it stands for the same object. -/
theorem getObj_congr {handle : UInt32}
    (same : (next.objTable manager).lookup handle = (managers.objTable manager).lookup handle) :
    next.getObj manager handle = managers.getObj manager handle := by
  rw [getObj, getObj, found, found, same]

theorem live_congr {handle : UInt32}
    (same : (next.objTable manager).lookup handle = (managers.objTable manager).lookup handle) :
    next.Live manager handle ↔ managers.Live manager handle := by
  rw [Live, Live, ← AList.lookup_isSome, ← AList.lookup_isSome, same]

theorem counter_of_room (room : Room managers request) (registers : request.registers) :
    (managers.counter + 1).toNat = managers.counter.toNat + 1 := by
  rw [UInt32.toNat_add]
  exact Nat.mod_eq_of_lt (room registers)

theorem drawn_start : Drawn ({} : Managers Manager Obj) := by
  intro manager handle live
  exact absurd live (AList.notMem_empty handle)

variable [DecidableEq Manager]

/-- A request leaves the entries alone of the handles it neither draws nor changes. -/
theorem step_lookup (taken : managers.step request = some (reply, next)) {handle : UInt32}
    (undrawn : request.registers → handle ≠ managers.counter + 1)
    (unchanged : ¬ request.Changes manager handle) :
    (next.objTable manager).lookup handle = (managers.objTable manager).lookup handle := by
  have updated : ∀ (other : Manager) (name : UInt32) (table : LuaObjTable Obj),
      (other = manager → table.lookup handle = (managers.objTable manager).lookup handle) →
      (update managers.objTable other table manager).lookup handle =
        (managers.objTable manager).lookup handle := by
    intro other name table same
    by_cases here : manager = other
    · rw [here, Function.update_self, ← here]
      exact same here.symm
    · rw [Function.update_of_ne here]
  cases request with
  | newLuaObj other obj =>
    cases obj with
    | none => cases taken; rfl
    | some obj =>
      cases taken
      refine updated other handle _ fun here => ?_
      rw [here, AList.lookup_insert_ne (undrawn rfl)]
  | deleteLuaObj other name =>
    simp only [step, deleteLuaObj, Option.some.injEq] at taken
    split at taken
    · cases taken; rfl
    · cases taken
      refine updated other handle _ fun here => ?_
      rw [here, AList.lookup_erase_ne fun same => unchanged ⟨here, same.symm⟩]
  | getObj other name => cases taken; rfl
  | setLuaObj other name obj =>
    simp only [step, setLuaObj, Option.some.injEq] at taken
    split at taken
    · cases taken; rfl
    · cases taken
      refine updated other handle _ fun here => ?_
      rw [here, AList.lookup_insert_ne fun same => unchanged ⟨here, same.symm⟩]

/-- The counter goes on by one for every object, modulo its 32 bits. -/
theorem step_counter (taken : managers.step request = some (reply, next)) :
    next.counter = if request.registers then managers.counter + 1 else managers.counter := by
  cases request with
  | newLuaObj other obj => cases obj <;> cases taken <;> rfl
  | deleteLuaObj other name =>
    simp only [step, deleteLuaObj, Option.some.injEq] at taken
    split at taken <;> cases taken <;> rfl
  | getObj other name => cases taken; rfl
  | setLuaObj other name obj =>
    simp only [step, setLuaObj, Option.some.injEq] at taken
    split at taken <;> cases taken <;> rfl

/-- A handle that comes to be live is the one the counter stands at. -/
theorem step_live (taken : managers.step request = some (reply, next)) {handle : UInt32}
    (live : next.Live manager handle) :
    managers.Live manager handle ∨ request.registers ∧ handle = managers.counter + 1 := by
  by_cases drawn : request.registers ∧ handle = managers.counter + 1
  · exact .inr drawn
  left
  by_cases changes : request.Changes manager handle
  · cases request with
    | newLuaObj other obj => exact changes.elim
    | deleteLuaObj other name =>
      obtain ⟨rfl, rfl⟩ := changes
      simp only [step, deleteLuaObj, Option.some.injEq] at taken
      split at taken
      · cases taken; exact live
      · cases taken
        simp only [Live, Function.update_self] at live
        exact (AList.mem_erase.mp live).2
    | getObj other name => exact changes.elim
    | setLuaObj other name obj =>
      obtain ⟨rfl, rfl⟩ := changes
      simp only [step, setLuaObj, Option.some.injEq] at taken
      split at taken
      · cases taken; exact live
      · next luaObj held =>
        cases hit : (managers.objTable other).lookup name with
        | none => simp [found, hit] at held
        | some entry =>
          rw [Live, ← AList.lookup_isSome, hit]
          rfl
  · rwa [← live_congr (step_lookup taken (fun registers same => drawn ⟨registers, same⟩) changes)]

/-- Only numbers up to the counter are ever drawn, as long as it does not wrap. -/
theorem drawn_step (drawn : Drawn managers) (room : Room managers request)
    (taken : managers.step request = some (reply, next)) : Drawn next := by
  intro manager handle live
  rw [step_counter taken]
  rcases step_live taken live with before | ⟨registers, rfl⟩
  · obtain ⟨positive, reached⟩ := drawn manager handle before
    refine ⟨positive, ?_⟩
    split
    · next registers =>
      rw [counter_of_room room registers]
      exact Nat.le_succ_of_le reached
    · exact reached
  · rw [if_pos registers, counter_of_room room registers]
    exact ⟨Nat.succ_pos _, Nat.le_refl _⟩

/-- A counter that does not wrap draws a handle that is live nowhere. -/
theorem fresh_of_room (drawn : Drawn managers) (room : Room managers request)
    (taken : managers.step request = some (reply, next)) : Fresh managers request reply next := by
  rintro manager obj rfl
  cases taken
  have drew := counter_of_room room rfl
  refine ⟨_, rfl, ?_, ?_, ?_, ?_⟩
  · intro zero
    rw [zero] at drew
    exact absurd drew.symm (Nat.succ_ne_zero _)
  · intro other live
    have reached := (drawn other _ live).2
    rw [drew] at reached
    exact Nat.not_succ_le_self _ reached
  · simp [Live]
  · simp [getObj, found]

theorem kept_of_room (drawn : Drawn managers) (room : Room managers request)
    (taken : managers.step request = some (reply, next)) : Kept managers request next := by
  intro manager handle live unchanged
  have undrawn : request.registers → handle ≠ managers.counter + 1 := by
    rintro registers rfl
    have reached := (drawn manager _ live).2
    rw [counter_of_room room registers] at reached
    exact Nat.not_succ_le_self _ reached
  have same := step_lookup taken undrawn unchanged
  exact ⟨(live_congr same).mpr live, getObj_congr same⟩

/-- A counter that wraps returns the handle that stands for no object. -/
theorem room_of_fresh (taken : managers.step request = some (reply, next))
    (fresh : Fresh managers request reply next) : Room managers request := by
  intro registers
  cases request with
  | newLuaObj manager obj =>
    cases obj with
    | none => cases registers
    | some obj =>
      obtain ⟨handle, same, positive, _⟩ := fresh manager obj rfl
      cases taken
      cases same
      by_contra wraps
      have last := managers.counter.toNat_lt
      apply positive
      rw [← UInt32.toNat_inj, UInt32.toNat_add,
        show managers.counter.toNat = 2 ^ 32 - 1 by omega]
      rfl
  | deleteLuaObj | getObj | setLuaObj => cases registers

theorem right_iff_room (drawn : Drawn managers) :
    (∃ reply next, managers.step request = some (reply, next) ∧
      Right managers request reply next) ↔ Room managers request := by
  constructor
  · rintro ⟨reply, next, taken, fresh, _⟩
    exact room_of_fresh taken fresh
  · intro room
    obtain ⟨reply, next, taken⟩ : ∃ reply next, managers.step request = some (reply, next) := by
      cases request <;> exact ⟨_, _, rfl⟩
    exact ⟨reply, next, taken, fresh_of_room drawn room taken, kept_of_room drawn room taken⟩

/-- All steps of a run are right exactly when each finds room in the counter. -/
theorem taken_iff_room (drawn : Drawn managers) (requests : List (Request Manager Obj)) :
    AllTaken step Right managers requests ↔ AllSteps step Room managers requests :=
  all_taken_iff Drawn (fun _ _ => right_iff_room)
    (fun _ _ _ _ drawn room taken => drawn_step drawn room taken) drawn

/-- The counter has room all along a run exactly when it has room for every object of the
run at its start. -/
theorem room_iff_count (managers : Managers Manager Obj) (requests : List (Request Manager Obj)) :
    AllSteps step Room managers requests ↔
      managers.counter.toNat + requests.countP (·.registers) < 2 ^ 32 := by
  induction requests generalizing managers with
  | nil => simp [AllSteps, managers.counter.toNat_lt]
  | cons request rest ih =>
    obtain ⟨reply, next, taken⟩ : ∃ reply next, managers.step request = some (reply, next) := by
      cases request <;> exact ⟨_, _, rfl⟩
    have behind : AllSteps step Room managers (request :: rest) ↔
        Room managers request ∧ AllSteps step Room next rest := by
      refine and_congr_right fun _ => ⟨fun all => all reply next taken, ?_⟩
      intro all reply' next' taken'
      rw [taken] at taken'
      cases taken'
      exact all
    rw [behind, ih, step_counter taken, List.countP_cons]
    by_cases registers : request.registers
    · rw [if_pos registers, if_pos registers]
      constructor
      · rintro ⟨room, later⟩
        rw [counter_of_room room registers] at later
        omega
      · intro enough
        have room : Room managers request := fun _ => by omega
        refine ⟨room, ?_⟩
        rw [counter_of_room room registers]
        omega
    · rw [if_neg registers, if_neg registers, Nat.add_zero]
      exact and_iff_right fun registered => absurd registered registers

/-- While the counter has room, a handle that is live stands for the same object until a
request deletes or sets it. -/
theorem getObj_run {requests : List (Request Manager Obj)} {replies : List (Reply Obj)}
    {handle : UInt32} (drawn : Drawn managers)
    (enough : managers.counter.toNat + requests.countP (·.registers) < 2 ^ 32)
    (live : managers.Live manager handle)
    (unchanged : ∀ request ∈ requests, ¬ request.Changes manager handle)
    (ran : run step managers requests = some (replies, next)) :
    next.Live manager handle ∧ next.getObj manager handle = managers.getObj manager handle := by
  have right := (taken_iff_room drawn requests).mpr ((room_iff_count managers requests).mpr enough)
  clear drawn enough
  induction requests generalizing managers replies with
  | nil =>
    cases ran
    exact ⟨live, rfl⟩
  | cons request rest ih =>
    obtain ⟨reply, reached, taken, ⟨_, kept⟩, behind⟩ := right
    obtain ⟨reply', reached', tail, taken', remainder, _⟩ := run_cons_inv ran
    rw [taken] at taken'
    cases taken'
    obtain ⟨still, same⟩ := kept manager handle live (unchanged request (by simp))
    obtain ⟨later, object⟩ := ih still
      (fun request member => unchanged request (by simp [member])) remainder behind
    exact ⟨later, object.trans same⟩

/-- The first object stands while another manager holds a second and lets go of it. -/
theorem first_stands :
    let one := (({} : Managers Bool Nat).newLuaObj true (some 5)).2
    let requests := [.newLuaObj false (some 6), .deleteLuaObj false 2]
    ∃ replies next, run step one requests = some (replies, next) ∧ next.getObj true 1 = some 5 := by
  intro one requests
  have live : one.Live true 1 := AList.mem_keys.mpr (by decide)
  have unchanged : ∀ request ∈ requests, ¬ request.Changes true 1 := by simp [requests, Request.Changes]
  have drawn : Drawn one := @drawn_step _ _ {} one (.newLuaObj true (some 5)) _ _ drawn_start
    (fun _ => by decide) rfl
  exact ⟨_, _, rfl, (getObj_run drawn (by decide) live unchanged rfl).2⟩

/-- In a run over any managers of one type, handles are fresh and the live ones keep their
objects exactly as long as fewer than `2 ^ 32` objects have been given handles. -/
theorem handles_fresh_iff (requests : List (Request Manager Obj)) :
    AllTaken step Right {} requests ↔ requests.countP (·.registers) < 2 ^ 32 := by
  rw [taken_iff_room drawn_start, room_iff_count]
  exact iff_of_eq (congrArg (· < 2 ^ 32) (Nat.zero_add _))

/-- The object that would need the handle `2 ^ 32` is given the handle zero. -/
theorem counter_wraps :
    ¬ ∀ requests : List (Request Unit Unit), AllTaken step Right {} requests := by
  intro all
  have enough := (room_iff_count _ _).mp ((taken_iff_room drawn_start _).mp
    (all (List.replicate (2 ^ 32) (.newLuaObj () (some ())))))
  rw [List.countP_replicate] at enough
  exact absurd enough (by decide)

end BeeSdk.LuaObjMgr
