import Mathlib.Logic.Basic

/-! Computations that may be undefined and log what they use. `All` says that a
computation is defined, that everything it used is allowed and what it returns,
`Always` only what it returns when it is defined: their rules are equivalences, so a
whole computation is taken apart with them. -/
namespace BeeSdk

variable {Use α β : Type}

/-- The uses in order and the result; `none` where the computation is undefined. -/
def Logged (Use α : Type) : Type := Option (List Use × α)

namespace Logged

protected def pure (a : α) : Logged Use α := some ([], a)

protected def bind (first : Logged Use α) (rest : α → Logged Use β) : Logged Use β :=
  Option.bind first fun (uses, a) => Option.map (fun (more, b) => (uses ++ more, b)) (rest a)

instance : Monad (Logged Use) where
  pure := Logged.pure
  bind := Logged.bind

/-- Something is used. -/
def use (used : Use) : Logged Use Unit := some ([used], ())

/-- A part that uses nothing and may be undefined. -/
def lift (part : Option α) : Logged Use α := part.map fun a => ([], a)

/-- Defined, with allowed uses only and a good result. -/
def All (Allowed : Use → Prop) (computation : Logged Use α) (Good : α → Prop) : Prop :=
  ∃ uses a, computation = some (uses, a) ∧ (∀ used ∈ uses, Allowed used) ∧ Good a

variable {Allowed : Use → Prop}

@[simp] theorem all_pure (Good : α → Prop) (a : α) :
    All Allowed (pure a : Logged Use α) Good ↔ Good a := by
  constructor
  · rintro ⟨uses, b, same, _, good⟩
    cases same
    exact good
  · intro good
    exact ⟨[], a, rfl, by simp, good⟩

@[simp] theorem all_bind (Good : β → Prop) (first : Logged Use α) (rest : α → Logged Use β) :
    All Allowed (first >>= rest) Good ↔ All Allowed first fun a => All Allowed (rest a) Good := by
  constructor
  · rintro ⟨uses, b, same, allowed, good⟩
    obtain ⟨⟨before, a⟩, made, behind⟩ := Option.bind_eq_some_iff.mp same
    obtain ⟨⟨more, c⟩, ended, together⟩ := Option.map_eq_some_iff.mp behind
    cases together
    refine ⟨before, a, made, fun used member => allowed used (List.mem_append_left _ member), ?_⟩
    exact ⟨more, b, ended, fun used member => allowed used (List.mem_append_right _ member), good⟩
  · rintro ⟨before, a, made, allowed, more, b, ended, also_allowed, good⟩
    refine ⟨before ++ more, b, ?_, ?_, good⟩
    · cases made
      simp only [bind, Logged.bind, ended, Option.bind_some, Option.map_some]
      rfl
    · intro used member
      exact (List.mem_append.mp member).elim (allowed used) (also_allowed used)

@[simp] theorem all_use (Good : Unit → Prop) (used : Use) :
    All Allowed (use used) Good ↔ Allowed used ∧ Good () := by
  constructor
  · rintro ⟨uses, a, same, allowed, good⟩
    cases same
    exact ⟨allowed used (List.mem_singleton_self used), good⟩
  · rintro ⟨allowed, good⟩
    refine ⟨[used], (), rfl, fun other member => ?_, good⟩
    rwa [List.mem_singleton.mp member]

@[simp] theorem all_lift (Good : α → Prop) (part : Option α) :
    All Allowed (lift part : Logged Use α) Good ↔ ∃ a, part = some a ∧ Good a := by
  constructor
  · rintro ⟨uses, a, same, _, good⟩
    obtain ⟨b, defined, together⟩ := Option.map_eq_some_iff.mp same
    cases together
    exact ⟨a, defined, good⟩
  · rintro ⟨a, defined, good⟩
    refine ⟨[], a, ?_, by simp, good⟩
    rw [defined]
    rfl

/-- Whatever is used, a defined result is good. -/
def Always (computation : Logged Use α) (Good : α → Prop) : Prop :=
  ∀ uses a, computation = some (uses, a) → Good a

theorem Always.imp {computation : Logged Use α} {Good Better : α → Prop}
    (always : Always computation Good) (better : ∀ a, Good a → Better a) :
    Always computation Better :=
  fun uses a same => better a (always uses a same)

@[simp] theorem always_pure (Good : α → Prop) (a : α) :
    Always (pure a : Logged Use α) Good ↔ Good a := by
  constructor
  · intro always
    exact always [] a rfl
  · intro good uses b same
    cases same
    exact good

@[simp] theorem always_bind (Good : β → Prop) (first : Logged Use α) (rest : α → Logged Use β) :
    Always (first >>= rest) Good ↔ Always first fun a => Always (rest a) Good := by
  constructor
  · intro always before a made more b ended
    refine always (before ++ more) b ?_
    cases made
    simp only [bind, Logged.bind, ended, Option.bind_some, Option.map_some]
    rfl
  · intro always uses b same
    obtain ⟨⟨before, a⟩, made, behind⟩ := Option.bind_eq_some_iff.mp same
    obtain ⟨⟨more, c⟩, ended, together⟩ := Option.map_eq_some_iff.mp behind
    cases together
    exact always before a made more b ended

@[simp] theorem always_use (Good : Unit → Prop) (used : Use) :
    Always (use used) Good ↔ Good () := by
  constructor
  · intro always
    exact always [used] () rfl
  · intro good uses a _
    exact good

@[simp] theorem always_lift (Good : α → Prop) (part : Option α) :
    Always (lift part : Logged Use α) Good ↔ ∀ a, part = some a → Good a := by
  constructor
  · intro always a defined
    refine always [] a ?_
    rw [defined]
    rfl
  · intro good uses a same
    obtain ⟨b, defined, together⟩ := Option.map_eq_some_iff.mp same
    cases together
    exact good a defined

end Logged
end BeeSdk
