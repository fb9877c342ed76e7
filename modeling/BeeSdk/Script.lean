/-! Scripts that may stop in an error and leave behind what they have done by then.
A script is a function of the state it starts in; `none` beside the state it stops in
says that it has raised an error. Nothing here knows what the scripts are about. -/
namespace BeeSdk

def Script (State A : Type) := State → Option A × State

namespace Script
variable {State A B : Type}

protected def pure (value : A) : Script State A := fun state => (some value, state)

/-- An error ends the script where it is raised; nothing is undone. -/
protected def bind (script : Script State A) (next : A → Script State B) : Script State B :=
  fun state =>
    match script state with
    | (some value, reached) => next value reached
    | (none, reached) => (none, reached)

instance : Monad (Script State) where
  pure := Script.pure
  bind := Script.bind

def get : Script State State := fun state => (some state, state)

def modify (change : State → State) : Script State Unit := fun state => (some (), change state)

def raise : Script State A := fun state => (none, state)

/-- The value of an expression that may raise an error of its own. -/
def ofOption : Option A → Script State A
  | some value => pure value
  | none => raise

/-- One script for every element, in order, up to the first error. -/
def each : List A → (A → Script State Unit) → Script State Unit
  | [], _ => pure ()
  | value :: rest, script => do
    script value
    each rest script

@[simp] theorem pure_apply (value : A) (state : State) :
    (pure value : Script State A) state = (some value, state) := rfl

@[simp] theorem bind_apply (script : Script State A) (next : A → Script State B) (state : State) :
    (script >>= next) state =
      match script state with
      | (some value, reached) => next value reached
      | (none, reached) => (none, reached) := rfl

@[simp] theorem discard_apply (script : Script State A) (state : State) :
    (discard script) state =
      match script state with
      | (some _, reached) => (some (), reached)
      | (none, reached) => (none, reached) := rfl

@[simp] theorem get_apply (state : State) : get state = (some state, state) := rfl

@[simp] theorem modify_apply (change : State → State) (state : State) :
    modify change state = (some (), change state) := rfl

@[simp] theorem raise_apply (state : State) : (raise : Script State A) state = (none, state) := rfl

@[simp] theorem ofOption_apply (value : Option A) (state : State) :
    (ofOption value : Script State A) state = (value, state) := by
  cases value <;> rfl

@[simp] theorem if_apply {condition : Prop} [Decidable condition] (yes no : Script State A)
    (state : State) :
    (if condition then yes else no) state = if condition then yes state else no state := by
  split <;> rfl

/-! ### What a script keeps -/

/-- Wherever the script stops, with or without an error, the relation holds between where it
started and there. -/
structure Within (relation : State → State → Prop) (script : Script State A) : Prop where
  kept : ∀ state, relation state (script state).2

/-- A relation that may be kept step by step. -/
class Frame (relation : State → State → Prop) : Prop where
  refl : ∀ state, relation state state
  trans : relation first second → relation second third → relation first third

namespace Within
variable {relation : State → State → Prop} [Frame relation]

theorem pure (value : A) : Within relation (Pure.pure value : Script State A) := ⟨Frame.refl⟩

theorem raise : Within relation (raise : Script State A) := ⟨Frame.refl⟩

theorem get : Within relation (get : Script State State) := ⟨Frame.refl⟩

theorem ofOption (value : Option A) : Within relation (ofOption value : Script State A) := by
  refine ⟨fun state => ?_⟩
  rw [ofOption_apply]
  exact Frame.refl state

theorem bind {script : Script State A} {next : A → Script State B}
    (first : Within relation script) (second : ∀ value, Within relation (next value)) :
    Within relation (script >>= next) := by
  refine ⟨fun state => ?_⟩
  have start := first.kept state
  rw [bind_apply]
  generalize script state = result at start ⊢
  obtain ⟨value | value, reached⟩ := result
  · exact start
  · exact Frame.trans start ((second value).kept reached)

omit [Frame relation] in
/-- What holds wherever the first script may stop, and behind the second where it goes on,
holds behind both. -/
theorem lead {P : State → Prop} {state : State} {script : Script State A}
    {next : A → Script State B} (first : Within relation script)
    (stops : ∀ reached, relation state reached → P reached)
    (goes : ∀ value reached, relation state reached → P (next value reached).2) :
    P ((script >>= next) state).2 := by
  have start := first.kept state
  rw [bind_apply]
  generalize script state = result at start ⊢
  obtain ⟨value | value, reached⟩ := result
  · exact stops reached start
  · exact goes value reached start

theorem discard {script : Script State A} (kept : Within relation script) :
    Within relation (discard script) :=
  kept.bind fun _ => pure _

omit [Frame relation] in
theorem branch {condition : Prop} [Decidable condition] {yes no : Script State A}
    (first : condition → Within relation yes) (second : ¬ condition → Within relation no) :
    Within relation (if condition then yes else no) := by
  split
  · exact first ‹_›
  · exact second ‹_›

theorem each {list : List A} {script : A → Script State Unit}
    (kept : ∀ value, Within relation (script value)) : Within relation (each list script) := by
  induction list with
  | nil => exact pure ()
  | cons value rest ih => exact (kept value).bind fun _ => ih

end Within

end Script
end BeeSdk
