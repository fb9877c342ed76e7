import Mathlib.Logic.Relation

/-! Runs of a machine that takes one request at a time and whose step may be
undefined. Nothing here knows which machine it is: a development supplies the
step function, an invariant or a simulation of one step, and reads the whole
run off the rules below. -/
namespace BeeSdk.Runs

variable {State Request Reply Spec Seen : Type}

/-- The replies and the final state of a whole run, undefined as soon as one
of its steps is. -/
def run (step : State → Request → Option (Reply × State)) :
    State → List Request → Option (List Reply × State)
  | state, [] => some ([], state)
  | state, request :: rest =>
    (step state request).bind fun (reply, next) =>
      (run step next rest).map fun (replies, final) => (reply :: replies, final)

/-- Every step of the run is taken from a state and a request that meet the
condition. Nothing is asked once the run has become undefined. -/
def AllSteps (step : State → Request → Option (Reply × State))
    (condition : State → Request → Prop) : State → List Request → Prop
  | _, [] => True
  | state, request :: rest => condition state request ∧
    ∀ reply next, step state request = some (reply, next) →
      AllSteps step condition next rest

instance decidableAllSteps {step : State → Request → Option (Reply × State)}
    {condition : State → Request → Prop} [∀ state request, Decidable (condition state request)] :
    ∀ state requests, Decidable (AllSteps step condition state requests)
  | _, [] => isTrue trivial
  | state, request :: rest =>
    have : Decidable (∀ reply next, step state request = some (reply, next) →
        AllSteps step condition next rest) :=
      match taken : step state request with
      | none => isTrue fun _ _ same => nomatch same
      | some (_, next) =>
        have : Decidable (AllSteps step condition next rest) := decidableAllSteps next rest
        decidable_of_iff (AllSteps step condition next rest)
          ⟨fun all _ _ same => by cases same; exact all, fun all => all _ next rfl⟩
    inferInstanceAs (Decidable (_ ∧ _))

/-- The machine beside everything it has told so far. -/
def record {Told : Type} (step : State → Request → Option (List Told × State))
    (recorded : State × List Told) (request : Request) : Option (Unit × (State × List Told)) :=
  (step recorded.1 request).map fun (told, next) => ((), (next, recorded.2 ++ told))

/-- The run of a machine all of whose steps are defined. -/
def trace (step : Spec → Request → Seen × Spec) : Spec → List Request → List Seen × Spec
  | spec, [] => ([], spec)
  | spec, request :: rest =>
    let (seen, next) := step spec request
    let (rest, final) := trace step next rest
    (seen :: rest, final)

variable {step : State → Request → Option (Reply × State)}
variable {condition : State → Request → Prop}

theorem run_cons {state next : State} {reply : Reply}
    (first : step state request = some (reply, next)) :
    run step state (request :: requests) =
      (run step next requests).map fun (replies, final) => (reply :: replies, final) := by
  simp [run, first]

theorem run_cons_some {state next final : State} {reply : Reply} {replies : List Reply}
    (first : step state request = some (reply, next))
    (rest : run step next requests = some (replies, final)) :
    run step state (request :: requests) = some (reply :: replies, final) := by
  rw [run_cons first, rest]
  rfl

theorem run_cons_none {state : State} (undefined : step state request = none) :
    run step state (request :: requests) = none := by
  simp [run, undefined]

/-- A defined run consists of a defined first step and a defined remainder. -/
theorem run_cons_inv {state final : State} {replies : List Reply}
    (ran : run step state (request :: requests) = some (replies, final)) :
    ∃ reply next rest, step state request = some (reply, next) ∧
      run step next requests = some (rest, final) ∧ replies = reply :: rest := by
  simp only [run, Option.bind_eq_some_iff, Option.map_eq_some_iff] at ran
  obtain ⟨⟨reply, next⟩, first, ⟨rest, last⟩, remainder, shape⟩ := ran
  cases shape
  exact ⟨reply, next, rest, first, remainder, rfl⟩

/-- A run over two request lists is the run over the first followed by the run
over the second from where it stopped. -/
theorem run_append {state middle final : State} {first second : List Reply}
    (left : run step state before = some (first, middle))
    (right : run step middle after = some (second, final)) :
    run step state (before ++ after) = some (first ++ second, final) := by
  induction before generalizing state first with
  | nil =>
    cases left
    simpa using right
  | cons request rest ih =>
    obtain ⟨reply, next, replies, taken, remainder, rfl⟩ := run_cons_inv left
    exact run_cons_some taken (ih remainder)

theorem trace_append (step : Spec → Request → Seen × Spec) (spec : Spec)
    (before after : List Request) :
    trace step spec (before ++ after) =
      ((trace step spec before).1 ++ (trace step (trace step spec before).2 after).1,
        (trace step (trace step spec before).2 after).2) := by
  induction before generalizing spec with
  | nil => rfl
  | cons request rest ih => simp [trace, ih]

/-- Whatever every step preserves holds at the end of every run. -/
theorem run_invariant {state final : State} {replies : List Reply} (Inv : State → Prop)
    (preserved : ∀ state request reply next, Inv state → condition state request →
      step state request = some (reply, next) → Inv next)
    (start : Inv state) (met : AllSteps step condition state requests)
    (ran : run step state requests = some (replies, final)) : Inv final := by
  induction requests generalizing state replies with
  | nil =>
    cases ran
    exact start
  | cons request rest ih =>
    obtain ⟨reply, next, tail, taken, remainder, _⟩ := run_cons_inv ran
    exact ih (preserved _ _ _ _ start met.1 taken) (met.2 _ _ taken) remainder

/-- An invariant every step preserves holds at the end of every run. -/
theorem run_preserves {state final : State} {replies : List Reply} (Inv : State → Prop)
    (preserved : ∀ state request reply next, Inv state →
      step state request = some (reply, next) → Inv next)
    (start : Inv state) (ran : run step state requests = some (replies, final)) : Inv final := by
  induction requests generalizing state replies with
  | nil =>
    cases ran
    exact start
  | cons request rest ih =>
    obtain ⟨reply, next, tail, taken, remainder, _⟩ := run_cons_inv ran
    exact ih (preserved _ _ _ _ start taken) remainder

/-- Forward simulation: where every step from related states is defined,
shows what the specification shows and stays related, so does every run. -/
theorem run_simulates {specStep : Spec → Request → Seen × Spec} {shown : Seen → Reply}
    (Related : State → Spec → Prop)
    (simulates : ∀ state spec request, Related state spec → condition state request →
      ∃ next, step state request = some (shown (specStep spec request).1, next) ∧
        Related next (specStep spec request).2)
    {state : State} {spec : Spec} (related : Related state spec)
    (met : AllSteps step condition state requests) :
    ∃ final, run step state requests = some ((trace specStep spec requests).1.map shown, final) ∧
      Related final (trace specStep spec requests).2 := by
  induction requests generalizing state spec with
  | nil => exact ⟨state, rfl, related⟩
  | cons request rest ih =>
    obtain ⟨next, taken, nextRelated⟩ := simulates state spec request related met.1
    obtain ⟨final, remainder, finalRelated⟩ := ih nextRelated (met.2 _ _ taken)
    exact ⟨final, run_cons_some taken remainder, finalRelated⟩

theorem AllSteps.of_prefix {state : State} (met : AllSteps step condition state requests)
    (first : made <+: requests) : AllSteps step condition state made := by
  induction made generalizing state requests with
  | nil => trivial
  | cons request rest ih =>
    obtain ⟨behind, rfl⟩ := first
    exact ⟨met.1, fun reply next taken => ih (met.2 reply next taken) ⟨behind, rfl⟩⟩

/-- A condition the requests meet in every state is met by all steps. -/
theorem AllSteps.of_forall {state : State}
    (met : ∀ state, ∀ request ∈ requests, condition state request) :
    AllSteps step condition state requests := by
  induction requests generalizing state with
  | nil => trivial
  | cons request rest ih =>
    exact ⟨met state request (by simp), fun _ _ _ =>
      ih fun state request member => met state request (by simp [member])⟩

/-- Along a defined run a condition may be exchanged for one it implies where
the step is defined. -/
theorem AllSteps.imp_of_defined {state final : State} {replies : List Reply}
    {weaker : State → Request → Prop}
    (implies : ∀ state request reply next, step state request = some (reply, next) →
      condition state request → weaker state request)
    (ran : run step state requests = some (replies, final))
    (met : AllSteps step condition state requests) : AllSteps step weaker state requests := by
  induction requests generalizing state replies with
  | nil => trivial
  | cons request rest ih =>
    obtain ⟨reply, next, tail, taken, remainder, _⟩ := run_cons_inv ran
    refine ⟨implies _ _ _ _ taken met.1, fun reply' next' taken' => ?_⟩
    rw [taken] at taken'
    cases taken'
    exact ih remainder (met.2 _ _ taken)

/-- A condition may be exchanged for one it implies under an invariant. -/
theorem AllSteps.imp {state : State} {weaker : State → Request → Prop} (Inv : State → Prop)
    (Allowed : Request → Prop)
    (preserved : ∀ state request reply next, Inv state → Allowed request →
      condition state request → step state request = some (reply, next) → Inv next)
    (implies : ∀ state request, Inv state → Allowed request → condition state request →
      weaker state request)
    (allowed : ∀ request ∈ requests, Allowed request) (start : Inv state)
    (met : AllSteps step condition state requests) : AllSteps step weaker state requests := by
  induction requests generalizing state with
  | nil => trivial
  | cons request rest ih =>
    have head := allowed request (by simp)
    refine ⟨implies _ _ start head met.1, fun reply next taken => ?_⟩
    exact ih (fun r member => allowed r (by simp [member]))
      (preserved _ _ _ _ start head met.1 taken) (met.2 _ _ taken)

/-- Where a request that misses the condition is undefined, a defined run
misses it nowhere. -/
theorem all_steps_of_defined {state final : State} {replies : List Reply} (Inv : State → Prop)
    (Allowed : Request → Prop)
    (preserved : ∀ state request reply next, Inv state → Allowed request →
      condition state request → step state request = some (reply, next) → Inv next)
    (undefined : ∀ state request, Inv state → Allowed request → ¬ condition state request →
      step state request = none)
    (allowed : ∀ request ∈ requests, Allowed request) (start : Inv state)
    (ran : run step state requests = some (replies, final)) :
    AllSteps step condition state requests := by
  induction requests generalizing state replies with
  | nil => trivial
  | cons request rest ih =>
    have head := allowed request (by simp)
    obtain ⟨reply, next, tail, taken, remainder, _⟩ := run_cons_inv ran
    have met : condition state request := by
      apply Classical.byContradiction
      intro missed
      rw [undefined state request start head missed] at taken
      cases taken
    refine ⟨met, fun reply' next' taken' => ?_⟩
    rw [taken] at taken'
    cases taken'
    exact ih (fun r member => allowed r (by simp [member]))
      (preserved _ _ _ _ start head met taken) remainder

/-- Where a step that misses the condition leads to a state that is not good, a
defined run all of whose states are good misses it nowhere. -/
theorem all_steps_of_reached {state final : State} {replies : List Reply} (Inv Good : State → Prop)
    (Allowed : Request → Prop)
    (preserved : ∀ state request reply next, Inv state → Allowed request →
      condition state request → step state request = some (reply, next) → Inv next)
    (needed : ∀ state request reply next, Inv state → Allowed request →
      step state request = some (reply, next) → Good next → condition state request)
    (allowed : ∀ request ∈ requests, Allowed request) (start : Inv state)
    (ran : run step state requests = some (replies, final))
    (good : ∀ made, made <+: requests → ∀ replies reached,
      run step state made = some (replies, reached) → Good reached) :
    AllSteps step condition state requests := by
  induction requests generalizing state replies with
  | nil => trivial
  | cons request rest ih =>
    have head := allowed request (by simp)
    obtain ⟨reply, next, tail, taken, remainder, _⟩ := run_cons_inv ran
    have reached : Good next :=
      good [request] ⟨rest, rfl⟩ [reply] next (run_cons_some taken rfl)
    have met := needed _ _ _ _ start head taken reached
    refine ⟨met, fun reply' next' taken' => ?_⟩
    rw [taken] at taken'
    cases taken'
    refine ih (fun r member => allowed r (by simp [member])) (preserved _ _ _ _ start head met taken)
      remainder fun made first replies' reached' ran' => ?_
    exact good (request :: made) (List.cons_prefix_cons.mpr ⟨rfl, first⟩) _ _
      (run_cons_some taken ran')

/-- Where an invariant makes a state good and a good state needs the condition of
the step that leads to it, all states of a run are good exactly when all its steps
meet the condition. -/
theorem all_reached_iff {state final : State} {replies : List Reply} (Inv Good : State → Prop)
    (Allowed : Request → Prop)
    (preserved : ∀ state request reply next, Inv state → Allowed request →
      condition state request → step state request = some (reply, next) → Inv next)
    (needed : ∀ state request reply next, Inv state → Allowed request →
      step state request = some (reply, next) → Good next → condition state request)
    (good : ∀ state, Inv state → Good state)
    (allowed : ∀ request ∈ requests, Allowed request) (start : Inv state)
    (ran : run step state requests = some (replies, final)) :
    (∀ made, made <+: requests → ∀ replies reached,
      run step state made = some (replies, reached) → Good reached) ↔
      AllSteps step condition state requests := by
  constructor
  · exact all_steps_of_reached Inv Good Allowed preserved needed allowed start ran
  · intro met made first replies reached ran'
    have both : AllSteps step (fun state request => Allowed request ∧ condition state request)
        state requests :=
      met.imp Inv Allowed preserved (fun _ _ _ head here => ⟨head, here⟩) allowed start
    apply good
    exact run_invariant Inv (fun _ _ _ _ inv here taken => preserved _ _ _ _ inv here.1 here.2 taken)
      start (both.of_prefix first) ran'

/-- Where a reply is good exactly when its step meets the condition, all replies
of a run are exactly when all its steps do. -/
theorem all_replies_iff {state final : State} {replies : List Reply} (Good : Reply → Prop)
    (exact_step : ∀ state request reply next, step state request = some (reply, next) →
      (Good reply ↔ condition state request))
    (ran : run step state requests = some (replies, final)) :
    (∀ reply ∈ replies, Good reply) ↔ AllSteps step condition state requests := by
  induction requests generalizing state replies with
  | nil =>
    cases ran
    exact ⟨fun _ => trivial, fun _ _ member => by cases member⟩
  | cons request rest ih =>
    obtain ⟨reply, next, tail, taken, remainder, rfl⟩ := run_cons_inv ran
    rw [List.forall_mem_cons, ih remainder, exact_step state request reply next taken]
    constructor
    · rintro ⟨met, rest⟩
      refine ⟨met, fun reply' next' taken' => ?_⟩
      rw [taken] at taken'
      cases taken'
      exact rest
    · rintro ⟨met, rest⟩
      exact ⟨met, rest reply next taken⟩

/-- Every step of the run is defined and good for the state and the request it is
taken from, its reply and the state it leaves. -/
def AllTaken (step : State → Request → Option (Reply × State))
    (good : State → Request → Reply → State → Prop) : State → List Request → Prop
  | _, [] => True
  | state, request :: rest => ∃ reply next, step state request = some (reply, next) ∧
    good state request reply next ∧ AllTaken step good next rest

/-- Where, under an invariant, every step that meets the condition is defined, good and
keeps the invariant, all steps of a run that meets it are taken and good. -/
theorem all_taken_of_steps {good : State → Request → Reply → State → Prop} (Inv : State → Prop)
    (taken : ∀ state request, Inv state → condition state request →
      ∃ reply next, step state request = some (reply, next) ∧ good state request reply next ∧
        Inv next)
    (start : Inv state) (met : AllSteps step condition state requests) :
    AllTaken step good state requests := by
  induction requests generalizing state with
  | nil => trivial
  | cons request rest ih =>
    obtain ⟨reply, next, here, kept, held⟩ := taken state request start met.1
    exact ⟨reply, next, here, kept, ih held (met.2 reply next here)⟩

/-- Where, under an invariant, every step that meets the condition is good and keeps the
invariant, all steps of a defined run that meets it are good. -/
theorem all_taken_of_defined {good : State → Request → Reply → State → Prop} {state final : State}
    {replies : List Reply} (Inv : State → Prop)
    (kept : ∀ state request reply next, Inv state → condition state request →
      step state request = some (reply, next) → good state request reply next ∧ Inv next)
    (start : Inv state) (met : AllSteps step condition state requests)
    (ran : run step state requests = some (replies, final)) : AllTaken step good state requests := by
  induction requests generalizing state replies with
  | nil => trivial
  | cons request rest ih =>
    obtain ⟨reply, next, tail, taken, remainder, _⟩ := run_cons_inv ran
    obtain ⟨here, held⟩ := kept _ _ _ _ start met.1 taken
    exact ⟨reply, next, taken, here, ih held (met.2 reply next taken) remainder⟩

/-- What every good step leads to holds where the run ends. -/
theorem AllTaken.final {good : State → Request → Reply → State → Prop} (Inv : State → Prop)
    {state final : State} {replies : List Reply}
    (leads : ∀ state request reply next, good state request reply next → Inv next)
    (all : AllTaken step good state requests) (start : Inv state)
    (ran : run step state requests = some (replies, final)) : Inv final := by
  induction requests generalizing state replies with
  | nil =>
    cases ran
    exact start
  | cons request rest ih =>
    obtain ⟨reply, next, taken, here, behind⟩ := all
    obtain ⟨reply', next', tail, taken', remainder, _⟩ := run_cons_inv ran
    rw [taken] at taken'
    cases taken'
    exact ih behind (leads _ _ _ _ here) remainder

/-- Where, under an invariant, a step is defined and good exactly when it meets the
condition, all steps of a run are. -/
theorem all_taken_iff {good : State → Request → Reply → State → Prop} (Inv : State → Prop)
    (exact_step : ∀ state request, Inv state →
      ((∃ reply next, step state request = some (reply, next) ∧ good state request reply next) ↔
        condition state request))
    (preserved : ∀ state request reply next, Inv state → condition state request →
      step state request = some (reply, next) → Inv next)
    (start : Inv state) :
    AllTaken step good state requests ↔ AllSteps step condition state requests := by
  induction requests generalizing state with
  | nil => exact Iff.rfl
  | cons request rest ih =>
    constructor
    · rintro ⟨reply, next, taken, here, behind⟩
      have met := (exact_step state request start).mp ⟨reply, next, taken, here⟩
      refine ⟨met, fun reply' next' taken' => ?_⟩
      rw [taken] at taken'
      cases taken'
      exact (ih (preserved _ _ _ _ start met taken)).mp behind
    · rintro ⟨met, behind⟩
      obtain ⟨reply, next, taken, here⟩ := (exact_step state request start).mpr met
      exact ⟨reply, next, taken, here,
        (ih (preserved _ _ _ _ start met taken)).mpr (behind reply next taken)⟩

/-- Where, under an invariant, a step with an allowed request that is defined is good exactly
when it meets the condition, all steps of a defined run with such requests are. -/
theorem taken_iff_of_allowed {good : State → Request → Reply → State → Prop} {state final : State}
    {replies : List Reply} (Inv : State → Prop) (Allowed : Request → Prop)
    (exact_step : ∀ state request reply next, Inv state → Allowed request →
      step state request = some (reply, next) →
      (good state request reply next ↔ condition state request))
    (preserved : ∀ state request reply next, Inv state → Allowed request → condition state request →
      step state request = some (reply, next) → Inv next)
    (allowed : ∀ request ∈ requests, Allowed request) (start : Inv state)
    (ran : run step state requests = some (replies, final)) :
    AllTaken step good state requests ↔ AllSteps step condition state requests := by
  induction requests generalizing state replies with
  | nil => exact Iff.rfl
  | cons request rest ih =>
    obtain ⟨reply, next, tail, taken, remainder, _⟩ := run_cons_inv ran
    have head := allowed request (by simp)
    have others : ∀ request ∈ rest, Allowed request := fun r member => allowed r (by simp [member])
    constructor
    · rintro ⟨reply', next', taken', here, behind⟩
      have met := (exact_step _ _ _ _ start head taken').mp here
      refine ⟨met, fun reply'' next'' taken'' => ?_⟩
      rw [taken] at taken' taken''
      cases taken'
      cases taken''
      exact (ih others (preserved _ _ _ _ start head met taken) remainder).mp behind
    · rintro ⟨met, behind⟩
      exact ⟨reply, next, taken, (exact_step _ _ _ _ start head taken).mpr met,
        (ih others (preserved _ _ _ _ start head met taken) remainder).mpr (behind reply next taken)⟩

/-- Where, under an invariant, a step that is defined is good exactly when it meets the
condition, all steps of a defined run are. -/
theorem taken_iff_of_defined {good : State → Request → Reply → State → Prop} {state final : State}
    {replies : List Reply} (Inv : State → Prop)
    (exact_step : ∀ state request reply next, Inv state →
      step state request = some (reply, next) →
      (good state request reply next ↔ condition state request))
    (preserved : ∀ state request reply next, Inv state → condition state request →
      step state request = some (reply, next) → Inv next)
    (start : Inv state) (ran : run step state requests = some (replies, final)) :
    AllTaken step good state requests ↔ AllSteps step condition state requests :=
  taken_iff_of_allowed Inv (fun _ => True)
    (fun _ _ _ _ inv _ taken => exact_step _ _ _ _ inv taken)
    (fun _ _ _ _ inv _ met taken => preserved _ _ _ _ inv met taken) (fun _ _ => trivial) start ran

/-- Where every step from a state with the invariant is defined, good and keeps the
invariant, all steps of a run are. -/
theorem all_taken_of_invariant {good : State → Request → Reply → State → Prop} (Inv : State → Prop)
    (handles : ∀ state request, Inv state → ∃ reply next,
      step state request = some (reply, next) ∧ good state request reply next ∧ Inv next)
    (start : Inv state) (requests : List Request) : AllTaken step good state requests := by
  induction requests generalizing state with
  | nil => trivial
  | cons request rest ih =>
    obtain ⟨reply, next, taken, here, after⟩ := handles state request start
    exact ⟨reply, next, taken, here, ih after⟩

/-- A recorded step is a step of the machine with what it told put behind the rest. -/
theorem record_inv {Told : Type} {step : State → Request → Option (List Told × State)}
    {recorded next : State × List Told} {reply : Unit}
    (taken : record step recorded request = some (reply, next)) :
    ∃ told, step recorded.1 request = some (told, next.1) ∧ next.2 = recorded.2 ++ told := by
  simp only [record, Option.map_eq_some_iff] at taken
  obtain ⟨⟨told, state⟩, made, same⟩ := taken
  cases same
  exact ⟨told, made, rfl⟩

/-! ### States nobody can tell apart -/

/-- Over every list of requests the two states make the same replies. -/
def Alike (step : State → Request → Option (Reply × State)) (left right : State) : Prop :=
  ∀ requests, (run step left requests).map Prod.fst = (run step right requests).map Prod.fst

private theorem replies_cons {state next : State} {reply : Reply}
    (first : step state request = some (reply, next)) :
    (run step state (request :: requests)).map Prod.fst =
      ((run step next requests).map Prod.fst).map (reply :: ·) := by
  rw [run_cons first, Option.map_map, Option.map_map]
  rfl

/-- After a step from states that are alike, the replies are the same and the
states still alike. -/
theorem Alike.after {left right next other : State} {reply reply' : Reply}
    (alike : Alike step left right) (taken : step left request = some (reply, next))
    (taken' : step right request = some (reply', other)) :
    reply = reply' ∧ Alike step next other := by
  have first := alike [request]
  rw [replies_cons taken, replies_cons taken'] at first
  cases first
  refine ⟨rfl, fun requests => ?_⟩
  have rest := alike (request :: requests)
  rw [replies_cons taken, replies_cons taken'] at rest
  exact Option.map_injective (fun _ _ => List.tail_eq_of_cons_eq) rest

/-- A bisimulation relates only states that are alike. -/
theorem alike_of_bisimulation (Related : State → State → Prop)
    (simulates : ∀ left right request, Related left right →
      (step left request = none ∧ step right request = none) ∨
      ∃ reply next other, step left request = some (reply, next) ∧
        step right request = some (reply, other) ∧ Related next other)
    {left right : State} (related : Related left right) : Alike step left right := by
  intro requests
  induction requests generalizing left right with
  | nil => rfl
  | cons request rest ih =>
    rcases simulates left right request related with
      ⟨undefined, undefined'⟩ | ⟨reply, next, other, taken, taken', related⟩
    · rw [run_cons_none undefined, run_cons_none undefined']
    · rw [replies_cons taken, replies_cons taken', ih related]

/-! ### Machines that run by themselves -/

/-- The states the machine passes through from the start, the start included. -/
def Passes (next : State → Option State) (start passed : State) : Prop :=
  Relation.ReflTransGen (fun before after => next before = some after) start passed

/-- The machine runs from the start to a state in which nothing is left to do. -/
def Settles (next : State → Option State) (start final : State) : Prop :=
  Passes next start final ∧ next final = none

/-- The states in which a machine is found at rest when requests are put to it
one after the other, each to a machine at rest and each under the condition on
the state it is put to and the state it leads to at once. -/
inductive Served (next : State → Option State) (ask : State → Request → Option State)
    (condition : State → State → Prop) (start : State) : State → Prop where
  | start : Served next ask condition start start
  | request (served : Served next ask condition start state) (asked : ask state request = some begun)
      (met : condition state begun) (settles : Settles next begun final) :
      Served next ask condition start final

theorem settles_step {next : State → Option State} (taken : next start = some middle)
    (settles : Settles next middle final) : Settles next start final :=
  ⟨Relation.ReflTransGen.head taken settles.1, settles.2⟩

/-- A machine all of whose steps make a weight smaller settles. -/
theorem settles_of_decreasing {next : State → Option State} (weight : State → Nat)
    (decreases : ∀ before after, next before = some after → weight after < weight before)
    (start : State) : ∃ final, Settles next start final := by
  generalize bound : weight start = limit
  induction limit using Nat.strongRecOn generalizing start with
  | ind limit ih =>
    cases taken : next start with
    | none => exact ⟨start, .refl, taken⟩
    | some middle =>
      obtain ⟨final, settles⟩ := ih _ (bound ▸ decreases _ _ taken) middle rfl
      exact ⟨final, settles_step taken settles⟩

/-- Whatever every step from a state that meets the condition preserves holds in
every state passed, when all of them meet it. -/
theorem passes_invariant {next : State → Option State} {condition : State → Prop}
    (Inv : State → Prop)
    (preserved : ∀ before after, Inv before → condition before → next before = some after → Inv after)
    (begins : Inv start) (met : ∀ passed, Passes next start passed → condition passed)
    (passes : Passes next start passed) : Inv passed := by
  induction passes with
  | refl => exact begins
  | tail before taken ih => exact preserved _ _ ih (met _ before) taken

theorem all_passed_of_step {next : State → Option State} {condition : State → Prop}
    (taken : next start = some middle) (here : condition start)
    (behind : ∀ passed, Passes next middle passed → condition passed) :
    ∀ passed, Passes next start passed → condition passed := by
  intro passed passes
  rcases Relation.ReflTransGen.cases_head passes with rfl | ⟨other, taken', remainder⟩
  · exact here
  · rw [taken] at taken'
    cases taken'
    exact behind passed remainder

theorem all_passed_at_rest {next : State → Option State} {condition : State → Prop}
    (rest : next final = none) (here : condition final) :
    ∀ passed, Passes next final passed → condition passed := by
  intro passed passes
  rcases Relation.ReflTransGen.cases_head passes with rfl | ⟨other, taken, _⟩
  · exact here
  · rw [rest] at taken
    cases taken

/-- A machine settles in one state only. -/
theorem settles_unique {next : State → Option State} (first : Settles next start final)
    (second : Settles next start other) : final = other := by
  obtain ⟨path, ended⟩ := first
  induction path using Relation.ReflTransGen.head_induction_on with
  | refl =>
    obtain ⟨others, _⟩ := second
    rcases Relation.ReflTransGen.cases_head others with same | ⟨middle, taken, _⟩
    · exact same
    · rw [ended] at taken
      cases taken
  | head taken _ ih =>
    obtain ⟨others, rests⟩ := second
    rcases Relation.ReflTransGen.cases_head others with same | ⟨middle, taken', remainder⟩
    · rw [← same, taken] at rests
      cases rests
    · rw [taken] at taken'
      cases taken'
      exact ih ⟨remainder, rests⟩

end BeeSdk.Runs
