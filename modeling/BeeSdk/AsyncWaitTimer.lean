import BeeSdk.Runs
import Mathlib.Algebra.Group.Int.Defs
import Mathlib.Algebra.Group.Nat.Defs

/-! `AsyncWaitTimer` on a timer of the io service. Arming it again completes the wait that
is pending with `operation_aborted`, and `on_timer` is bound without the error code, so it
cannot tell such a wait from one that is over. -/
namespace BeeSdk.WaitTimer
open Runs

/-- How a wait ended. -/
inductive Outcome where
  | expired
  | aborted
  deriving DecidableEq

/-- `waits` counts what is armed on the io service's timer, `handlers` are the completed
waits whose handler has yet to run. A wait may expire at any time: whether `immediately_`
makes its time zero does not matter here. -/
structure AsyncWaitTimer where
  totalTimes : Int
  deadMillSeconds : Int
  isCancel : Bool := false
  invokeTimes : Int := 0
  waitFunc : Option Nat := none
  waits : Nat := 0
  handlers : List Outcome := []
  deriving DecidableEq

/-- A call of the user function, and how the wait ended that it is made for. -/
structure Called where
  waitFunc : Nat
  invokeTimes : Int
  outcome : Outcome
  deriving DecidableEq

/-- What a user of the timer does, outside its function or in it. -/
inductive Action where
  | asyncWait (waitFunc : Option Nat)
  | reAsyncWait
  | cancel
  deriving DecidableEq

inductive Event where
  | does (action : Action)
  /-- The time of what is armed is over. -/
  | expires
  /-- The io service runs the next handler; if it calls the user function, that does this. -/
  | handles (inside : List Action)
  deriving DecidableEq

namespace AsyncWaitTimer
variable (timer : AsyncWaitTimer)

/-- `expires_from_now` and `async_wait` of the io service's timer. -/
def arm : AsyncWaitTimer :=
  { timer with
    handlers := timer.handlers ++ List.replicate timer.waits .aborted
    waits := 1 }

/-- Whether a wait is begun at all. -/
def begins : Bool := ¬ timer.isCancel ∧ timer.deadMillSeconds ≠ 0

def act (action : Action) : AsyncWaitTimer :=
  match action with
  | .asyncWait waitFunc =>
    if timer.begins then { timer with waitFunc, invokeTimes := 0 }.arm else timer
  | .reAsyncWait => if timer.begins then timer.arm else timer
  | .cancel =>
    { timer with
      isCancel := true
      handlers := timer.handlers ++ List.replicate timer.waits .aborted
      waits := 0 }

/-- Whether `on_timer` arms the timer itself once the user function is through. -/
def repeats : Bool := timer.totalTimes < 0 ∨ (timer.totalTimes > 0 ∧ timer.invokeTimes < timer.totalTimes)

/-- The waits that are under way: armed, or over and not yet handled. -/
def outstanding : Nat := timer.waits + timer.handlers.length

end AsyncWaitTimer

/-- The timer, beside it how often the user function was called since it was given, and
whether the timer was cancelled. -/
structure Observed where
  timer : AsyncWaitTimer
  made : Nat := 0
  cancelled : Bool := false
  deriving DecidableEq

namespace Observed

def act (observed : Observed) (action : Action) : Observed where
  timer := observed.timer.act action
  made := match action with
    | .asyncWait _ => if observed.timer.begins then 0 else observed.made
    | .reAsyncWait => observed.made
    | .cancel => observed.made
  cancelled := observed.cancelled || action = .cancel

/-- One call more. -/
def invoked (observed : Observed) : Observed :=
  { observed with
    timer := { observed.timer with invokeTimes := observed.timer.invokeTimes + 1 }
    made := observed.made + 1 }

/-- The rest of `on_timer`, behind the user function. -/
def rearmed (observed : Observed) : Observed :=
  if observed.timer.repeats then { observed with timer := observed.timer.arm } else observed

/-- `on_timer` for a wait that ended so, undefined where the counter overflows. -/
def onTimer (observed : Observed) (outcome : Outcome) (inside : List Action) :
    Option (Option Called × Observed) :=
  match observed.timer.waitFunc with
  | none => some (none, observed)
  | some waitFunc =>
    if observed.timer.isCancel then some (none, observed)
    else if observed.timer.invokeTimes = 2 ^ 31 - 1 then none
    else some (some ⟨waitFunc, observed.timer.invokeTimes, outcome⟩,
      (inside.foldl act observed.invoked).rearmed)

/-- A completed wait is taken off. -/
def popped (observed : Observed) : Observed :=
  { observed with timer := { observed.timer with handlers := observed.timer.handlers.tail } }

end Observed

/-- Undefined too where nothing can expire or be handled. -/
def step (observed : Observed) : Event → Option (Option Called × Observed)
  | .does action => some (none, observed.act action)
  | .expires =>
    if observed.timer.waits = 0 then none
    else some (none, { observed with timer := { observed.timer with
      waits := 0
      handlers := observed.timer.handlers ++ List.replicate observed.timer.waits .expired } })
  | .handles inside =>
    match observed.timer.handlers with
    | [] => none
    | outcome :: _ => observed.popped.onTimer outcome inside

/-- The user function is called for a wait that expired, before any cancel, with the number
of calls made so far and no more often than wanted; one wait at most is under way. -/
structure Kept (observed : Observed) (_ : Event) (reply : Option Called) (next : Observed) : Prop where
  expired : ∀ call ∈ reply, call.outcome = .expired
  live : reply.isSome → observed.cancelled = false
  consecutive : ∀ call ∈ reply, call.invokeTimes = observed.made
  few : ∀ call ∈ reply, 0 < observed.timer.totalTimes → observed.made < observed.timer.totalTimes
  single : next.timer.outstanding ≤ 1

/-- A wait is begun by hand only while none is under way, and begun again only while calls
are left. -/
def Careful (timer : AsyncWaitTimer) : Action → Prop
  | .asyncWait _ => timer.begins = true → timer.outstanding = 0
  | .reAsyncWait => timer.begins = true → timer.outstanding = 0 ∧
    (0 < timer.totalTimes → timer.invokeTimes < timer.totalTimes)
  | .cancel => True

/-- The same for every action of the user function, which begins no wait where `on_timer`
counts the calls or repeats without end. -/
def CarefulInside : AsyncWaitTimer → List Action → Prop
  | _, [] => True
  | timer, action :: rest => Careful timer action ∧
    (action ≠ .cancel → timer.begins = true → timer.totalTimes = 0) ∧
    CarefulInside (timer.act action) rest

/-- What the user function does counts only where it is called. -/
def CarefulEvent (observed : Observed) : Event → Prop
  | .does action => Careful observed.timer action
  | .expires => True
  | .handles inside =>
    observed.timer.waitFunc.isSome → observed.timer.isCancel = false →
      CarefulInside observed.popped.invoked.timer inside

instance (timer : AsyncWaitTimer) : ∀ action, Decidable (Careful timer action)
  | .asyncWait _ => inferInstanceAs (Decidable (_ = true → _))
  | .reAsyncWait => inferInstanceAs (Decidable (_ = true → _ ∧ (_ → _)))
  | .cancel => isTrue trivial

instance decidableCarefulInside : ∀ timer inside, Decidable (CarefulInside timer inside)
  | _, [] => isTrue trivial
  | timer, action :: rest =>
    have : Decidable (CarefulInside (timer.act action) rest) := decidableCarefulInside _ rest
    inferInstanceAs (Decidable (_ ∧ _ ∧ _))

instance (observed : Observed) : ∀ event, Decidable (CarefulEvent observed event)
  | .does action => inferInstanceAs (Decidable (Careful _ action))
  | .expires => isTrue trivial
  | .handles inside => inferInstanceAs (Decidable (_ → _ → CarefulInside _ inside))

/-! ### What holds between two events -/

/-- The account agrees with the timer. While the timer is not cancelled what is under way
has not been aborted and has a call left. -/
structure Books (observed : Observed) : Prop where
  counted : observed.timer.invokeTimes = observed.made
  cancelled : observed.timer.isCancel = observed.cancelled
  single : observed.timer.outstanding ≤ 1
  running : observed.timer.isCancel = false → .aborted ∉ observed.timer.handlers
  left : observed.timer.isCancel = false → 0 < observed.timer.totalTimes →
    observed.timer.outstanding ≠ 0 → observed.timer.invokeTimes < observed.timer.totalTimes

variable {observed next : Observed}

theorem outstanding_zero {timer : AsyncWaitTimer} (none_left : timer.outstanding = 0) :
    timer.waits = 0 ∧ timer.handlers = [] := by
  rw [AsyncWaitTimer.outstanding] at none_left
  exact ⟨by omega, List.eq_nil_of_length_eq_zero (by omega)⟩

/-- Armed while nothing is under way, a timer has one wait and no handler. -/
theorem arm_idle {timer : AsyncWaitTimer} (none_left : timer.outstanding = 0) :
    timer.arm = { timer with waits := 1, handlers := [] } := by
  obtain ⟨waits, handlers⟩ := outstanding_zero none_left
  rw [AsyncWaitTimer.arm, waits, handlers]
  rfl

/-- What a timer begun is: its account agrees and it has the call left it needs. -/
theorem books_armed (counted : observed.timer.invokeTimes = observed.made)
    (cancelled : observed.timer.isCancel = observed.cancelled)
    (none_left : observed.timer.outstanding = 0)
    (left : 0 < observed.timer.totalTimes → observed.timer.isCancel = false →
      observed.timer.invokeTimes < observed.timer.totalTimes) :
    Books { observed with timer := observed.timer.arm } := by
  rw [arm_idle none_left]
  exact ⟨counted, cancelled, Nat.le_refl 1, fun _ => List.not_mem_nil, fun live total _ => left total live⟩

theorem books_act {action : Action} (books : Books observed) (careful : Careful observed.timer action) :
    Books (observed.act action) := by
  cases action with
  | asyncWait waitFunc =>
    rw [Observed.act, AsyncWaitTimer.act]
    by_cases begins : observed.timer.begins = true
    · rw [if_pos begins, if_pos begins]
      have idle := careful begins
      exact @books_armed ⟨{ observed.timer with waitFunc, invokeTimes := 0 }, 0, observed.cancelled || false⟩
        rfl (by simpa using books.cancelled) idle fun total _ => total
    · rw [if_neg begins, if_neg begins]
      simpa using books
  | reAsyncWait =>
    rw [Observed.act, AsyncWaitTimer.act]
    by_cases begins : observed.timer.begins = true
    · rw [if_pos begins]
      obtain ⟨idle, left⟩ := careful begins
      exact @books_armed ⟨observed.timer, observed.made, observed.cancelled || false⟩
        books.counted (by simpa using books.cancelled) idle fun total _ => left total
    · rw [if_neg begins]
      simpa using books
  | cancel =>
    refine ⟨books.counted, by simp [Observed.act, AsyncWaitTimer.act], ?_, fun live => ?_, fun live => ?_⟩
    · have single := books.single
      simp only [AsyncWaitTimer.outstanding, Observed.act, AsyncWaitTimer.act, List.length_append,
        List.length_replicate] at single ⊢
      omega
    · cases live
    · cases live

/-! ### Inside the user function -/

theorem act_totalTimes (timer : AsyncWaitTimer) (action : Action) :
    (timer.act action).totalTimes = timer.totalTimes := by
  cases action with
  | asyncWait waitFunc | reAsyncWait => unfold AsyncWaitTimer.act; dsimp only; split <;> rfl
  | cancel => rfl

/-- An action of the user function begins no wait where the calls are counted. -/
theorem act_inside {timer : AsyncWaitTimer} {action : Action} (counts : timer.totalTimes ≠ 0)
    (idle : timer.outstanding = 0)
    (careful : action ≠ .cancel → timer.begins = true → timer.totalTimes = 0) :
    (timer.act action).outstanding = 0 := by
  cases action with
  | asyncWait waitFunc =>
    rw [AsyncWaitTimer.act, if_neg fun begins => counts (careful (by simp) begins)]
    exact idle
  | reAsyncWait =>
    rw [AsyncWaitTimer.act, if_neg fun begins => counts (careful (by simp) begins)]
    exact idle
  | cancel =>
    obtain ⟨waits, handlers⟩ := outstanding_zero idle
    rw [AsyncWaitTimer.act, AsyncWaitTimer.outstanding, waits, handlers]
    rfl

/-- The user function leaves the books in order, and where the calls are counted no wait. -/
theorem books_inside {inside : List Action} (books : Books observed)
    (careful : CarefulInside observed.timer inside) :
    Books (inside.foldl Observed.act observed) ∧
      (inside.foldl Observed.act observed).timer.totalTimes = observed.timer.totalTimes ∧
      (observed.timer.totalTimes ≠ 0 → observed.timer.outstanding = 0 →
        (inside.foldl Observed.act observed).timer.outstanding = 0) := by
  induction inside generalizing observed with
  | nil => exact ⟨books, rfl, fun _ idle => idle⟩
  | cons action rest ih =>
    obtain ⟨here, uncounted, behind⟩ := careful
    obtain ⟨after, total, idle⟩ := @ih (observed.act action) (books_act books here) behind
    have same : (observed.act action).timer.totalTimes = observed.timer.totalTimes :=
      act_totalTimes _ _
    refine ⟨after, total.trans same, fun counts none_left => ?_⟩
    exact idle (same ▸ counts) (act_inside counts none_left uncounted)

/-! ### Events -/

theorem repeats_iff (timer : AsyncWaitTimer) : timer.repeats = true ↔ timer.totalTimes < 0 ∨
    0 < timer.totalTimes ∧ timer.invokeTimes < timer.totalTimes := by
  simp [AsyncWaitTimer.repeats]

/-- The only wait under way is taken off, and nothing is. -/
theorem popped_books (books : Books observed) (head : observed.timer.handlers = outcome :: handlers) :
    Books observed.popped ∧ observed.popped.timer.outstanding = 0 := by
  have single := books.single
  rw [AsyncWaitTimer.outstanding, head, List.length_cons] at single
  have idle : observed.popped.timer.outstanding = 0 := by
    rw [AsyncWaitTimer.outstanding, Observed.popped, head]
    simp only [List.tail_cons]
    omega
  refine ⟨⟨books.counted, books.cancelled, by omega, fun _ => ?_, fun _ _ under_way => ?_⟩, idle⟩
  · rw [(outstanding_zero idle).2]
    exact List.not_mem_nil
  · exact absurd idle under_way

/-- The rest of `on_timer`, where the user function has begun no wait that is counted. -/
theorem rearmed_books (books : Books observed)
    (idle : observed.timer.totalTimes ≠ 0 → observed.timer.outstanding = 0) :
    Books observed.rearmed := by
  unfold Observed.rearmed
  split
  · rename_i repeats
    have counts := (repeats_iff _).mp repeats
    exact books_armed books.counted books.cancelled (idle (by omega)) fun total _ => by omega
  · exact books

/-- The handler of a wait that nobody aborted. -/
theorem onTimer_kept {inside : List Action} {outcome : Outcome} {handlers : List Outcome}
    {reply : Option Called} (books : Books observed)
    (head : observed.timer.handlers = outcome :: handlers)
    (careful : CarefulEvent observed (.handles inside))
    (ran : observed.popped.onTimer outcome inside = some (reply, next)) :
    Kept observed (.handles inside) reply next ∧ Books next := by
  obtain ⟨popped, idle⟩ := popped_books books head
  have silent : Kept observed (.handles inside) none observed.popped :=
    ⟨by simp, by simp, by simp, by simp, popped.single⟩
  unfold Observed.onTimer at ran
  split at ran
  · cases ran
    exact ⟨silent, popped⟩
  · rename_i waitFunc given
    split at ran
    · cases ran
      exact ⟨silent, popped⟩
    · rename_i uncancelled
      have live : observed.timer.isCancel = false := Bool.eq_false_iff.mpr uncancelled
      split at ran
      · cases ran
      · cases ran
        have invoked : Books observed.popped.invoked := by
          refine ⟨?_, popped.cancelled, popped.single, popped.running, fun _ _ under_way => ?_⟩
          · have counted := popped.counted
            simp only [Observed.invoked]
            omega
          · exact absurd idle under_way
        have inner := careful (Option.isSome_iff_exists.mpr ⟨waitFunc, given⟩) live
        obtain ⟨after, total, none_left⟩ := books_inside invoked inner
        have rearmed := rearmed_books after fun counts => none_left (total ▸ counts) idle
        refine ⟨⟨?_, fun _ => books.cancelled ▸ live, ?_, ?_, rearmed.single⟩, rearmed⟩
        · rintro _ ⟨⟩
          have clean := books.running live
          rw [head] at clean
          cases outcome with
          | expired => rfl
          | aborted => exact absurd List.mem_cons_self clean
        · rintro _ ⟨⟩
          exact books.counted
        · rintro _ ⟨⟩ counts
          rw [← books.counted]
          refine books.left live counts ?_
          rw [AsyncWaitTimer.outstanding, head, List.length_cons]
          omega

theorem step_kept {event : Event} {reply : Option Called} (books : Books observed)
    (careful : CarefulEvent observed event) (ran : step observed event = some (reply, next)) :
    Kept observed event reply next ∧ Books next := by
  cases event with
  | does action =>
    cases ran
    have after := books_act books careful
    exact ⟨⟨by simp, by simp, by simp, by simp, after.single⟩, after⟩
  | expires =>
    rw [step] at ran
    split at ran
    · cases ran
    · cases ran
      have single := books.single
      rw [AsyncWaitTimer.outstanding] at single
      have same : { observed.timer with
          waits := 0
          handlers := observed.timer.handlers ++ List.replicate observed.timer.waits Outcome.expired
          }.outstanding = observed.timer.outstanding := by
        simp only [AsyncWaitTimer.outstanding, List.length_append, List.length_replicate]
        omega
      refine ⟨⟨by simp, by simp, by simp, by simp, same ▸ books.single⟩,
        books.counted, books.cancelled, same ▸ books.single, fun live => ?_, fun live total under_way => ?_⟩
      · rw [List.mem_append, not_or]
        refine ⟨books.running live, fun aborted => ?_⟩
        cases (List.mem_replicate.mp aborted).2
      · exact books.left live total (same ▸ under_way)
  | handles inside =>
    rw [step] at ran
    split at ran
    · cases ran
    · rename_i outcome handlers head
      exact onTimer_kept books head careful ran

/-! ### Every run -/

/-- Along every run in which a wait is begun by hand only while none is under way and calls
are left, the user function is called for waits that expired, before a cancel, with
consecutive numbers and no more often than wanted, and one wait at most is under way. -/
theorem kept_run (totalTimes deadMillSeconds : Int) {events : List Event}
    {replies : List (Option Called)} {final : Observed}
    (ran : run step { timer := { totalTimes, deadMillSeconds } } events = some (replies, final))
    (careful : AllSteps step CarefulEvent { timer := { totalTimes, deadMillSeconds } } events) :
    AllTaken step Kept { timer := { totalTimes, deadMillSeconds } } events := by
  apply all_taken_of_defined Books
  · intro observed event reply next books careful taken
    exact step_kept books careful taken
  · exact ⟨rfl, rfl, Nat.zero_le 1, fun _ => List.not_mem_nil, fun _ _ under_way => absurd rfl under_way⟩
  · exact careful
  · exact ran

/-- A timer that is to call twice, and is cancelled behind the first call. -/
def twice : List Event :=
  [.does (.asyncWait (some 7)), .expires, .handles [], .does .cancel, .handles []]

theorem twice_kept : AllTaken step Kept { timer := ⟨2, 100, false, 0, none, 0, []⟩ } twice := by
  obtain ⟨⟨replies, final⟩, ran⟩ : ∃ result,
      run step { timer := ⟨2, 100, false, 0, none, 0, []⟩ } twice = some result :=
    Option.isSome_iff_exists.mp (by decide)
  exact kept_run 2 100 ran (by decide)

/-- A timer for one call that is begun again while its wait is pending calls for the wait
given up, and once more when its time is over. -/
theorem begun_again_calls : (run step { timer := ⟨1, 100, false, 0, none, 0, []⟩ }
      [.does (.asyncWait (some 7)), .does .reAsyncWait, .handles [], .expires, .handles []]).map
      Prod.fst =
    some [none, none, some ⟨7, 0, .aborted⟩, none, some ⟨7, 1, .expired⟩] := by
  decide

end BeeSdk.WaitTimer
