import BeeSdk.DataPromise
import Mathlib.Data.List.Nodup

/-! No promise is resolved twice, because a coroutine that is back from a resume
is not resumed again before the call that resumed it has set `honored_`. What a
nested call installs is kept exactly as long as no step takes it out. -/
namespace BeeSdk.DataPromiseProofs
open DataPromise Runs

/-! ### The stack -/

/-- The promise `MakePromise` has still to install. -/
def Frame.pending : Frame → Option Promise
  | .makePromise _ promise _ => some promise
  | _ => none

def resolvings (stack : List Frame) : List Promise := stack.filterMap Frame.resolving
def pendings (stack : List Frame) : List Promise := stack.filterMap Frame.pending

@[simp] theorem resolvings_coroutine (co : Nat) (stack : List Frame) :
    resolvings (.coroutine co :: stack) = resolvings stack := rfl

@[simp] theorem pendings_coroutine (co : Nat) (stack : List Frame) :
    pendings (.coroutine co :: stack) = pendings stack := rfl

/-- The script or nobody runs. -/
def Idle (stack : List Frame) : Prop := stack.head?.bind Frame.resolving = none

/-- On a call that has resumed a coroutine stands this coroutine, until it is
back. -/
def Stacked : List Frame → Prop
  | top :: below :: rest =>
    (∀ promise, below.resolving = some promise → top = .coroutine promise.co) ∧
      Stacked (below :: rest)
  | _ => True

theorem Stacked.tail (stacked : Stacked (top :: rest)) : Stacked rest := by
  cases rest with
  | nil => trivial
  | cons below rest => exact stacked.2

theorem Stacked.push (stacked : Stacked stack) (idle : Idle stack) (top : Frame) :
    Stacked (top :: stack) := by
  cases stack with
  | nil => trivial
  | cons below rest =>
    refine ⟨fun promise resolving => ?_, stacked⟩
    rw [Idle, List.head?_cons, Option.bind_some, resolving] at idle
    cases idle

/-- A call that is not on top has the coroutine it resumed above it. -/
theorem Stacked.above (stacked : Stacked stack) (member : promise ∈ resolvings stack) :
    stack.head?.bind Frame.resolving = some promise ∨ .coroutine promise.co ∈ stack := by
  induction stack with
  | nil => cases member
  | cons top rest ih =>
    by_cases here : top.resolving = some promise
    · exact .inl here
    have deeper : promise ∈ resolvings rest := by
      obtain ⟨frame, among, resolving⟩ := List.mem_filterMap.mp member
      rcases List.mem_cons.mp among with rfl | among
      · exact absurd resolving here
      · exact List.mem_filterMap.mpr ⟨frame, among, resolving⟩
    right
    rcases ih stacked.tail deeper with below | runs
    · cases rest with
      | nil => cases below
      | cons next rest =>
        rw [stacked.1 promise below]
        exact List.mem_cons_self
    · exact List.mem_cons_of_mem _ runs

/-- While the script runs, a coroutine resumed for a promise is not suspended. -/
theorem resolving_not_suspended {machine : Machine} (stacked : Stacked machine.stack)
    (idle : Idle machine.stack) (member : promise ∈ resolvings machine.stack) :
    machine.suspended promise.co = false := by
  rcases stacked.above member with top | runs
  · rw [Idle, top] at idle
    cases idle
  · simp [Machine.suspended, runs]

/-- How the script alone changes the stack. -/
inductive Switched : List Frame → List Frame → Prop where
  | same (stack : List Frame) : Switched stack stack
  | resumed (co : Nat) (idle : Idle stack) : Switched stack (.coroutine co :: stack)
  | left (co : Nat) (stack : List Frame) : Switched (.coroutine co :: stack) stack

theorem Switched.resolvings (switched : Switched before after) :
    resolvings after = resolvings before := by
  cases switched <;> rfl

theorem Switched.pendings (switched : Switched before after) : pendings after = pendings before := by
  cases switched <;> rfl

theorem Switched.stacked (switched : Switched before after) (stacked : Stacked before) :
    Stacked after := by
  cases switched with
  | same => exact stacked
  | resumed co idle => exact stacked.push idle _
  | left => exact stacked.tail

/-! ### What a step does -/

/-- Everything a step can do to the promises. -/
inductive Moves (machine : Machine) (request : Request) : List Event → Machine → Prop where
  | quiet (kept : next.dataPromice = machine.dataPromice) (honored : next.honored = machine.honored)
      (made : next.made = machine.made) (switched : Switched machine.stack next.stack) :
      Moves machine request [] next
  | dropped (installed : machine.dataPromice = some promise)
      (out : TakesOut machine promise request) (empty : next.dataPromice = none)
      (honored : next.honored ⊆ promise.id :: machine.honored) (grown : machine.honored ⊆ next.honored)
      (made : next.made = machine.made) (stack : next.stack = machine.stack) :
      Moves machine request [] next
  | resumed (frame : Frame) (idle : Idle machine.stack) (installed : machine.dataPromice = some promise)
      (resolvable : machine.Resolvable promise) (kept : next.dataPromice = some promise)
      (honored : next.honored = machine.honored) (resolving : Frame.resolving frame = some promise)
      (pending : Frame.pending frame = none ∧ next.made = machine.made ∨
        ∃ waiting, Frame.pending frame = some waiting ∧ waiting.id = machine.made ∧
          next.made = machine.made + 1)
      (stack : next.stack = .coroutine promise.co :: frame :: machine.stack) :
      Moves machine request [.resumed promise] next
  | installed (replaces : ∀ old, machine.dataPromice = some old → TakesOut machine old request)
      (nested : Bool) (fresh : promise.id = machine.made) (made : next.made = machine.made + 1)
      (kept : next.dataPromice = some promise)
      (honored : next.honored = machine.honored ∨
        ∃ old, machine.dataPromice = some old ∧ next.honored = old.id :: machine.honored)
      (switched : Switched machine.stack next.stack) :
      Moves machine request [.installed promise nested] next
  | wrote (stack : machine.stack = .promiseWriteData promise :: next.stack)
      (honored : next.honored = promise.id :: machine.honored) (made : next.made = machine.made)
      (kept : next.dataPromice = machine.dataPromice ∨ next.dataPromice = none ∧
        machine.dataPromice.map Promise.id = some promise.id) :
      Moves machine request [] next
  | replaced (old : Promise) (out : ∀ other, TakesOut machine other request) (yields nested : Bool)
      (stack : machine.stack = .makePromise old promise yields :: rest)
      (switched : Switched rest next.stack) (honored : next.honored = old.id :: machine.honored)
      (made : next.made = machine.made) (kept : next.dataPromice = some promise) :
      Moves machine request [.installed promise nested] next

theorem luaResume_some {machine resumed : Machine}
    (taken : machine.luaResume co caller = some resumed) :
    machine.suspended co = true ∧
      resumed = { machine with stack := .coroutine co :: caller :: machine.stack } := by
  rw [Machine.luaResume] at taken
  split at taken
  · rename_i suspended
    cases taken
    exact ⟨suspended, rfl⟩
  · cases taken

theorem luaResume_none {machine : Machine} (failed : machine.luaResume co caller = none) :
    machine.suspended co = false := by
  rw [Machine.luaResume] at failed
  split at failed
  · cases failed
  · rename_i suspended
    exact Bool.eq_false_iff.mpr suspended

private theorem not_resolvable_honored {machine : Machine} (honored : promise.id ∈ machine.honored) :
    ¬ machine.Resolvable promise :=
  fun resolvable => resolvable.1 honored

private theorem not_resolvable_resumed {machine : Machine}
    (suspended : machine.suspended promise.co = false) : ¬ machine.Resolvable promise := by
  intro resolvable
  rw [resolvable.2] at suspended
  cases suspended

theorem promiseWriteData_moves {machine : Machine} (idle : Idle machine.stack)
    (taken : machine.promiseWriteData buf = some (told, next)) :
    Moves machine (.promiseWriteData buf) told next := by
  simp only [Machine.promiseWriteData, Option.bind_eq_some_iff] at taken
  obtain ⟨⟨len, cache⟩, written, taken⟩ := taken
  cases installed : machine.dataPromice with
  | none =>
    simp only [installed] at taken
    cases taken
    exact .quiet installed.symm rfl rfl (.same _)
  | some promise =>
    simp only [installed] at taken
    split at taken
    · cases taken
      exact .quiet installed.symm rfl rfl (.same _)
    rename_i completed
    have completed : promise.completed cache = true := Decidable.not_not.mp completed
    split at taken
    · rename_i honored
      cases taken
      exact .dropped installed ⟨len, cache, written, completed, .inl (not_resolvable_honored honored)⟩
        rfl (List.subset_cons_self _ _) (List.Subset.refl _) rfl rfl
    rename_i open_yet
    simp only [Option.map_eq_some_iff] at taken
    obtain ⟨⟨ready, after⟩, honors, taken⟩ := taken
    cases ready with
    | false =>
      cases taken
      exact .dropped installed ⟨len, cache, written, completed, .inr ⟨after, honors⟩⟩ rfl
        (List.subset_cons_self _ _) (List.Subset.refl _) rfl rfl
    | true =>
      simp only [not_true_eq_false, if_false] at taken
      split at taken
      · rename_i resumed attempt
        cases taken
        obtain ⟨suspended, rfl⟩ := luaResume_some attempt
        exact .resumed (.promiseWriteData promise) idle installed ⟨open_yet, suspended⟩ rfl rfl rfl
          (.inl ⟨rfl, rfl⟩) rfl
      · rename_i attempt
        cases taken
        have failed := luaResume_none attempt
        have running : machine.suspended promise.co = false := failed
        exact .dropped installed
          ⟨len, cache, written, completed, .inl (not_resolvable_resumed running)⟩ rfl
          (List.Subset.refl _) (List.subset_cons_self _ _) rfl rfl

theorem proceed_moves {machine : Machine} (stacked : Stacked machine.stack)
    (taken : machine.proceed = some (told, next)) : Moves machine .proceed told next := by
  rw [Machine.proceed] at taken
  split at taken
  · rename_i promise rest shape
    simp only at taken
    split at taken
    · rename_i same
      cases taken
      exact .wrote shape rfl rfl (.inr ⟨rfl, same⟩)
    · cases taken
      exact .wrote shape rfl rfl (.inl rfl)
  · rename_i old promise yields rest shape
    cases taken
    have out : ∀ other, TakesOut machine other .proceed := by
      intro other
      refine ⟨old, promise, yields, ?_⟩
      rw [shape, List.head?_cons]
    have switched : Switched rest (if yields then rest.drop 1 else rest) := by
      cases yields with
      | false => exact .same _
      | true =>
        rw [shape] at stacked
        cases rest with
        | nil => exact .same _
        | cons below rest =>
          cases below with
          | coroutine co => exact .left co rest
          | promiseWriteData other => cases stacked.1 other rfl
          | makePromise other _ _ => cases stacked.1 other rfl
    exact .replaced old out yields _ shape switched rfl rfl rfl
  · cases taken

/-- The three waits of a coroutine, for the promise its call has made. -/
theorem makePromise_moves {machine : Machine} {ask : Ask} (top : machine.stack = .coroutine co :: rest)
    (asks : ask.asked machine co = some asked) (waits : asked.waits = some (promise, yields))
    (fresh : promise.id = machine.made)
    (taken : { machine with cache := asked.cache, made := machine.made + 1 }.makePromise promise yields =
      (told, next)) : Moves machine (.ask ask) told next := by
  have idle : Idle machine.stack := by rw [top]; rfl
  have switched : Switched machine.stack (if yields then machine.stack.drop 1 else machine.stack) := by
    cases yields with
    | false => exact .same _
    | true =>
      rw [top]
      exact .left co rest
  have out : ∀ old, ¬ machine.Resolvable old → TakesOut machine old (.ask ask) := by
    intro old unresolvable
    refine ⟨unresolvable, co, asked, ?_, asks, ?_⟩
    · rw [top, List.head?_cons]
    · rw [waits, Option.isSome_some]
  simp only [Machine.makePromise] at taken
  cases installed : machine.dataPromice with
  | none =>
    rw [installed] at taken
    cases taken
    exact .installed (fun old same => by rw [installed] at same; cases same) _ fresh rfl rfl (.inl rfl)
      switched
  | some old =>
    simp only [installed] at taken
    have only_old : ¬ machine.Resolvable old →
        ∀ other, machine.dataPromice = some other → TakesOut machine other (.ask ask) := by
      intro unresolvable other same
      rw [installed] at same
      cases same
      exact out _ unresolvable
    split at taken
    · rename_i honored
      cases taken
      exact .installed (only_old (not_resolvable_honored honored)) _ fresh rfl rfl (.inl rfl) switched
    rename_i open_yet
    split at taken
    · rename_i resumed attempt
      cases taken
      obtain ⟨suspended, rfl⟩ := luaResume_some attempt
      exact .resumed (.makePromise old promise yields) idle installed ⟨open_yet, suspended⟩ rfl rfl
        rfl (.inr ⟨promise, rfl, fresh, rfl⟩) rfl
    · rename_i attempt
      cases taken
      have failed := luaResume_none attempt
      have running : machine.suspended old.co = false := failed
      exact .installed (only_old (not_resolvable_resumed running)) _ fresh rfl rfl
        (.inr ⟨old, installed, rfl⟩) switched

/-- A call that waits has made a promise of its own. -/
theorem asked_fresh {machine : Machine} {ask : Ask} (asks : ask.asked machine co = some asked)
    (waits : asked.waits = some (promise, yields)) : promise.id = machine.made := by
  cases ask with
  | syncReadData len cond =>
    simp only [Ask.asked, luaSyncReadData] at asks
    split at asks
    · cases asks
      cases waits
    split at asks
    · simp only [Option.map_eq_some_iff] at asks
      obtain ⟨⟨bytes, cache⟩, _, same⟩ := asks
      split at same <;> cases same <;> cases waits
      rfl
    · cases asks
      cases waits
      rfl
  | scanf format =>
    simp only [Ask.asked, luaScanf] at asks
    split at asks
    · simp only [Option.map_eq_some_iff] at asks
      obtain ⟨⟨ret, cache⟩, _, same⟩ := asks
      split at same <;> cases same <;> cases waits
      rfl
    · cases asks
      cases waits
      rfl
  | waitUntil len =>
    simp only [Ask.asked, luaWaitUntil] at asks
    split at asks
    · cases asks
      cases waits
    · cases asks
      cases waits
      rfl

/-- What anybody may ask for while the script or nobody runs. -/
private theorem resume_moves {machine : Machine} (idle : Idle machine.stack)
    (taken : (if machine.suspended co then
      some ([], { machine with stack := .coroutine co :: machine.stack })
      else some ([], machine)) = some (told, next)) : Moves machine (.resume co) told next := by
  split at taken
  · cases taken
    exact .quiet rfl rfl rfl (.resumed co idle)
  · cases taken
    exact .quiet rfl rfl rfl (.same _)

private theorem call_moves {machine : Machine}
    (taken : ((VideoCache.step machine.cache call).map fun (_, cache) =>
      (([], { machine with cache }) : List Event × Machine)) = some (told, next)) :
    Moves machine (.call call) told next := by
  obtain ⟨⟨result, cache⟩, _, same⟩ := Option.map_eq_some_iff.mp taken
  cases same
  exact .quiet rfl rfl rfl (.same _)

theorem step_moves {machine : Machine} (stacked : Stacked machine.stack)
    (taken : step machine request = some (told, next)) : Moves machine request told next := by
  obtain ⟨cache, dataPromice, honored, made, finished, stack⟩ := machine
  cases stack with
  | nil =>
    cases request with
    | proceed => exact proceed_moves stacked taken
    | promiseWriteData buf => exact promiseWriteData_moves rfl taken
    | call call => exact call_moves taken
    | resume co => exact resume_moves rfl taken
    | ask | yields | finish => cases taken
  | cons top rest =>
    cases top with
    | promiseWriteData | makePromise =>
      cases request with
      | proceed => exact proceed_moves stacked taken
      | _ => cases taken
    | coroutine co =>
      cases request with
      | proceed => exact proceed_moves stacked taken
      | promiseWriteData buf => exact promiseWriteData_moves rfl taken
      | call call => exact call_moves taken
      | resume co => exact resume_moves rfl taken
      | ask ask =>
        obtain ⟨asked, asks, same⟩ := Option.map_eq_some_iff.mp taken
        split at same
        · cases same
          exact .quiet rfl rfl rfl (.same _)
        · rename_i promise yields waits
          exact makePromise_moves rfl asks waits (asked_fresh asks waits) same
      | yields | finish =>
        cases taken
        exact .quiet rfl rfl rfl (.left co rest)

/-! ### What every run keeps -/

def installs (told : List Event) : List Promise := told.filterMap Event.installed?
def resumes (told : List Event) : List Promise := told.filterMap Event.resumed?

theorem mem_resumes : promise ∈ resumes told ↔ Event.resumed promise ∈ told := by
  simp only [resumes, List.mem_filterMap]
  constructor
  · rintro ⟨event, member, same⟩
    cases event with
    | installed other nested => cases same
    | resumed other =>
      cases same
      exact member
  · intro member
    exact ⟨_, member, rfl⟩

@[simp] theorem installs_append (told more : List Event) :
    installs (told ++ more) = installs told ++ installs more := List.filterMap_append ..

@[simp] theorem resumes_append (told more : List Event) :
    resumes (told ++ more) = resumes told ++ resumes more := List.filterMap_append ..

/-- Each promise is made once, waits in `MakePromise` to be installed or was
installed, and has its coroutine resumed at most once: as long as it is not
`honored_` the call that resumed the coroutine is on the stack. -/
structure Account (recorded : Machine × List Event) : Prop where
  stacked : Stacked recorded.1.stack
  once : (resumes recorded.2).Nodup
  resolved : ∀ promise ∈ resumes recorded.2,
    promise.id ∈ recorded.1.honored ∨ promise ∈ resolvings recorded.1.stack
  known : ∀ promise, recorded.1.dataPromice = some promise → promise ∈ installs recorded.2
  running : ∀ promise ∈ resolvings recorded.1.stack,
    promise ∈ installs recorded.2 ∧ promise ∈ resumes recorded.2
  ids : ((pendings recorded.1.stack ++ installs recorded.2).map Promise.id).Nodup
  fresh : ∀ promise ∈ pendings recorded.1.stack ++ installs recorded.2,
    promise.id < recorded.1.made

/-- A promise that can be resolved was not. -/
theorem Account.unresumed {recorded : Machine × List Event} (account : Account recorded)
    (idle : Idle recorded.1.stack) (resolvable : recorded.1.Resolvable promise) :
    promise ∉ resumes recorded.2 := by
  intro member
  rcases account.resolved promise member with honored | runs
  · exact resolvable.1 honored
  · have running := resolving_not_suspended account.stacked idle runs
    rw [resolvable.2] at running
    cases running

/-- One promise more that nobody has made before. -/
theorem Account.ids_fresh {recorded : Machine × List Event} (account : Account recorded)
    (fresh : promise.id = recorded.1.made) :
    ((promise :: (pendings recorded.1.stack ++ installs recorded.2)).map Promise.id).Nodup := by
  rw [List.map_cons, List.nodup_cons]
  refine ⟨?_, account.ids⟩
  intro member
  obtain ⟨other, among, same⟩ := List.mem_map.mp member
  have := account.fresh other among
  omega

theorem Account.fresh_more {recorded : Machine × List Event} (account : Account recorded)
    (fresh : promise.id = recorded.1.made) :
    ∀ other ∈ promise :: (pendings recorded.1.stack ++ installs recorded.2),
      other.id < recorded.1.made + 1 := by
  intro other member
  rcases List.mem_cons.mp member with rfl | member
  · omega
  · have := account.fresh other member
    omega

/-- A promise that was waiting for it is installed. -/
private theorem Account.install {recorded : Machine × List Event} {next : Machine}
    (account : Account recorded) (nested : Bool) (stacked : Stacked next.stack)
    (resolved : ∀ other ∈ resumes recorded.2,
      other.id ∈ next.honored ∨ other ∈ resolvings next.stack)
    (fewer : resolvings next.stack ⊆ resolvings recorded.1.stack)
    (kept : next.dataPromice = some promise)
    (ids : ((promise :: (pendings next.stack ++ installs recorded.2)).map Promise.id).Nodup)
    (fresh : ∀ other ∈ promise :: (pendings next.stack ++ installs recorded.2),
      other.id < next.made) :
    Account (next, recorded.2 ++ [.installed promise nested]) := by
  have all_installs : installs (recorded.2 ++ [.installed promise nested]) =
      installs recorded.2 ++ [promise] := installs_append ..
  have same_resumes : resumes (recorded.2 ++ [.installed promise nested]) = resumes recorded.2 := by
    rw [resumes_append]
    exact List.append_nil _
  have moved : List.Perm (promise :: (pendings next.stack ++ installs recorded.2))
      (pendings next.stack ++ (installs recorded.2 ++ [promise])) := by
    rw [← List.append_assoc]
    exact (List.perm_append_singleton promise _).symm
  refine ⟨stacked, ?_, ?_, ?_, ?_, ?_, ?_⟩
  · rw [same_resumes]
    exact account.once
  · rw [same_resumes]
    exact resolved
  · intro other same
    rw [kept] at same
    cases same
    rw [all_installs]
    exact List.mem_append_right _ (List.mem_singleton_self promise)
  · intro other member
    rw [all_installs, same_resumes]
    exact (account.running other (fewer member)).imp_left (List.mem_append_left _)
  · rw [all_installs]
    exact (moved.map Promise.id).nodup ids
  · rw [all_installs]
    intro other member
    exact fresh other (moved.mem_iff.mpr member)

/-- The coroutine of a promise that can be resolved is resumed. -/
private theorem Account.resume {recorded : Machine × List Event} {next : Machine}
    (account : Account recorded) (frame : Frame) (idle : Idle recorded.1.stack)
    (installed : recorded.1.dataPromice = some promise)
    (resolvable : recorded.1.Resolvable promise) (kept : next.dataPromice = some promise)
    (honored : next.honored = recorded.1.honored) (resolving : frame.resolving = some promise)
    (pending : Frame.pending frame = none ∧ next.made = recorded.1.made ∨
      ∃ waiting, Frame.pending frame = some waiting ∧ waiting.id = recorded.1.made ∧
        next.made = recorded.1.made + 1)
    (stack : next.stack = .coroutine promise.co :: frame :: recorded.1.stack) :
    Account (next, recorded.2 ++ [.resumed promise]) := by
  have calls : resolvings next.stack = promise :: resolvings recorded.1.stack := by
    rw [stack, resolvings_coroutine, resolvings, List.filterMap_cons_some resolving]
    rfl
  have all_resumes : resumes (recorded.2 ++ [.resumed promise]) = resumes recorded.2 ++ [promise] :=
    resumes_append ..
  have same_installs : installs (recorded.2 ++ [.resumed promise]) = installs recorded.2 := by
    rw [installs_append]
    exact List.append_nil _
  have unresumed := account.unresumed idle resolvable
  refine ⟨?_, ?_, ?_, ?_, ?_, ?_, ?_⟩
  · rw [stack]
    refine ⟨fun other same => ?_, account.stacked.push idle frame⟩
    rw [resolving] at same
    cases same
    rfl
  · rw [all_resumes, ← List.concat_eq_append]
    exact account.once.concat unresumed
  · intro other member
    rw [all_resumes] at member
    rw [honored, calls]
    rcases List.mem_append.mp member with earlier | now
    · exact (account.resolved other earlier).imp_right (List.mem_cons_of_mem _)
    · cases List.mem_singleton.mp now
      exact .inr List.mem_cons_self
  · intro other same
    rw [kept, ← installed] at same
    rw [same_installs]
    exact account.known other same
  · intro other member
    rw [calls] at member
    rw [same_installs, all_resumes]
    rcases List.mem_cons.mp member with rfl | member
    · exact ⟨account.known other installed, List.mem_append_right _ (List.mem_singleton_self other)⟩
    · exact (account.running other member).imp_right (List.mem_append_left _)
  · rw [same_installs, stack, pendings_coroutine]
    rcases pending with ⟨nobody, _⟩ | ⟨waiting, pending, fresh, _⟩
    · rw [pendings, List.filterMap_cons_none nobody]
      exact account.ids
    · rw [pendings, List.filterMap_cons_some pending]
      exact account.ids_fresh fresh
  · rw [same_installs, stack, pendings_coroutine]
    rcases pending with ⟨nobody, made⟩ | ⟨waiting, pending, fresh, made⟩
    · rw [pendings, List.filterMap_cons_none nobody, made]
      exact account.fresh
    · rw [pendings, List.filterMap_cons_some pending, made]
      exact account.fresh_more fresh

/-- The promise whose call is finished is honored, the others are as they were. -/
theorem Account.resolved_finished {recorded : Machine × List Event} (account : Account recorded)
    {below : List Promise} (calls : resolvings recorded.1.stack = promise :: below) :
    ∀ other ∈ resumes recorded.2, other.id ∈ promise.id :: recorded.1.honored ∨ other ∈ below := by
  intro other member
  rcases account.resolved other member with before | runs
  · exact .inl (List.mem_cons_of_mem _ before)
  · rw [calls] at runs
    rcases List.mem_cons.mp runs with rfl | runs
    · exact .inl List.mem_cons_self
    · exact .inr runs

theorem Account.moves {recorded : Machine × List Event} (account : Account recorded)
    (moves : Moves recorded.1 request told next) : Account (next, recorded.2 ++ told) := by
  cases moves with
  | quiet kept honored made switched =>
    rw [List.append_nil]
    refine ⟨switched.stacked account.stacked, account.once, ?_, ?_, ?_, ?_, ?_⟩
    · rw [honored, switched.resolvings]
      exact account.resolved
    · rw [kept]
      exact account.known
    · rw [switched.resolvings]
      exact account.running
    · rw [switched.pendings]
      exact account.ids
    · rw [switched.pendings, made]
      exact account.fresh
  | dropped installed out empty honored grown made stack =>
    rw [List.append_nil]
    refine ⟨?_, account.once, ?_, ?_, ?_, ?_, ?_⟩
    · rw [stack]
      exact account.stacked
    · rw [stack]
      intro promise member
      exact (account.resolved promise member).imp_left fun before => grown before
    · intro promise same
      rw [empty] at same
      cases same
    · rw [stack]
      exact account.running
    · rw [stack]
      exact account.ids
    · rw [stack, made]
      exact account.fresh
  | resumed frame idle installed resolvable kept honored resolving pending stack =>
    exact account.resume frame idle installed resolvable kept honored resolving pending stack
  | installed replaces nested fresh made kept honored switched =>
    have grown : recorded.1.honored ⊆ next.honored := by
      rcases honored with same | ⟨old, _, more⟩
      · rw [same]
        exact List.Subset.refl _
      · rw [more]
        exact List.subset_cons_self _ _
    apply account.install nested (switched.stacked account.stacked) _ _ kept
    · rw [switched.pendings]
      exact account.ids_fresh fresh
    · rw [switched.pendings, made]
      exact account.fresh_more fresh
    · rw [switched.resolvings]
      intro other member
      exact (account.resolved other member).imp_left fun before => grown before
    · rw [switched.resolvings]
      exact List.Subset.refl _
  | wrote stack honored made kept =>
    rename_i promise
    have calls : resolvings recorded.1.stack = promise :: resolvings next.stack := by rw [stack]; rfl
    have waiting : pendings recorded.1.stack = pendings next.stack := by rw [stack]; rfl
    have stacked := account.stacked
    rw [stack] at stacked
    rw [List.append_nil]
    refine ⟨stacked.tail, account.once, ?_, ?_, ?_, ?_, ?_⟩
    · rw [honored]
      exact account.resolved_finished calls
    · intro other same
      rcases kept with kept | ⟨empty, _⟩
      · rw [kept] at same
        exact account.known other same
      · rw [empty] at same
        cases same
    · intro other member
      apply account.running
      rw [calls]
      exact List.mem_cons_of_mem _ member
    · rw [← waiting]
      exact account.ids
    · rw [← waiting, made]
      exact account.fresh
  | replaced old out yields nested stack switched honored made kept =>
    rename_i rest promise
    have calls : resolvings recorded.1.stack = old :: resolvings next.stack := by
      rw [stack, switched.resolvings]
      rfl
    have waiting : pendings recorded.1.stack = promise :: pendings next.stack := by
      rw [stack, switched.pendings]
      rfl
    have stacked := account.stacked
    rw [stack] at stacked
    apply account.install nested (switched.stacked stacked.tail) _ _ kept
    · have ids := account.ids
      rwa [waiting] at ids
    · have fresh := account.fresh
      rwa [waiting, ← made] at fresh
    · rw [honored]
      exact account.resolved_finished calls
    · rw [calls]
      exact List.subset_cons_self _ _

/-! ### What a nested call installed -/

/-- A completed promise that cannot be resolved, or whose `do_honor` fails, is taken
out by the write. -/
private theorem write_drops {machine : Machine} (installed : machine.dataPromice = some promise)
    (out : TakesOut machine promise (.promiseWriteData buf))
    (taken : machine.promiseWriteData buf = some (told, next)) :
    told = [] ∧ next.dataPromice = none := by
  obtain ⟨len, cache, written, completed, fails⟩ := out
  simp only [Machine.promiseWriteData, written, Option.bind_some, installed, completed,
    not_true_eq_false, if_false] at taken
  split at taken
  · cases taken
    exact ⟨rfl, rfl⟩
  rename_i open_yet
  obtain ⟨⟨ready, after⟩, honors, taken⟩ := Option.map_eq_some_iff.mp taken
  cases ready with
  | false =>
    cases taken
    exact ⟨rfl, rfl⟩
  | true =>
    simp only [not_true_eq_false, if_false] at taken
    split at taken
    · rename_i resumed attempt
      rcases fails with unresolvable | ⟨other, failed⟩
      · exact absurd ⟨open_yet, (luaResume_some attempt).1⟩ unresolvable
      · rw [honors] at failed
        cases failed
    · cases taken
      exact ⟨rfl, rfl⟩

/-- A promise that cannot be resolved is replaced at once. -/
private theorem wait_replaces {machine : Machine} {old promise : Promise}
    (taken : machine.makePromise promise yields = (told, next))
    (installed : machine.dataPromice = some old) (unresolvable : ¬ machine.Resolvable old) :
    resumes told = [] ∧ next.dataPromice = some promise := by
  simp only [Machine.makePromise, installed] at taken
  split at taken
  · cases taken
    exact ⟨rfl, rfl⟩
  rename_i open_yet
  split at taken
  · rename_i resumed attempt
    exact absurd ⟨open_yet, (luaResume_some attempt).1⟩ unresolvable
  · cases taken
    exact ⟨rfl, rfl⟩

/-- A step that takes a promise out resumes nobody and leaves another promise or
none. -/
theorem takesOut_leaves {machine : Machine} (installed : machine.dataPromice = some promise)
    (out : TakesOut machine promise request) (taken : step machine request = some (told, next)) :
    resumes told = [] ∧ (next.dataPromice = none ∨ ∃ other, next.dataPromice = some other ∧
      (other.id = machine.made ∨ other ∈ pendings machine.stack)) := by
  obtain ⟨cache, dataPromice, honored, made, finished, stack⟩ := machine
  cases request with
  | promiseWriteData buf =>
    have written : Machine.promiseWriteData ⟨cache, dataPromice, honored, made, finished, stack⟩ buf =
        some (told, next) := by
      cases stack with
      | nil => exact taken
      | cons top rest =>
        cases top with
        | coroutine co => exact taken
        | promiseWriteData | makePromise => cases taken
    obtain ⟨rfl, empty⟩ := write_drops installed out written
    exact ⟨rfl, .inl empty⟩
  | ask ask =>
    obtain ⟨unresolvable, co, asked, top, asks, waits⟩ := out
    obtain ⟨⟨waiting, yields⟩, waits⟩ := Option.isSome_iff_exists.mp waits
    cases stack with
    | nil => cases top
    | cons frame rest =>
      cases top
      obtain ⟨_, again, made_by⟩ := Option.map_eq_some_iff.mp taken
      rw [asks] at again
      cases again
      simp only [waits] at made_by
      obtain ⟨quiet, replaced⟩ := wait_replaces made_by installed unresolvable
      exact ⟨quiet, .inr ⟨waiting, replaced, .inl (asked_fresh asks waits)⟩⟩
  | proceed =>
    obtain ⟨old, waiting, yields, top⟩ := out
    cases stack with
    | nil => cases top
    | cons frame rest =>
      cases top
      cases taken
      exact ⟨rfl, .inr ⟨waiting, rfl, .inr List.mem_cons_self⟩⟩
  | call | resume | yields | finish => cases out

theorem Account.other_promise {recorded : Machine × List Event} (account : Account recorded)
    (known : promise ∈ installs recorded.2)
    (other : next.id = recorded.1.made ∨ next ∈ pendings recorded.1.stack) : next ≠ promise := by
  rintro rfl
  rcases other with fresh | waits
  · have := account.fresh next (List.mem_append_right _ known)
    omega
  · have ids := account.ids
    rw [List.map_append] at ids
    exact (List.nodup_append.mp ids).2.2 _ (List.mem_map_of_mem waits) _ (List.mem_map_of_mem known) rfl

structure Inv (recorded : Machine × List Event) : Prop where
  account : Account recorded
  stays : ∀ promise, .installed promise true ∈ recorded.2 →
    .resumed promise ∈ recorded.2 ∨ recorded.1.dataPromice = some promise

theorem Inv.kept {recorded : Machine × List Event} (inv : Inv recorded) : Kept recorded :=
  ⟨inv.account.once, inv.stays⟩

theorem start_inv (cache : VideoCache.LuaVideoCache) : Inv (start cache) := by
  refine ⟨⟨trivial, List.nodup_nil, ?_, ?_, ?_, List.nodup_nil, ?_⟩, ?_⟩
  · intro promise member
    cases member
  · intro promise same
    cases same
  · intro promise member
    cases member
  · intro promise member
    cases member
  · intro promise member
    cases member

/-- As long as nothing is taken out, what a nested call installed stays. -/
theorem Inv.moves {recorded : Machine × List Event} (inv : Inv recorded)
    (waits : Waits recorded request) (moves : Moves recorded.1 request told next) :
    Inv (next, recorded.2 ++ told) := by
  refine ⟨inv.account.moves moves, ?_⟩
  intro promise member
  rcases List.mem_append.mp member with earlier | now
  · rcases inv.stays promise earlier with resolved | installed
    · exact .inl (List.mem_append_left _ resolved)
    by_cases resolved : .resumed promise ∈ recorded.2
    · exact .inl (List.mem_append_left _ resolved)
    have stays := waits promise installed earlier resolved
    cases moves with
    | quiet kept => exact .inr (kept.trans installed)
    | dropped same out =>
      rw [installed] at same
      cases same
      exact absurd out stays
    | resumed _ _ same _ kept =>
      rw [installed] at same
      cases same
      exact .inr kept
    | installed replaces => exact absurd (replaces promise installed) stays
    | wrote stack honored made kept =>
      rename_i writes
      rcases kept with kept | ⟨_, same⟩
      · exact .inr (kept.trans installed)
      · rw [installed, Option.map_some, Option.some.injEq] at same
        have calls : writes ∈ resolvings recorded.1.stack := by
          rw [stack]
          exact List.mem_cons_self
        obtain ⟨known, was_resumed⟩ := inv.account.running writes calls
        have ids := inv.account.ids
        rw [List.map_append] at ids
        have one := List.inj_on_of_nodup_map (List.nodup_append.mp ids).2.1
          (inv.account.known promise installed) known same
        rw [one] at resolved
        exact absurd (mem_resumes.mp was_resumed) resolved
    | replaced old out => exact absurd (out promise) stays
  · cases moves with
    | quiet | dropped | wrote => cases now
    | resumed =>
      cases List.mem_singleton.mp now
    | installed _ _ _ _ kept | replaced _ _ _ _ _ _ _ _ kept =>
      cases List.mem_singleton.mp now
      exact .inr kept

private theorem record_account {recorded next : Machine × List Event} {reply : Unit}
    (account : Account recorded) (taken : record step recorded request = some (reply, next)) :
    Account next := by
  obtain ⟨told, made, rest⟩ := record_inv taken
  obtain ⟨machine, after⟩ := next
  cases rest
  exact account.moves (step_moves account.stacked made)

/-- No run at all resolves a promise twice. -/
theorem resolved_once (cache : VideoCache.LuaVideoCache)
    (ran : run (record step) (start cache) requests = some (replies, recorded)) :
    (recorded.2.filterMap Event.resumed?).Nodup :=
  (run_preserves Account (fun _ _ _ _ account taken => record_account account taken)
    (start_inv cache).account ran).once

/-- In a run every promise is resolved at most once and every promise of a nested
call stays until it is resolved exactly when no step takes such a promise out. -/
theorem kept_iff (cache : VideoCache.LuaVideoCache) (requests : List Request) (replies : List Unit)
    (final : Machine × List Event)
    (ran : run (record step) (start cache) requests = some (replies, final)) :
    (∀ made, made <+: requests → ∀ replies reached,
      run (record step) (start cache) made = some (replies, reached) → Kept reached) ↔
      AllSteps (record step) Waits (start cache) requests := by
  apply all_reached_iff Inv Kept (fun _ => True) _ _ (fun _ inv => inv.kept) (fun _ _ => trivial)
    (start_inv cache) ran
  · intro recorded request reply next inv _ waits taken
    obtain ⟨told, made, rest⟩ := record_inv taken
    obtain ⟨machine, after⟩ := next
    cases rest
    exact inv.moves waits (step_moves inv.account.stacked made)
  · intro recorded request reply next inv _ taken kept promise installed nested unresolved out
    obtain ⟨told, made, rest⟩ := record_inv taken
    obtain ⟨quiet, gone⟩ := takesOut_leaves installed out made
    have among : Event.installed promise true ∈ next.2 := by
      rw [rest]
      exact List.mem_append_left _ nested
    rcases kept.stays promise among with resolved | still
    · rw [rest, ← mem_resumes, resumes_append, quiet, List.append_nil, mem_resumes] at resolved
      exact unresolved resolved
    · rcases gone with empty | ⟨other, replaced, different⟩
      · rw [empty] at still
        cases still
      · rw [replaced] at still
        cases still
        exact inv.account.other_promise (inv.account.known _ installed) different rfl

def fourBytes : VideoCache.Source := ⟨[1, 2, 3, 4], by decide⟩

/-- A coroutine whose read was answered reads again at once, and is answered again. -/
def nestedRead : List Request :=
  [.resume 0, .ask (.syncReadData 4 2), .promiseWriteData fourBytes, .ask (.syncReadData 4 2), .proceed,
    .promiseWriteData fourBytes]

theorem nested_read_answered :
    (run (record step) (start ⟨List.replicate 8 0, 0, 0, 8⟩) nestedRead).isSome ∧
    ∀ made, made <+: nestedRead → ∀ replies reached,
      run (record step) (start ⟨List.replicate 8 0, 0, 0, 8⟩) made = some (replies, reached) →
        Kept reached := by
  refine ⟨rfl, ?_⟩
  apply (kept_iff _ nestedRead _ _ rfl).mpr
  refine ⟨?_, fun _ _ taken => ?_⟩
  · intro promise same
    cases same
  cases taken
  refine ⟨?_, fun _ _ taken => ?_⟩
  · intro promise same
    cases same
  cases taken
  refine ⟨?_, fun _ _ taken => ?_⟩
  · intro promise same nested
    cases same
    exact absurd nested (by decide)
  cases taken
  refine ⟨?_, fun _ _ taken => ?_⟩
  · intro promise same nested
    cases same
    exact absurd nested (by decide)
  cases taken
  refine ⟨?_, fun _ _ taken => ?_⟩
  · intro promise same nested _ out
    obtain ⟨_, _, _, top⟩ := out
    cases top
  cases taken
  refine ⟨?_, fun _ _ taken => trivial⟩
  intro promise same nested _ out
  cases same
  obtain ⟨len, cache, written, _, fails⟩ := out
  cases written
  rcases fails with unresolvable | ⟨after, failed⟩
  · exact unresolvable ⟨by decide, by decide⟩
  · cases failed

theorem nested_read_once : ∃ recorded : Machine × List Event, recorded.2 ≠ [] ∧
    (recorded.2.filterMap Event.resumed?).Nodup :=
  ⟨_, by decide, resolved_once ⟨List.replicate 8 0, 0, 0, 8⟩
    (show run (record step) _ nestedRead = some _ from rfl)⟩

/-- Two coroutines read in turn: the second gives the first up, which reads again
before that is done, and the promise of this read is lost. -/
def lostRead : List Request :=
  [.resume 0, .ask (.syncReadData 4 2), .resume 1, .ask (.syncReadData 4 2),
    .ask (.syncReadData 4 2), .proceed]

theorem nested_read_lost :
    ¬ ∀ (memory : Vector UInt8 2097152) (requests : List Request) (replies : List Unit)
      (reached : Machine × List Event),
      run (record step) (start (.construct memory)) requests = some (replies, reached) →
        Kept reached := by
  intro all
  have kept := all (Vector.replicate 2097152 0) lostRead _ _ rfl
  have lost := kept.stays ⟨2, .read, 4, .enough 4, 0⟩ (by decide)
  rcases lost with resolved | installed
  · exact absurd resolved (by decide)
  · cases installed

end BeeSdk.DataPromiseProofs
