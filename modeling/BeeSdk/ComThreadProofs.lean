import BeeSdk.ComThread

/-! The tokens of a start and of a stop mean what their waiters take them for, as long as no
thread comes between that they do not wait for. -/
namespace BeeSdk.ComThread
open Runs

/-- What holds wherever every step was orderly. -/
structure Books (thread : Thread) : Prop where
  asked : ∀ held ∈ thread.bodies, held.asked = true → held.progress ≠ .created
  cleared : ∀ waitTime, thread.caller = .startCleared waitTime → thread.startTokens = 0
  own : ∀ own waitTime, thread.caller = .startWaits own waitTime →
    (0 < thread.startTokens ↔ thread.ownBegun own = true)
  returned : ∀ waitTime, thread.caller = .stopCleared waitTime ∨ thread.caller = .stopWaits waitTime →
    0 < thread.stopTokens → thread.allReturned = true
  pushed : ∀ waitTime, thread.caller = .stopCleared waitTime ∨ thread.caller = .stopWaits waitTime →
    thread.spent = true → 0 < thread.stopTokens

theorem books_start : Books {} where
  asked := by rintro held ⟨⟩
  cleared := by rintro waitTime ⟨⟩
  own := by rintro own waitTime ⟨⟩
  returned := by rintro waitTime (⟨⟨⟩⟩ | ⟨⟨⟩⟩)
  pushed := by rintro waitTime (⟨⟨⟩⟩ | ⟨⟨⟩⟩)

theorem push_pos (tokens : Nat) : 0 < push tokens := by
  unfold push maxDefaultSize
  omega

/-! ### A thread of the system goes on -/

theorem goes_cases {thread next : Thread} {body : Nat} {source target : Progress}
    (went : thread.goes body source target = some next) :
    ∃ held, thread.bodies[body]? = some held ∧ held.progress = source ∧
      next = { thread with bodies := thread.bodies.set body { held with progress := target } } := by
  simp only [Thread.goes, Option.bind_eq_some_iff, Option.ite_none_left_eq_some, Classical.not_not,
    Option.some.injEq] at went
  obtain ⟨held, found, here, rfl⟩ := went
  exact ⟨held, found, here, rfl⟩

theorem goes_asked {thread next : Thread} {body : Nat} {source target : Progress}
    (went : thread.goes body source target = some next) (past : target ≠ .created)
    (asked : ∀ held ∈ thread.bodies, held.asked = true → held.progress ≠ .created) :
    ∀ held ∈ next.bodies, held.asked = true → held.progress ≠ .created := by
  obtain ⟨held, _, _, rfl⟩ := goes_cases went
  intro other member
  rcases List.mem_or_eq_of_mem_set member with old | rfl
  · exact asked other old
  · exact fun _ => past

theorem goes_ownBegun {thread next : Thread} {body : Nat} {source target : Progress}
    (went : thread.goes body source target = some next) (own : Option Nat)
    (same : source.hasBegun = target.hasBegun ∨ own ≠ some body) :
    next.ownBegun own = thread.ownBegun own := by
  obtain ⟨held, found, rfl, rfl⟩ := goes_cases went
  unfold Thread.ownBegun
  cases own with
  | none => rfl
  | some other =>
    simp only [Option.any_some]
    by_cases here : body = other
    · subst here
      obtain ⟨within, _⟩ := List.getElem?_eq_some_iff.mp found
      rw [List.getElem?_set_self within, found]
      rcases same with alike | apart
      · simp only [Option.any_some]
        exact alike.symm
      · exact absurd rfl apart
    · rw [List.getElem?_set_ne here]

theorem goes_allReturned {thread next : Thread} {body : Nat} {source target : Progress}
    (went : thread.goes body source target = some next)
    (keeps : source.hasReturned = true → target.hasReturned = true)
    (all : thread.allReturned = true) : next.allReturned = true := by
  obtain ⟨held, found, rfl, rfl⟩ := goes_cases went
  unfold Thread.allReturned at all ⊢
  rw [List.all_eq_true] at all ⊢
  intro other member
  rcases List.mem_or_eq_of_mem_set member with old | rfl
  · exact all other old
  · exact keeps (all held (List.mem_of_getElem? found))

theorem goes_spent {thread next : Thread} {body : Nat} {source target : Progress}
    (went : thread.goes body source target = some next) (before : target ≠ .ended) :
    next.spent = false := by
  obtain ⟨held, found, rfl, rfl⟩ := goes_cases went
  obtain ⟨within, _⟩ := List.getElem?_eq_some_iff.mp found
  cases spent : Thread.spent _ with
  | false => rfl
  | true =>
    simp only [Thread.spent, decide_eq_true_eq, List.all_eq_true] at spent
    have here := spent.2 _ (List.mem_set within _)
    exact absurd here before

/-- A step of a thread that neither pushes a token nor begins. -/
theorem goes_books {thread gone next : Thread} {body : Nat} {source target : Progress}
    (books : Books thread) (went : thread.goes body source target = some gone)
    (past : target ≠ .created) (before : target ≠ .ended) (same : source.hasBegun = target.hasBegun)
    (keeps : source.hasReturned = true → target.hasReturned = true)
    (bodies : next.bodies = gone.bodies) (caller' : next.caller = gone.caller)
    (startTokens' : next.startTokens = gone.startTokens)
    (stopTokens' : next.stopTokens = gone.stopTokens) : Books next := by
  obtain ⟨caller, startTokens, stopTokens⟩ : next.caller = thread.caller ∧
      next.startTokens = thread.startTokens ∧ next.stopTokens = thread.stopTokens := by
    obtain ⟨_, _, _, same⟩ := goes_cases went
    rw [caller', startTokens', stopTokens', same]
    exact ⟨rfl, rfl, rfl⟩
  refine ⟨?_, ?_, ?_, ?_, ?_⟩
  · rw [bodies]
    exact goes_asked went past books.asked
  · rw [caller, startTokens]
    exact books.cleared
  · intro own waitTime waits
    have begun : next.ownBegun own = gone.ownBegun own := by unfold Thread.ownBegun; rw [bodies]
    rw [startTokens, begun, goes_ownBegun went own (.inl same)]
    exact books.own own waitTime (caller ▸ waits)
  · intro waitTime waits some'
    have all : next.allReturned = gone.allReturned := by unfold Thread.allReturned; rw [bodies]
    rw [all]
    rw [caller] at waits
    rw [stopTokens] at some'
    exact goes_allReturned went keeps (books.returned waitTime waits some')
  · intro waitTime waits spent
    have same : next.spent = gone.spent := by unfold Thread.spent; rw [bodies]
    rw [same, goes_spent went before] at spent
    cases spent

/-! ### Steps -/

theorem waits_of_books {thread : Thread} (books : Books thread) :
    ∀ waitTime, thread.caller = .stopWaits waitTime → thread.stopTokens = 0 → thread.spent = false := by
  intro waitTime waits empty
  cases spent : thread.spent with
  | false => rfl
  | true =>
    have some' := books.pushed waitTime (.inr waits) spent
    omega

/-- A step that returns nothing, of a thread that does not set its flag. -/
theorem handshake_quiet {before after : Thread} {request : Request} (books : Books after)
    (other : ∀ body, request ≠ .marks body) : Handshake before request none after where
  begun := by rintro own waitTime ret _ ⟨⟩
  returned := by rintro waitTime _ ⟨⟩
  kept := fun body same => absurd same (other body)
  waits := waits_of_books books

/-- Nobody waits. -/
theorem books_free {thread next : Thread} (books : Books thread) (bodies : next.bodies = thread.bodies)
    (caller : (∀ waitTime, next.caller ≠ .startCleared waitTime) ∧
      (∀ own waitTime, next.caller ≠ .startWaits own waitTime) ∧
      (∀ waitTime, next.caller ≠ .stopCleared waitTime) ∧
      ∀ waitTime, next.caller ≠ .stopWaits waitTime) : Books next := by
  obtain ⟨cleared, starts, stops, waits⟩ := caller
  refine ⟨bodies ▸ books.asked, fun waitTime here => absurd here (cleared waitTime),
    fun own waitTime here => absurd here (starts own waitTime), ?_, ?_⟩
  · rintro waitTime (here | here)
    · exact absurd here (stops waitTime)
    · exact absurd here (waits waitTime)
  · rintro waitTime (here | here)
    · exact absurd here (stops waitTime)
    · exact absurd here (waits waitTime)

theorem requested_asked {thread : Thread} (running : ∀ held ∈ thread.bodies, held.progress ≠ .created) :
    ∀ held ∈ thread.requested.bodies, held.asked = true → held.progress ≠ .created := by
  intro held member _
  obtain ⟨body, old, rfl⟩ := List.mem_map.mp member
  exact running body old

theorem requested_allReturned (thread : Thread) :
    thread.requested.allReturned = thread.allReturned := by
  unfold Thread.allReturned Thread.requested
  rw [List.all_map]
  rfl

theorem requested_spent (thread : Thread) : thread.requested.spent = thread.spent := by
  simp only [Thread.spent, Thread.requested, List.all_map, ne_eq, List.map_eq_nil_iff]
  rfl

theorem requested_ownBegun (thread : Thread) (own : Option Nat) :
    thread.requested.ownBegun own = thread.ownBegun own := by
  unfold Thread.ownBegun Thread.requested
  cases own with
  | none => rfl
  | some body =>
    simp only [Option.any_some, List.getElem?_map, Option.any_map]

theorem requested_books {thread : Thread} (books : Books thread)
    (running : ∀ held ∈ thread.bodies, held.progress ≠ .created) : Books thread.requested where
  asked := requested_asked running
  cleared := books.cleared
  own := by
    intro own waitTime waits
    rw [requested_ownBegun]
    exact books.own own waitTime waits
  returned := by
    intro waitTime waits some'
    rw [requested_allReturned]
    exact books.returned waitTime waits some'
  pushed := by
    intro waitTime waits spent
    rw [requested_spent] at spent
    exact books.pushed waitTime waits spent

/-- A thread made is at its beginning. -/
theorem ownBegun_new (bodies : List Body) (thread : Thread) :
    ({ thread with bodies := bodies ++ [{}] } : Thread).ownBegun (some bodies.length) = false := by
  unfold Thread.ownBegun
  simp [Progress.hasBegun]

/-- A thread that begins: its token is what its own `SynStart` waits for. -/
theorem begins_books {thread gone : Thread} {body : Nat} (books : Books thread)
    (orderly : Orderly thread (.begins body)) (went : thread.goes body .marked .begun = some gone) :
    Books { gone with startTokens := push gone.startTokens } := by
  have asked := goes_asked went (by decide) books.asked
  have returned := goes_allReturned went (by decide)
  have spent := goes_spent went (by decide)
  have begun : ∀ own, own ≠ some body → gone.ownBegun own = thread.ownBegun own := fun own other =>
    goes_ownBegun went own (.inr other)
  obtain ⟨held, found, here, rfl⟩ := goes_cases went
  refine ⟨asked, ?_, ?_, ?_, ?_⟩
  · intro waitTime clear
    have cleared : thread.caller = .startCleared waitTime := clear
    simp [Orderly, cleared] at orderly
  · intro own waitTime waits
    have waiting : thread.caller = .startWaits own waitTime := waits
    simp only [Orderly, waiting] at orderly
    refine iff_of_true (push_pos _) ?_
    rcases orderly with rfl | before
    · obtain ⟨within, _⟩ := List.getElem?_eq_some_iff.mp found
      unfold Thread.ownBegun
      simp [List.getElem?_set_self within, Progress.hasBegun]
    · by_cases same : own = some body
      · subst same
        unfold Thread.ownBegun at before
        rw [Option.any_some, found, Option.any_some, here] at before
        cases before
      · exact (begun own same).trans before
  · intro waitTime waits some'
    exact returned (books.returned waitTime waits some')
  · intro waitTime waits ended
    exact Bool.noConfusion (spent.symm.trans ended)

/-- A thread that ends: all others have returned by then. -/
theorem ends_books {thread gone : Thread} {body : Nat} (books : Books thread)
    (orderly : Orderly thread (.ends body)) (went : thread.goes body .flagged .ended = some gone) :
    Books { gone with stopTokens := push gone.stopTokens } := by
  have asked := goes_asked went (by decide) books.asked
  have returned := goes_allReturned went (by decide)
  have begun : ∀ own, gone.ownBegun own = thread.ownBegun own := fun own =>
    goes_ownBegun went own (.inl (by decide))
  obtain ⟨held, found, here, rfl⟩ := goes_cases went
  refine ⟨asked, books.cleared, ?_, ?_, fun _ _ _ => push_pos _⟩
  · intro own waitTime waits
    have same := begun own
    exact (books.own own waitTime waits).trans (by rw [← same]; exact Iff.rfl)
  · intro waitTime waits _
    refine returned ?_
    rcases waits with clear | waiting
    · have cleared : thread.caller = .stopCleared waitTime := clear
      simpa [Orderly, cleared] using orderly
    · have here : thread.caller = .stopWaits waitTime := waiting
      simpa [Orderly, here] using orderly

/-- An orderly step. -/
theorem orderly_step {platform : Platform} {thread next : Thread} {request : Request}
    {reply : Option Bool} (books : Books thread) (orderly : Orderly thread request)
    (ran : thread.step platform request = some (reply, next)) :
    Handshake thread request reply next ∧ Books next := by
  cases request with
  | synStart waitTime =>
    simp only [Thread.step, Option.ite_none_left_eq_some, Option.some.injEq, Prod.mk.injEq] at ran
    obtain ⟨_, rfl, rfl⟩ := ran
    have kept : Books { thread with caller := .starting waitTime } :=
      books_free books rfl ⟨by rintro _ ⟨⟩, by rintro _ _ ⟨⟩, by rintro _ ⟨⟩, by rintro _ ⟨⟩⟩
    exact ⟨handshake_quiet kept (by rintro _ ⟨⟩), kept⟩
  | synStop waitTime =>
    simp only [Thread.step, Option.ite_none_left_eq_some, Option.some.injEq, Prod.mk.injEq] at ran
    obtain ⟨_, rfl, rfl⟩ := ran
    have kept : Books { thread with caller := .stopping waitTime } :=
      books_free books rfl ⟨by rintro _ ⟨⟩, by rintro _ _ ⟨⟩, by rintro _ ⟨⟩, by rintro _ ⟨⟩⟩
    exact ⟨handshake_quiet kept (by rintro _ ⟨⟩), kept⟩
  | stop =>
    cases ran
    have kept := requested_books books orderly
    exact ⟨handshake_quiet kept (by rintro _ ⟨⟩), kept⟩
  | lowers =>
    simp only [Thread.step] at ran
    split at ran
    · rename_i waitTime _
      cases ran
      have kept : Books { thread with running := false, caller := .startLowered waitTime } :=
        books_free books rfl ⟨by rintro _ ⟨⟩, by rintro _ _ ⟨⟩, by rintro _ ⟨⟩, by rintro _ ⟨⟩⟩
      exact ⟨handshake_quiet kept (by rintro _ ⟨⟩), kept⟩
    · rename_i waitTime caller
      cases ran
      simp only [Orderly, caller] at orderly
      have asked := requested_books books orderly
      have kept : Books { thread.requested with caller := .stopWaits waitTime } := by
        refine ⟨asked.asked, by rintro _ ⟨⟩, by rintro _ _ ⟨⟩, ?_, ?_⟩
        · exact fun _ _ some' => asked.returned waitTime (.inl caller) some'
        · exact fun _ _ spent => asked.pushed waitTime (.inl caller) spent
      exact ⟨handshake_quiet kept (by rintro _ ⟨⟩), kept⟩
    · cases ran
  | clears =>
    simp only [Thread.step] at ran
    split at ran
    · rename_i waitTime _
      cases ran
      have kept : Books { thread with startTokens := 0, caller := .startCleared waitTime } :=
        ⟨books.asked, fun _ _ => rfl, by rintro _ _ ⟨⟩, by rintro _ (⟨⟨⟩⟩ | ⟨⟨⟩⟩),
          by rintro _ (⟨⟨⟩⟩ | ⟨⟨⟩⟩)⟩
      exact ⟨handshake_quiet kept (by rintro _ ⟨⟩), kept⟩
    · rename_i waitTime caller
      cases ran
      simp only [Orderly, caller] at orderly
      have kept : Books { thread with stopTokens := 0, caller := .stopCleared waitTime } := by
        refine ⟨books.asked, by rintro _ ⟨⟩, by rintro _ _ ⟨⟩, ?_, ?_⟩
        · rintro _ _ some'
          exact absurd some' (Nat.lt_irrefl 0)
        · intro _ _ spent
          exact Bool.noConfusion (orderly.symm.trans spent)
      exact ⟨handshake_quiet kept (by rintro _ ⟨⟩), kept⟩
    · cases ran
  | creates made =>
    simp only [Thread.step] at ran
    split at ran
    · rename_i waitTime caller
      have empty := books.cleared waitTime caller
      cases made with
      | true =>
        cases ran
        have kept : Books { thread with
            bodies := thread.bodies ++ [{}]
            caller := .startWaits (some thread.bodies.length) waitTime } := by
          refine ⟨?_, by rintro _ ⟨⟩, ?_, by rintro _ (⟨⟨⟩⟩ | ⟨⟨⟩⟩), by rintro _ (⟨⟨⟩⟩ | ⟨⟨⟩⟩)⟩
          · intro held member
            rcases List.mem_append.mp member with old | new
            · exact books.asked held old
            · rw [List.mem_singleton.mp new]
              rintro ⟨⟩
          · rintro _ _ ⟨⟩
            have fresh := ownBegun_new thread.bodies
              { thread with caller := .startWaits (some thread.bodies.length) waitTime }
            refine iff_of_false (by dsimp only; omega) ?_
            intro begun
            exact Bool.noConfusion (fresh.symm.trans begun)
        exact ⟨handshake_quiet kept (by rintro _ ⟨⟩), kept⟩
      | false =>
        cases ran
        have kept : Books { thread with caller := .startWaits none waitTime } := by
          refine ⟨books.asked, by rintro _ ⟨⟩, ?_, by rintro _ (⟨⟨⟩⟩ | ⟨⟨⟩⟩), by rintro _ (⟨⟨⟩⟩ | ⟨⟨⟩⟩)⟩
          rintro _ _ ⟨⟩
          exact iff_of_false (by dsimp only; omega) (by rintro ⟨⟩)
        exact ⟨handshake_quiet kept (by rintro _ ⟨⟩), kept⟩
    · cases ran
  | pops =>
    simp only [Thread.step] at ran
    split at ran
    · rename_i own waitTime caller
      rw [Option.ite_none_left_eq_some] at ran
      obtain ⟨some', ran⟩ := ran
      cases ran
      have begun := (books.own own waitTime caller).mp (by omega)
      refine ⟨⟨?_, ?_, by rintro _ ⟨⟩, by rintro _ ⟨⟩⟩, books_free books rfl
        ⟨by rintro _ ⟨⟩, by rintro _ _ ⟨⟩, by rintro _ ⟨⟩, by rintro _ ⟨⟩⟩⟩
      · intro own' waitTime' ret waits told
        rw [caller] at waits
        cases waits
        cases told
        exact iff_of_true rfl begun
      · intro waitTime' waits
        rw [caller] at waits
        cases waits
    · rename_i waitTime caller
      rw [Option.ite_none_left_eq_some] at ran
      obtain ⟨some', ran⟩ := ran
      cases ran
      refine ⟨⟨?_, ?_, by rintro _ ⟨⟩, by rintro _ ⟨⟩⟩, books_free books rfl
        ⟨by rintro _ ⟨⟩, by rintro _ _ ⟨⟩, by rintro _ ⟨⟩, by rintro _ ⟨⟩⟩⟩
      · intro own' waitTime' ret waits
        rw [caller] at waits
        cases waits
      · intro waitTime' waits _
        exact books.returned waitTime (.inr caller) (by omega)
    · cases ran
  | timesOut =>
    simp only [Thread.step] at ran
    split at ran
    · rename_i own waitTime caller
      rw [Option.ite_none_left_eq_some, not_or, Classical.not_not] at ran
      obtain ⟨⟨none', _⟩, ran⟩ := ran
      cases ran
      have unbegun : ¬ thread.ownBegun own = true := fun begun => by
        have some' := (books.own own waitTime caller).mpr begun
        omega
      refine ⟨⟨?_, ?_, by rintro _ ⟨⟩, by rintro _ ⟨⟩⟩, books_free books rfl
        ⟨by rintro _ ⟨⟩, by rintro _ _ ⟨⟩, by rintro _ ⟨⟩, by rintro _ ⟨⟩⟩⟩
      · intro own' waitTime' ret waits told
        rw [caller] at waits
        cases waits
        cases told
        exact iff_of_false (by decide) unbegun
      · intro waitTime' waits
        rw [caller] at waits
        cases waits
    · rename_i waitTime caller
      rw [Option.ite_none_left_eq_some] at ran
      obtain ⟨_, ran⟩ := ran
      cases ran
      simp only [Orderly, caller] at orderly
      refine ⟨⟨?_, ?_, by rintro _ ⟨⟩, by rintro _ ⟨⟩⟩, books_free books rfl
        ⟨by rintro _ ⟨⟩, by rintro _ _ ⟨⟩, by rintro _ ⟨⟩, by rintro _ ⟨⟩⟩⟩
      · intro own' waitTime' ret waits
        rw [caller] at waits
        cases waits
      · intro waitTime' waits _
        exact orderly
    · cases ran
  | marks body =>
    simp only [Thread.step, Option.map_eq_some_iff, Prod.mk.injEq] at ran
    obtain ⟨gone, went, rfl, rfl⟩ := ran
    have kept : Books { gone with running := true } :=
      goes_books books went (by decide) (by decide) rfl (by decide) rfl rfl rfl rfl
    refine ⟨⟨by rintro _ _ _ _ ⟨⟩, by rintro _ _ ⟨⟩, ?_, waits_of_books kept⟩, kept⟩
    rintro _ ⟨⟩ held member asked
    exact orderly held member asked (books.asked held member asked)
  | begins body =>
    simp only [Thread.step, Option.map_eq_some_iff, Prod.mk.injEq] at ran
    obtain ⟨gone, went, rfl, rfl⟩ := ran
    have kept := begins_books books orderly went
    exact ⟨handshake_quiet kept (by rintro _ ⟨⟩), kept⟩
  | returns body =>
    simp only [Thread.step, Option.map_eq_some_iff, Prod.mk.injEq] at ran
    obtain ⟨gone, went, rfl, rfl⟩ := ran
    have kept : Books gone :=
      goes_books books went (by decide) (by decide) rfl (by decide) rfl rfl rfl rfl
    exact ⟨handshake_quiet kept (by rintro _ ⟨⟩), kept⟩
  | unmarks body =>
    simp only [Thread.step, Option.map_eq_some_iff, Prod.mk.injEq] at ran
    obtain ⟨gone, went, rfl, rfl⟩ := ran
    have kept : Books { gone with running := false } :=
      goes_books books went (by decide) (by decide) rfl (by decide) rfl rfl rfl rfl
    exact ⟨handshake_quiet kept (by rintro _ ⟨⟩), kept⟩
  | flags body =>
    simp only [Thread.step, Option.map_eq_some_iff, Prod.mk.injEq] at ran
    obtain ⟨gone, went, rfl, rfl⟩ := ran
    have kept : Books { gone with hasEnd := true } :=
      goes_books books went (by decide) (by decide) rfl (by decide) rfl rfl rfl rfl
    exact ⟨handshake_quiet kept (by rintro _ ⟨⟩), kept⟩
  | ends body =>
    simp only [Thread.step, Option.map_eq_some_iff, Prod.mk.injEq] at ran
    obtain ⟨gone, went, rfl, rfl⟩ := ran
    have kept := ends_books books orderly went
    exact ⟨handshake_quiet kept (by rintro _ ⟨⟩), kept⟩

/-- In every run in which every step is orderly, with any times to wait and however often the
thread is started and stopped, the handshake is kept. -/
theorem thread_handshake_run (platform : Platform) (requests : List Request) (replies : List (Option Bool))
    (final : Thread) (ran : run (Thread.step platform) {} requests = some (replies, final))
    (orderly : AllSteps (Thread.step platform) Orderly {} requests) :
    AllTaken (Thread.step platform) Handshake {} requests := by
  apply all_taken_of_defined Books _ books_start orderly ran
  intro thread request reply next books met taken
  exact orderly_step books met taken

/-- Started and stopped twice, once before it begins in time. -/
theorem started_twice :
    (run (Thread.step .posix) {} [.synStart 100, .lowers, .clears, .creates true, .marks 0, .begins 0,
        .pops, .synStop 100, .clears, .lowers, .returns 0, .unmarks 0, .flags 0, .ends 0, .pops,
        .synStart (-1), .lowers, .clears, .creates true, .timesOut, .marks 1, .begins 1, .returns 1,
        .synStop (-1), .clears, .lowers, .timesOut]).map (·.1.filterMap id) =
      some [true, true, false, true] ∧
    AllTaken (Thread.step .posix) Handshake {} [.synStart 100, .lowers, .clears, .creates true,
        .marks 0, .begins 0, .pops, .synStop 100, .clears, .lowers, .returns 0, .unmarks 0, .flags 0,
        .ends 0, .pops, .synStart (-1), .lowers, .clears, .creates true, .timesOut, .marks 1, .begins 1,
        .returns 1, .synStop (-1), .clears, .lowers, .timesOut] :=
  ⟨rfl, thread_handshake_run .posix _ _ _ rfl (by decide)⟩

/-- A wait without end that has run out before: `run` goes on behind `SynStop`. -/
theorem stopped_running :
    ¬ ∀ (platform : Platform) (requests : List Request) (replies : List (Option Bool)) (final : Thread),
      run (Thread.step platform) {} requests = some (replies, final) →
        AllTaken (Thread.step platform) Handshake {} requests := by
  intro always
  have kept := always .posix [.synStart (-1), .lowers, .clears, .creates true, .marks 0, .begins 0,
    .pops, .synStop (-1), .clears, .lowers, .timesOut] _ _ rfl
  obtain ⟨_, _, s1, _, _, _, s2, _, _, _, s3, _, _, _, s4, _, _, _, s5, _, _, _, s6, _, kept⟩ := kept
  cases s1
  cases s2
  cases s3
  cases s4
  cases s5
  cases s6
  obtain ⟨_, _, s7, _, _, _, s8, _, _, _, s9, _, _, _, s10, _, _, _, s11, handshake, _⟩ := kept
  cases s7
  cases s8
  cases s9
  cases s10
  cases s11
  exact absurd (handshake.returned (-1) rfl rfl) (by decide)

end BeeSdk.ComThread
