import BeeSdk.SafeQueue

/-! The books of `SafeQueue`: what each thread owes to the lock, the semaphores and the
queue at the stage it stands at, and when no thread comes to wait for good. -/
namespace BeeSdk
namespace SafeQueue
variable {Element : Type}

/-! ### What a thread owes -/

structure Account where
  /-- The thread holds the lock. -/
  holds : Bool
  /-- It has taken an element off the queue and not waited for `m_FullSemaphore` yet. -/
  draws : Bool
  /-- It has waited for `m_FullSemaphore` and not taken its element yet, or put one in and
  not posted it yet. -/
  owesFull : Bool
  /-- It has a free place in hand: waited for and not filled yet, or vacated and not posted. -/
  owesEmpty : Bool
  /-- It is about to wait for `m_EmptySemaphore` with the lock held. -/
  wants : Bool

def account : Stage Element → Account
  | .idle | .pushLocks _ | .blockPushWaitsEmpty _ | .popWaitsFull _ | .clearLocks | .dupLocks =>
    ⟨false, false, false, false, false⟩
  | .blockPushLocks _ => ⟨false, false, false, true, false⟩
  | .popLocks => ⟨false, false, true, false, false⟩
  | .pushChecks _ | .clearChecks | .dupSwaps | .unlocks =>
    ⟨true, false, false, false, false⟩
  | .pushWaitsFull _ | .clearWaitsFull => ⟨true, true, false, true, false⟩
  | .pushPostsEmpty _ | .popPostsEmpty | .clearPostsEmpty | .appends _ =>
    ⟨true, false, false, true, false⟩
  | .pushWaitsEmpty _ => ⟨true, false, false, false, true⟩
  | .popTakes | .postsFull => ⟨true, false, true, false, false⟩

/-- The number of threads whose account shows an item. -/
def owing (item : Account → Bool) (threads : List (Stage Element)) : Nat :=
  threads.countP fun stage => item (account stage)

variable {threads : List (Stage Element)} {stage next : Stage Element} {thread : Nat}

/-- One thread goes over to another stage: the number changes by its own share. -/
theorem owing_set (item : Account → Bool) (there : threads[thread]? = some stage)
    (next : Stage Element) :
    owing item (threads.set thread next) + (item (account stage)).toNat =
      owing item threads + (item (account next)).toNat := by
  obtain ⟨within, here⟩ := List.getElem?_eq_some_iff.mp there
  have share := List.boole_getElem_le_countP (p := fun stage => item (account stage)) within
  have changed :=
    List.countP_set (p := fun stage => item (account stage)) (a := next) within
  have asNumber : ∀ shown : Bool, (if shown = true then 1 else 0) = shown.toNat := by decide
  simp only [here, asNumber] at share changed
  rw [owing, changed, owing]
  omega

theorem owing_le {item other : Account → Bool}
    (implies : ∀ stage : Stage Element, item (account stage) → other (account stage)) :
    owing item threads ≤ owing other threads :=
  List.countP_mono_left fun stage _ => implies stage

theorem owing_pos {item : Account → Bool} (member : stage ∈ threads)
    (shows : item (account stage) = true) : 0 < owing item threads :=
  List.countP_pos_iff.mpr ⟨stage, member, shows⟩

/-- Only a thread that holds the lock draws. -/
theorem holds_of_draws (stage : Stage Element) : (account stage).draws → (account stage).holds := by
  cases stage <;> simp [account]

theorem holds_of_wants (stage : Stage Element) : (account stage).wants → (account stage).holds := by
  cases stage <;> simp [account]

/-- With one holder at most, what only holders show is shown by the holder alone. -/
theorem owing_of_holder {item : Account → Bool}
    (implies : ∀ stage : Stage Element, item (account stage) → (account stage).holds)
    (there : threads[thread]? = some stage) (holds : (account stage).holds = true)
    (one : owing Account.holds threads ≤ 1) :
    owing item threads = (item (account stage)).toNat := by
  have others := owing_set Account.holds there .idle
  have mine := owing_set item there .idle
  have shared : owing item (threads.set thread .idle) ≤
      owing Account.holds (threads.set thread .idle) := owing_le implies
  have idle : item (account (.idle : Stage Element)) = false := by
    apply Bool.eq_false_iff.mpr
    intro shows
    exact Bool.false_ne_true (implies .idle shows)
  have gone : (account (.idle : Stage Element)).holds = false := rfl
  rw [holds, gone, Bool.toNat_true, Bool.toNat_false] at others
  rw [idle, Bool.toNat_false] at mine
  omega

/-! ### The books -/

/-- The semaphores count the queue up to what the threads owe, a thread that is about to
wait with the lock held will not have to, and the rest of what is promised. -/
structure Books (state : SafeQueue Element) : Prop where
  lock : owing Account.holds state.threads = state.locked.toNat
  full : state.queue.length + owing Account.draws state.threads =
    state.fullSemaphore.count + owing Account.owesFull state.threads
  empty : state.queue.length + state.emptySemaphore.count +
    owing Account.owesEmpty state.threads = state.queueSize
  drawn : 0 < owing Account.draws state.threads → 0 < state.fullSemaphore.count
  wanted : 0 < owing Account.wants state.threads → 0 < state.emptySemaphore.count
  fullRoom : state.queueSize ≤ state.fullSemaphore.maximum
  emptyRoom : state.queueSize ≤ state.emptySemaphore.maximum
  unbroken : state.broken = false
  ordered : state.pushed = state.left ++ state.queue

variable {state : SafeQueue Element}

theorem owing_of_quiescent (item : Account → Bool) (quiescent : state.Quiescent)
    (idle : item (account (.idle : Stage Element)) = false) : owing item state.threads = 0 := by
  rw [owing, List.countP_eq_zero]
  intro stage member
  rw [quiescent stage member, idle]
  exact Bool.false_ne_true

/-- The books say what is promised. -/
theorem Books.sound (books : Books state) : Sound state where
  counted quiescent := by
    have full := books.full
    have empty := books.empty
    rw [owing_of_quiescent _ quiescent rfl, owing_of_quiescent _ quiescent rfl] at full
    rw [owing_of_quiescent _ quiescent rfl] at empty
    omega
  unbroken := books.unbroken
  ordered := books.ordered
  free stage member stuck := by
    have awake {semaphore : Semaphore} (positive : 0 < semaphore.count)
        (asleep : semaphore.wait = none) : False := by
      obtain ⟨taken, waited, _⟩ := Semaphore.wait_of_pos positive
      rw [waited] at asleep
      cases asleep
    cases stage with
    | pushWaitsFull value => exact awake (books.drawn (owing_pos member rfl)) stuck
    | clearWaitsFull => exact awake (books.drawn (owing_pos member rfl)) stuck
    | pushWaitsEmpty value => exact awake (books.wanted (owing_pos member rfl)) stuck
    | _ => exact stuck

/-- The books of a thread's move: every number changes by the thread's own share. -/
private theorem shares (there : state.threads[thread]? = some stage) (next : Stage Element)
    (before : account stage = old) (after : account next = new) (item : Account → Bool) :
    owing item (state.threads.set thread next) + (item old).toNat =
      owing item state.threads + (item new).toNat := by
  rw [← before, ← after]
  exact owing_set item there next

private theorem one_holder (books : Books state) : owing Account.holds state.threads ≤ 1 := by
  rw [books.lock]
  exact Bool.toNat_le state.locked

private theorem draws_of_holder (books : Books state)
    (there : state.threads[thread]? = some stage) (before : account stage = ⟨true, d, f, e, w⟩) :
    owing Account.draws state.threads = d.toNat := by
  have holder := owing_of_holder holds_of_draws there (by rw [before]) (one_holder books)
  rwa [before] at holder

private theorem wants_of_holder (books : Books state)
    (there : state.threads[thread]? = some stage) (before : account stage = ⟨true, d, f, e, w⟩) :
    owing Account.wants state.threads = w.toNat := by
  have holder := owing_of_holder holds_of_wants there (by rw [before]) (one_holder books)
  rwa [before] at holder

/-- What an action leaves as it is. -/
private structure Frame (state reached : SafeQueue Element) : Prop where
  size : reached.queueSize = state.queueSize
  fullRoom : reached.fullSemaphore.maximum = state.fullSemaphore.maximum
  emptyRoom : reached.emptySemaphore.maximum = state.emptySemaphore.maximum
  unbroken : reached.broken = state.broken

/-- One move: the books stay balanced when what changes in the queue and the semaphores
is made up for by what changes in the account of the thread. -/
private theorem Books.move {reached : SafeQueue Element} (books : Books state)
    (there : state.threads[thread]? = some stage)
    (before : account stage = old) (after : account next = new)
    (threads : reached.threads = state.threads.set thread next) (frame : Frame state reached)
    (lock : reached.locked.toNat + old.holds.toNat = state.locked.toNat + new.holds.toNat)
    (full : reached.queue.length + new.draws.toNat + state.fullSemaphore.count +
        old.owesFull.toNat =
      reached.fullSemaphore.count + state.queue.length + new.owesFull.toNat + old.draws.toNat)
    (empty : reached.queue.length + reached.emptySemaphore.count + new.owesEmpty.toNat =
      state.queue.length + state.emptySemaphore.count + old.owesEmpty.toNat)
    (drawn : 0 < owing Account.draws reached.threads → 0 < reached.fullSemaphore.count)
    (wanted : 0 < owing Account.wants reached.threads → 0 < reached.emptySemaphore.count)
    (ordered : reached.pushed = reached.left ++ reached.queue) : Books reached := by
  have share := shares there next before after
  simp only [← threads] at share
  refine ⟨?_, ?_, ?_, drawn, wanted, ?_, ?_, ?_, ordered⟩
  · have := share Account.holds
    have := books.lock
    omega
  · have := share Account.draws
    have := share Account.owesFull
    have := books.full
    omega
  · have := share Account.owesEmpty
    have := books.empty
    have := frame.size
    omega
  · rw [frame.size, frame.fullRoom]
    exact books.fullRoom
  · rw [frame.size, frame.emptyRoom]
    exact books.emptyRoom
  · rw [frame.unbroken]
    exact books.unbroken

/-- Threads that draw or want are there behind a move only if they were before or the
moving one has come to it. -/
private theorem drawn_moved (books : Books state) (there : state.threads[thread]? = some stage)
    (before : account stage = old) (after : account next = new)
    (same : new.draws = old.draws) :
    0 < owing Account.draws (state.threads.set thread next) → 0 < state.fullSemaphore.count := by
  have share := shares there next before after Account.draws
  rw [same] at share
  intro positive
  exact books.drawn (by omega)

private theorem wanted_moved (books : Books state) (there : state.threads[thread]? = some stage)
    (before : account stage = old) (after : account next = new)
    (same : new.wants = old.wants) :
    0 < owing Account.wants (state.threads.set thread next) → 0 < state.emptySemaphore.count := by
  have share := shares there next before after Account.wants
  rw [same] at share
  intro positive
  exact books.wanted (by omega)

/-! ### Each action keeps the books -/

private theorem moved_books (books : Books state) (there : state.threads[thread]? = some stage)
    (same : account next = account stage) : Books (state.moved thread next) := by
  refine books.move there rfl same rfl ⟨rfl, rfl, rfl, rfl⟩ rfl ?_ rfl ?_ ?_ books.ordered
  · simp only [moved]
    omega
  · exact drawn_moved books there rfl same rfl
  · exact wanted_moved books there rfl same rfl

private theorem acquire_books (books : Books state)
    (there : state.threads[thread]? = some stage)
    (before : account stage = ⟨false, d, f, e, w⟩) (after : account next = ⟨true, d, f, e, w⟩)
    (acquired : state.acquire thread next = some reached) : Books reached := by
  unfold acquire at acquired
  split at acquired
  · cases acquired
  · rename_i free
    cases acquired
    refine books.move there before after rfl ⟨rfl, rfl, rfl, rfl⟩ ?_ ?_ rfl ?_ ?_ books.ordered
    · simp [free]
    · simp only [moved]
      omega
    · exact drawn_moved books there before after rfl
    · exact wanted_moved books there before after rfl

private theorem release_books (books : Books state)
    (there : state.threads[thread]? = some stage)
    (before : account stage = ⟨true, false, false, false, false⟩) :
    Books (state.release thread) := by
  have after : account (.idle : Stage Element) = ⟨false, false, false, false, false⟩ := rfl
  refine books.move there before after rfl ⟨rfl, rfl, rfl, rfl⟩ ?_ ?_ rfl ?_ ?_ books.ordered
  · have held : 0 < owing Account.holds state.threads :=
      owing_pos (List.mem_of_getElem? there) (by rw [before])
    have lock := books.lock
    have := Bool.toNat_le state.locked
    simp only [release, Bool.toNat_true, Bool.toNat_false]
    omega
  · simp only [release, moved]
    omega
  · exact drawn_moved books there before after rfl
  · exact wanted_moved books there before after rfl

/-- `m_FullSemaphore.Wait()` where a thread that draws still finds something in it behind. -/
private theorem waitFull_books (books : Books state)
    (there : state.threads[thread]? = some stage) (before : account stage = old)
    (after : account next = new) (positive : 0 < state.fullSemaphore.count)
    (lock : new.holds = old.holds) (empty : new.owesEmpty = old.owesEmpty)
    (wants : new.wants = old.wants)
    (full : new.draws.toNat + old.owesFull.toNat + 1 = new.owesFull.toNat + old.draws.toNat)
    (drawn : 0 < owing Account.draws (state.threads.set thread next) →
      1 < state.fullSemaphore.count)
    (waited : state.waitFull thread next = some reached) : Books reached := by
  obtain ⟨semaphore, taken, count, maximum⟩ := Semaphore.wait_of_pos positive
  rw [waitFull, taken] at waited
  cases waited
  refine books.move there before after rfl ⟨rfl, maximum, rfl, rfl⟩ ?_ ?_ ?_ ?_ ?_ books.ordered
  · rw [lock]
    rfl
  · simp only [moved]
    omega
  · rw [empty]
    rfl
  · intro drawing
    have := drawn drawing
    show 0 < semaphore.count
    omega
  · exact wanted_moved books there before after wants

private theorem waitEmpty_books (books : Books state)
    (there : state.threads[thread]? = some stage) (before : account stage = old)
    (after : account next = new) (positive : 0 < state.emptySemaphore.count)
    (lock : new.holds = old.holds) (draws : new.draws = old.draws)
    (full : new.owesFull = old.owesFull)
    (empty : new.owesEmpty.toNat = old.owesEmpty.toNat + 1)
    (wanted : 0 < owing Account.wants (state.threads.set thread next) →
      1 < state.emptySemaphore.count)
    (waited : state.waitEmpty thread next = some reached) : Books reached := by
  obtain ⟨semaphore, taken, count, maximum⟩ := Semaphore.wait_of_pos positive
  rw [waitEmpty, taken] at waited
  cases waited
  refine books.move there before after rfl ⟨rfl, rfl, maximum, rfl⟩ ?_ ?_ ?_ ?_ ?_ books.ordered
  · rw [lock]
    rfl
  · simp only [moved, draws, full]
    omega
  · simp only [moved]
    omega
  · exact drawn_moved books there before after draws
  · intro wanting
    have := wanted wanting
    show 0 < semaphore.count
    omega

/-- A place that a thread has in hand is missing in the semaphore. -/
private theorem postEmpty_books (books : Books state)
    (there : state.threads[thread]? = some stage) (before : account stage = ⟨true, d, f, true, w⟩)
    (after : account next = ⟨true, d, f, false, w'⟩) :
    Books (state.postEmpty thread next) := by
  have share := shares there next before after Account.owesEmpty
  have room : state.emptySemaphore.count < state.emptySemaphore.maximum := by
    have := books.empty
    have := books.emptyRoom
    simp only [Bool.toNat_true, Bool.toNat_false] at share
    omega
  have count := Semaphore.post_count room
  refine books.move there before after rfl ⟨rfl, rfl, Semaphore.post_maximum, rfl⟩
    rfl ?_ ?_ ?_ ?_ books.ordered
  · simp only [postEmpty, moved]
    omega
  · simp only [postEmpty, moved, count, Bool.toNat_true, Bool.toNat_false]
    omega
  · exact drawn_moved books there before after rfl
  · intro _
    simp only [postEmpty, count]
    omega

private theorem postFull_books (books : Books state)
    (there : state.threads[thread]? = some stage)
    (before : account stage = ⟨true, false, true, e, w⟩)
    (after : account next = ⟨true, false, false, e, w⟩) :
    Books (state.postFull thread next) := by
  have share := shares there next before after Account.owesFull
  have alone := draws_of_holder books there before
  simp only [Bool.toNat_true, Bool.toNat_false] at share alone
  have room : state.fullSemaphore.count < state.fullSemaphore.maximum := by
    have := books.full
    have := books.empty
    have := books.fullRoom
    omega
  have count := Semaphore.post_count room
  refine books.move there before after rfl ⟨rfl, Semaphore.post_maximum, rfl, rfl⟩
    rfl ?_ rfl ?_ ?_ books.ordered
  · simp only [postFull, moved, count, Bool.toNat_true, Bool.toNat_false]
    omega
  · intro _
    simp only [postFull, count]
    omega
  · exact wanted_moved books there before after rfl

private theorem append_books (books : Books state)
    (there : state.threads[thread]? = some stage)
    (before : account stage = ⟨true, d, false, true, w⟩)
    (after : account next = ⟨true, d, true, false, w⟩) (value : Element) :
    Books (state.append thread value next) := by
  refine books.move there before after rfl ⟨rfl, rfl, rfl, rfl⟩ rfl ?_ ?_ ?_ ?_ ?_
  · simp only [append, moved, List.length_append, List.length_singleton, Bool.toNat_true,
      Bool.toNat_false]
    omega
  · simp only [append, moved, List.length_append, List.length_singleton, Bool.toNat_true,
      Bool.toNat_false]
    omega
  · exact drawn_moved books there before after rfl
  · exact wanted_moved books there before after rfl
  · simp only [append, moved, books.ordered, List.append_assoc]

/-- An element leaves the queue: it is either the thread's own by the semaphore, or the
thread has to wait for the semaphore behind. -/
private theorem takeFront_books (books : Books state)
    (there : state.threads[thread]? = some stage)
    (before : account stage = ⟨true, false, f, false, w⟩)
    (after : account next = ⟨true, !f, false, true, w⟩) (nonempty : state.queue ≠ [])
    (drawn : f = false → 0 < state.fullSemaphore.count) :
    Books (state.takeFront thread next) := by
  obtain ⟨front, rest, queue⟩ := List.exists_cons_of_ne_nil nonempty
  have taken : state.takeFront thread next =
      { state.moved thread next with queue := rest, left := state.left ++ [front] } := by
    simp only [takeFront, queue]
  rw [taken]
  refine books.move there before after rfl ⟨rfl, rfl, rfl, rfl⟩ rfl ?_ ?_ ?_ ?_ ?_
  · cases f <;> simp only [moved, queue, List.length_cons, Bool.not_true, Bool.not_false,
      Bool.toNat_true, Bool.toNat_false] <;> omega
  · simp only [moved, queue, List.length_cons, Bool.toNat_true, Bool.toNat_false]
    omega
  · cases f with
    | true => exact drawn_moved books there before after rfl
    | false => exact fun _ => drawn rfl
  · exact wanted_moved books there before after rfl
  · simp only [moved, books.ordered, queue, List.append_assoc, List.singleton_append]

/-! ### When no thread comes to wait for good -/

/-- A thread in `Push` or `Clear` has taken an element off the queue and has not waited
for `m_FullSemaphore` yet. -/
def Drawn (state : SafeQueue Element) : Prop :=
  ∃ stage ∈ state.threads, (account stage).draws = true

/-- A thread in `Push` is about to wait for `m_EmptySemaphore`. -/
def Wanted (state : SafeQueue Element) : Prop :=
  ∃ stage ∈ state.threads, (account stage).wants = true

instance (state : SafeQueue Element) : Decidable state.Drawn :=
  inferInstanceAs (Decidable (∃ stage ∈ state.threads, _))

instance (state : SafeQueue Element) : Decidable state.Wanted :=
  inferInstanceAs (Decidable (∃ stage ∈ state.threads, _))

/-- What the next action of a thread has to find. -/
def SmoothAt (state : SafeQueue Element) : Stage Element → Prop
  | .pushChecks _ =>
    if state.queue.length ≥ state.queueSize then
      state.queue ≠ [] ∧ 0 < state.fullSemaphore.count
    else 0 < state.emptySemaphore.count
  | .clearChecks => state.queue = [] ∨ 0 < state.fullSemaphore.count
  | .popWaitsFull timed => (state.Drawn → 1 < state.fullSemaphore.count) ∧
    (timed = false → state.fullSemaphore.maximum ≠ 0)
  | .blockPushWaitsEmpty _ => (state.Wanted → 1 < state.emptySemaphore.count) ∧
    state.emptySemaphore.maximum ≠ 0
  | .dupSwaps => state.queue = []
  | _ => True

/-- A step that meets the condition: `Push` and `Clear` take an element off only where the
semaphore counts one that no `Pop` has passed for, `Push` finds a free place no `BlockPush`
has been promised, neither is overtaken at the semaphore, and `DupAndClear` finds nothing. -/
def Smooth (state : SafeQueue Element) : Move Element → Prop
  | .goesOn thread => ∀ stage, state.threads[thread]? = some stage → state.SmoothAt stage
  | _ => True

private theorem mem_of_owing_moved {item : Account → Bool} {state : SafeQueue Element}
    (there : state.threads[thread]? = some stage)
    (before : account stage = old) (after : account next = new) (same : item new = item old)
    (positive : 0 < owing item (state.threads.set thread next)) :
    ∃ stage ∈ state.threads, item (account stage) = true := by
  have share := shares there next before after item
  rw [same] at share
  have here : 0 < owing item state.threads := by omega
  exact List.countP_pos_iff.mp here

/-- `m_FullSemaphore.Wait()` of a thread that holds the lock, which has a count left for it. -/
private theorem waitFull_held_books {state : SafeQueue Element} (books : Books state)
    (there : state.threads[thread]? = some stage)
    (before : account stage = ⟨true, true, f, e, w⟩) (after : account next = ⟨true, false, f, e, w⟩)
    (waited : state.waitFull thread next = some reached) : Books reached := by
  have alone := draws_of_holder books there before
  have positive := books.drawn (by rw [alone]; exact Nat.one_pos)
  refine waitFull_books books there before after positive rfl rfl rfl ?_ ?_ waited
  · simp only [Bool.toNat_true, Bool.toNat_false]
    omega
  · intro drawing
    have share := shares there next before after Account.draws
    simp only [Bool.toNat_true, Bool.toNat_false] at share alone
    omega

private theorem dupSwaps_books {state : SafeQueue Element} (books : Books state)
    (there : state.threads[thread]? = some .dupSwaps) (empty : state.queue = []) :
    Books { state.moved thread .unlocks with
      queue := [], left := state.left ++ state.queue } := by
  refine books.move there rfl rfl rfl ⟨rfl, rfl, rfl, rfl⟩ rfl ?_ ?_ ?_ ?_ ?_
  · simp only [moved, account, empty, Bool.toNat_false, List.length_nil]
    omega
  · rw [empty]
    rfl
  · exact drawn_moved books there rfl rfl rfl
  · exact wanted_moved books there rfl rfl rfl
  · simp only [moved, books.ordered, List.append_nil]

/-- Every action that meets the condition keeps the books. -/
theorem advance_books {state reached : SafeQueue Element} (books : Books state)
    (there : state.threads[thread]? = some stage) (smooth : state.SmoothAt stage)
    (advanced : state.advance thread stage = some reached) : Books reached := by
  cases stage with
  | idle => cases advanced
  | pushLocks value => exact acquire_books books there rfl rfl advanced
  | pushChecks value =>
    simp only [advance] at advanced
    simp only [SmoothAt] at smooth
    split at advanced
    · rename_i full
      rw [if_pos full] at smooth
      cases advanced
      exact takeFront_books books there rfl rfl smooth.1 fun _ => smooth.2
    · rename_i room
      rw [if_neg room] at smooth
      cases advanced
      refine books.move there rfl rfl rfl ⟨rfl, rfl, rfl, rfl⟩ rfl ?_ rfl ?_ ?_ books.ordered
      · simp only [moved, account, Bool.toNat_false]
        omega
      · exact drawn_moved books there rfl rfl rfl
      · exact fun _ => smooth
  | pushWaitsFull value => exact waitFull_held_books books there rfl rfl advanced
  | pushPostsEmpty value =>
    cases advanced
    exact postEmpty_books books there rfl rfl
  | pushWaitsEmpty value =>
    have alone := wants_of_holder books there rfl
    have positive := books.wanted (by rw [alone]; exact Nat.one_pos)
    have after : account (.appends value) = ⟨true, false, false, true, false⟩ := rfl
    refine waitEmpty_books books there rfl after positive rfl rfl rfl rfl ?_ advanced
    intro wanting
    have share := shares there (.appends value) rfl rfl Account.wants
    simp only [account, Bool.toNat_true, Bool.toNat_false] at share alone
    omega
  | blockPushWaitsEmpty value =>
    have positive : 0 < state.emptySemaphore.count := by
      simp only [advance, waitEmpty, Option.map_eq_some_iff] at advanced
      obtain ⟨waited, came, _⟩ := advanced
      rcases Semaphore.wait_cases came with ⟨_, count, _⟩ | ⟨missing, _⟩
      · omega
      · exact absurd missing smooth.2
    have after : account (.blockPushLocks value) = ⟨false, false, false, true, false⟩ := rfl
    refine waitEmpty_books books there rfl after positive rfl rfl rfl rfl ?_ advanced
    exact fun wanting => smooth.1 (mem_of_owing_moved there rfl after rfl wanting)
  | blockPushLocks value => exact acquire_books books there rfl rfl advanced
  | appends value =>
    cases advanced
    exact append_books books there rfl rfl value
  | postsFull =>
    cases advanced
    exact postFull_books books there rfl rfl
  | popWaitsFull timed =>
    simp only [advance] at advanced
    split at advanced
    · rename_i missed
      rcases Semaphore.wait_cases missed with ⟨impossible, _⟩ | ⟨missing, _⟩
      · cases impossible
      · cases timed with
        | true =>
          cases advanced
          exact moved_books books there rfl
        | false => exact absurd missing (smooth.2 rfl)
    · rename_i came
      have positive : 0 < state.fullSemaphore.count := by
        simp only [waitFull, Option.map_eq_some_iff] at advanced
        obtain ⟨waited, found, _⟩ := advanced
        rcases Semaphore.wait_cases found with ⟨_, count, _⟩ | ⟨missing, rfl⟩
        · omega
        · exact absurd found (came _)
      have after : account (.popLocks : Stage Element) = ⟨false, false, true, false, false⟩ := rfl
      refine waitFull_books books there rfl after positive rfl rfl rfl rfl ?_ advanced
      exact fun drawing => smooth.1 (mem_of_owing_moved there rfl after rfl drawing)
  | popLocks => exact acquire_books books there rfl rfl advanced
  | popTakes =>
    cases advanced
    have alone := draws_of_holder books there rfl
    have share : 0 < owing Account.owesFull state.threads :=
      owing_pos (List.mem_of_getElem? there) rfl
    have nonempty : state.queue ≠ [] := by
      intro empty
      have full := books.full
      rw [empty, List.length_nil, alone, Bool.toNat_false] at full
      omega
    exact takeFront_books books there rfl rfl nonempty fun impossible => (by cases impossible)
  | popPostsEmpty =>
    cases advanced
    exact postEmpty_books books there rfl rfl
  | clearLocks => exact acquire_books books there rfl rfl advanced
  | clearChecks =>
    simp only [advance] at advanced
    split at advanced
    · cases advanced
      exact moved_books books there rfl
    · rename_i nonempty
      cases advanced
      exact takeFront_books books there rfl rfl nonempty fun _ =>
        smooth.resolve_left nonempty
  | clearWaitsFull => exact waitFull_held_books books there rfl rfl advanced
  | clearPostsEmpty =>
    cases advanced
    exact postEmpty_books books there rfl rfl
  | dupLocks => exact acquire_books books there rfl rfl advanced
  | dupSwaps =>
    cases advanced
    exact dupSwaps_books books there smooth
  | unlocks =>
    cases advanced
    exact release_books books there rfl

/-- So does every step: calling and running out of time leave no debt. -/
theorem step_books {state reached : SafeQueue Element} {move : Move Element} (books : Books state)
    (smooth : state.Smooth move) (taken : state.step move = some ((), reached)) :
    Books reached := by
  cases move with
  | calls thread call =>
    simp only [step] at taken
    split at taken
    · rename_i there
      cases taken
      exact moved_books books there (by cases call <;> rfl)
    · cases taken
  | goesOn thread =>
    simp only [step, Option.map_eq_some_iff, Option.bind_eq_some_iff] at taken
    obtain ⟨after, ⟨stage, there, advanced⟩, same⟩ := taken
    cases same
    exact advance_books books there (smooth stage there) advanced
  | timesOut thread =>
    simp only [step] at taken
    split at taken
    · rename_i there
      cases taken
      exact moved_books books there rfl
    · cases taken

theorem construct_books (platform : Platform) (size threads : Nat) :
    Books (construct platform size threads : SafeQueue Element) := by
  have quiescent : (construct platform size threads : SafeQueue Element).Quiescent :=
    fun stage member => List.eq_of_mem_replicate member
  have fits : (construct platform size threads : SafeQueue Element).queueSize ≤ semValueMax := by
    cases platform <;> simp [construct, maxQueueSize, semValueMax] <;> split <;> omega
  obtain ⟨full, fullRoom⟩ := Semaphore.create_spec platform (Nat.zero_le _) fits
  obtain ⟨empty, emptyRoom⟩ := Semaphore.create_spec platform (Nat.le_refl _) fits
  refine ⟨?_, ?_, ?_, ?_, ?_, fullRoom, emptyRoom, rfl, rfl⟩
  · rw [owing_of_quiescent _ quiescent rfl]
    rfl
  · rw [owing_of_quiescent _ quiescent rfl, owing_of_quiescent _ quiescent rfl]
    exact full.symm
  · rw [owing_of_quiescent _ quiescent rfl]
    exact (Nat.zero_add _).trans empty
  · rw [owing_of_quiescent _ quiescent rfl]
    exact fun impossible => absurd impossible (Nat.lt_irrefl 0)
  · rw [owing_of_quiescent _ quiescent rfl]
    exact fun impossible => absurd impossible (Nat.lt_irrefl 0)

/-! ### Runs -/

instance (state : SafeQueue Element) : ∀ stage, Decidable (state.SmoothAt stage)
  | .pushChecks _ => inferInstanceAs (Decidable (ite _ _ _))
  | .clearChecks => inferInstanceAs (Decidable (_ ∨ _))
  | .popWaitsFull _ => inferInstanceAs (Decidable (_ ∧ _))
  | .blockPushWaitsEmpty _ => inferInstanceAs (Decidable (_ ∧ _))
  | .dupSwaps => inferInstanceAs (Decidable (_ = _))
  | .idle | .pushLocks _ | .pushWaitsFull _ | .pushPostsEmpty _ | .pushWaitsEmpty _
  | .blockPushLocks _ | .appends _ | .postsFull | .popLocks | .popTakes | .popPostsEmpty
  | .clearLocks | .clearWaitsFull | .clearPostsEmpty | .dupLocks | .unlocks => isTrue trivial

instance (state : SafeQueue Element) : ∀ move, Decidable (state.Smooth move)
  | .goesOn thread =>
    match found : state.threads[thread]? with
    | none => isTrue fun _ there => by rw [found] at there; cases there
    | some stage => decidable_of_iff (state.SmoothAt stage)
        ⟨fun smooth _ there => by rw [found] at there; cases there; exact smooth,
          fun smooth => smooth stage found⟩
  | .calls _ _ | .timesOut _ => isTrue trivial

/-- Every state a run reaches is sound as long as all its steps meet the condition. -/
theorem smooth_run_sound (platform : Platform) (size threads : Nat) (moves : List (Move Element))
    (smooth : Runs.AllSteps step Smooth (construct platform size threads) moves) :
    ∀ made, made <+: moves → ∀ replies reached,
      Runs.run step (construct platform size threads) made = some (replies, reached) →
      Sound reached := by
  intro made first replies reached ran
  exact (Runs.run_invariant Books (fun _ _ _ _ books here taken => step_books books here taken)
    (construct_books platform size threads) (smooth.of_prefix first) ran).sound

/-- Two threads hand an element over through a queue of one place, the second waiting
before there is one and the first finding the place taken meanwhile. -/
def handsOver : List (Move Nat) :=
  [.calls 1 .pop, .calls 0 (.push 7)] ++ List.replicate 6 (.goesOn 0) ++
    [.goesOn 1, .calls 0 (.blockPush 8)] ++ List.replicate 4 (.goesOn 1) ++
    List.replicate 5 (.goesOn 0)

theorem hands_over_sound :
    ∃ replies reached, Runs.run step (construct .posix 1 2) handsOver = some (replies, reached) ∧
      reached.left = [7] ∧ reached.queue = [8] ∧ Sound reached := by
  have held : (Runs.run step (construct .posix 1 2) handsOver).map
      (fun run => (run.2.left, run.2.queue)) = some ([7], [8]) := by
    decide +kernel
  obtain ⟨⟨replies, reached⟩, ran, same⟩ := Option.map_eq_some_iff.mp held
  obtain ⟨left, queue⟩ := Prod.mk.inj same
  exact ⟨replies, reached, ran, left, queue, smooth_run_sound .posix 1 2 handsOver
    (by decide +kernel) handsOver (List.prefix_refl _) replies reached ran⟩

/-- `DupAndClear` empties a queue of one element: with no operation in progress the
semaphore still counts it, and a `BlockPop` behind it takes the front of an empty queue. -/
def pushThenDup : List (Move Nat) :=
  .calls 0 (.push 7) :: List.replicate 6 (.goesOn 0) ++ .calls 0 .dupAndClear ::
    List.replicate 3 (.goesOn 0)

/-- A `BlockPop` has passed the semaphore of a full queue when a `Push` comes to drop the
element: the `Push` waits for the semaphore and the `BlockPop` for the lock. -/
def popThenPush : List (Move Nat) :=
  .calls 0 (.push 7) :: List.replicate 6 (.goesOn 0) ++ [.calls 1 .blockPop, .goesOn 1,
    .calls 0 (.push 8), .goesOn 0, .goesOn 0]

theorem unsound_runs :
    (∃ replies reached, Runs.run step (construct .posix 4 1) pushThenDup = some (replies, reached) ∧
      reached.threads = [.idle] ∧ reached.queue = [] ∧ reached.fullSemaphore.count = 1 ∧
      ¬ Sound reached) ∧
    (∃ replies reached, Runs.run step (construct .posix 4 1)
        (pushThenDup ++ .calls 0 .blockPop :: List.replicate 3 (.goesOn 0)) =
          some (replies, reached) ∧ reached.broken = true ∧ ¬ Sound reached) ∧
    ∃ replies reached, Runs.run step (construct .posix 1 2) popThenPush = some (replies, reached) ∧
      reached.threads = [.pushWaitsFull 8, .popLocks] ∧ ¬ Sound reached := by
  refine ⟨⟨_, _, rfl, rfl, rfl, rfl, fun sound => ?_⟩, ⟨_, _, rfl, rfl, fun sound => ?_⟩,
    _, _, rfl, rfl, fun sound => ?_⟩
  · exact Nat.one_ne_zero (sound.counted fun stage member => List.mem_singleton.mp member).1
  · exact absurd sound.unbroken Bool.noConfusion
  · exact sound.free (.pushWaitsFull 8) List.mem_cons_self rfl

end SafeQueue
end BeeSdk
