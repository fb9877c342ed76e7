import BeeSdk.AndroidService

/-! The executor runs first in first out, so what a reconnection needs when it runs is
already settled when it is queued: the tasks in front of it end with a `join` of the
application. Beside this order the invariant says that the two sides of the
registration agree and that whoever awaits a result is still listened to. -/
namespace BeeSdk.AndroidService
open Runs

variable {state other : State}

/-! ### The order of the queue -/

/-- Every `reConnect` comes when the application has joined. -/
def Ordered (state : State) : Bool → List Task → Prop
  | _, [] => True
  | joined, task :: queue =>
    (task = .reConnect → joined = true) ∧ Ordered state (task.joined state joined) queue

/-- What the tasks lead to. -/
def joinedBy (state : State) (joined : Bool) (queue : List Task) : Bool :=
  queue.foldl (fun joined task => task.joined state joined) joined

theorem joinedBy_append : joinedBy state joined (queue ++ [task]) =
    task.joined state (joinedBy state joined queue) := by
  rw [joinedBy, List.foldl_append]
  rfl

theorem ordered_append (ordered : Ordered state joined queue)
    (last : task = .reConnect → joinedBy state joined queue = true) :
    Ordered state joined (queue ++ [task]) := by
  induction queue generalizing joined with
  | nil => exact ⟨last, trivial⟩
  | cons first queue ih => exact ⟨ordered.1, ih ordered.2 last⟩

/-- Only the token decides which arguments are accepted. -/
theorem joined_token (same : other.token = state.token) (task : Task) (joined : Bool) :
    task.joined other joined = task.joined state joined := by
  cases task with
  | join args => simp only [Task.joined, State.accepts, same]
  | leave origin => cases origin <;> rfl
  | _ => rfl

theorem joinedBy_token (same : other.token = state.token) :
    joinedBy other joined queue = joinedBy state joined queue := by
  induction queue generalizing joined with
  | nil => rfl
  | cons task queue ih =>
    rw [joinedBy, List.foldl_cons, joined_token same]
    exact ih

theorem ordered_token (same : other.token = state.token) :
    Ordered other joined queue ↔ Ordered state joined queue := by
  induction queue generalizing joined with
  | nil => exact Iff.rfl
  | cons task queue ih => rw [Ordered, Ordered, joined_token same, ih]

/-! ### What `joinInternal` does -/

/-- Only `Join` is executed, registered, and with success only where the checks pass;
nothing is queued and nobody stops listening. -/
structure JoinEffect (before : State) (args : JoinArgs) (origin : Origin) (natives : Natives)
    (events : List Event) (after : State) : Prop where
  executes : ∀ command registered success, .executes command registered success ∈ events →
    command = "Join" ∧ registered = true ∧ (success = true →
      before.accepts args ∧ before.mayJoin ∧ natives.execute = true)
  agrees : after.isRegister = after.registered
  queue : after.queue = before.queue
  sink : after.sink = before.sink
  service : after.service = before.service
  token : after.token = before.token
  awaited : ∀ other ∈ after.awaited, other ∈ before.awaited ∨ other = origin

@[simp] theorem not_mem_notify_executes (other : ∀ c r s, event ≠ .executes c r s) :
    Event.executes command registered success ∉ state.notify event := by
  rw [State.notify]
  split
  · intro member
    exact other _ _ _ (List.mem_singleton.mp member).symm
  · exact List.not_mem_nil

theorem notWifiReConnect_forbidden (forbidden : state.isAllowNotWifiConnection = false) :
    state.notWifiReConnect = state ∨ state.notWifiReConnect = { state with asking := state.asking + 1 } := by
  rw [State.notWifiReConnect]
  split
  · exact .inl rfl
  · rw [forbidden]
    exact .inr rfl

theorem joinOnline_effect (state : State) (args : JoinArgs) (origin : Origin) (natives : Natives)
    (registered : state.registered = true)
    (agrees : state.isRegister = state.registered) (accepted : state.accepts args) :
    JoinEffect state args origin natives (state.joinOnline origin natives).1
      (state.joinOnline origin natives).2 := by
  have quiet : JoinEffect state args origin natives [] state :=
    ⟨by simp, agrees, rfl, rfl, rfl, rfl, fun _ member => .inl member⟩
  have told : JoinEffect state args origin natives (state.notify .onJoin) state :=
    ⟨fun _ _ _ member => absurd member (not_mem_notify_executes (by simp)), agrees, rfl, rfl, rfl,
      rfl, fun _ member => .inl member⟩
  by_cases online : state.isOnline
  · by_cases forbidden : state.service = .videoRoom ∧ state.isOnlineButNotWifi ∧
        ¬ state.isAllowNotWifiConnection
    · rw [State.joinOnline, if_neg (by simp [online]), if_pos forbidden]
      rcases notWifiReConnect_forbidden (by simpa using forbidden.2.2) with same | asks
      · rw [same]
        exact told
      · rw [asks]
        exact ⟨told.executes, agrees, rfl, rfl, rfl, rfl, fun _ member => .inl member⟩
    · have may : state.mayJoin := by
        cases service : state.service <;> cases wifi : state.isOnlineButNotWifi <;>
          simp_all [State.mayJoin]
      by_cases role : state.args.role = none
      · rw [State.joinOnline, if_neg (by simp [online]), if_neg forbidden, if_pos role]
        exact quiet
      · cases executed : natives.execute with
        | true =>
          rw [State.joinOnline, if_neg (by simp [online]), if_neg forbidden, if_neg role,
            if_pos executed]
          refine ⟨?_, agrees, rfl, rfl, rfl, rfl, ?_⟩
          · intro command registered' success member
            cases List.mem_singleton.mp member
            exact ⟨rfl, registered, fun _ => ⟨accepted, may, executed⟩⟩
          · intro other member
            rcases List.mem_cons.mp member with rfl | before
            · exact .inr rfl
            · exact .inl before
        | false =>
          rw [State.joinOnline, if_neg (by simp [online]), if_neg forbidden, if_neg role,
            if_neg (by simp [executed])]
          refine ⟨?_, agrees, rfl, rfl, rfl, rfl, fun _ member => .inl member⟩
          intro command registered' success member
          rcases List.mem_cons.mp member with same | member
          · cases same
            exact ⟨rfl, registered, fun wrong => by cases wrong⟩
          · exact absurd member (not_mem_notify_executes (by simp))
  · rw [State.joinOnline, if_pos (by simpa using online)]
    cases state.service with
    | videoRoom => exact told
    | whiteBoard => exact quiet

theorem joinInternal_effect (state : State) (args : JoinArgs) (origin : Origin) (natives : Natives)
    (agrees : state.isRegister = state.registered)
    (registers : state.accepts args → state.isRegister = false → natives.reg = true) :
    JoinEffect state args origin natives (state.joinInternal args origin natives).1
      (state.joinInternal args origin natives).2 := by
  by_cases accepted : state.accepts args
  · cases registered : state.isRegister with
    | true =>
      rw [State.joinInternal, if_neg (by simp [accepted]), if_pos registered]
      have effect := joinOnline_effect { state with args } args origin natives
        (agrees.symm.trans registered) agrees accepted
      exact ⟨effect.executes, effect.agrees, effect.queue, effect.sink, effect.service, effect.token,
        effect.awaited⟩
    | false =>
      have reg := registers accepted registered
      rw [State.joinInternal, if_neg (by simp [accepted]), if_neg (by simp [registered])]
      simp only [reg, ↓reduceIte]
      have effect := joinOnline_effect { state.register natives with args } args
        origin natives (by simp [State.register, reg]) (by simp [State.register, reg]) accepted
      exact ⟨effect.executes, effect.agrees, effect.queue, effect.sink, effect.service, effect.token,
        effect.awaited⟩
  · rw [State.joinInternal, if_pos (by simpa using accepted)]
    exact ⟨fun _ _ _ member => absurd member (not_mem_notify_executes (by simp)), agrees, rfl, rfl,
      rfl, rfl, fun _ member => .inl member⟩

/-- Where somebody listens, and there is a role and on a white board a network, every way
out of `joinInternal` tells of a failure or has executed `Join` with success. -/
theorem joinOnline_result (state : State) (origin : Origin) (natives : Natives)
    (registered : state.registered = true)
    (listens : state.sink = true) (online : state.service = .whiteBoard → state.isOnline)
    (role : state.mayJoin → state.args.role ≠ none) :
    .onJoin ∈ (state.joinOnline origin natives).1 ∨
      .executes "Join" true true ∈ (state.joinOnline origin natives).1 := by
  have told : Event.onJoin ∈ state.notify .onJoin := by
    rw [State.notify, if_pos listens]
    exact List.mem_singleton.mpr rfl
  by_cases connected : state.isOnline
  · by_cases forbidden : state.service = .videoRoom ∧ state.isOnlineButNotWifi ∧
        ¬ state.isAllowNotWifiConnection
    · rw [State.joinOnline, if_neg (by simp [connected]), if_pos forbidden]
      exact .inl told
    · have may : state.mayJoin := by
        cases service : state.service <;> cases wifi : state.isOnlineButNotWifi <;>
          simp_all [State.mayJoin]
      rw [State.joinOnline, if_neg (by simp [connected]), if_neg forbidden, if_neg (role may)]
      cases executed : natives.execute with
      | true => exact .inr (by simp [registered])
      | false => exact .inl (by simp [told])
  · rw [State.joinOnline, if_pos (by simpa using connected)]
    cases service : state.service with
    | videoRoom => exact .inl told
    | whiteBoard => exact absurd (online service) connected

theorem joinInternal_result (state : State) (args : JoinArgs) (origin : Origin) (natives : Natives)
    (agrees : state.isRegister = state.registered)
    (registers : state.accepts args → state.isRegister = false → natives.reg = true)
    (listens : state.sink = true)
    (goes : state.accepts args →
      (state.service = .whiteBoard → state.isOnline) ∧ (state.mayJoin → args.role ≠ none)) :
    .onJoin ∈ (state.joinInternal args origin natives).1 ∨
      .executes "Join" true true ∈ (state.joinInternal args origin natives).1 := by
  by_cases accepted : state.accepts args
  · obtain ⟨online, role⟩ := goes accepted
    cases registered : state.isRegister with
    | true =>
      rw [State.joinInternal, if_neg (by simp [accepted]), if_pos registered]
      exact joinOnline_result { state with args } origin natives
        (agrees.symm.trans registered) listens online role
    | false =>
      have reg := registers accepted registered
      rw [State.joinInternal, if_neg (by simp [accepted]), if_neg (by simp [registered])]
      simp only [reg, ↓reduceIte]
      exact joinOnline_result { state.register natives with args } origin natives
        (by simp [State.register, reg]) listens online role
  · rw [State.joinInternal, if_pos (by simpa using accepted), State.notify, if_pos listens]
    exact .inl (List.mem_singleton.mpr rfl)

/-! ### The invariant -/

/-- The registration agrees on both sides, the video room keeps its sink, and so does
who awaits the result of a reconnection; the queue is ordered and leads to the last
call. -/
structure Books (history : History) : Prop where
  agrees : history.state.isRegister = history.state.registered
  listens : history.state.service = .videoRoom → history.state.sink = true
  awaits : .connectivity ∈ history.state.awaited ∨
    .localJoin .connectivity ∈ history.state.queue → history.state.sink = true
  ordered : Ordered history.state history.joined history.state.queue
  called : joinedBy history.state history.joined history.state.queue = history.called

/-- A step that only queues a task, or none, keeps the books where the task may be queued. -/
theorem books_queue {history after : History} (books : Books history)
    (agrees : after.state.isRegister = after.state.registered)
    (sink : after.state.sink = history.state.sink)
    (service : after.state.service = history.state.service)
    (token : after.state.token = history.state.token)
    (joined : after.joined = history.joined)
    (awaited : .connectivity ∈ after.state.awaited → .connectivity ∈ history.state.awaited)
    (queue : after.state.queue = history.state.queue ∧ after.called = history.called ∨
      ∃ task, after.state.queue = history.state.queue ++ [task] ∧
        after.called = task.joined history.state history.called ∧
        (task = .reConnect → history.called = true) ∧
        (task = .localJoin .connectivity → .connectivity ∈ history.state.awaited)) :
    Books after := by
  refine ⟨agrees, ?_, ?_, ?_, ?_⟩
  · intro room
    rw [sink]
    exact books.listens (service ▸ room)
  · intro waiting
    rw [sink]
    rcases waiting with pending | queued
    · exact books.awaits (.inl (awaited pending))
    · rcases queue with ⟨same, _⟩ | ⟨task, more, _, _, told⟩
      · exact books.awaits (.inr (same ▸ queued))
      · rw [more, List.mem_append, List.mem_singleton] at queued
        rcases queued with before | last
        · exact books.awaits (.inr before)
        · exact books.awaits (.inl (told last.symm))
  · rw [ordered_token token, joined]
    rcases queue with ⟨same, _⟩ | ⟨task, more, _, asked, _⟩
    · rw [same]
      exact books.ordered
    · rw [more]
      exact ordered_append books.ordered fun reconnects => books.called.trans (asked reconnects)
  · rw [joinedBy_token token, joined]
    rcases queue with ⟨same, called⟩ | ⟨task, more, called, _, _⟩
    · rw [same, called]
      exact books.called
    · rw [more, joinedBy_append, books.called, called]

/-- A step that runs the first task keeps the books where those who wait are listened to. -/
theorem books_run {history after : History} (task : Task) (books : Books history)
    (queue : history.state.queue = task :: after.state.queue)
    (agrees : after.state.isRegister = after.state.registered)
    (token : after.state.token = history.state.token)
    (listens : after.state.service = .videoRoom → after.state.sink = true)
    (awaits : .connectivity ∈ after.state.awaited ∨
      .localJoin .connectivity ∈ after.state.queue → after.state.sink = true)
    (joined : after.joined = task.joined history.state history.joined)
    (called : after.called = history.called) : Books after := by
  have ordered := books.ordered
  have leads := books.called
  rw [queue] at ordered leads
  refine ⟨agrees, listens, awaits, ?_, ?_⟩
  · rw [ordered_token token, joined]
    exact ordered.2
  · rw [joinedBy_token token, joined, called]
    exact leads

/-! ### The tasks -/

theorem leaveInternal_effect (state : State) (natives : Natives)
    (agrees : state.isRegister = state.registered)
    (unregisters : state.isRegister = true → natives.unReg = true) :
    (state.leaveInternal natives).2.isRegister = (state.leaveInternal natives).2.registered ∧
      (state.leaveInternal natives).2.queue = state.queue ∧
      (state.leaveInternal natives).2.service = state.service ∧
      (state.leaveInternal natives).2.token = state.token ∧
      (state.leaveInternal natives).2.awaited = state.awaited ∧
      (state.service = .videoRoom → (state.leaveInternal natives).2.sink = state.sink) ∧
      ∀ registered success, .executes "Join" registered success ∉ (state.leaveInternal natives).1 := by
  cases registered : state.isRegister with
  | true =>
    have unReg := unregisters registered
    cases service : state.service <;>
      simp [State.leaveInternal, registered, service, State.unRegister, unReg, State.notify]
  | false =>
    cases service : state.service <;>
      simp [State.leaveInternal, registered, service, ← agrees, State.notify]

/-- The stream calls change nothing. -/
theorem connectInternal_effect (state : State) (uid streamName : Option String) (view opens : Bool)
    (natives : Natives) :
    (state.connectInternal uid streamName view opens natives).2 = state ∧
      ∀ registered success, .executes "Join" registered success ∉
        (state.connectInternal uid streamName view opens natives).1 := by
  have still (registered success) : Event.executes "Join" registered success ∉
      state.notify .onConnect := not_mem_notify_executes (by simp)
  simp only [State.connectInternal]
  split
  · exact ⟨rfl, still⟩
  · split
    · exact ⟨rfl, still⟩
    · split
      · exact ⟨rfl, by simp⟩
      · exact ⟨rfl, by simp⟩

theorem disconnectInternal_effect (state : State) (uid streamName : Option String)
    (natives : Natives) :
    (state.disconnectInternal uid streamName natives).2 = state ∧
      ∀ registered success, .executes "Join" registered success ∉
        (state.disconnectInternal uid streamName natives).1 := by
  have still (registered success) : Event.executes "Join" registered success ∉
      state.notify .onDisConnect := not_mem_notify_executes (by simp)
  simp only [State.disconnectInternal]
  split
  · exact ⟨rfl, still⟩
  · split
    · exact ⟨rfl, still⟩
    · split
      · exact ⟨rfl, by simp⟩
      · exact ⟨rfl, by simp⟩

/-- A `join` or a reconnection that asks for what it needs. -/
theorem join_books {history after : History} (args : JoinArgs) (origin : Origin) (books : Books history)
    (queue : history.state.queue = task :: rest)
    (kept : JoinKept history args natives)
    (stepped : after.state = (State.joinInternal { history.state with queue := rest } args origin
      natives).2)
    (listens : origin = .connectivity → history.state.sink = true)
    (joined : after.joined = task.joined history.state history.joined)
    (called : after.called = history.called) : Books after := by
  have effect := joinInternal_effect { history.state with queue := rest } args origin
    natives books.agrees fun accepted absent => (kept accepted).1 absent
  rw [← stepped] at effect
  refine books_run task books (by rw [effect.queue, queue]) effect.agrees effect.token
    ?_ ?_ joined called
  · intro room
    rw [effect.sink]
    exact books.listens (effect.service ▸ room)
  · intro waiting
    rw [effect.sink]
    rcases waiting with pending | queued
    · rcases effect.awaited _ pending with before | new
      · exact books.awaits (.inl before)
      · exact listens new.symm
    · rw [effect.queue] at queued
      exact books.awaits (.inr (by rw [queue]; exact List.mem_cons_of_mem _ queued))

theorem join_lawful {history : History} (args : JoinArgs) (origin : Origin) (books : Books history)
    (kept : JoinKept history args natives) (registered success)
    (member : .executes "Join" registered success ∈
      (State.joinInternal { history.state with queue := rest } args origin natives).1) :
    registered = true ∧ (success = true → history.inside = false) := by
  have effect := joinInternal_effect { history.state with queue := rest } args origin
    natives books.agrees fun accepted absent => (kept accepted).1 absent
  obtain ⟨_, true_registered, succeeds⟩ := effect.executes _ _ _ member
  refine ⟨true_registered, fun done => ?_⟩
  obtain ⟨accepted, may, executed⟩ := succeeds done
  exact (kept accepted).2 may executed

/-! ### Steps -/

theorem run_inv {history after : History}
    (taken : history.step (.run natives) = some (events, after)) :
    ∃ task rest, history.state.queue = task :: rest ∧
      events = (State.runTask { history.state with queue := rest } natives task).1 ∧
      after.state = (State.runTask { history.state with queue := rest } natives task).2 ∧
      after.joined = task.joined history.state history.joined ∧ after.called = history.called := by
  cases queue : history.state.queue with
  | nil =>
    simp only [History.step, State.step, queue] at taken
    cases taken
  | cons task rest =>
    simp only [History.step, State.step, queue, Option.map_some, Option.some.injEq,
      Prod.mk.injEq] at taken
    obtain ⟨rfl, rfl⟩ := taken
    exact ⟨task, rest, rfl, rfl, rfl, rfl, rfl⟩

/-- A request that runs nothing takes its state's step and leaves the rest to the calls. -/
theorem quiet_inv {history after : History} (quiet : ∀ natives, request ≠ .run natives)
    (taken : history.step request = some (events, after)) :
    history.state.step request = some (events, after.state) ∧ after.joined = history.joined ∧
      after.called = match request with
        | .call call => call.task.joined history.state history.called
        | _ => history.called := by
  obtain ⟨⟨seen, state⟩, stepped, same⟩ := Option.map_eq_some_iff.mp taken
  cases request with
  | run natives => exact absurd rfl (quiet natives)
  | _ =>
    cases same
    exact ⟨stepped, rfl, rfl⟩

theorem run_books {history after : History} (books : Books history)
    (kept : Kept history (.run natives))
    (taken : history.step (.run natives) = some (events, after)) : Books after := by
  obtain ⟨task, rest, queue, _, stepped, joined, called⟩ := run_inv taken
  have kept : TaskKept history natives task := kept task (by rw [queue]; rfl)
  have waiting (left : .connectivity ∈ history.state.awaited ∨ .localJoin .connectivity ∈ rest) :
      history.state.sink = true :=
    books.awaits (left.imp_right fun queued => by rw [queue]; exact List.mem_cons_of_mem _ queued)
  cases task with
  | join args =>
    exact join_books args .application books queue kept stepped
      (fun wrong => by cases wrong) joined called
  | reConnect =>
    obtain ⟨kept, listens, _⟩ := kept
    refine join_books { history.state.args with creator := false } .connectivity books queue kept stepped
      (fun _ => ?_) joined called
    cases service : history.state.service with
    | videoRoom => exact books.listens service
    | whiteBoard => exact listens service
  | leave origin =>
    obtain ⟨unregisters, told⟩ := kept
    obtain ⟨agrees, left, service, token, awaited, sink, _⟩ :=
      leaveInternal_effect { history.state with queue := rest } natives
        books.agrees unregisters
    rw [show (State.runTask { history.state with queue := rest } natives (.leave origin)) =
      State.leaveInternal { history.state with queue := rest } natives from rfl] at stepped
    rw [← stepped] at agrees left service token awaited sink
    refine books_run (.leave origin) books (by rw [left, queue]) agrees token
      ?_ ?_ joined called
    · intro room
      rw [service] at room
      rw [sink room]
      exact books.listens room
    · rw [awaited, left]
      intro pending
      cases room : history.state.service with
      | videoRoom =>
        rw [sink room]
        exact books.listens room
      | whiteBoard =>
        obtain ⟨none_awaited, none_queued⟩ := told room
        rcases pending with pending | queued
        · exact absurd pending none_awaited
        · exact absurd (by rw [queue]; exact List.mem_cons_of_mem _ queued) none_queued
  | connect uid streamName view opens =>
    have same := stepped.trans (connectInternal_effect { history.state with queue := rest }
      uid streamName view opens natives).1
    exact books_run (.connect uid streamName view opens) books (by rw [same, queue])
      (by rw [same]; exact books.agrees) (by rw [same])
      (by rw [same]; exact books.listens) (by rw [same]; exact waiting) joined called
  | disconnect uid streamName =>
    have same := stepped.trans
      (disconnectInternal_effect { history.state with queue := rest } uid streamName natives).1
    exact books_run (.disconnect uid streamName) books (by rw [same, queue])
      (by rw [same]; exact books.agrees) (by rw [same])
      (by rw [same]; exact books.listens) (by rw [same]; exact waiting) joined called
  | localJoin origin =>
    exact books_run (.localJoin origin) books (by rw [stepped, queue]; rfl)
      (by rw [stepped]; exact books.agrees) (by rw [stepped]; rfl)
      (by rw [stepped]; exact books.listens) (by rw [stepped]; exact waiting) joined called

/-- At most one task more in the queue, and nothing else that the books are about. -/
structure Queued (before after : State) (task : Option Task) : Prop where
  isRegister : after.isRegister = before.isRegister
  registered : after.registered = before.registered
  sink : after.sink = before.sink
  service : after.service = before.service
  token : after.token = before.token
  awaited : after.awaited = before.awaited
  queue : after.queue = before.queue ++ task.toList

theorem onConnectionTypeChanged_queued (state : State) :
    ∃ task, Queued state state.onConnectionTypeChanged task ∧
      ∀ queued ∈ task, queued = .leave .connectivity := by
  have nothing (monitor : Monitor) : Queued state { state with monitor } none :=
    ⟨rfl, rfl, rfl, rfl, rfl, rfl, (List.append_nil _).symm⟩
  have leaves : Queued state { state.execute (.leave .connectivity) with monitor := .left }
      (some (.leave .connectivity)) := ⟨rfl, rfl, rfl, rfl, rfl, rfl, rfl⟩
  unfold State.onConnectionTypeChanged
  split
  · split
    · exact ⟨none, nothing .idle, by simp⟩
    · split
      · exact ⟨_, leaves, by simp⟩
      · exact ⟨none, nothing .left, by simp⟩
  · split
    · exact ⟨_, leaves, by simp⟩
    · exact ⟨none, nothing .left, by simp⟩

theorem connectionTypeChanged_queued (state : State) :
    ∃ task, Queued state state.connectionTypeChanged task ∧
      ∀ queued ∈ task, queued = .reConnect ∧ state.reconnects = true := by
  cases service : state.service with
  | videoRoom =>
    simp only [State.connectionTypeChanged, State.notWifiReConnect, service]
    by_cases wifi : state.netType = .wifi
    · rw [if_pos wifi]
      exact ⟨some .reConnect, ⟨rfl, rfl, rfl, service.symm, rfl, rfl, rfl⟩,
        by simp [State.reconnects, service, wifi]⟩
    · rw [if_neg wifi]
      by_cases offline : state.netType = .none
      · rw [if_pos offline]
        exact ⟨none, ⟨rfl, rfl, rfl, service.symm, rfl, rfl, (List.append_nil _).symm⟩, by simp⟩
      · rw [if_neg offline]
        by_cases allowed : state.isAllowNotWifiConnection = true
        · rw [if_pos allowed]
          exact ⟨some .reConnect, ⟨rfl, rfl, rfl, service.symm, rfl, rfl, rfl⟩,
            by simp [State.reconnects, service, offline, allowed]⟩
        · rw [if_neg allowed]
          exact ⟨none, ⟨rfl, rfl, rfl, service.symm, rfl, rfl, (List.append_nil _).symm⟩, by simp⟩
  | whiteBoard =>
    simp only [State.connectionTypeChanged, service]
    by_cases offline : state.netType = .none
    · rw [if_pos offline]
      exact ⟨none, ⟨rfl, rfl, rfl, rfl, rfl, rfl, (List.append_nil _).symm⟩, by simp⟩
    · rw [if_neg offline]
      exact ⟨some .reConnect, ⟨rfl, rfl, rfl, rfl, rfl, rfl, rfl⟩,
        by simp [State.reconnects, service, offline]⟩

theorem onNotWifiConnect_queued (state : State) (allows : Bool) :
    ∃ task, Queued state (state.onNotWifiConnect allows) task ∧
      ∀ queued ∈ task, queued = .reConnect ∧ allows = true ∧ state.sink = true := by
  simp only [State.onNotWifiConnect]
  by_cases listens : state.sink = true
  · rw [if_neg (by simp [listens])]
    cases allows with
    | true => exact ⟨some .reConnect, ⟨rfl, rfl, rfl, rfl, rfl, rfl, rfl⟩, by simp [listens]⟩
    | false => exact ⟨none, ⟨rfl, rfl, rfl, rfl, rfl, rfl, (List.append_nil _).symm⟩, by simp⟩
  · rw [if_pos (by simpa using listens)]
    exact ⟨none, ⟨rfl, rfl, rfl, rfl, rfl, rfl, (List.append_nil _).symm⟩, by simp⟩

theorem queued_books {history after : History} (task : Option Task) (books : Books history)
    (queued : Queued history.state after.state task)
    (allowed : ∀ queued ∈ task, queued = .leave .connectivity ∨
      queued = .reConnect ∧ history.called = true)
    (joined : after.joined = history.joined) (called : after.called = history.called) :
    Books after := by
  refine books_queue books (by rw [queued.isRegister, queued.registered]; exact books.agrees)
    queued.sink queued.service queued.token joined (fun pending => queued.awaited ▸ pending) ?_
  have more := queued.queue
  cases task with
  | none => exact .inl ⟨by rw [more, Option.toList_none, List.append_nil], called⟩
  | some task =>
    refine .inr ⟨task, more, ?_⟩
    rcases allowed task rfl with rfl | ⟨rfl, ready⟩
    · exact ⟨called, by simp, by simp⟩
    · exact ⟨called, fun _ => ready, by simp⟩

theorem step_books {history after : History} (books : Books history) (kept : Kept history request)
    (taken : history.step request = some (events, after)) : Books after := by
  cases request with
  | run natives => exact run_books books kept taken
  | call call =>
    obtain ⟨stepped, joined, called⟩ := quiet_inv (by simp) taken
    simp only [State.step, Option.ite_none_right_eq_some, Option.some.injEq, Prod.mk.injEq] at stepped
    obtain ⟨_, _, same⟩ := stepped
    refine books_queue books (by rw [← same]; exact books.agrees) (by rw [← same]; rfl)
      (by rw [← same]; rfl) (by rw [← same]; rfl) joined (by rw [← same]; exact id)
      (.inr ⟨call.task, by rw [← same]; rfl, called, ?_, ?_⟩) <;> cases call <;> simp [Call.task]
  | change netType =>
    obtain ⟨stepped, joined, called⟩ := quiet_inv (by simp) taken
    simp only [State.step, Option.ite_none_right_eq_some, Option.some.injEq, Prod.mk.injEq] at stepped
    obtain ⟨_, _, same⟩ := stepped
    refine queued_books none books ?_ (by simp) joined called
    rw [← same]
    exact ⟨rfl, rfl, rfl, rfl, rfl, rfl, (List.append_nil _).symm⟩
  | callback =>
    obtain ⟨stepped, joined, called⟩ := quiet_inv (by simp) taken
    simp only [State.step, Option.ite_none_right_eq_some, Option.some.injEq, Prod.mk.injEq] at stepped
    obtain ⟨_, _, same⟩ := stepped
    obtain ⟨task, queued, leaves⟩ := onConnectionTypeChanged_queued history.state
    rw [same] at queued
    exact queued_books task books queued (fun _ member => .inl (leaves _ member)) joined called
  | callbackEnds =>
    obtain ⟨stepped, joined, called⟩ := quiet_inv (by simp) taken
    simp only [State.step, Option.ite_none_right_eq_some, Option.some.injEq, Prod.mk.injEq] at stepped
    obtain ⟨_, _, same⟩ := stepped
    obtain ⟨task, queued, reconnects⟩ := connectionTypeChanged_queued history.state
    rw [same] at queued
    exact queued_books task books queued
      (fun _ member => .inr ((reconnects _ member).imp_right kept)) joined called
  | answer allows =>
    obtain ⟨stepped, joined, called⟩ := quiet_inv (by simp) taken
    simp only [State.step, Option.ite_none_right_eq_some, Option.some.injEq, Prod.mk.injEq] at stepped
    obtain ⟨_, _, same⟩ := stepped
    obtain ⟨task, queued, reconnects⟩ := onNotWifiConnect_queued history.state allows
    rw [same] at queued
    exact queued_books task books queued (fun _ member =>
      .inr ((reconnects _ member).imp_right fun both => kept both.1 both.2)) joined called
  | result origin =>
    obtain ⟨stepped, joined, called⟩ := quiet_inv (by simp) taken
    simp only [State.step, Option.ite_none_right_eq_some, Option.some.injEq, Prod.mk.injEq] at stepped
    obtain ⟨member, _, same⟩ := stepped
    refine books_queue books (by rw [← same]; exact books.agrees) (by rw [← same]; rfl)
      (by rw [← same]; rfl) (by rw [← same]; rfl) joined
      (by rw [← same]; exact List.mem_of_mem_erase)
      (.inr ⟨.localJoin origin, by rw [← same]; rfl, called, by simp, ?_⟩)
    intro told
    cases told
    exact member

/-! ### What the steps owe -/

/-- Nothing is owed by a step that runs no task. -/
theorem quiet_lawful {history after : History} (quiet : ∀ natives, request ≠ .run natives)
    (taken : history.step request = some (events, after)) : Lawful history request events after := by
  obtain ⟨stepped, _⟩ := quiet_inv quiet taken
  refine ⟨fun registered success member => ?_, fun natives same => absurd same (quiet natives),
    fun natives same => absurd same (quiet natives), fun natives same => absurd same (quiet natives)⟩
  suffices silent : events = [] by
    rw [silent] at member
    cases member
  cases request with
  | run natives => exact absurd rfl (quiet natives)
  | _ =>
    rw [State.step] at stepped
    split at stepped
    · simp only [Option.some.injEq, Prod.mk.injEq] at stepped
      exact stepped.1.symm
    · cases stepped

theorem run_joins {history after : History} (books : Books history)
    (kept : Kept history (.run natives))
    (taken : history.step (.run natives) = some (events, after)) (registered success : Bool)
    (member : .executes "Join" registered success ∈ events) :
    registered = true ∧ (success = true → history.inside = false) := by
  obtain ⟨task, rest, queue, seen, _⟩ := run_inv taken
  have kept : TaskKept history natives task := kept task (by rw [queue]; rfl)
  rw [seen] at member
  cases task with
  | join args => exact join_lawful args .application books kept registered success member
  | reConnect =>
    exact join_lawful { history.state.args with creator := false } .connectivity books kept.1
      registered success member
  | leave origin =>
    exact absurd member ((leaveInternal_effect { history.state with queue := rest } natives
      books.agrees kept.1).2.2.2.2.2.2 registered success)
  | connect uid streamName view opens =>
    exact absurd member ((connectInternal_effect { history.state with queue := rest }
      uid streamName view opens natives).2 registered success)
  | disconnect uid streamName =>
    exact absurd member ((disconnectInternal_effect { history.state with queue := rest }
      uid streamName natives).2 registered success)
  | localJoin origin =>
    exact absurd member (not_mem_notify_executes (by simp))

theorem run_results {history after : History} (books : Books history)
    (kept : Kept history (.run natives))
    (taken : history.step (.run natives) = some (events, after))
    (first : history.state.queue.head? = some .reConnect) :
    .onJoin ∈ events ∨ .executes "Join" true true ∈ events ∧ after.state.sink = true := by
  obtain ⟨task, rest, queue, seen, stepped, _⟩ := run_inv taken
  obtain ⟨joins, listens, goes⟩ : TaskKept history natives .reConnect := kept _ first
  rw [queue, List.head?_cons, Option.some.injEq] at first
  subst first
  have listens : history.state.sink = true := by
    cases service : history.state.service with
    | videoRoom => exact books.listens service
    | whiteBoard => exact listens service
  have registers (accepted : State.accepts { history.state with queue := rest }
      { history.state.args with creator := false }) (absent : history.state.isRegister = false) :
      natives.reg = true := (joins accepted).1 absent
  have effect := joinInternal_effect { history.state with queue := rest }
    { history.state.args with creator := false } .connectivity natives books.agrees registers
  have result := joinInternal_result { history.state with queue := rest }
    { history.state.args with creator := false } .connectivity natives books.agrees registers
    listens goes
  rw [seen, stepped]
  exact result.imp_right fun done => ⟨done, effect.sink.trans listens⟩

theorem run_lawful {history after : History} (books : Books history)
    (kept : Kept history (.run natives))
    (taken : history.step (.run natives) = some (events, after)) :
    Lawful history (.run natives) events after := by
  refine ⟨run_joins books kept taken, fun _ _ first => ?_,
    fun _ _ first => run_results books kept taken first, fun _ _ first => ?_⟩
  · obtain ⟨task, rest, queue, _⟩ := run_inv taken
    have ordered := books.ordered
    rw [queue] at first ordered
    exact ordered.1 (Option.some.inj first)
  · obtain ⟨task, rest, queue, seen, _⟩ := run_inv taken
    have listens : history.state.sink = true :=
      books.awaits (.inr (List.mem_of_mem_head? (Option.mem_def.mpr first)))
    rw [queue, List.head?_cons, Option.some.injEq] at first
    rw [seen, first, State.runTask, State.notify, if_pos listens]
    exact List.mem_singleton.mpr rfl

theorem step_lawful {history after : History} (books : Books history)
    (kept : Kept history request) (taken : history.step request = some (events, after)) :
    Lawful history request events after := by
  cases request with
  | run natives => exact run_lawful books kept taken
  | _ => exact quiet_lawful (by simp) taken

theorem start_books (service : Service) (token : Option String)
    (isAutoConnect isNotWifiAutoConnect : Bool) (netType : ConnectionType) :
    Books (start service token isAutoConnect isNotWifiAutoConnect netType) :=
  ⟨rfl, fun _ => rfl, fun _ => rfl, trivial, rfl⟩

/-! ### Runs -/

/-- The service keeps its registration and owes nothing as long as its natives do what
they are called for, `Join` succeeds once for each `Leave`, a white board is not left
while it connects again, and nothing connects again for an application outside. -/
theorem registration_lawful {history : History}
    (kept : AllSteps History.step Kept
      (start service token isAutoConnect isNotWifiAutoConnect netType) requests)
    (ran : run History.step (start service token isAutoConnect isNotWifiAutoConnect netType)
      requests = some (outputs, history)) :
    history.state.isRegister = history.state.registered ∧
      ∀ request, Kept history request → ∀ events after,
        history.step request = some (events, after) → Lawful history request events after := by
  have books := run_invariant Books (fun _ _ _ _ books kept taken => step_books books kept taken)
    (start_books service token isAutoConnect isNotWifiAutoConnect netType) kept ran
  exact ⟨books.agrees, fun request kept events after taken => step_lawful books kept taken⟩

/-- Somebody who gives everything that a `join` checks. -/
def guest : JoinArgs where
  roomName := some "room"
  uid := some "guest"
  nickName := some "guest"
  role := some 1

/-- A join, another network before its result, and the reconnection. -/
def networkRequests : List Request :=
  [.call (.join guest), .run {}, .change .other, .callback, .callbackEnds, .answer true, .run {}, .run {}]

theorem network_changed : ∃ outputs history,
    run History.step (start .videoRoom (some "") true false .wifi) networkRequests =
      some (outputs, history) ∧
    outputs.flatten = [.executes "Join" true true, .executes "Leave" true true,
      .executes "Join" true true] ∧
    history.state.isRegister = history.state.registered := by
  have kept : AllSteps History.step Kept (start .videoRoom (some "") true false .wifi)
    networkRequests := by decide
  exact ⟨_, _, rfl, rfl, (registration_lawful kept rfl).1⟩

/-- The flag does not wait for what `nativeReg` returns, and the next `Join` trusts it. -/
theorem registration_failed : ∃ history,
    run History.step (start .videoRoom (some "") true true .wifi)
      [.call (.join guest), .run { reg := false }, .call (.join guest), .run {}] =
        some ([[], [.onJoin], [], [.executes "Join" false true]], history) ∧
    history.state.isRegister = true ∧ history.state.registered = false :=
  ⟨_, rfl, rfl, rfl⟩

end BeeSdk.AndroidService
