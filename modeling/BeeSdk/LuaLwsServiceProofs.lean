import BeeSdk.LuaLwsService
import BeeSdk.LuaLwsSessionProofs

/-! Whether what a script writes reaches its own connection. Success says only that the
service was asked: the queue is looked for by the connection the session knows, and a
message for which none is found is gone. -/
namespace BeeSdk.LuaLws
open Runs StateMachine

/-- What the log has of one session. -/
def textsOf (log : List (Nat × Text)) (handle : Nat) : List Text :=
  log.filterMap fun entry => if entry.1 = handle then some entry.2 else none

/-- The message is behind all others in the queue of the session's own connection. -/
def Appended (before after : Lws) (handle : Nat) (text : Text) : Prop :=
  ∃ wsi obj, before.wsiTable.lookup wsi = some obj ∧ obj.session = handle ∧
    after.wsiTable.lookup wsi = some { obj with sendQueuqe := obj.sendQueuqe ++ [text] }

/-- On every connection, what its session wrote with success has been given to `lws_write`
once each and in order, or waits in order. -/
def InOrder (lws : Lws) : Prop :=
  ∀ wsi obj, lws.wsiTable.lookup wsi = some obj →
    textsOf lws.written obj.session = textsOf lws.handed obj.session ++ obj.sendQueuqe

/-- No session's messages are given to `lws_write` twice or in another order. -/
def Sent (lws : Lws) : Prop :=
  ∀ handle, textsOf lws.handed handle <+: textsOf lws.written handle

/-- What a step owes to those who write. -/
structure Keeps (before : Lws) (request : Request) (reply : Reply) (after : Lws) : Prop where
  appended : ∀ handle text, request = .write handle (some text) → reply = .code .success →
    Appended before after handle text
  inOrder : InOrder after
  sent : Sent after

/-- A write that is let through finds, under the connection its session knows, what the
service made for this session. -/
def FindsOwn (lws : Lws) : Request → Prop
  | .write handle (some _) => ∀ session ∈ lws.sessions[handle]?,
    session.closing = false → session.closed = false → session.lwsService = true →
      lws.running = true ∧ ∃ obj ∈ lws.found session.wsi, obj.session = handle
  | _ => True

instance (lws : Lws) : ∀ request, Decidable (FindsOwn lws request)
  | .write _ (some _) => inferInstanceAs (Decidable (∀ session ∈ _, _ → _ → _ → _ ∧ ∃ obj ∈ _, _))
  | .write _ none => isTrue trivial
  | .open' .. => isTrue trivial
  | .connect .. => isTrue trivial
  | .close .. => isTrue trivial
  | .handle => isTrue trivial
  | .timeout .. => isTrue trivial
  | .returns => isTrue trivial
  | .calls .. => isTrue trivial
  | .setsClosed => isTrue trivial

/-- No session has been asked to connect under this handle. -/
def Fresh (lws : Lws) (handle : Nat) : Prop :=
  ∀ session, lws.sessions[handle]? = some session → session.connectCallback = LUA_REFNIL

/-- Every connection is one session's and its queue in order; a session without one has
written nothing. -/
structure Ordered (lws : Lws) : Prop where
  inOrder : InOrder lws
  sent : Sent lws
  unique : ∀ wsi wsi' obj obj', lws.wsiTable.lookup wsi = some obj →
    lws.wsiTable.lookup wsi' = some obj' → obj.session = obj'.session → wsi = wsi'
  connected : ∀ wsi obj, lws.wsiTable.lookup wsi = some obj → ¬ Fresh lws obj.session
  unwritten : ∀ handle, Fresh lws handle → textsOf lws.written handle = []
  unhanded : ∀ handle, Fresh lws handle → textsOf lws.handed handle = []

/-! ### What does not touch the queues -/

/-- The queues are as they were, and no session is one that has not connected. -/
structure Aside (before after : Lws) : Prop where
  wsiTable : after.wsiTable = before.wsiTable
  written : after.written = before.written
  handed : after.handed = before.handed
  fresh : ∀ handle, Fresh after handle → Fresh before handle

theorem Aside.trans {first second third : Lws} (aside : Aside first second)
    (more : Aside second third) : Aside first third where
  wsiTable := more.wsiTable.trans aside.wsiTable
  written := more.written.trans aside.written
  handed := more.handed.trans aside.handed
  fresh := fun handle fresh => aside.fresh handle (more.fresh handle fresh)

theorem Ordered.aside {before after : Lws} (ordered : Ordered before) (aside : Aside before after) :
    Ordered after where
  inOrder := by
    unfold InOrder
    rw [aside.wsiTable, aside.written, aside.handed]
    exact ordered.inOrder
  sent := by
    unfold Sent
    rw [aside.written, aside.handed]
    exact ordered.sent
  unique := by
    rw [aside.wsiTable]
    exact ordered.unique
  connected := by
    rw [aside.wsiTable]
    intro wsi obj entry fresh
    exact ordered.connected wsi obj entry (aside.fresh _ fresh)
  unwritten := by
    rw [aside.written]
    exact fun handle fresh => ordered.unwritten handle (aside.fresh handle fresh)
  unhanded := by
    rw [aside.handed]
    exact fun handle fresh => ordered.unhanded handle (aside.fresh handle fresh)

theorem aside_setSession {lws : Lws} {handle : Nat} {session : LuaLwsSession}
    (next : LuaLwsSession) (held : lws.sessions[handle]? = some session)
    (same : next.connectCallback = LUA_REFNIL → session.connectCallback = LUA_REFNIL) :
    Aside lws (lws.setSession handle next) where
  wsiTable := rfl
  written := rfl
  handed := rfl
  fresh := by
    intro other fresh session' found
    by_cases here : handle = other
    · subst here
      rw [held] at found
      cases found
      obtain ⟨within, _⟩ := List.getElem?_eq_some_iff.mp held
      exact same (fresh next (List.getElem?_set_self within))
    · exact fresh session' ((List.getElem?_set_ne here).trans found)

private theorem aside_same {before after : Lws} (wsiTable : after.wsiTable = before.wsiTable)
    (written : after.written = before.written) (handed : after.handed = before.handed)
    (sessions : after.sessions = before.sessions) : Aside before after :=
  ⟨wsiTable, written, handed, fun _ fresh session found => fresh session (sessions ▸ found)⟩

theorem aside_reportEvent (lws : Lws) (handle : Nat) (session : LuaLwsSession) (event : Event) :
    Aside lws (lws.reportEvent handle session event) := by
  unfold Lws.reportEvent
  split
  · exact aside_same rfl rfl rfl rfl
  · exact aside_same rfl rfl rfl rfl

theorem aside_handled {lws : Lws} {handle : Nat} {session : LuaLwsSession}
    (held : lws.sessions[handle]? = some session) (next : LuaLwsSession × Option Callback)
    (same : next.1.connectCallback = session.connectCallback) : Aside lws (lws.handled handle next) := by
  obtain ⟨next, call⟩ := next
  have set := aside_setSession _ held fun none => same ▸ none
  cases call with
  | none => exact set
  | some call => exact ⟨set.wsiTable, set.written, set.handed, set.fresh⟩

private theorem report_callback (session : LuaLwsSession) (wsi : Option Wsi) (success : Bool)
    (data : Text) :
    (session.reportConnectionResult wsi success data).1.connectCallback = session.connectCallback := by
  rcases reportConnectionResult_cases session wsi success data with ⟨quiet, _⟩ | ⟨_, calls⟩
  · rw [quiet]
  · rw [calls]
    cases success <;> rfl

private theorem end_callback (session : LuaLwsSession) :
    session.reportDisconnected.1.connectCallback = session.connectCallback := by
  rcases reportDisconnected_cases session with quiet | ⟨_, _, _, calls⟩
  · rw [quiet]
  · rw [calls]

private theorem onEvent_callback (parse : Text → Bool) (session : LuaLwsSession) (event : Event) :
    (session.onEvent parse event).1.connectCallback = session.connectCallback := by
  unfold LuaLwsSession.onEvent
  split
  · rfl
  · cases event.reason with
    | clientEstablished => exact report_callback { session with connected := true } _ _ _
    | clientConnectionError => exact report_callback session _ _ _
    | closed => exact end_callback { session with closed := true }
    | wsPeerInitiatedClose => exact end_callback { session with closed := true }
    | wsiDestroy => exact end_callback { session with closed := true }
    | clientWriteable => rfl
    | clientReceive =>
      obtain ⟨currentMsg, ⟨_, quiet⟩ | ⟨_, calls⟩⟩ := reportReadData_cases parse session event.data
      · exact congrArg (fun result => result.1.connectCallback) quiet
      · exact congrArg (fun result => result.1.connectCallback) calls

private theorem timeout_callback (session : LuaLwsSession) :
    session.handleConnectTimeout.1.connectCallback = session.connectCallback := by
  unfold LuaLwsSession.handleConnectTimeout
  dsimp only
  split
  · rfl
  · exact report_callback { session with connectTimer := false } _ _ _

private theorem close_callback (session : LuaLwsSession) :
    session.close.connectCallback = session.connectCallback := by
  unfold LuaLwsSession.close
  split
  · rfl
  · dsimp only
    split <;> rfl

private theorem returned_callback (session : LuaLwsSession) (call : Callback) :
    (session.returned call).connectCallback = session.connectCallback := by
  cases call <;> rfl

/-! ### What touches the queues -/

theorem textsOf_append (log : List (Nat × Text)) (handle other : Nat) (text : Text) :
    textsOf (log ++ [(handle, text)]) other =
      if handle = other then textsOf log other ++ [text] else textsOf log other := by
  unfold textsOf
  by_cases same : handle = other <;> simp [same]

/-- A write is refused, or goes to the connection the session knows. -/
theorem write_cases (session : LuaLwsSession) (data : Option Text) :
    (session.write data).1 ≠ .success ∧ (session.write data).2 = none ∧
        (data = none ∨ session.closing = true ∨ session.closed = true ∨ session.lwsService = false) ∨
      ∃ text, data = some text ∧ session.closing = false ∧ session.closed = false ∧
        session.lwsService = true ∧ session.write data = (.success, some (session.wsi, text)) := by
  unfold LuaLwsSession.write
  by_cases closing : session.closing = true <;> by_cases closed : session.closed = true <;>
    by_cases service : session.lwsService = true <;> cases data <;> simp [closing, closed, service]

/-- The service queues the message where it finds the connection, and nowhere else. -/
theorem service_write_cases (lws : Lws) (wsi : Option Wsi) (data : Text) :
    (¬ (lws.running = true ∧ ∃ obj, lws.found wsi = some obj)) ∧ lws.write wsi data = lws ∨
      lws.running = true ∧ ∃ known obj, wsi = some known ∧ lws.wsiTable.lookup known = some obj ∧
        lws.write wsi data = { lws with
          wsiTable := lws.wsiTable.insert known { obj with sendQueuqe := obj.sendQueuqe ++ [data] } } := by
  unfold Lws.write Lws.found
  by_cases running : lws.running = true
  · cases wsi with
    | none => exact .inl ⟨by simp, by simp⟩
    | some wsi =>
      cases entry : lws.wsiTable.lookup wsi with
      | none => exact .inl ⟨by simp [entry], by simp [entry]⟩
      | some obj => exact .inr ⟨running, wsi, obj, rfl, entry, by simp [running, entry]⟩
  · exact .inl ⟨by simp [running], by simp [running]⟩

/-- Another queue for one connection, with what its session wrote or was sent. -/
private theorem Ordered.moved {lws : Lws} (ordered : Ordered lws) {wsi : Wsi} {obj : WsiObj}
    (entry : lws.wsiTable.lookup wsi = some obj) (sendQueuqe : List Text)
    (written handed : List (Nat × Text))
    (order : textsOf written obj.session = textsOf handed obj.session ++ sendQueuqe)
    (others : ∀ handle, obj.session ≠ handle → textsOf written handle = textsOf lws.written handle ∧
      textsOf handed handle = textsOf lws.handed handle) :
    Ordered { lws with
      wsiTable := lws.wsiTable.insert wsi { obj with sendQueuqe }
      written
      handed } := by
  have kept : ∀ other held,
      (lws.wsiTable.insert wsi { obj with sendQueuqe }).lookup other = some held →
      other = wsi ∧ held = { obj with sendQueuqe } ∨
        other ≠ wsi ∧ lws.wsiTable.lookup other = some held := by
    intro other held found
    by_cases same : other = wsi
    · rw [same, AList.lookup_insert] at found
      cases found
      exact .inl ⟨same, rfl⟩
    · rw [AList.lookup_insert_ne same] at found
      exact .inr ⟨same, found⟩
  have session : ∀ other held,
      (lws.wsiTable.insert wsi { obj with sendQueuqe }).lookup other = some held →
      ∃ was, lws.wsiTable.lookup other = some was ∧ was.session = held.session := by
    intro other held found
    rcases kept other held found with ⟨rfl, rfl⟩ | ⟨_, before⟩
    · exact ⟨obj, entry, rfl⟩
    · exact ⟨held, before, rfl⟩
  exact {
    inOrder := by
      intro other held found
      rcases kept other held found with ⟨_, rfl⟩ | ⟨apart, before⟩
      · exact order
      · have different : obj.session ≠ held.session := fun same =>
          apart (ordered.unique other wsi held obj before entry same.symm)
        obtain ⟨sameWritten, sameHanded⟩ := others held.session different
        exact sameWritten.trans ((ordered.inOrder other held before).trans (by rw [sameHanded]))
    sent := by
      intro handle
      by_cases same : obj.session = handle
      · exact ⟨sendQueuqe, by rw [← same, order]⟩
      · obtain ⟨sameWritten, sameHanded⟩ := others handle same
        show textsOf handed handle <+: textsOf written handle
        rw [sameWritten, sameHanded]
        exact ordered.sent handle
    unique := by
      intro first second held held' found found' same
      obtain ⟨was, before, of⟩ := session first held found
      obtain ⟨was', before', of'⟩ := session second held' found'
      exact ordered.unique first second was was' before before' (of.trans (same.trans of'.symm))
    connected := by
      intro other held found fresh
      obtain ⟨was, before, of⟩ := session other held found
      exact ordered.connected other was before (of ▸ fresh)
    unwritten := by
      intro handle fresh
      have other : obj.session ≠ handle := fun same => ordered.connected wsi obj entry (same ▸ fresh)
      exact (others handle other).1.trans (ordered.unwritten handle fresh)
    unhanded := by
      intro handle fresh
      have other : obj.session ≠ handle := fun same => ordered.connected wsi obj entry (same ▸ fresh)
      exact (others handle other).2.trans (ordered.unhanded handle fresh) }

/-- A message written by the session whose connection it is. -/
private theorem Ordered.queued {lws : Lws} (ordered : Ordered lws) {wsi : Wsi} {obj : WsiObj}
    (entry : lws.wsiTable.lookup wsi = some obj) (text : Text) :
    Ordered { lws with
      wsiTable := lws.wsiTable.insert wsi { obj with sendQueuqe := obj.sendQueuqe ++ [text] }
      written := lws.written ++ [(obj.session, text)] } := by
  apply ordered.moved entry (obj.sendQueuqe ++ [text]) (lws.written ++ [(obj.session, text)]) lws.handed
  · rw [textsOf_append, if_pos rfl, ordered.inOrder wsi obj entry, List.append_assoc]
  · intro handle other
    rw [textsOf_append, if_neg other]
    exact ⟨rfl, rfl⟩

/-- The first message of a queue is given to `lws_write`. -/
private theorem Ordered.onWritable {lws : Lws} (ordered : Ordered lws) {wsi : Wsi} {obj : WsiObj}
    (entry : lws.wsiTable.lookup wsi = some obj) (n : Int) : Ordered (lws.onWritable wsi obj n).2 := by
  unfold Lws.onWritable
  cases queue : obj.sendQueuqe with
  | nil => exact ordered
  | cons data rest =>
    apply ordered.moved entry rest lws.written (lws.handed ++ [(obj.session, data)])
    · rw [textsOf_append, if_pos rfl, ordered.inOrder wsi obj entry, queue, List.append_assoc]
      rfl
    · intro handle other
      rw [textsOf_append, if_neg other]
      exact ⟨rfl, rfl⟩

/-- The connection of a session that is closing leaves the table. -/
private theorem Ordered.erased {lws : Lws} (ordered : Ordered lws) (wsi : Wsi) :
    Ordered { lws with wsiTable := lws.wsiTable.erase wsi } := by
  have kept : ∀ other held, (lws.wsiTable.erase wsi).lookup other = some held →
      lws.wsiTable.lookup other = some held := by
    intro other held found
    by_cases same : other = wsi
    · rw [same, AList.lookup_erase] at found
      cases found
    · rwa [AList.lookup_erase_ne same] at found
  exact {
    inOrder := fun other held found => ordered.inOrder other held (kept other held found)
    sent := ordered.sent
    unique := fun first second held held' found found' =>
      ordered.unique first second held held' (kept first held found) (kept second held' found')
    connected := fun other held found => ordered.connected other held (kept other held found)
    unwritten := ordered.unwritten
    unhanded := ordered.unhanded }

/-- A session that is asked to connect gets an empty queue, also where the connection was
another's before. -/
private theorem Ordered.connects {lws : Lws} (ordered : Ordered lws) {handle : Nat}
    {session : LuaLwsSession} (held : lws.sessions[handle]? = some session)
    (unasked : session.connectCallback = LUA_REFNIL) (next : LuaLwsSession)
    (asked : next.connectCallback ≠ LUA_REFNIL) (wsi : Option Wsi) :
    Ordered ((lws.setSession handle next).connect handle next wsi) := by
  have set := ordered.aside (aside_setSession next held fun _ => unasked)
  have fresh : Fresh lws handle := by
    intro session' found
    rw [held] at found
    cases found
    exact unasked
  have known : ¬ Fresh (lws.setSession handle next) handle := by
    intro fresh
    obtain ⟨within, _⟩ := List.getElem?_eq_some_iff.mp held
    exact asked (fresh next (List.getElem?_set_self within))
  unfold Lws.connect
  split
  · exact set.aside (aside_reportEvent ..)
  · rename_i made _
    have kept : ∀ other obj,
        ((lws.setSession handle next).wsiTable.insert made { session := handle }).lookup other = some obj →
        other = made ∧ obj = { session := handle } ∨ lws.wsiTable.lookup other = some obj := by
      intro other obj found
      by_cases same : other = made
      · rw [same, AList.lookup_insert] at found
        cases found
        exact .inl ⟨same, rfl⟩
      · rw [AList.lookup_insert_ne same] at found
        exact .inr found
    have others : ∀ other obj, lws.wsiTable.lookup other = some obj → obj.session ≠ handle :=
      fun other obj found same => ordered.connected other obj found (same ▸ fresh)
    exact {
      inOrder := by
        intro other obj found
        rcases kept other obj found with ⟨_, rfl⟩ | before
        · show textsOf lws.written handle = textsOf lws.handed handle ++ []
          rw [ordered.unwritten handle fresh, ordered.unhanded handle fresh]
          rfl
        · exact ordered.inOrder other obj before
      sent := set.sent
      unique := by
        intro first second obj obj' found found' same
        rcases kept first obj found with ⟨rfl, rfl⟩ | before
        · rcases kept second obj' found' with ⟨rfl, rfl⟩ | before'
          · rfl
          · exact absurd same.symm (others second obj' before')
        · rcases kept second obj' found' with ⟨rfl, rfl⟩ | before'
          · exact absurd same (others first obj before)
          · exact ordered.unique first second obj obj' before before' same
      connected := by
        intro other obj found
        rcases kept other obj found with ⟨_, rfl⟩ | before
        · exact known
        · exact set.connected other obj before
      unwritten := set.unwritten
      unhanded := set.unhanded }

private theorem Ordered.innerCallback {lws : Lws} (ordered : Ordered lws) (wsi : Wsi)
    (reason : LwsCallbackReasons) (data : Text) (n : Int) :
    Ordered (lws.innerCallback wsi reason data n).2 := by
  unfold Lws.innerCallback
  split
  · exact ordered
  · rename_i obj entry
    split
    · exact ordered
    · rename_i session held
      split
      · have set := ordered.aside (aside_setSession { session with closing := false } held id)
        have erased := set.erased wsi
        exact erased.aside (aside_same rfl rfl rfl rfl)
      · split
        · exact ordered.onWritable entry n
        · exact ordered.aside (aside_reportEvent ..)

private theorem aside_opened (lws : Lws) (session : LuaLwsSession) :
    Aside lws { lws with sessions := lws.sessions ++ [session] } where
  wsiTable := rfl
  written := rfl
  handed := rfl
  fresh := by
    intro handle fresh held found
    obtain ⟨within, _⟩ := List.getElem?_eq_some_iff.mp found
    exact fresh held ((List.getElem?_append_left within).trans found)

/-- A session that is asked has its callback from then on; one that refuses is as it was. -/
private theorem connect_cases (session : LuaLwsSession) (url : Option Text) (timeout callback : Int) :
    (∃ next, session.connect url timeout callback = (.success, next) ∧
      next.connectCallback ≠ LUA_REFNIL) ∨
    session.connect url timeout callback = (.invalidParam, session) := by
  unfold LuaLwsSession.connect
  split
  · exact .inr rfl
  · rename_i given
    simp only [not_or] at given
    refine .inl ⟨_, rfl, ?_⟩
    split
    · exact given.2.2
    · exact given.2.2

/-- A write that finds its own is refused, or is behind the others in that queue. -/
private theorem write_step_cases {parse : Text → Bool} {lws next : Lws} {reply : Reply} {handle : Nat}
    {data : Option Text} (finds : FindsOwn lws (.write handle data))
    (ran : lws.step parse (.write handle data) = some (reply, next)) :
    reply ≠ .code .success ∧ next = lws ∨
      ∃ text wsi obj, data = some text ∧ lws.wsiTable.lookup wsi = some obj ∧ obj.session = handle ∧
        next = { lws with
          wsiTable := lws.wsiTable.insert wsi { obj with sendQueuqe := obj.sendQueuqe ++ [text] }
          written := lws.written ++ [(obj.session, text)] } := by
  simp only [Lws.step, Option.map_eq_some_iff] at ran
  obtain ⟨session, held, ran⟩ := ran
  rcases write_cases session data with
    ⟨refused, nothing, _⟩ | ⟨text, rfl, lasting, isOpen, service, asks⟩
  · have asked : session.write data = ((session.write data).1, none) := Prod.ext rfl nothing
    rw [asked] at ran
    cases ran
    exact .inl ⟨fun same => refused (Reply.code.inj same), rfl⟩
  · rw [asks] at ran
    cases ran
    obtain ⟨running, obj, found, own⟩ := finds session held lasting isOpen service
    rcases service_write_cases lws session.wsi text with ⟨lost, _⟩ | ⟨_, wsi, obj', known, entry, made⟩
    · exact absurd ⟨running, obj, found⟩ lost
    · rw [Lws.found, known] at found
      have same : some obj' = some obj := entry.symm.trans found
      cases same
      rw [made, ← own]
      exact .inr ⟨text, wsi, obj, rfl, entry, rfl, rfl⟩

/-- Every step keeps the queues in order, if a write finds its own. -/
theorem ordered_step {parse : Text → Bool} {lws next : Lws} {request : Request} {reply : Reply}
    (ordered : Ordered lws) (finds : FindsOwn lws request)
    (ran : lws.step parse request = some (reply, next)) : Ordered next := by
  cases request with
  | open' ios lwsService checkJsonCompleted main readCallback =>
    cases ran
    exact ordered.aside (aside_opened ..)
  | connect handle url timeout callback wsi =>
    simp only [Lws.step, Option.bind_eq_some_iff, Option.ite_none_left_eq_some,
      Classical.not_not] at ran
    obtain ⟨session, held, unasked, ran⟩ := ran
    rcases connect_cases session url timeout callback with ⟨asked, connects, callback⟩ | refuses
    · rw [connects] at ran
      cases ran
      exact ordered.connects held unasked asked callback wsi
    · rw [refuses] at ran
      cases ran
      exact ordered.aside (aside_setSession _ held id)
  | write handle data =>
    rcases write_step_cases finds ran with ⟨_, rfl⟩ | ⟨text, wsi, obj, _, entry, _, rfl⟩
    · exact ordered
    · exact ordered.queued entry text
  | close handle =>
    simp only [Lws.step, Option.map_eq_some_iff, Prod.mk.injEq] at ran
    obtain ⟨session, held, _, rfl⟩ := ran
    exact ordered.aside (aside_setSession _ held fun none => close_callback session ▸ none)
  | handle =>
    simp only [Lws.step, Option.ite_none_left_eq_some] at ran
    obtain ⟨_, ran⟩ := ran
    split at ran
    · cases ran
    · rename_i handle event rest _
      simp only [Option.map_eq_some_iff, Prod.mk.injEq] at ran
      obtain ⟨session, held, _, rfl⟩ := ran
      have popped : Ordered { lws with posted := rest } :=
        ordered.aside (aside_same rfl rfl rfl rfl)
      have found : ({ lws with posted := rest } : Lws).sessions[handle]? = some session := held
      exact popped.aside (aside_handled found _ (onEvent_callback parse session event))
  | timeout handle =>
    simp only [Lws.step, Option.ite_none_left_eq_some, Option.bind_eq_some_iff, Option.some.injEq,
      Prod.mk.injEq] at ran
    obtain ⟨_, session, held, _, _, rfl⟩ := ran
    exact ordered.aside (aside_handled held _ (timeout_callback session))
  | returns =>
    simp only [Lws.step, Option.bind_eq_some_iff, Option.map_eq_some_iff, Prod.mk.injEq] at ran
    obtain ⟨⟨handle, call⟩, _, session, held, _, rfl⟩ := ran
    have set := aside_setSession _ held fun none => (returned_callback session call) ▸ none
    exact ordered.aside (set.trans (aside_same rfl rfl rfl rfl))
  | calls wsi reason data n =>
    simp only [Lws.step, Option.ite_none_left_eq_some, Option.some.injEq, Prod.mk.injEq] at ran
    obtain ⟨_, _, rfl⟩ := ran
    exact ordered.innerCallback wsi reason data n
  | setsClosed =>
    simp only [Lws.step, Option.bind_eq_some_iff, Option.map_eq_some_iff, Prod.mk.injEq] at ran
    obtain ⟨handle, _, session, held, _, rfl⟩ := ran
    have set := aside_setSession { session with closed := true } held id
    exact ordered.aside (set.trans (aside_same rfl rfl rfl rfl))

/-- A write answered with success is appended only where it finds its own. -/
theorem findsOwn_of_appended {parse : Text → Bool} {lws next : Lws} {request : Request} {reply : Reply}
    (ran : lws.step parse request = some (reply, next)) (keeps : Keeps lws request reply next) :
    FindsOwn lws request := by
  cases request with
  | write handle data =>
    cases data with
    | none => trivial
    | some text =>
      intro session held lasting isOpen service
      have asks : session.write (some text) = (.success, some (session.wsi, text)) := by
        simp [LuaLwsSession.write, lasting, isOpen, service]
      have found : lws.sessions[handle]? = some session := held
      simp only [Lws.step, found, Option.map_some, asks, Option.some.injEq, Prod.mk.injEq] at ran
      obtain ⟨rfl, rfl⟩ := ran
      obtain ⟨own, obj, entry, of, behind⟩ := keeps.appended handle text rfl rfl
      rcases service_write_cases lws session.wsi text with
        ⟨_, made⟩ | ⟨running, wsi, obj', known, entry', made⟩
      · rw [made] at behind
        have same : some obj = some { obj with sendQueuqe := obj.sendQueuqe ++ [text] } :=
          entry.symm.trans behind
        have longer := congrArg (fun held => (held.map fun obj => obj.sendQueuqe.length)) same
        simp at longer
      · rw [made] at behind
        by_cases same : own = wsi
        · subst same
          exact ⟨running, obj, by simpa [Lws.found, known] using entry, of⟩
        · have kept : lws.wsiTable.lookup own =
              some { obj with sendQueuqe := obj.sendQueuqe ++ [text] } :=
            (AList.lookup_insert_ne same).symm.trans behind
          have longer := congrArg (fun held => (held.map fun obj => obj.sendQueuqe.length))
            (entry.symm.trans kept)
          simp at longer
  | open' => trivial
  | connect => trivial
  | close => trivial
  | handle => trivial
  | timeout => trivial
  | returns => trivial
  | calls => trivial
  | setsClosed => trivial

private theorem appended_of_findsOwn {parse : Text → Bool} {lws next : Lws} {handle : Nat}
    {text : Text} (finds : FindsOwn lws (.write handle (some text)))
    (ran : lws.step parse (.write handle (some text)) = some (.code .success, next)) :
    Appended lws next handle text := by
  rcases write_step_cases finds ran with ⟨refused, _⟩ | ⟨_, wsi, obj, given, entry, own, rfl⟩
  · exact absurd rfl refused
  · cases given
    exact ⟨wsi, obj, entry, own, AList.lookup_insert _⟩

private theorem ordered_start (running : Bool) : Ordered { running } where
  inOrder := fun _ _ entry => by cases entry
  sent := fun _ => List.prefix_rfl
  unique := fun _ _ _ _ entry => by cases entry
  connected := fun _ _ entry => by cases entry
  unwritten := fun _ _ => rfl
  unhanded := fun _ _ => rfl

/-- In every run, whichever thread goes on when, each write answered with success is behind
the others in the queue of its session's own connection, and the queues go to `lws_write`
once and in order, exactly when every write finds the session's own connection under the
one the session knows. -/
theorem writes_queued_iff (parse : Text → Bool) (running : Bool) (requests : List Request)
    (replies : List Reply) (final : Lws)
    (ran : run (Lws.step parse) { running } requests = some (replies, final)) :
    AllTaken (Lws.step parse) Keeps { running } requests ↔
      AllSteps (Lws.step parse) FindsOwn { running } requests := by
  apply taken_iff_of_defined Ordered _ _ (ordered_start running) ran
  · intro lws request reply next ordered taken
    constructor
    · exact findsOwn_of_appended taken
    · intro finds
      have kept := ordered_step ordered finds taken
      refine ⟨?_, kept.inOrder, kept.sent⟩
      rintro handle text rfl rfl
      exact appended_of_findsOwn finds taken
  · intro lws request reply next ordered finds taken
    exact ordered_step ordered finds taken

/-- A session that writes in its connect callback and behind it. -/
theorem written_and_handed :
    ((run (Lws.step fun _ => true) { running := true } [.open' true true false true 1,
        .connect 0 (some []) 0 2 (some 7), .calls 7 .clientEstablished [] 0, .handle,
        .write 0 (some ['a']), .returns, .write 0 (some ['b']), .calls 7 .clientWriteable [] 1,
        .write 0 (some ['c']), .calls 7 .clientWriteable [] 1]).map
      fun ran => (ran.2.handed, ran.2.found (some 7))) =
        some ([(0, ['a']), (0, ['b'])], some ⟨0, [['c']]⟩) ∧
    AllTaken (Lws.step fun _ => true) Keeps { running := true } [.open' true true false true 1,
        .connect 0 (some []) 0 2 (some 7), .calls 7 .clientEstablished [] 0, .handle,
        .write 0 (some ['a']), .returns, .write 0 (some ['b']), .calls 7 .clientWriteable [] 1,
        .write 0 (some ['c']), .calls 7 .clientWriteable [] 1] :=
  ⟨rfl, (writes_queued_iff (fun _ => true) true _ _ _ rfl).mpr (by decide)⟩

/-- What is written before the connection is there is answered with success and gone. -/
theorem written_too_early :
    ¬ ∀ (parse : Text → Bool) (running : Bool) (requests : List Request) (replies : List Reply)
      (final : Lws), run (Lws.step parse) { running } requests = some (replies, final) →
        AllTaken (Lws.step parse) Keeps { running } requests := by
  intro always
  have kept := always (fun _ => true) true [.open' true true false true 1,
    .connect 0 (some []) 0 2 (some 7), .write 0 (some ['a'])] _ _ rfl
  obtain ⟨_, opened, first, _, _, asked, second, _, _, written, third, keeps, _⟩ := kept
  cases first
  cases second
  exact absurd (findsOwn_of_appended third keeps) (by decide)

end BeeSdk.LuaLws
