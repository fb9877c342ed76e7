import BeeSdk.DrawnOnce
import Mathlib.Data.List.Nodup

/-! The origins tell every holder apart: a pending action by its drawer, a stacked one
by its page. So a step keeps them when it keeps who holds what, and the five calls
that do more have a lemma each. -/
namespace BeeSdk.DrawnOnce
open DrawView Runs

variable {Point : Type} {view : BeeWhiteBoardDrawView Point} {board : Board Point}

/-! ### Pages and channels -/

theorem getBoardPage_putPage (here : view.getBoardPage view.currentPage = some old) :
    (view.putPage page).getBoardPage n =
      if n = view.currentPage then some page else view.getBoardPage n := by
  simp only [BeeWhiteBoardDrawView.getBoardPage, BeeWhiteBoardDrawView.putPage] at here ⊢
  split at here
  · obtain ⟨inside, _⟩ := List.getElem?_eq_some_iff.mp here
    by_cases same : n = view.currentPage
    · subst same
      rw [if_pos ‹_›, if_pos rfl, List.getElem?_set_self inside]
    · rw [if_neg same]
      split
      · rw [List.getElem?_set_ne (by omega)]
      · rfl
  · cases here

theorem pending_putChannel : (view.putChannel drawer channel).pending other =
    if other = drawer then channel.action else view.pending other := by
  cases drawer <;> cases other <;>
    simp [BeeWhiteBoardDrawView.putChannel, BeeWhiteBoardDrawView.pending]
  split <;> rfl

@[simp] theorem getBoardPage_putChannel :
    (view.putChannel drawer channel).getBoardPage n = view.getBoardPage n := by
  cases drawer <;> rfl

@[simp] theorem currentPage_putChannel :
    (view.putChannel drawer channel).currentPage = view.currentPage := by
  cases drawer <;> rfl

@[simp] theorem pending_putPage : (view.putPage page).pending drawer = view.pending drawer := by
  cases drawer <;> rfl

@[simp] theorem setType_action (channel : DrawChannel Point) :
    (channel.setType type).action = channel.action := by
  rw [DrawChannel.setType]
  split <;> rfl

@[simp] theorem setSize_action (channel : DrawChannel Point) :
    (channel.setSize size).action = channel.action := by
  rw [DrawChannel.setSize]
  split <;> rfl

@[simp] theorem setColor_action (channel : DrawChannel Point) :
    (channel.setColor color).action = channel.action := rfl

@[simp] theorem setEraseType_action (channel : DrawChannel Point) :
    (channel.setEraseType bgColor size).action = channel.action := by
  rw [DrawChannel.setEraseType, setSize_action]

/-- A channel made for the occasion holds nothing. -/
theorem getChannel_action : (view.getChannel drawer).action = view.pending drawer := by
  cases drawer with
  | own => rfl
  | other session =>
    rw [BeeWhiteBoardDrawView.getChannel, BeeWhiteBoardDrawView.pending]
    cases view.otherDrawChannelMap session with
    | none => rw [Option.getD_none, BeeWhiteBoardDrawView.newChannel, setType_action]; rfl
    | some channel => rfl

theorem page_mem (page : BeeWhiteBoardPage Point) (here : view.getBoardPage n = some page) :
    page ∈ view.boardPageMap := by
  rw [BeeWhiteBoardDrawView.getBoardPage] at here
  split at here
  · exact List.mem_of_getElem? here
  · cases here

/-! ### Books -/

/-- Every origin is of an object there is and of a board that was, and a page of the
present board is in its map. -/
structure Books (board : Board Point) : Prop where
  held : Held board
  fresh : ∀ id origin, board.live id = some origin → id < board.view.made
  past : ∀ id origin, board.live id = some origin → origin.board ≤ board.board
  placed : ∀ id origin, board.live id = some origin → origin.board = board.board →
    ∃ page, board.view.getBoardPage origin.page = some page

/-- Where the same actions are held by the same drawers and pages the books stay right. -/
theorem books_frame {after : Board Point} (books : Books board) (lives : after.live = board.live)
    (same : after.board = board.board) (made : board.view.made ≤ after.view.made)
    (pendings : ∀ drawer, (after.view.pending drawer).map (fun action => (action.id, action.kind)) =
      (board.view.pending drawer).map fun action => (action.id, action.kind))
    (pages : ∀ n page, board.view.getBoardPage n = some page →
      ∃ page', after.view.getBoardPage n = some page' ∧ (pageIds page').Perm (pageIds page))
    (others : ∀ n, board.view.getBoardPage n = none → after.view.getBoardPage n = none) :
    Books after := by
  obtain ⟨⟨own, stacked, once, apart, kept, lines, current⟩, fresh, past, placed⟩ := books
  have before (drawer action) (held : after.view.pending drawer = some action) :
      ∃ action', board.view.pending drawer = some action' ∧ action'.id = action.id ∧
        action'.kind = action.kind := by
    have pair := pendings drawer
    rw [held] at pair
    cases found : board.view.pending drawer with
    | none => simp [found] at pair
    | some action' =>
      simp only [found, Option.map_some, Option.some.injEq, Prod.mk.injEq] at pair
      exact ⟨action', rfl, pair.1.symm, pair.2.symm⟩
  have stack (n page) (held : after.view.getBoardPage n = some page) :
      ∃ page', board.view.getBoardPage n = some page' ∧ (pageIds page).Perm (pageIds page') := by
    cases found : board.view.getBoardPage n with
    | none => simp [others n found] at held
    | some page' =>
      obtain ⟨page'', held', perm⟩ := pages n page' found
      rw [held] at held'
      cases held'
      exact ⟨page', rfl, perm⟩
  refine ⟨⟨?_, ?_, ?_, ?_, ?_, ?_, ?_⟩, ?_, ?_, ?_⟩
  · intro drawer action held
    obtain ⟨action', held', id, _⟩ := before drawer action held
    rw [lives, ← id]
    exact own drawer action' held'
  · intro n page held id member
    obtain ⟨page', held', perm⟩ := stack n page held
    rw [lives, same]
    exact stacked n page' held' id (perm.mem_iff.mp member)
  · intro n page held
    obtain ⟨page', held', perm⟩ := stack n page held
    exact perm.nodup_iff.mpr (once n page' held')
  · intro drawer action held n page heldPage member
    obtain ⟨action', held', id, _⟩ := before drawer action held
    obtain ⟨page', heldPage', perm⟩ := stack n page heldPage
    rw [← id] at member
    exact apart drawer action' held' n page' heldPage' (perm.mem_iff.mp member)
  · intro id origin live
    rw [lives] at live
    rcases kept id origin live with ⟨drawer, action, held, sameId⟩ | ⟨page, held, member⟩
    · left
      have pair := pendings drawer
      rw [held] at pair
      obtain ⟨action', held', shape⟩ := Option.map_eq_some_iff.mp pair
      simp only [Prod.mk.injEq] at shape
      exact ⟨drawer, action', held', by rw [shape.1, sameId]⟩
    · obtain ⟨page', held', perm⟩ := pages _ page held
      exact .inr ⟨page', held', perm.mem_iff.mpr member⟩
  · intro drawer action held data
    obtain ⟨action', held', _, kind⟩ := before drawer action held
    rw [← kind]
    exact lines drawer action' held' data
  · exact fun page held => page_mem page held
  · intro id origin live
    rw [lives] at live
    exact Nat.lt_of_lt_of_le (fresh id origin live) made
  · intro id origin live
    rw [lives] at live
    rw [same]
    exact past id origin live
  · intro id origin live here
    rw [lives] at live
    rw [same] at here
    obtain ⟨page, held⟩ := placed id origin live here
    obtain ⟨page', held', _⟩ := pages _ page held
    exact ⟨page', held'⟩

/-! ### A line is begun -/

theorem pending_begin : (view.begin page drawer channel mode kind p).pending other =
    if other = drawer then
      some ⟨view.made, kind, [p], channel.paintColor, channel.paintSize⟩
    else view.pending other := by
  let begun : DrawChannel Point := { channel with
    action := some ⟨view.made, kind, [p], channel.paintColor, channel.paintSize⟩
    drawingMode := mode }
  have whole : ((view.putPage (page.pushUndo channel.action)).putChannel drawer begun).pending other =
      if other = drawer then begun.action
      else (view.putPage (page.pushUndo channel.action)).pending other := pending_putChannel
  rw [pending_putPage] at whole
  rw [← whole]
  cases other <;> rfl

theorem getBoardPage_begin (here : view.getBoardPage view.currentPage = some page) :
    (view.begin page drawer channel mode kind p).getBoardPage n =
      if n = view.currentPage then some (page.pushUndo channel.action)
      else view.getBoardPage n := by
  rw [← getBoardPage_putPage here]
  exact getBoardPage_putChannel

theorem mem_pushUndo {page : BeeWhiteBoardPage Point} {id : Nat} : id ∈ pageIds (page.pushUndo action) ↔
    id ∈ pageIds page ∨ action.map Action.id = some id := by
  cases action with
  | none => simp [pageIds, BeeWhiteBoardPage.pushUndo]
  | some action =>
    simp only [pageIds, BeeWhiteBoardPage.pushUndo, Option.toList_some, List.map_append,
      List.mem_append, List.map_cons, List.map_nil, List.mem_singleton, Option.map_some,
      Option.some.injEq]
    constructor
    · rintro ((left | new) | right)
      · exact .inl (.inl left)
      · exact .inr new.symm
      · exact .inl (.inr right)
    · rintro ((left | right) | new)
      · exact .inl (.inl left)
      · exact .inr right
      · exact .inl (.inr new.symm)

theorem nodup_pushUndo {page : BeeWhiteBoardPage Point} (once : (pageIds page).Nodup)
    (apart : ∀ new, action = some new → new.id ∉ pageIds page) :
    (pageIds (page.pushUndo action)).Nodup := by
  cases action with
  | none => simpa [pageIds, BeeWhiteBoardPage.pushUndo] using once
  | some action =>
    have perm : (pageIds (page.pushUndo (some action))).Perm (action.id :: pageIds page) := by
      simp only [pageIds, BeeWhiteBoardPage.pushUndo, Option.toList_some, List.map_append,
        List.map_cons, List.append_assoc, List.singleton_append]
      exact List.perm_middle
    rw [perm.nodup_iff, List.nodup_cons]
    exact ⟨apart action rfl, once⟩

/-- The line that is begun is its drawer's, and the one it replaces is on its page. -/
theorem begin_books {after : Board Point} (books : Books board) (here : board.page = some page)
    (allowed : ∀ action, board.view.pending drawer = some action → board.Here action)
    (held : channel.action = board.view.pending drawer) (line : ∀ data, kind ≠ .text data)
    (viewed : after.view = board.view.begin page drawer channel mode kind p)
    (lives : after.live = board.drawn drawer) (same : after.board = board.board) : Books after := by
  obtain ⟨⟨own, stacked, once, apart, kept, lines, current⟩, fresh, past, placed⟩ := books
  have here : board.view.getBoardPage board.view.currentPage = some page := here
  have unmade (n page) (held : board.view.getBoardPage n = some page) :
      board.view.made ∉ pageIds page := by
    intro member
    obtain ⟨origin, live, _⟩ := stacked n page held _ member
    exact Nat.lt_irrefl _ (fresh _ _ live)
  have older (drawer action) (held : board.view.pending drawer = some action) :
      action.id ≠ board.view.made := by
    intro same
    obtain ⟨origin, live, _⟩ := own drawer action held
    exact Nat.lt_irrefl _ (same ▸ fresh _ _ live)
  have old (id) (other : id ≠ board.view.made) : board.drawn drawer id = board.live id :=
    if_neg other
  have new : board.drawn drawer board.view.made =
      some ⟨some drawer, board.board, board.view.currentPage⟩ := if_pos rfl
  refine ⟨⟨?_, ?_, ?_, ?_, ?_, ?_, ?_⟩, ?_, ?_, ?_⟩
  · intro other action pending
    rw [viewed, pending_begin] at pending
    split at pending
    · subst other
      cases pending
      exact ⟨_, by rw [lives, new], rfl⟩
    · rw [lives, old _ (older other action pending)]
      exact own other action pending
  · intro n page' found id member
    rw [viewed, getBoardPage_begin here, held] at found
    split at found
    · subst n
      cases found
      rcases mem_pushUndo.mp member with stack | flushed
      · rw [lives, same, old id (fun same => unmade _ _ here (same ▸ stack))]
        exact stacked _ _ here id stack
      · obtain ⟨action, pending, rfl⟩ := Option.map_eq_some_iff.mp flushed
        rw [lives, same, old _ (older drawer action pending)]
        exact allowed action pending
    · rw [lives, same, old id (fun same => unmade _ _ found (same ▸ member))]
      exact stacked n page' found id member
  · intro n page' found
    rw [viewed, getBoardPage_begin here, held] at found
    split at found
    · cases found
      exact nodup_pushUndo (once _ _ here) fun action pending =>
        apart drawer action pending _ _ here
    · exact once n page' found
  · intro other action pending n page' found member
    rw [viewed, pending_begin] at pending
    rw [viewed, getBoardPage_begin here, held] at found
    split at pending
    · cases pending
      split at found
      · cases found
        rcases mem_pushUndo.mp member with stack | flushed
        · exact unmade _ _ here stack
        · obtain ⟨action, pending, same⟩ := Option.map_eq_some_iff.mp flushed
          exact older drawer action pending same
      · exact unmade n page' found member
    · rename_i different
      split at found
      · cases found
        rcases mem_pushUndo.mp member with stack | flushed
        · exact apart other action pending _ _ here stack
        · -- The origin of an action names one drawer.
          obtain ⟨action', pending', same⟩ := Option.map_eq_some_iff.mp flushed
          obtain ⟨origin, live, drawn⟩ := own other action pending
          obtain ⟨origin', live', drawn'⟩ := own drawer action' pending'
          rw [same, live] at live'
          cases live'
          rw [drawn] at drawn'
          cases drawn'
          exact different rfl
      · exact apart other action pending n page' found member
  · intro id origin live
    rw [lives] at live
    by_cases latest : id = board.view.made
    · subst latest
      exact .inl ⟨drawer, _, by rw [viewed, pending_begin, if_pos rfl], rfl⟩
    · rw [old id latest] at live
      rcases kept id origin live with ⟨other, action, pending, rfl⟩ | ⟨page', found, member⟩
      · by_cases same : other = drawer
        · subst same
          obtain ⟨origin', live', onBoard, onPage⟩ := allowed action pending
          rw [live] at live'
          cases live'
          right
          refine ⟨page.pushUndo channel.action, ?_, ?_⟩
          · rw [viewed, getBoardPage_begin here, if_pos onPage]
          · rw [held, pending]
            exact mem_pushUndo.mpr (.inr rfl)
        · exact .inl ⟨other, action, by rw [viewed, pending_begin, if_neg same, pending], rfl⟩
      · right
        by_cases same : origin.page = board.view.currentPage
        · refine ⟨page.pushUndo channel.action, ?_, ?_⟩
          · rw [viewed, getBoardPage_begin here, if_pos same]
          · rw [same, here] at found
            cases found
            exact mem_pushUndo.mpr (.inl member)
        · exact ⟨page', by rw [viewed, getBoardPage_begin here, if_neg same, found], member⟩
  · intro other action pending data
    rw [viewed, pending_begin] at pending
    split at pending
    · cases pending
      exact line data
    · exact lines other action pending data
  · exact fun page held => page_mem page held
  · intro id origin live
    rw [lives] at live
    rw [viewed]
    show id < board.view.made + 1
    by_cases latest : id = board.view.made
    · omega
    · have before := fresh id origin ((old id latest).symm.trans live)
      omega
  · intro id origin live
    rw [lives] at live
    rw [same]
    by_cases latest : id = board.view.made
    · subst latest
      rw [new] at live
      cases live
      exact Nat.le_refl _
    · exact past id origin ((old id latest).symm.trans live)
  · intro id origin live onBoard
    rw [lives] at live
    rw [same] at onBoard
    rw [viewed, getBoardPage_begin here]
    split
    · exact ⟨_, rfl⟩
    · rename_i elsewhere
      have before : id ≠ board.view.made := by
        rintro rfl
        rw [new] at live
        cases live
        exact elsewhere rfl
      exact placed id origin ((old id before).symm.trans live) onBoard

/-! ### A line is ended -/

/-- The ended line is on top of its page, and what could be done again is gone. -/
theorem end_books {after : Board Point} (books : Books board) (here : board.page = some page)
    (held : board.view.pending drawer = some action) (allowed : board.Here action)
    (pendings : ∀ other, after.view.pending other =
      if other = drawer then none else board.view.pending other)
    (pages : ∀ n, after.view.getBoardPage n =
      if n = board.view.currentPage then some ⟨page.undoActions ++ [action], []⟩
      else board.view.getBoardPage n)
    (lives : after.live = fun id =>
      if id ∈ page.redoActions.map Action.id then none else board.live id)
    (same : after.board = board.board) (made : after.view.made = board.view.made) :
    Books after := by
  obtain ⟨⟨own, stacked, once, apart, kept, lines, current⟩, fresh, past, placed⟩ := books
  have here : board.view.getBoardPage board.view.currentPage = some page := here
  have whole : pageIds page = page.undoActions.map Action.id ++ page.redoActions.map Action.id :=
    List.map_append
  have ids : pageIds (⟨page.undoActions ++ [action], []⟩ : BeeWhiteBoardPage Point) =
      page.undoActions.map Action.id ++ [action.id] := by
    simp [pageIds]
  have once' := once _ _ here
  rw [whole, List.nodup_append] at once'
  -- What is not on top of the current page any more is not on another one either.
  have still (id origin) (live : after.live id = some origin) :
      board.live id = some origin ∧ id ∉ page.redoActions.map Action.id := by
    rw [lives] at live
    dsimp only at live
    split at live
    · cases live
    · exact ⟨live, ‹_›⟩
  have stays (id) (apart : id ∉ page.redoActions.map Action.id) : after.live id = board.live id := by
    rw [lives]
    exact if_neg apart
  refine ⟨⟨?_, ?_, ?_, ?_, ?_, ?_, ?_⟩, ?_, ?_, ?_⟩
  · intro other action' pending
    rw [pendings] at pending
    split at pending
    · cases pending
    · rw [stays]
      · exact own other action' pending
      · intro member
        exact apart other action' pending _ _ here (whole ▸ List.mem_append_right _ member)
  · intro n page' found id member
    rw [pages] at found
    split at found
    · subst n
      cases found
      rw [ids, List.mem_append, List.mem_singleton] at member
      rw [same, stays]
      · rcases member with stack | rfl
        · exact stacked _ _ here id (whole ▸ List.mem_append_left _ stack)
        · exact allowed
      · intro redone
        rcases member with stack | rfl
        · exact once'.2.2 id stack id redone rfl
        · exact apart drawer action held _ _ here (whole ▸ List.mem_append_right _ redone)
    · rename_i elsewhere
      rw [same, stays]
      · exact stacked n page' found id member
      · intro redone
        obtain ⟨origin, live, _, on⟩ := stacked n page' found id member
        obtain ⟨origin', live', _, on'⟩ :=
          stacked _ _ here id (whole ▸ List.mem_append_right _ redone)
        rw [live] at live'
        cases live'
        exact elsewhere (on.symm.trans on')
  · intro n page' found
    rw [pages] at found
    split at found
    · cases found
      rw [ids, List.nodup_append]
      refine ⟨once'.1, by simp, ?_⟩
      intro id stack id' single equal
      rw [List.mem_singleton] at single
      subst single equal
      exact apart drawer action held _ _ here (whole ▸ List.mem_append_left _ stack)
    · exact once n page' found
  · intro other action' pending n page' found member
    rw [pendings] at pending
    rw [pages] at found
    split at pending
    · cases pending
    · rename_i different
      split at found
      · cases found
        rw [ids, List.mem_append, List.mem_singleton] at member
        rcases member with stack | equal
        · exact apart other action' pending _ _ here (whole ▸ List.mem_append_left _ stack)
        · obtain ⟨origin, live, drawn⟩ := own other action' pending
          obtain ⟨origin', live', drawn'⟩ := own drawer action held
          rw [equal, live'] at live
          cases live
          rw [drawn'] at drawn
          cases drawn
          exact different rfl
      · exact apart other action' pending n page' found member
  · intro id origin live
    obtain ⟨live, not_redone⟩ := still id origin live
    rcases kept id origin live with ⟨other, action', pending, rfl⟩ | ⟨page', found, member⟩
    · by_cases equal : other = drawer
      · subst equal
        rw [held] at pending
        cases pending
        obtain ⟨origin', live', _, onPage⟩ := allowed
        rw [live] at live'
        cases live'
        exact .inr ⟨_, by rw [pages, if_pos onPage], by rw [ids]; simp⟩
      · exact .inl ⟨other, action', by rw [pendings, if_neg equal, pending], rfl⟩
    · right
      by_cases equal : origin.page = board.view.currentPage
      · refine ⟨_, by rw [pages, if_pos equal], ?_⟩
        rw [equal, here] at found
        cases found
        rw [whole, List.mem_append] at member
        rw [ids]
        exact List.mem_append_left _ (member.resolve_right not_redone)
      · exact ⟨page', by rw [pages, if_neg equal, found], member⟩
  · intro other action' pending
    rw [pendings] at pending
    split at pending
    · cases pending
    · exact lines other action' pending
  · exact fun page held => page_mem page held
  · intro id origin live
    rw [made]
    exact fresh id origin (still id origin live).1
  · intro id origin live
    rw [same]
    exact past id origin (still id origin live).1
  · intro id origin live onBoard
    rw [same] at onBoard
    rw [pages]
    split
    · exact ⟨_, rfl⟩
    · exact placed id origin (still id origin live).1 onBoard

/-! ### What is cleared away -/

/-- Cleared are the page and every line, which all are lines of that page. -/
theorem clear_books {after : Board Point} (books : Books board)
    (allowed : ∀ drawer action, board.view.pending drawer = some action → board.Here action)
    (pendings : ∀ drawer, after.view.pending drawer = none)
    (pages : ∀ n, after.view.getBoardPage n =
      if n = board.view.currentPage then board.page.map fun _ => ⟨[], []⟩
      else board.view.getBoardPage n)
    (lives : after.live = board.liveAfter .clearAll) (same : after.board = board.board)
    (made : after.view.made = board.view.made) : Books after := by
  obtain ⟨⟨own, stacked, once, apart, kept, lines, current⟩, fresh, past, placed⟩ := books
  have still (id origin) (live : after.live id = some origin) : board.live id = some origin ∧
      ¬ (origin.board = board.board ∧ origin.page = board.view.currentPage) := by
    rw [lives] at live
    obtain ⟨live, elsewhere⟩ := Option.filter_eq_some_iff.mp live
    exact ⟨live, of_decide_eq_true elsewhere⟩
  have other (n page) (found : after.view.getBoardPage n = some page) :
      pageIds page = [] ∨ n ≠ board.view.currentPage ∧ board.view.getBoardPage n = some page := by
    rw [pages] at found
    split at found
    · obtain ⟨_, _, rfl⟩ := Option.map_eq_some_iff.mp found
      exact .inl rfl
    · exact .inr ⟨‹_›, found⟩
  refine ⟨⟨?_, ?_, ?_, ?_, ?_, ?_, ?_⟩, ?_, ?_, ?_⟩
  · intro drawer action pending
    rw [pendings] at pending
    cases pending
  · intro n page found id member
    rcases other n page found with empty | ⟨elsewhere, found⟩
    · rw [empty] at member
      cases member
    · obtain ⟨origin, live, onBoard, onPage⟩ := stacked n page found id member
      refine ⟨origin, ?_, by rw [same, onBoard], onPage⟩
      rw [lives]
      exact Option.filter_eq_some_iff.mpr
        ⟨live, decide_eq_true fun both => elsewhere (onPage.symm.trans both.2)⟩
  · intro n page found
    rcases other n page found with empty | ⟨_, found⟩
    · rw [empty]
      exact List.nodup_nil
    · exact once n page found
  · intro drawer action pending
    rw [pendings] at pending
    cases pending
  · intro id origin live
    obtain ⟨live, elsewhere⟩ := still id origin live
    right
    rcases kept id origin live with ⟨drawer, action, pending, rfl⟩ | ⟨page, found, member⟩
    · obtain ⟨origin', live', there⟩ := allowed drawer action pending
      rw [live] at live'
      cases live'
      exact absurd there elsewhere
    · obtain ⟨origin', live', onBoard, _⟩ := stacked _ page found id member
      rw [live] at live'
      cases live'
      have away : origin.page ≠ board.view.currentPage := fun onPage => elsewhere ⟨onBoard, onPage⟩
      exact ⟨page, by rw [pages, if_neg away, found], member⟩
  · intro drawer action pending
    rw [pendings] at pending
    cases pending
  · exact fun page held => page_mem page held
  · intro id origin live
    rw [made]
    exact fresh id origin (still id origin live).1
  · intro id origin live
    rw [same]
    exact past id origin (still id origin live).1
  · intro id origin live onBoard
    obtain ⟨live, elsewhere⟩ := still id origin live
    rw [same] at onBoard
    have away : origin.page ≠ board.view.currentPage := fun onPage => elsewhere ⟨onBoard, onPage⟩
    rw [pages, if_neg away]
    exact placed id origin live onBoard

/-- Who leaves takes the line along, and nothing else. -/
theorem remove_books {after : Board Point} (books : Books board)
    (pendings : ∀ other, after.view.pending other =
      if other = .other uid then none else board.view.pending other)
    (pages : after.view.getBoardPage = board.view.getBoardPage)
    (lives : after.live = board.liveAfter (.remove uid)) (same : after.board = board.board)
    (made : after.view.made = board.view.made) : Books after := by
  obtain ⟨⟨own, stacked, once, apart, kept, lines, current⟩, fresh, past, placed⟩ := books
  have still (id origin) (live : after.live id = some origin) : board.live id = some origin ∧
      (board.view.pending (.other uid)).map Action.id ≠ some id := by
    rw [lives] at live
    dsimp only [Board.liveAfter] at live
    split at live
    · cases live
    · exact ⟨live, ‹_›⟩
  have stays (id) (apart : (board.view.pending (.other uid)).map Action.id ≠ some id) :
      after.live id = board.live id := by
    rw [lives]
    exact if_neg apart
  refine ⟨⟨?_, ?_, ?_, ?_, ?_, ?_, ?_⟩, ?_, ?_, ?_⟩
  · intro other action pending
    rw [pendings] at pending
    split at pending
    · cases pending
    · rename_i different
      rw [stays]
      · exact own other action pending
      · intro taken
        obtain ⟨action', pending', equal⟩ := Option.map_eq_some_iff.mp taken
        obtain ⟨origin, live, drawn⟩ := own other action pending
        obtain ⟨origin', live', drawn'⟩ := own _ action' pending'
        rw [equal, live] at live'
        cases live'
        rw [drawn] at drawn'
        cases drawn'
        exact different rfl
  · intro n page found id member
    rw [pages] at found
    rw [same, stays]
    · exact stacked n page found id member
    · intro taken
      obtain ⟨action, pending, rfl⟩ := Option.map_eq_some_iff.mp taken
      exact apart _ action pending n page found member
  · intro n page found
    rw [pages] at found
    exact once n page found
  · intro other action pending
    rw [pendings] at pending
    rw [pages]
    split at pending
    · cases pending
    · exact apart other action pending
  · intro id origin live
    obtain ⟨live, staying⟩ := still id origin live
    rw [pages]
    rcases kept id origin live with ⟨other, action, pending, rfl⟩ | stack
    · left
      refine ⟨other, action, ?_, rfl⟩
      rw [pendings, if_neg ?_, pending]
      rintro rfl
      exact staying (by rw [pending]; rfl)
    · exact .inr stack
  · intro other action pending
    rw [pendings] at pending
    split at pending
    · cases pending
    · exact lines other action pending
  · exact fun page held => page_mem page held
  · intro id origin live
    rw [made]
    exact fresh id origin (still id origin live).1
  · intro id origin live
    rw [same]
    exact past id origin (still id origin live).1
  · intro id origin live onBoard
    rw [same] at onBoard
    rw [pages]
    exact placed id origin (still id origin live).1 onBoard

/-! ### A board info -/

theorem makeActions_ids (listed : List (Kind × List Point × Int × Int)) :
    (makeActions made listed).map Action.id = List.range' made listed.length := by
  induction listed generalizing made with
  | nil => rfl
  | cons first rest ih =>
    obtain ⟨kind, points, color, size⟩ := first
    rw [makeActions, List.map_cons, ih, List.length_cons, List.range'_succ]

/-- The objects of a new page have the numbers that come next. -/
theorem mem_newPage {id made : Nat} (listed : Listed Point) :
    id ∈ pageIds ⟨makeActions made listed.past,
        (makeActions (made + listed.past.length) listed.future).reverse⟩ ↔
      made ≤ id ∧ id < made + listed.past.length + listed.future.length := by
  rw [pageIds, List.map_append, List.map_reverse, makeActions_ids, makeActions_ids, List.mem_append,
    List.mem_reverse, List.mem_range'_1, List.mem_range'_1]
  omega

theorem newPage_nodup (listed : Listed Point) :
    (pageIds ⟨makeActions made listed.past,
      (makeActions (made + listed.past.length) listed.future).reverse⟩).Nodup := by
  rw [pageIds, List.map_append, List.map_reverse, makeActions_ids, makeActions_ids,
    List.nodup_append]
  refine ⟨List.nodup_range', List.nodup_reverse.mpr List.nodup_range', ?_⟩
  intro id past id' future
  rw [List.mem_reverse, List.mem_range'_1] at future
  rw [List.mem_range'_1] at past
  omega

/-- Every new page holds new objects, each once and no other page any of them. -/
theorem makePages_page (pages : List (Listed Point)) (at_index : (makePages made pages)[n]? = some page) :
    (pageIds page).Nodup ∧ ∀ id ∈ pageIds page, made ≤ id ∧ id < made + listedCount pages ∧
      ((makePages made pages).findIdx? fun page => id ∈ pageIds page) = some n := by
  induction pages generalizing made n with
  | nil => cases at_index
  | cons listed rest ih =>
    rw [makePages] at at_index
    rw [makePages, listedCount]
    cases n with
    | zero =>
      cases at_index
      refine ⟨newPage_nodup listed, fun id member => ?_⟩
      have range := (mem_newPage listed).mp member
      refine ⟨range.1, by omega, ?_⟩
      rw [List.findIdx?_cons, decide_eq_true member]
      rfl
    | succ n =>
      obtain ⟨once, others⟩ := ih at_index
      refine ⟨once, fun id member => ?_⟩
      obtain ⟨low, high, found⟩ := others id member
      refine ⟨by omega, by omega, ?_⟩
      have later : ¬ id ∈ pageIds (⟨makeActions made listed.past,
          (makeActions (made + listed.past.length) listed.future).reverse⟩ :
            BeeWhiteBoardPage Point) := by
        rw [mem_newPage]
        omega
      rw [List.findIdx?_cons, decide_eq_false later, found]
      rfl

theorem getBoardPage_index {pages : List (BeeWhiteBoardPage Point)} {i : Nat}
    (found : pages[i]? = some page) :
    (view.setBoardInfo doc pages pageNow).getBoardPage i = some page := by
  rw [BeeWhiteBoardDrawView.getBoardPage, if_pos (by omega), Int.toNat_natCast]
  exact found

/-- The pages are new, and what was begun before stays with its drawer. -/
theorem info_books {after : Board Point} (books : Books board)
    (viewed : after.view = ({ board.view with
      made := board.view.made + listedCount pages } : BeeWhiteBoardDrawView Point).setBoardInfo doc
        (makePages board.view.made pages) pageNow)
    (lives : after.live = board.liveAfter (.setBoardInfo doc pages pageNow))
    (same : after.board = board.board + 1) : Books after := by
  obtain ⟨⟨own, stacked, once, apart, kept, lines, current⟩, fresh, past, placed⟩ := books
  have pendings (drawer) : after.view.pending drawer = board.view.pending drawer := by
    rw [viewed]
    cases drawer <;> rfl
  have newPage (n page) (found : after.view.getBoardPage n = some page) :
      ∃ i : Nat, n = i ∧ (makePages board.view.made pages)[i]? = some page := by
    rw [viewed, BeeWhiteBoardDrawView.getBoardPage] at found
    split at found
    · exact ⟨n.toNat, by omega, found⟩
    · cases found
  have oldPage (page) (member : page ∈ board.view.boardPageMap) :
      ∃ n, board.view.getBoardPage n = some page := by
    obtain ⟨i, found⟩ := List.mem_iff_getElem?.mp member
    exact ⟨i, by rw [BeeWhiteBoardDrawView.getBoardPage, if_pos (by omega), Int.toNat_natCast, found]⟩
  have new (i : Nat) (page) (found : (makePages board.view.made pages)[i]? = some page) (id)
      (member : id ∈ pageIds page) : after.live id = some ⟨none, board.board + 1, i⟩ := by
    rw [lives]
    dsimp only [Board.liveAfter]
    rw [((makePages_page pages found).2 id member).2.2]
  have cases_live (id origin) (live : after.live id = some origin) :
      (∃ i : Nat, origin = ⟨none, board.board + 1, i⟩ ∧
        ∃ page, (makePages board.view.made pages)[i]? = some page ∧ id ∈ pageIds page) ∨
      (board.live id = some origin ∧
        ∀ n page, board.view.getBoardPage n = some page → id ∉ pageIds page) := by
    rw [lives] at live
    dsimp only [Board.liveAfter] at live
    split at live
    · rename_i i found
      cases live
      obtain ⟨inside, member, _⟩ := List.findIdx?_eq_some_iff_getElem.mp found
      exact .inl ⟨i, rfl, _, List.getElem?_eq_getElem inside, of_decide_eq_true member⟩
    · split at live
      · cases live
      · rename_i absent
        refine .inr ⟨live, fun n page found member => absent ?_⟩
        rw [List.any_eq_true]
        exact ⟨page, page_mem page found, decide_eq_true member⟩
  have stays (id) (old : id < board.view.made)
      (loose : ∀ n page, board.view.getBoardPage n = some page → id ∉ pageIds page) :
      after.live id = board.live id := by
    rw [lives]
    dsimp only [Board.liveAfter]
    have absent : ((makePages board.view.made pages).findIdx? fun page => id ∈ pageIds page) =
        none := by
      rw [List.findIdx?_eq_none_iff]
      intro page member
      obtain ⟨i, found⟩ := List.mem_iff_getElem?.mp member
      apply decide_eq_false
      intro here
      have range := (makePages_page pages found).2 id here
      omega
    rw [absent]
    dsimp only
    rw [if_neg]
    intro any
    obtain ⟨page, member, here⟩ := List.any_eq_true.mp any
    obtain ⟨n, found⟩ := oldPage page member
    exact loose n page found (of_decide_eq_true here)
  refine ⟨⟨?_, ?_, ?_, ?_, ?_, ?_, ?_⟩, ?_, ?_, ?_⟩
  · intro drawer action pending
    rw [pendings] at pending
    obtain ⟨origin, live, drawn⟩ := own drawer action pending
    rw [stays _ (fresh _ _ live) (apart drawer action pending)]
    exact ⟨origin, live, drawn⟩
  · intro n page found id member
    obtain ⟨i, rfl, listed⟩ := newPage n page found
    exact ⟨_, new i page listed id member, same.symm, rfl⟩
  · intro n page found
    obtain ⟨i, rfl, listed⟩ := newPage n page found
    exact (makePages_page pages listed).1
  · intro drawer action pending n page found member
    rw [pendings] at pending
    obtain ⟨i, rfl, listed⟩ := newPage n page found
    obtain ⟨origin, live, _⟩ := own drawer action pending
    have old := fresh _ _ live
    have range := (makePages_page pages listed).2 _ member
    omega
  · intro id origin live
    rcases cases_live id origin live with ⟨i, rfl, page, found, member⟩ | ⟨live, loose⟩
    · exact .inr ⟨page, by rw [viewed]; exact getBoardPage_index found, member⟩
    · rcases kept id origin live with ⟨drawer, action, pending, equal⟩ | ⟨page, found, member⟩
      · exact .inl ⟨drawer, action, by rw [pendings, pending], equal⟩
      · exact absurd member (loose _ page found)
  · intro drawer action pending
    rw [pendings] at pending
    exact lines drawer action pending
  · exact fun page held => page_mem page held
  · intro id origin live
    rw [viewed]
    show id < board.view.made + listedCount pages
    rcases cases_live id origin live with ⟨i, _, page, found, member⟩ | ⟨live, _⟩
    · exact ((makePages_page pages found).2 id member).2.1
    · have old := fresh id origin live
      omega
  · intro id origin live
    rw [same]
    rcases cases_live id origin live with ⟨i, rfl, _⟩ | ⟨live, _⟩
    · exact Nat.le_refl _
    · exact Nat.le_succ_of_le (past id origin live)
  · intro id origin live onBoard
    rw [same] at onBoard
    rcases cases_live id origin live with ⟨i, rfl, page, found, _⟩ | ⟨live, _⟩
    · exact ⟨page, by rw [viewed]; exact getBoardPage_index found⟩
    · have before := past id origin live
      omega

/-! ### One step -/

theorem page_putPage (here : view.getBoardPage view.currentPage = some old) :
    (view.putPage page).getBoardPage (view.putPage page).currentPage = some page := by
  rw [getBoardPage_putPage here]
  exact if_pos rfl

/-- Where the view is left as it is, or only its settings change. -/
theorem books_settings {after : Board Point} (books : Books board) (lives : after.live = board.live)
    (same : after.board = board.board) (made : after.view.made = board.view.made)
    (pendings : after.view.pending = board.view.pending)
    (pages : after.view.getBoardPage = board.view.getBoardPage) : Books after := by
  refine books_frame books lives same (Nat.le_of_eq made.symm) ?_ ?_ ?_
  · intro drawer
    rw [pendings]
  · intro n page found
    exact ⟨page, by rw [pages, found], .refl _⟩
  · intro n found
    rw [pages, found]

/-- Putting a page back with its actions in other places keeps the books. -/
theorem books_putPage {after : Board Point} (books : Books board)
    (here : board.page = some page) (viewed : after.view = board.view.putPage page')
    (perm : (pageIds page').Perm (pageIds page)) (lives : after.live = board.live)
    (same : after.board = board.board) : Books after := by
  refine books_frame books lives same (by rw [viewed]; exact Nat.le_refl _) ?_ ?_ ?_
  · intro drawer
    rw [viewed, pending_putPage]
  · intro n old found
    rw [viewed, getBoardPage_putPage here]
    split
    · subst n
      rw [show board.view.getBoardPage board.view.currentPage = some page from here] at found
      cases found
      exact ⟨page', rfl, perm⟩
    · exact ⟨old, found, .refl _⟩
  · intro n found
    rw [viewed, getBoardPage_putPage here]
    split
    · subst n
      rw [show board.view.getBoardPage board.view.currentPage = some page from here] at found
      cases found
    · exact found

theorem popped {α : Type} (stack : List α) : stack.dropLast ++ stack.getLast?.toList = stack := by
  cases last : stack.getLast? with
  | none =>
    rw [List.getLast?_eq_none_iff] at last
    rw [last]
    rfl
  | some top => exact List.dropLast_append_getLast? top last

/-- What is popped off the undo stack is pushed on the redo stack. -/
theorem undo_perm (page : BeeWhiteBoardPage Point) :
    (pageIds (page.popUndo.2.pushRedo page.popUndo.1)).Perm (pageIds page) := by
  apply List.Perm.map
  show (page.undoActions.dropLast ++
    (page.redoActions ++ page.undoActions.getLast?.toList)).Perm _
  conv_rhs => rw [← popped page.undoActions, List.append_assoc]
  exact List.perm_append_comm.append_left _

theorem redo_perm (page : BeeWhiteBoardPage Point) :
    (pageIds (page.popRedo.2.pushUndo page.popRedo.1)).Perm (pageIds page) := by
  apply List.Perm.map
  show ((page.undoActions ++ page.redoActions.getLast?.toList) ++ page.redoActions.dropLast).Perm _
  conv_rhs => rw [← popped page.redoActions]
  rw [List.append_assoc]
  exact List.perm_append_comm.append_left _

theorem onMove_shape (action : Action Point) (p : Point) :
    (action.onMove p).id = action.id ∧ (action.onMove p).kind = action.kind := by
  rw [Action.onMove]
  split <;> exact ⟨rfl, rfl⟩

/-- Another channel with the same action in it, its line drawn on at most. -/
theorem books_putChannel {after : Board Point} (books : Books board)
    (viewed : after.view = board.view.putChannel drawer channel)
    (shape : channel.action.map (fun action => (action.id, action.kind)) =
      (board.view.pending drawer).map fun action => (action.id, action.kind))
    (lives : after.live = board.live) (same : after.board = board.board) : Books after := by
  refine books_frame books lives same ?_ ?_ ?_ ?_
  · rw [viewed]
    cases drawer <;> exact Nat.le_refl _
  · intro other
    rw [viewed, pending_putChannel]
    split
    · subst other
      exact shape
    · rfl
  · intro n page found
    exact ⟨page, by rw [viewed, getBoardPage_putChannel, found], .refl _⟩
  · intro n found
    rw [viewed, getBoardPage_putChannel, found]

/-- The calls that draw on the current page. -/
def Draws : Request Point → Prop
  | .lineBegin _ _ _ _ _ | .lineMove _ _ _ | .lineEnd _ | .drawText _ _ _ _ _ => True
  | _ => False

/-- Where there is no page they do nothing. -/
theorem serve_nowhere (absent : board.page = none) (request : Request Point)
    (draws : Draws request) :
    board.view.serve request = board.view ∧ board.liveAfter request = board.live := by
  have nowhere : board.view.getBoardPage board.view.currentPage = none := absent
  cases request with
  | lineBegin drawer p strokeColor strokeWidth mode =>
    simp [BeeWhiteBoardDrawView.serve, BeeWhiteBoardDrawView.onDrawLineBegin, nowhere,
      Board.liveAfter, absent]
  | lineMove drawer p mode =>
    simp [BeeWhiteBoardDrawView.serve, BeeWhiteBoardDrawView.onDrawLineMove, nowhere,
      Board.liveAfter]
  | lineEnd drawer =>
    simp only [BeeWhiteBoardDrawView.serve, BeeWhiteBoardDrawView.onDrawLineEnd, nowhere,
      Board.liveAfter, absent, true_and]
    cases board.view.pending drawer <;> rfl
  | drawText drawer p strokeColor strokeWidth data =>
    simp [BeeWhiteBoardDrawView.serve, BeeWhiteBoardDrawView.onDrawText, nowhere,
      Board.liveAfter, absent]
  | _ => cases draws

theorem books_nowhere (books : Books board) (absent : board.page = none)
    (taken : Board.step board request = some (reply, next)) (draws : Draws request) :
    Books next := by
  cases taken
  obtain ⟨view, live⟩ := serve_nowhere absent request draws
  refine books_settings books live ?_ (by simp only [view]) (by simp only [view]) (by simp only [view])
  cases request with
  | setBoardInfo doc pages pageNow => cases draws
  | _ => rfl

theorem lineBegin_books (books : Books board)
    (allowed : Kept board (.lineBegin drawer p strokeColor strokeWidth mode))
    (taken : Board.step board (.lineBegin drawer p strokeColor strokeWidth mode) =
      some (reply, next)) : Books next := by
  cases here : board.page with
  | none => exact books_nowhere books here taken trivial
  | some page =>
    cases taken
    have found : board.view.getBoardPage board.view.currentPage = some page := here
    have allowed (draws : mode = .pen ∨ mode = .eraser) (action)
        (pending : board.view.pending drawer = some action) : board.Here action :=
      (allowed draws page here action pending).1
    cases mode with
    | pen =>
      refine begin_books books here (allowed (.inl rfl)) ?_ (show ∀ data, Kind.path ≠ .text data by simp)
        (by simp only [BeeWhiteBoardDrawView.serve, BeeWhiteBoardDrawView.onDrawLineBegin, found]; rfl)
        (by simp [Board.liveAfter, here]) rfl
      rw [setColor_action, setSize_action, setType_action, getChannel_action]
    | eraser =>
      refine begin_books books here (allowed (.inr rfl)) ?_
        (show ∀ data, Kind.eraser ≠ .text data by simp)
        (by simp only [BeeWhiteBoardDrawView.serve, BeeWhiteBoardDrawView.onDrawLineBegin, found]; rfl)
        (by simp [Board.liveAfter, here]) rfl
      rw [setEraseType_action, getChannel_action]
    | _ =>
      refine books_putChannel books
        (by simp only [BeeWhiteBoardDrawView.serve, BeeWhiteBoardDrawView.onDrawLineBegin, found]; rfl)
        (by rw [getChannel_action]) (by simp [Board.liveAfter]) rfl

theorem lineMove_books (books : Books board)
    (taken : Board.step board (.lineMove drawer p mode) = some (reply, next)) : Books next := by
  cases here : board.page with
  | none => exact books_nowhere books here taken trivial
  | some page =>
    cases taken
    have found : board.view.getBoardPage board.view.currentPage = some page := here
    by_cases draws : mode = .pen ∨ mode = .eraser
    · refine books_putChannel books
        (by simp only [BeeWhiteBoardDrawView.serve, BeeWhiteBoardDrawView.onDrawLineMove, found,
          if_pos draws]; rfl) ?_ rfl rfl
      simp only [getChannel_action, Option.map_map]
      congr 1
      funext action
      obtain ⟨id, kind⟩ := onMove_shape action (board.view.scale drawer p)
      simp [id, kind]
    · exact books_putChannel books
        (by simp only [BeeWhiteBoardDrawView.serve, BeeWhiteBoardDrawView.onDrawLineMove, found,
          if_neg draws]; rfl) (by rw [getChannel_action]) rfl rfl

/-- The view behind the end of a line that was begun. -/
theorem serve_lineEnd (here : board.page = some page)
    (held : board.view.pending drawer = some action) :
    board.view.serve (.lineEnd drawer) =
      (board.view.putPage (page.pushUndo (some action)).clearRedoStack).putChannel drawer
        { board.view.getChannel drawer with action := none } := by
  have found : board.view.getBoardPage board.view.currentPage = some page := here
  have inside : (board.view.getChannel drawer).action = some action := getChannel_action.trans held
  simp only [BeeWhiteBoardDrawView.serve, BeeWhiteBoardDrawView.onDrawLineEnd, found, inside]

theorem lineEnd_books (books : Books board) (allowed : Kept board (.lineEnd drawer))
    (taken : Board.step board (.lineEnd drawer) = some (reply, next)) : Books next := by
  cases here : board.page with
  | none => exact books_nowhere books here taken trivial
  | some page =>
    cases taken
    have found : board.view.getBoardPage board.view.currentPage = some page := here
    cases held : board.view.pending drawer with
    | none =>
      have inside : (board.view.getChannel drawer).action = none := getChannel_action.trans held
      exact books_putChannel books
        (by simp only [BeeWhiteBoardDrawView.serve, BeeWhiteBoardDrawView.onDrawLineEnd, found,
          inside]; rfl) (by rw [getChannel_action]) (by simp [Board.liveAfter, held]) rfl
    | some action =>
      have view := serve_lineEnd here held
      refine end_books books here held (allowed action held) ?_ ?_
        (by simp [Board.liveAfter, held, here]) rfl ?_
      · intro other
        simp only [view, pending_putChannel, pending_putPage]
      · intro n
        simp only [view, getBoardPage_putChannel]
        exact getBoardPage_putPage found
      · simp only [view]
        cases drawer <;> rfl

theorem clearAll_books (books : Books board) (allowed : Kept board .clearAll)
    (taken : Board.step board .clearAll = some (reply, next)) : Books next := by
  cases taken
  refine clear_books books allowed ?_ ?_ rfl rfl ?_
  · intro drawer
    cases drawer with
    | own => rfl
    | other session =>
      have cleared : ∀ channel : Option (DrawChannel Point),
          (channel.map fun held => ({ held with action := none } : DrawChannel Point)).bind
            DrawChannel.action = none := by
        rintro (_ | _) <;> rfl
      exact cleared _
  · intro n
    cases here : board.page with
    | none =>
      have found : board.view.getBoardPage board.view.currentPage = none := here
      simp only [BeeWhiteBoardDrawView.serve, BeeWhiteBoardDrawView.clearAll, found]
      split
      · subst n
        exact found
      · rfl
    | some page =>
      have found : board.view.getBoardPage board.view.currentPage = some page := here
      simp only [BeeWhiteBoardDrawView.serve, BeeWhiteBoardDrawView.clearAll, found]
      exact getBoardPage_putPage found
  · simp only [BeeWhiteBoardDrawView.serve, BeeWhiteBoardDrawView.clearAll]
    cases board.view.getBoardPage board.view.currentPage <;> rfl

theorem undo_books (books : Books board)
    (taken : Board.step board .undo = some (reply, next)) : Books next := by
  cases taken
  cases here : board.page with
  | none =>
    have found : board.view.getBoardPage board.view.currentPage = none := here
    have still : board.view.serve .undo = board.view := by
      simp only [BeeWhiteBoardDrawView.serve, BeeWhiteBoardDrawView.undo, found]
    exact books_settings books rfl rfl (by simp only [still]) (by simp only [still])
      (by simp only [still])
  | some page =>
    have found : board.view.getBoardPage board.view.currentPage = some page := here
    exact books_putPage books here
      (by simp only [BeeWhiteBoardDrawView.serve, BeeWhiteBoardDrawView.undo, found])
      (undo_perm page) rfl rfl

theorem redo_books (books : Books board)
    (taken : Board.step board .redo = some (reply, next)) : Books next := by
  cases taken
  cases here : board.page with
  | none =>
    have found : board.view.getBoardPage board.view.currentPage = none := here
    have still : board.view.serve .redo = board.view := by
      simp only [BeeWhiteBoardDrawView.serve, BeeWhiteBoardDrawView.redo, found]
    exact books_settings books rfl rfl (by simp only [still]) (by simp only [still])
      (by simp only [still])
  | some page =>
    have found : board.view.getBoardPage board.view.currentPage = some page := here
    exact books_putPage books here
      (by simp only [BeeWhiteBoardDrawView.serve, BeeWhiteBoardDrawView.redo, found])
      (redo_perm page) rfl rfl

theorem pending_own {view view' : BeeWhiteBoardDrawView Point}
    (own : view'.drawChannel.action = view.drawChannel.action)
    (others : view'.otherDrawChannelMap = view.otherDrawChannelMap) : view'.pending = view.pending := by
  funext drawer
  cases drawer with
  | own => exact own
  | other session => simp only [BeeWhiteBoardDrawView.pending, others]

theorem step_books (books : Books board) (allowed : Kept board request)
    (taken : Board.step board request = some (reply, next)) : Books next := by
  cases request with
  | lineBegin drawer p strokeColor strokeWidth mode => exact lineBegin_books books allowed taken
  | lineMove drawer p mode => exact lineMove_books books taken
  | lineEnd drawer => exact lineEnd_books books allowed taken
  | drawText drawer p strokeColor strokeWidth data =>
    exact books_nowhere books allowed taken trivial
  | remove uid =>
    cases taken
    refine remove_books books ?_ rfl rfl rfl rfl
    intro other
    cases other with
    | own => rfl
    | other session =>
      simp only [BeeWhiteBoardDrawView.serve, BeeWhiteBoardDrawView.remove,
        BeeWhiteBoardDrawView.pending, Drawer.other.injEq]
      split <;> rfl
  | clearAll => exact clearAll_books books allowed taken
  | undo => exact undo_books books taken
  | redo => exact redo_books books taken
  | prepage =>
    cases taken
    simp only [BeeWhiteBoardDrawView.serve, BeeWhiteBoardDrawView.prepage]
    split <;> exact books_settings books rfl rfl rfl (pending_own rfl rfl) rfl
  | nextpage =>
    cases taken
    simp only [BeeWhiteBoardDrawView.serve, BeeWhiteBoardDrawView.nextpage]
    split <;> exact books_settings books rfl rfl rfl (pending_own rfl rfl) rfl
  | setBoardInfo doc pages pageNow =>
    cases taken
    exact info_books books rfl rfl rfl
  | setScale scaled =>
    cases taken
    exact books_settings books rfl rfl rfl (pending_own rfl rfl) rfl
  | setLineColor color =>
    cases taken
    exact books_settings books rfl rfl rfl (pending_own rfl rfl) rfl
  | setLineWidth size =>
    cases taken
    simp only [BeeWhiteBoardDrawView.serve, BeeWhiteBoardDrawView.setLineWidth]
    split
    · exact books_settings books rfl rfl rfl (pending_own (setSize_action _) rfl) rfl
    · exact books_settings books rfl rfl rfl (pending_own rfl rfl) rfl
  | setDrawingMode mode =>
    cases taken
    exact books_settings books rfl rfl rfl (pending_own rfl rfl) rfl

/-! ### What a step does -/

theorem page_begin (here : view.getBoardPage view.currentPage = some page) :
    (view.begin page drawer channel mode kind p).getBoardPage
      (view.begin page drawer channel mode kind p).currentPage =
        some (page.pushUndo channel.action) := by
  have still : (view.begin page drawer channel mode kind p).currentPage = view.currentPage := by
    cases drawer <;> rfl
  rw [still, getBoardPage_begin here, if_pos rfl]

/-- A line that is finished because its drawer begins another one. -/
theorem begun_finished (here : board.page = some page)
    (draws : mode = .pen ∨ mode = .eraser) :
    (board.view.serve (.lineBegin drawer p strokeColor strokeWidth mode)).getBoardPage
      (board.view.serve (.lineBegin drawer p strokeColor strokeWidth mode)).currentPage =
        some (page.pushUndo (board.view.pending drawer)) := by
  have found : board.view.getBoardPage board.view.currentPage = some page := here
  rcases draws with rfl | rfl
  · simp only [BeeWhiteBoardDrawView.serve, BeeWhiteBoardDrawView.onDrawLineBegin, found]
    rw [page_begin found, setColor_action, setSize_action, setType_action, getChannel_action]
  · simp only [BeeWhiteBoardDrawView.serve, BeeWhiteBoardDrawView.onDrawLineBegin, found]
    rw [page_begin found, setEraseType_action, getChannel_action]

theorem step_finished (books : Books board) (allowed : Kept board request)
    (taken : Board.step board request = some (reply, next)) (some_items : board.finishes request ≠ []) :
    ∃ page, board.page = some page ∧
      next.page = some ⟨page.undoActions ++ board.finishes request, []⟩ := by
  cases taken
  cases request with
  | lineBegin drawer p strokeColor strokeWidth mode =>
    simp only [Board.finishes] at some_items ⊢
    split at some_items
    · rename_i both
      obtain ⟨page, here⟩ := Option.isSome_iff_exists.mp both.2
      refine ⟨page, here, ?_⟩
      rw [if_pos both]
      refine (begun_finished here both.1).trans ?_
      cases held : board.view.pending drawer with
      | none =>
        rw [held] at some_items
        exact absurd rfl some_items
      | some action =>
        have empty := (allowed both.1 page here action held).2
        rw [BeeWhiteBoardPage.pushUndo, empty]
    · exact absurd rfl some_items
  | lineEnd drawer =>
    simp only [Board.finishes] at some_items ⊢
    cases held : board.view.pending drawer with
    | none =>
      rw [held] at some_items
      exact absurd rfl some_items
    | some action =>
      obtain ⟨origin, live, onBoard, onPage⟩ := allowed action held
      obtain ⟨page, found⟩ := books.placed _ origin live onBoard
      rw [onPage] at found
      refine ⟨page, found, ?_⟩
      show (board.view.serve (.lineEnd drawer)).getBoardPage _ = _
      simp only [serve_lineEnd found held, getBoardPage_putChannel, currentPage_putChannel]
      rw [page_putPage found]
      rfl
  | drawText drawer p strokeColor strokeWidth data =>
    have absent : board.page = none := allowed
    simp [Board.finishes, absent] at some_items
  | _ => exact absurd rfl some_items

theorem getBoardPage_set_self (here : view.getBoardPage view.currentPage = some page) :
    view.boardPageMap.set view.currentPage.toNat page = view.boardPageMap := by
  rw [BeeWhiteBoardDrawView.getBoardPage] at here
  split at here
  · obtain ⟨inside, equal⟩ := List.getElem?_eq_some_iff.mp here
    rw [← equal, List.set_getElem_self]
  · cases here

/-- Taking back and doing again leaves a page as it was, unless there was nothing to take
back and something to do again. -/
theorem undo_redo_page (page : BeeWhiteBoardPage Point)
    (allowed : page.undoActions ≠ [] ∨ page.redoActions = []) :
    (page.popUndo.2.pushRedo page.popUndo.1).popRedo.2.pushUndo
      (page.popUndo.2.pushRedo page.popUndo.1).popRedo.1 = page := by
  obtain ⟨undo, redo⟩ := page
  simp only [BeeWhiteBoardPage.popUndo, BeeWhiteBoardPage.pushRedo, BeeWhiteBoardPage.popRedo,
    BeeWhiteBoardPage.pushUndo, BeeWhiteBoardPage.mk.injEq]
  cases last : undo.getLast? with
  | none =>
    rw [List.getLast?_eq_none_iff] at last
    subst last
    have empty : redo = [] := allowed.resolve_left fun some => some rfl
    subst empty
    exact ⟨rfl, rfl⟩
  | some action =>
    simp only [Option.toList_some, List.getLast?_append, List.getLast?_singleton, Option.some_or,
      List.dropLast_concat, and_true]
    exact List.dropLast_append_getLast? action last

theorem undo_restored (allowed : Kept board .undo) :
    (board.view.serve .undo).redo.boardPageMap = board.view.boardPageMap := by
  cases here : board.page with
  | none =>
    have found : board.view.getBoardPage board.view.currentPage = none := here
    simp only [BeeWhiteBoardDrawView.serve, BeeWhiteBoardDrawView.undo, BeeWhiteBoardDrawView.redo,
      found]
  | some page =>
    have found : board.view.getBoardPage board.view.currentPage = some page := here
    have again := @page_putPage _ _ _ (page.popUndo.2.pushRedo page.popUndo.1) found
    simp only [BeeWhiteBoardDrawView.serve, BeeWhiteBoardDrawView.undo, BeeWhiteBoardDrawView.redo,
      found, again]
    rw [undo_redo_page page (allowed page here)]
    simp only [BeeWhiteBoardDrawView.putPage, List.set_set]
    exact getBoardPage_set_self found

/-- What an undo takes back is the last item of the page. -/
theorem undo_undone (here : board.page = some page)
    (last : page.undoActions.getLast? = some action) :
    (board.view.serve .undo).getBoardPage (board.view.serve .undo).currentPage =
      some ⟨page.undoActions.dropLast, page.redoActions ++ [action]⟩ := by
  have found : board.view.getBoardPage board.view.currentPage = some page := here
  simp only [BeeWhiteBoardDrawView.serve, BeeWhiteBoardDrawView.undo, found]
  rw [page_putPage found]
  simp only [BeeWhiteBoardPage.popUndo, BeeWhiteBoardPage.pushRedo, last, Option.toList_some]

theorem step_served (books : Books board) (allowed : Kept board request)
    (taken : Board.step board request = some (reply, next)) : Served board request next := by
  refine ⟨step_finished books allowed taken, ?_, ?_⟩
  · rintro page action rfl here last
    cases taken
    exact undo_undone here last
  · rintro rfl
    cases taken
    exact undo_restored allowed

/-! ### Runs -/

theorem start_books (scaled : Bool → Point → Point) : Books (start scaled) := by
  have nowhere (n) : (start scaled).view.getBoardPage n = none := by
    rw [BeeWhiteBoardDrawView.getBoardPage]
    split <;> rfl
  have nothing (drawer) : (start scaled).view.pending drawer = none := by
    cases drawer <;> rfl
  refine ⟨⟨?_, ?_, ?_, ?_, ?_, ?_, ?_⟩, ?_, ?_, ?_⟩
  · intro drawer action held
    rw [nothing] at held
    cases held
  · intro n page found
    rw [nowhere] at found
    cases found
  · intro n page found
    rw [nowhere] at found
    cases found
  · intro drawer action held
    rw [nothing] at held
    cases held
  · intro id origin live
    cases live
  · intro drawer action held
    rw [nothing] at held
    cases held
  · exact fun page held => page_mem page held
  · intro id origin live
    cases live
  · intro id origin live
    cases live
  · intro id origin live
    cases live

/-- In every run whose steps all keep to the condition every state holds what was drawn
once and where it belongs, and a further step that keeps to it does what it should. -/
theorem drawn_once (met : AllSteps Board.step Kept (start scaled) requests)
    (ran : run Board.step (start scaled) requests = some (replies, board)) :
    Held board ∧ ∀ request, Kept board request → ∀ reply next,
      Board.step board request = some (reply, next) → Served board request next := by
  have books : Books board :=
    run_invariant Books (fun _ _ _ _ books allowed taken => step_books books allowed taken)
      (start_books scaled) met ran
  exact ⟨books.held, fun request allowed reply next taken => step_served books allowed taken⟩

/-- A board of one page, a line of the client and a line of somebody else. -/
def lineRequests : List (Request (Int × Int)) :=
  [.setBoardInfo false [⟨[], []⟩] 0, .lineBegin .own (0, 0) 0 3 .pen, .lineEnd .own,
    .lineBegin (.other "a") (1, 1) 0 3 .eraser]

def lineBoard : Board (Int × Int) :=
  ((run Board.step (start fun _ p => p) lineRequests).map Prod.snd).getD (start fun _ p => p)

theorem line_held : Held lineBoard :=
  (@drawn_once _ _ _ lineRequests _
    ⟨trivial, fun _ _ taken => by
      cases taken
      refine ⟨?_, fun _ _ taken => ?_⟩
      · rintro _ page _ action held
        cases held
      · cases taken
        refine ⟨?_, fun _ _ taken => ?_⟩
        · rintro action held
          cases held
          exact ⟨⟨some .own, 1, 0⟩, rfl, rfl, rfl⟩
        · cases taken
          refine ⟨?_, fun _ _ _ => trivial⟩
          rintro _ page _ action held
          cases held⟩
    rfl).1

/-- A text stays with its drawer, and an undo takes back the line before it. -/
theorem text_not_finished :
    ∃ replies board, run Board.step (start fun _ p => p)
        (lineRequests.take 3 ++ [.drawText (.other "a") (1, 1) 0 3 (some "text")]) =
          some (replies, board) ∧
      (board.view.pending (.other "a")).map Action.kind = some (.text (some "text")) ∧
      (board.view.undo.boardPageMap.map pageIds, board.view.undo.boardPageMap.map fun page =>
        page.redoActions.map Action.kind) = ([[0]], [[.path]]) ∧
      ¬ Held board := by
  refine ⟨_, _, rfl, rfl, rfl, fun held => ?_⟩
  exact held.lines (.other "a") _ rfl _ rfl

end BeeSdk.DrawnOnce
