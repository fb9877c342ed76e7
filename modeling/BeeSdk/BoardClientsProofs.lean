import BeeSdk.BoardClients
import BeeSdk.DrawnOnceProofs

/-! What is common to the clients is a board of items, and what a message does to it does
not depend on who has it. A client's own call does to its board what its message does to
the boards of the others, so the clients are replicas of one board. -/
namespace BeeSdk.BoardClients
open DrawView Replication Runs
open DrawnOnce (getBoardPage_putPage pending_putChannel)

variable {Point : Type}

/-! ### The board in common -/

abbrev Sheet (Point : Type) := List (Item Point) × List (Item Point)

/-- What every client has of the board: a line that is drawn at home counts from the first
part of it that is broadcast. -/
@[ext] structure Shared (Point : Type) where
  pages : List (Sheet Point)
  currentPage : Int
  isDoc : Bool
  boardPageCount : Int
  pending : String → Option (Item Point)
  newLine : String → Bool

def Item.onMove (item : Item Point) (p : Point) : Item Point :=
  match item.kind with
  | .text _ => item
  | _ => { item with points := item.points ++ [p] }

def kindOf (mode : BeeDrawingMode) : Kind := if mode = .eraser then .eraser else .path

def colorOf (mode : BeeDrawingMode) (color : Int) : Int :=
  if mode = .eraser then colorWhite else convertRGBToARGB color

namespace Shared

def onPage (shared : Shared Point) (change : Sheet Point → Sheet Point) : Shared Point :=
  { shared with pages := shared.pages.modify shared.currentPage.toNat change }

def setPending (shared : Shared Point) (uid : String) (item : Option (Item Point)) : Shared Point :=
  { shared with pending := fun other => if other = uid then item else shared.pending other }

def setNewLine (shared : Shared Point) (uid : String) (newLine : Bool) : Shared Point :=
  { shared with newLine := fun other => if other = uid then newLine else shared.newLine other }

end Shared

def undoSheet (sheet : Sheet Point) : Sheet Point :=
  (sheet.1.dropLast, sheet.2 ++ sheet.1.getLast?.toList)

def redoSheet (sheet : Sheet Point) : Sheet Point :=
  (sheet.1 ++ sheet.2.getLast?.toList, sheet.2.dropLast)

/-- What a message of `uid` does to the board in common. -/
def apply (uid : String) : Message Point → Shared Point → Shared Point
  | .drawing p0 p1 color strokeWidth mode, shared =>
    (shared.setPending uid (if shared.newLine uid then
      some ⟨kindOf mode, [p0, p1], colorOf mode color, strokeWidth⟩
      else (shared.pending uid).map (·.onMove p1))).setNewLine uid false
  | .savedata, shared =>
    match shared.pending uid with
    | none => shared.setNewLine uid true
    | some item =>
      ((shared.onPage fun sheet => (sheet.1 ++ [item], [])).setPending uid none).setNewLine uid true
  | .clear, shared => { shared.onPage fun _ => ([], []) with pending := fun _ => none }
  | .undo, shared => shared.onPage undoSheet
  | .redo, shared => shared.onPage redoSheet
  | .nextpage, shared =>
    if shared.isDoc ∧ shared.currentPage < shared.boardPageCount - 1 then
      { shared with currentPage := shared.currentPage + 1 }
    else shared
  | .prepage, shared =>
    if shared.isDoc ∧ 0 < shared.currentPage then
      { shared with currentPage := shared.currentPage - 1 }
    else shared

/-! ### Which messages commute -/

/-- A line that goes on touches its own drawer's part of the board alone. -/
theorem drawing_commutes (other : uid ≠ user) (message : Message Point) (draws : message ≠ .clear) :
    Commute apply (uid, .drawing p0 p1 color strokeWidth mode) (user, message) := by
  intro shared
  cases message with
  | clear => exact absurd rfl draws
  | drawing q0 q1 color' strokeWidth' mode' =>
    ext name
    all_goals simp only [apply, Shared.setPending, Shared.setNewLine, if_neg other, if_neg other.symm]
    all_goals by_cases here : name = uid <;> by_cases there : name = user <;> simp_all
  | savedata =>
    cases held : shared.pending user with
    | none =>
      ext name
      all_goals simp only [apply, Shared.setPending, Shared.setNewLine, if_neg other, if_neg other.symm,
        held]
      all_goals by_cases here : name = uid <;> by_cases there : name = user <;> simp_all
    | some item =>
      ext name
      all_goals simp only [apply, Shared.setPending, Shared.setNewLine, if_neg other, if_neg other.symm,
        held, Shared.onPage]
      all_goals by_cases here : name = uid <;> by_cases there : name = user <;> simp_all
  | undo => rfl
  | redo => rfl
  | nextpage =>
    simp only [apply, Shared.setPending, Shared.setNewLine]
    split <;> rfl
  | prepage =>
    simp only [apply, Shared.setPending, Shared.setNewLine]
    split <;> rfl

theorem onPage_twice (shared : Shared Point) (first second : Sheet Point → Sheet Point) :
    (shared.onPage first).onPage second = shared.onPage (second ∘ first) := by
  simp only [Shared.onPage, List.modify_modify_eq]

theorem commute_symm {first second : String × Message Point} (commute : Commute apply first second) :
    Commute apply second first := fun shared => (commute shared).symm

/-- Undo and redo find nothing on a page that is cleared. -/
theorem clear_commutes (change : Sheet Point → Sheet Point) (nothing : change ([], []) = ([], []))
    (same : ∀ shared, apply user message shared = shared.onPage change) :
    Commute apply (uid, .clear) (user, message) := by
  intro shared
  have emptied : (change ∘ fun _ : Sheet Point => ([], [])) = fun _ => ([], []) :=
    funext fun _ => nothing
  have forward : ((shared.onPage change).onPage fun _ => ([], [])) = shared.onPage fun _ => ([], []) :=
    onPage_twice shared change fun _ => ([], [])
  have backward : (shared.onPage fun _ => ([], [])).onPage change =
      shared.onPage fun _ => ([], []) := by
    rw [onPage_twice, emptied]
  simp only
  rw [same, same]
  have pages := congrArg Shared.pages (forward.trans backward.symm)
  exact Shared.ext pages rfl rfl rfl rfl rfl

/-- A line that is cleared is not there to end. -/
theorem clear_commutes_savedata (uid user : String) :
    Commute apply (uid, (.clear : Message Point)) (user, .savedata) := by
  intro shared
  cases held : shared.pending user with
  | none => simp only [apply, Shared.setNewLine, Shared.onPage, held]
  | some item =>
    have emptied := onPage_twice shared (fun sheet => (sheet.1 ++ [item], [])) fun _ => ([], [])
    have pages := congrArg Shared.pages emptied
    simp only [apply, held]
    exact Shared.ext pages rfl rfl rfl rfl rfl

theorem commutes_commute (other : uid ≠ user) (first second : Message Point)
    (known : first.commutes second = true) : Commute apply (uid, first) (user, second) := by
  cases first with
  | drawing p0 p1 color strokeWidth mode =>
    refine drawing_commutes other second ?_
    rintro rfl
    cases known
  | clear =>
    cases second with
    | clear => exact fun _ => rfl
    | savedata => exact clear_commutes_savedata uid user
    | undo => exact clear_commutes undoSheet rfl fun _ => rfl
    | redo => exact clear_commutes redoSheet rfl fun _ => rfl
    | _ => cases known
  | savedata =>
    cases second with
    | drawing => exact commute_symm (drawing_commutes other.symm .savedata (by simp))
    | clear => exact commute_symm (clear_commutes_savedata user uid)
    | _ => cases known
  | undo =>
    cases second with
    | drawing => exact commute_symm (drawing_commutes other.symm .undo (by simp))
    | clear => exact commute_symm (clear_commutes undoSheet rfl fun _ => rfl)
    | undo => exact fun _ => rfl
    | _ => cases known
  | redo =>
    cases second with
    | drawing => exact commute_symm (drawing_commutes other.symm .redo (by simp))
    | clear => exact commute_symm (clear_commutes redoSheet rfl fun _ => rfl)
    | redo => exact fun _ => rfl
    | _ => cases known
  | nextpage =>
    cases second with
    | drawing => exact commute_symm (drawing_commutes other.symm .nextpage (by simp))
    | nextpage => exact fun _ => rfl
    | _ => cases known
  | prepage =>
    cases second with
    | drawing => exact commute_symm (drawing_commutes other.symm .prepage (by simp))
    | prepage => exact fun _ => rfl
    | _ => cases known

/-! ### What a view does -/

variable {view : BeeWhiteBoardDrawView Point}

/-- The current page is changed, nothing else of the pages, and the lines are these. -/
structure Effect (before after : BeeWhiteBoardDrawView Point) (change : Sheet Point → Sheet Point)
    (pending : Drawer → Option (Action Point)) : Prop where
  pages : after.boardPageMap.map sheet =
    (before.boardPageMap.map sheet).modify before.currentPage.toNat change
  currentPage : after.currentPage = before.currentPage
  isDoc : after.isDoc = before.isDoc
  boardPageCount : after.boardPageCount = before.boardPageCount
  scaled : after.scaled = before.scaled
  pending : after.pending = pending

theorem putPage_sheets (here : view.getBoardPage view.currentPage = some page)
    (changed : sheet page' = change (sheet page)) :
    (view.putPage page').boardPageMap.map sheet =
      (view.boardPageMap.map sheet).modify view.currentPage.toNat change := by
  rw [BeeWhiteBoardDrawView.getBoardPage] at here
  split at here
  · obtain ⟨inside, rfl⟩ := List.getElem?_eq_some_iff.mp here
    rw [BeeWhiteBoardDrawView.putPage, List.map_set, changed]
    refine List.ext_getElem? fun i => ?_
    rw [List.getElem?_set, List.getElem?_modify]
    by_cases same : view.currentPage.toNat = i
    · subst same
      simp [inside]
    · simp [same]
  · cases here

theorem serve_begin (drawer : Drawer) (p : Point) (strokeColor : Int)
    (here : view.getBoardPage view.currentPage = some page)
    (pen : mode = .pen ∨ mode = .eraser) (positive : 0 < strokeWidth)
    (unscaled : view.scaled = fun _ p => p) :
    ∃ channel, channel.action = view.pending drawer ∧ channel.paintSize = strokeWidth ∧
      channel.paintColor = colorOf mode strokeColor ∧
      view.serve (.lineBegin drawer p strokeColor strokeWidth mode) =
        view.begin page drawer channel mode (kindOf mode) p := by
  have point : view.scale drawer p = p := by
    cases drawer with
    | own => rfl
    | other session => simp [BeeWhiteBoardDrawView.scale, unscaled]
  have held : (view.getChannel drawer).action = view.pending drawer := DrawnOnce.getChannel_action
  rcases pen with rfl | rfl
  · refine ⟨(((view.getChannel drawer).setType typePath).setSize strokeWidth).setColor
      (convertRGBToARGB strokeColor), ?_, ?_, rfl, ?_⟩
    · rw [← held]
      simp only [DrawChannel.setColor, DrawChannel.setSize, if_pos positive, DrawChannel.setType]
      split <;> rfl
    · simp only [DrawChannel.setColor, DrawChannel.setSize, if_pos positive]
    · simp only [BeeWhiteBoardDrawView.serve, BeeWhiteBoardDrawView.onDrawLineBegin, here, point]
      rfl
  · refine ⟨(view.getChannel drawer).setEraseType colorWhite strokeWidth, ?_, ?_, ?_, ?_⟩
    · rw [← held]
      simp only [DrawChannel.setEraseType, DrawChannel.setSize, if_pos positive]
    · simp only [DrawChannel.setEraseType, DrawChannel.setSize, if_pos positive]
    · simp only [DrawChannel.setEraseType, DrawChannel.setSize, if_pos positive]
      rfl
    · simp only [BeeWhiteBoardDrawView.serve, BeeWhiteBoardDrawView.onDrawLineBegin, here, point]
      rfl

/-- A line of somebody who has begun none. -/
theorem begin_effect (drawer : Drawer) (p : Point) (strokeColor : Int)
    (here : view.getBoardPage view.currentPage = some page)
    (pen : mode = .pen ∨ mode = .eraser) (positive : 0 < strokeWidth)
    (unscaled : view.scaled = fun _ p => p) (idle : view.pending drawer = none) :
    ∃ id, Effect view (view.serve (.lineBegin drawer p strokeColor strokeWidth mode)) (fun sheet => sheet)
      fun other => if other = drawer then
        some ⟨id, kindOf mode, [p], colorOf mode strokeColor, strokeWidth⟩ else view.pending other := by
  obtain ⟨channel, held, size, color, served⟩ :=
    serve_begin drawer p strokeColor here pen positive unscaled
  rw [served]
  refine ⟨view.made, ⟨?_, ?_, ?_, ?_, ?_, ?_⟩⟩
  · have same : sheet (page.pushUndo channel.action) = sheet page := by
      rw [held, idle]
      simp [sheet, BeeWhiteBoardPage.pushUndo]
    have pages := @putPage_sheets _ view page _ (fun sheet => sheet) here same
    cases drawer <;> exact pages
  · cases drawer <;> rfl
  · cases drawer <;> rfl
  · cases drawer <;> rfl
  · cases drawer <;> rfl
  · funext other
    rw [DrawnOnce.pending_begin, size, color]

theorem serve_move (here : view.getBoardPage view.currentPage = some page)
    (pen : mode = .pen ∨ mode = .eraser) (unscaled : view.scaled = fun _ p => p) :
    view.serve (.lineMove drawer p mode) = view.putChannel drawer
      { view.getChannel drawer with
        drawingMode := mode, action := (view.getChannel drawer).action.map (·.onMove p) } := by
  have point : view.scale drawer p = p := by
    cases drawer with
    | own => rfl
    | other session => simp [BeeWhiteBoardDrawView.scale, unscaled]
  simp only [BeeWhiteBoardDrawView.serve, BeeWhiteBoardDrawView.onDrawLineMove, here, point, if_pos pen]

theorem move_effect (here : view.getBoardPage view.currentPage = some page)
    (pen : mode = .pen ∨ mode = .eraser) (unscaled : view.scaled = fun _ p => p) :
    Effect view (view.serve (.lineMove drawer p mode)) (fun sheet => sheet) fun other =>
      if other = drawer then (view.pending drawer).map (·.onMove p) else view.pending other := by
  rw [serve_move here pen unscaled]
  refine ⟨?_, ?_, ?_, ?_, ?_, ?_⟩
  · rw [show (fun sheet : Sheet Point => sheet) = id from rfl, List.modify_id]
    cases drawer <;> rfl
  · cases drawer <;> rfl
  · cases drawer <;> rfl
  · cases drawer <;> rfl
  · cases drawer <;> rfl
  · funext other
    rw [pending_putChannel, DrawnOnce.getChannel_action]

theorem serve_end (here : view.getBoardPage view.currentPage = some page)
    (held : view.pending drawer = some action) :
    view.serve (.lineEnd drawer) =
      (view.putPage (page.pushUndo (some action)).clearRedoStack).putChannel drawer
        { view.getChannel drawer with action := none } := by
  simp only [BeeWhiteBoardDrawView.serve, BeeWhiteBoardDrawView.onDrawLineEnd, here,
    DrawnOnce.getChannel_action, held]

theorem end_effect (here : view.getBoardPage view.currentPage = some page)
    (held : view.pending drawer = some action) :
    Effect view (view.serve (.lineEnd drawer)) (fun sheet => (sheet.1 ++ [item action], [])) fun other =>
      if other = drawer then none else view.pending other := by
  rw [serve_end here held]
  refine ⟨?_, ?_, ?_, ?_, ?_, ?_⟩
  · have pages := @putPage_sheets _ view page (page.pushUndo (some action)).clearRedoStack
      (fun sheet => (sheet.1 ++ [item action], [])) here (by
        simp [sheet, BeeWhiteBoardPage.pushUndo, BeeWhiteBoardPage.clearRedoStack])
    cases drawer <;> exact pages
  · cases drawer <;> rfl
  · cases drawer <;> rfl
  · cases drawer <;> rfl
  · cases drawer <;> rfl
  · funext other
    rw [pending_putChannel, DrawnOnce.pending_putPage]

/-- Nothing ends of somebody who has begun nothing. -/
theorem end_idle_effect (here : view.getBoardPage view.currentPage = some page)
    (idle : view.pending drawer = none) :
    Effect view (view.serve (.lineEnd drawer)) (fun sheet => sheet) view.pending := by
  have served : view.serve (.lineEnd drawer) = view.putChannel drawer (view.getChannel drawer) := by
    simp only [BeeWhiteBoardDrawView.serve, BeeWhiteBoardDrawView.onDrawLineEnd, here,
      DrawnOnce.getChannel_action, idle]
  rw [served]
  refine ⟨?_, ?_, ?_, ?_, ?_, ?_⟩
  · rw [show (fun sheet : Sheet Point => sheet) = id from rfl, List.modify_id]
    cases drawer <;> rfl
  · cases drawer <;> rfl
  · cases drawer <;> rfl
  · cases drawer <;> rfl
  · cases drawer <;> rfl
  · funext other
    rw [pending_putChannel, DrawnOnce.getChannel_action]
    split
    · rename_i same
      rw [same]
    · rfl

theorem clear_effect (here : view.getBoardPage view.currentPage = some page) :
    Effect view (view.serve .clearAll) (fun _ => ([], [])) fun _ => none := by
  have pages := @putPage_sheets _ view page page.clearUndoStack.clearRedoStack (fun _ => ([], []))
    here rfl
  simp only [BeeWhiteBoardDrawView.serve, BeeWhiteBoardDrawView.clearAll, here]
  refine ⟨pages, rfl, rfl, rfl, rfl, ?_⟩
  funext drawer
  cases drawer with
  | own => rfl
  | other session =>
    simp only [BeeWhiteBoardDrawView.pending, BeeWhiteBoardDrawView.putPage]
    cases view.otherDrawChannelMap session <;> rfl

theorem undo_effect (here : view.getBoardPage view.currentPage = some page) :
    Effect view (view.serve .undo) undoSheet view.pending := by
  have pages := @putPage_sheets _ view page (page.popUndo.2.pushRedo page.popUndo.1) undoSheet here (by
    simp [sheet, undoSheet, BeeWhiteBoardPage.popUndo, BeeWhiteBoardPage.pushRedo, List.map_dropLast,
      List.getLast?_map, Option.toList_map])
  simp only [BeeWhiteBoardDrawView.serve, BeeWhiteBoardDrawView.undo, here]
  exact ⟨pages, rfl, rfl, rfl, rfl, funext fun drawer => DrawnOnce.pending_putPage⟩

theorem redo_effect (here : view.getBoardPage view.currentPage = some page) :
    Effect view (view.serve .redo) redoSheet view.pending := by
  have pages := @putPage_sheets _ view page (page.popRedo.2.pushUndo page.popRedo.1) redoSheet here (by
    simp [sheet, redoSheet, BeeWhiteBoardPage.popRedo, BeeWhiteBoardPage.pushUndo, List.map_dropLast,
      List.getLast?_map, Option.toList_map])
  simp only [BeeWhiteBoardDrawView.serve, BeeWhiteBoardDrawView.redo, here]
  exact ⟨pages, rfl, rfl, rfl, rfl, funext fun drawer => DrawnOnce.pending_putPage⟩

/-! ### What a client has in common with the others -/

def common (uid : String) (board : BeeWhiteBoard Point) : Shared Point where
  pages := board.view.boardPageMap.map sheet
  currentPage := board.view.currentPage
  isDoc := board.view.isDoc
  boardPageCount := board.view.boardPageCount
  pending user :=
    if user = uid then (if board.sent then (board.view.pending .own).map item else none)
    else (board.view.pending (.other user)).map item
  newLine user := if user = uid then !board.sent else board.newLine user

/-- The current page is there, whoever is to begin a new line has begun none, and the line
drawn at home is what its first message will say. -/
structure Tidy (board : BeeWhiteBoard Point) : Prop where
  unscaled : board.view.scaled = fun _ p => p
  count : board.view.boardPageCount = board.view.boardPageMap.length
  inside : 0 ≤ board.view.currentPage ∧ board.view.currentPage < board.view.boardPageCount
  idle : ∀ user, board.newLine user = true → board.view.pending (.other user) = none
  width : 0 < board.view.drawChannel.paintSize
  begun : ∀ action, board.view.drawChannel.action = some action →
    (board.view.drawChannel.drawingMode = .pen ∨ board.view.drawChannel.drawingMode = .eraser) ∧
      (board.sent = false → item action = ⟨kindOf board.view.drawChannel.drawingMode, [board.last],
        colorOf board.view.drawChannel.drawingMode
          (convertARGBToRGB board.view.drawChannel.paintColor), board.view.drawChannel.paintSize⟩)

/-- A message is of a pen or an eraser that draws something. -/
def Message.Sound : Message Point → Prop
  | .drawing _ _ _ strokeWidth mode => (mode = .pen ∨ mode = .eraser) ∧ 0 < strokeWidth
  | _ => True

variable {board after : BeeWhiteBoard Point}

theorem page_inside (count : view.boardPageCount = view.boardPageMap.length)
    (inside : 0 ≤ view.currentPage ∧ view.currentPage < view.boardPageCount) :
    ∃ page, view.getBoardPage view.currentPage = some page := by
  rw [BeeWhiteBoardDrawView.getBoardPage, if_pos inside.1]
  exact ⟨_, List.getElem?_eq_getElem (by omega)⟩

theorem Effect.length (effect : Effect view next change lines) :
    next.boardPageMap.length = view.boardPageMap.length := by
  have pages := congrArg List.length effect.pages
  simpa using pages

theorem Effect.here (effect : Effect view next change lines)
    (count : view.boardPageCount = view.boardPageMap.length)
    (inside : 0 ≤ view.currentPage ∧ view.currentPage < view.boardPageCount) :
    ∃ page, next.getBoardPage next.currentPage = some page :=
  page_inside (by rw [effect.boardPageCount, effect.length, count])
    (by rw [effect.boardPageCount, effect.currentPage]; exact inside)

theorem Tidy.here (tidy : Tidy board) :
    ∃ page, board.view.getBoardPage board.view.currentPage = some page :=
  page_inside tidy.count tidy.inside

theorem Effect.trans (effect : Effect view next change lines)
    (further : Effect next last change' lines') : Effect view last (change' ∘ change) lines' := by
  refine ⟨?_, further.currentPage.trans effect.currentPage, further.isDoc.trans effect.isDoc,
    further.boardPageCount.trans effect.boardPageCount, further.scaled.trans effect.scaled,
    further.pending⟩
  rw [further.pages, effect.pages, effect.currentPage, List.modify_modify_eq]

theorem common_effect (uid : String) (effect : Effect board.view after.view change pending) :
    common uid after = { (common uid board).onPage change with
      pending := fun user =>
        if user = uid then (if after.sent then (pending .own).map item else none)
        else (pending (.other user)).map item
      newLine := fun user => if user = uid then !after.sent else after.newLine user } := by
  refine Shared.ext effect.pages effect.currentPage effect.isDoc effect.boardPageCount ?_ rfl
  funext user
  simp only [common, effect.pending]

theorem onPage_same (shared : Shared Point) : shared.onPage (fun sheet => sheet) = shared := by
  refine Shared.ext ?_ rfl rfl rfl rfl rfl
  exact List.modify_id _ _

theorem item_onMove (action : Action Point) (p : Point) :
    item (action.onMove p) = (item action).onMove p := by
  simp only [Action.onMove, Item.onMove, item]
  split <;> simp_all

/-! ### A message of another -/

theorem handleDrawing_effect (tidy : Tidy board) (pen : mode = .pen ∨ mode = .eraser)
    (positive : 0 < strokeWidth) :
    ∃ id, Effect board.view (board.handleDrawing user p0 p1 color strokeWidth mode) (fun sheet => sheet)
      fun other => if other = .other user then
        if board.newLine user then some ⟨id, kindOf mode, [p0, p1], colorOf mode color, strokeWidth⟩
        else (board.view.pending (.other user)).map (·.onMove p1)
      else board.view.pending other := by
  obtain ⟨page, here⟩ := tidy.here
  have line : mode ≠ .text := by rcases pen with rfl | rfl <;> simp
  rw [BeeWhiteBoard.handleDrawing, if_neg line]
  cases begins : board.newLine user with
  | true =>
    obtain ⟨id, begun⟩ := begin_effect (.other user) p0 color here pen positive tidy.unscaled
      (tidy.idle user begins)
    obtain ⟨page', there⟩ := begun.here tidy.count tidy.inside
    have moved := @move_effect _ _ page' mode (.other user) p1 there pen
      (begun.scaled.trans tidy.unscaled)
    have both := begun.trans moved
    simp only [↓reduceIte]
    refine ⟨id, both.pages, both.currentPage, both.isDoc, both.boardPageCount, both.scaled, ?_⟩
    funext other
    rw [both.pending, begun.pending]
    by_cases same : other = .other user
    · rcases pen with rfl | rfl <;> simp [same, Action.onMove, kindOf]
    · simp [same]
  | false =>
    exact ⟨0, move_effect here pen tidy.unscaled⟩

/-- The other's lines, where nothing is said of his next one. -/
theorem common_same (uid : String) (effect : Effect board.view view change board.view.pending) :
    common uid { board with view } = (common uid board).onPage change := by
  have same := @common_effect _ board { board with view } _ _ uid effect
  exact same

theorem common_newLine (other : user ≠ uid) (newLine : Bool) :
    common uid (board.setNewLine user newLine) = (common uid board).setNewLine user newLine := by
  refine Shared.ext rfl rfl rfl rfl rfl ?_
  funext name
  simp only [common, BeeWhiteBoard.setNewLine, Shared.setNewLine]
  by_cases own : name = uid
  · subst own
    rw [if_pos rfl, if_neg (Ne.symm other), if_pos rfl]
  · simp [own]

/-- The line of another becomes this one. -/
theorem common_line (other : user ≠ uid)
    (effect : Effect board.view view change fun drawer =>
      if drawer = .other user then line else board.view.pending drawer) :
    common uid { board with view } =
      ((common uid board).onPage change).setPending user (line.map item) := by
  have same := @common_effect _ board { board with view } _ _ uid effect
  rw [same]
  refine Shared.ext rfl rfl rfl rfl ?_ rfl
  funext name
  simp only [common, Shared.onPage, Shared.setPending]
  by_cases own : name = uid
  · subst own
    simp [Ne.symm other]
  · by_cases his : name = user
    · simp [his, other]
    · simp [own, his]

/-- Whose calls they are makes no difference. -/
def Message.OfAll : Message Point → Prop
  | .drawing _ _ _ _ _ | .savedata => False
  | _ => True

theorem common_turn (uid : String) (turned : Prop) [Decidable turned] (page : Int) :
    common uid { board with
      view := if turned then { board.view with currentPage := page } else board.view } =
      if turned then { common uid board with currentPage := page } else common uid board := by
  by_cases turns : turned
  · rw [if_pos turns, if_pos turns]
    rfl
  · rw [if_neg turns, if_neg turns]

theorem ofAll_common (tidy : Tidy board) (message : Message Point) (ofAll : message.OfAll) :
    common uid (board.handleWhiteBoardMessage user message) =
      apply name message (common uid board) := by
  obtain ⟨page, here⟩ := tidy.here
  cases message with
  | drawing => cases ofAll
  | savedata => cases ofAll
  | clear =>
    have same := @common_effect _ board { board with view := board.view.serve .clearAll } _ _ uid
      (clear_effect here)
    simp only [BeeWhiteBoard.handleWhiteBoardMessage, apply, same]
    refine Shared.ext rfl rfl rfl rfl ?_ rfl
    funext user
    simp
  | undo => exact common_same uid (undo_effect here)
  | redo => exact common_same uid (redo_effect here)
  | nextpage => exact common_turn uid _ _
  | prepage => exact common_turn uid _ _

/-- What the message of another does to a client is what it does to the board in common. -/
theorem message_common (tidy : Tidy board) (other : user ≠ uid) (message : Message Point)
    (sound : message.Sound) :
    common uid (board.handleWhiteBoardMessage user message) =
      apply user message (common uid board) := by
  obtain ⟨page, here⟩ := tidy.here
  have begins : (common uid board).newLine user = board.newLine user := if_neg other
  have line : (common uid board).pending user = (board.view.pending (.other user)).map item :=
    if_neg other
  cases message with
  | drawing p0 p1 color strokeWidth mode =>
    obtain ⟨id, effect⟩ := @handleDrawing_effect _ _ mode strokeWidth user p0 p1 color tidy sound.1
      sound.2
    simp only [BeeWhiteBoard.handleWhiteBoardMessage, if_pos sound.1, apply, begins, line]
    rw [common_newLine other, common_line other effect, onPage_same]
    congr 2
    split
    · rfl
    · simp only [Option.map_map]
      congr 1
      funext action
      exact item_onMove action p1
  | savedata =>
    simp only [BeeWhiteBoard.handleWhiteBoardMessage, apply, line]
    rw [common_newLine other]
    cases held : board.view.pending (.other user) with
    | none =>
      rw [common_same uid (end_idle_effect here held), onPage_same]
      rfl
    | some action =>
      rw [common_line other (end_effect here held)]
      rfl
  | _ => exact ofAll_common tidy _ trivial

end BeeSdk.BoardClients
