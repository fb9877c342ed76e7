import BeeSdk.DrawView

/-! What is kept of every action beside the Android board: who began it, on which
page and of which board. The claim of the board is that every action drawn and not
cleared away is held once, by its drawer or by that page. -/
namespace BeeSdk.DrawnOnce
open DrawView

variable {Point : Type}

/-- A page's actions came with the `board`-th board info, which names no drawer, or
were begun on it by the drawer. -/
structure Origin where
  drawer : Option Drawer
  board : Nat
  page : Int
  deriving DecidableEq

/-- The view with the number of its board and the origins of the actions that were
drawn and not cleared away. -/
structure Board (Point : Type) where
  view : BeeWhiteBoardDrawView Point
  board : Nat := 0
  live : Nat → Option Origin := fun _ => none

def pageIds (page : BeeWhiteBoardPage Point) : List Nat :=
  (page.undoActions ++ page.redoActions).map Action.id

namespace Board

def page (board : Board Point) : Option (BeeWhiteBoardPage Point) :=
  board.view.getBoardPage board.view.currentPage

/-- A new action is drawn on the current page. -/
def drawn (board : Board Point) (drawer : Drawer) : Nat → Option Origin := fun id =>
  if id = board.view.made then some ⟨some drawer, board.board, board.view.currentPage⟩
  else board.live id

/-- The origins behind a step: an item that is finished clears away what could have
been done again, `clearAll` what was begun on the page, a board info what the pages
held, and the channel of who leaves goes with its line. -/
def liveAfter (board : Board Point) : Request Point → Nat → Option Origin
  | .lineBegin drawer _ _ _ mode =>
    if (mode = .pen ∨ mode = .eraser) ∧ board.page.isSome then board.drawn drawer else board.live
  | .drawText drawer _ _ _ _ => if board.page.isSome then board.drawn drawer else board.live
  | .lineEnd drawer =>
    match board.view.pending drawer, board.page with
    | some _, some page => fun id =>
      if id ∈ page.redoActions.map Action.id then none else board.live id
    | _, _ => board.live
  | .remove uid => fun id =>
    if (board.view.pending (.other uid)).map Action.id = some id then none else board.live id
  | .clearAll => fun id =>
    (board.live id).filter fun origin =>
      ¬ (origin.board = board.board ∧ origin.page = board.view.currentPage)
  | .setBoardInfo _ pages _ => fun id =>
    match (makePages board.view.made pages).findIdx? fun page => id ∈ pageIds page with
    | some page => some ⟨none, board.board + 1, page⟩
    | none => if board.view.boardPageMap.any fun page => id ∈ pageIds page then none else board.live id
  | _ => board.live

def step (board : Board Point) (request : Request Point) : Option (Unit × Board Point) :=
  some ((), {
    view := board.view.serve request
    live := board.liveAfter request
    board := match request with
      | .setBoardInfo _ _ _ => board.board + 1
      | _ => board.board })

/-- The action was begun on what is now the current page. -/
def Here (board : Board Point) (action : Action Point) : Prop :=
  ∃ origin, board.live action.id = some origin ∧ origin.board = board.board ∧
    origin.page = board.view.currentPage

/-- The items a step finishes, in this order: what the drawer has begun, and a text. -/
def finishes (board : Board Point) : Request Point → List (Action Point)
  | .lineBegin drawer _ _ _ mode =>
    if (mode = .pen ∨ mode = .eraser) ∧ board.page.isSome then (board.view.pending drawer).toList
    else []
  | .lineEnd drawer => (board.view.pending drawer).toList
  | .drawText drawer p strokeColor strokeWidth data =>
    if board.page.isSome then
      let channel := ((board.view.getChannel drawer).setSize strokeWidth).setColor
        (convertRGBToARGB strokeColor)
      (board.view.pending drawer).toList ++
        [⟨board.view.made, .text data, [board.view.scale drawer p], channel.paintColor,
          channel.paintSize⟩]
    else []
  | _ => []

end Board

/-- Every action drawn and not cleared away is held once: as the line its drawer has
begun, or in a stack of the page it was begun on. -/
structure Held (board : Board Point) : Prop where
  own : ∀ drawer action, board.view.pending drawer = some action →
    ∃ origin, board.live action.id = some origin ∧ origin.drawer = some drawer
  stacked : ∀ n page, board.view.getBoardPage n = some page → ∀ id ∈ pageIds page,
    ∃ origin, board.live id = some origin ∧ origin.board = board.board ∧ origin.page = n
  once : ∀ n page, board.view.getBoardPage n = some page → (pageIds page).Nodup
  apart : ∀ drawer action, board.view.pending drawer = some action →
    ∀ n page, board.view.getBoardPage n = some page → action.id ∉ pageIds page
  kept : ∀ id origin, board.live id = some origin →
    (∃ drawer action, board.view.pending drawer = some action ∧ action.id = id) ∨
      ∃ page, board.view.getBoardPage origin.page = some page ∧ id ∈ pageIds page
  lines : ∀ drawer action, board.view.pending drawer = some action →
    ∀ data, action.kind ≠ .text data
  current : ∀ page, board.page = some page → page ∈ board.view.boardPageMap

/-- What one step does: the items it finishes are on top of the undo stack of the page
and nothing is left to do again, and an undo followed by a redo changes no page. -/
structure Served (board : Board Point) (request : Request Point) (next : Board Point) : Prop where
  finished : board.finishes request ≠ [] → ∃ page, board.page = some page ∧
    next.page = some ⟨page.undoActions ++ board.finishes request, []⟩
  undone : ∀ page action, request = .undo → board.page = some page →
    page.undoActions.getLast? = some action →
      next.page = some ⟨page.undoActions.dropLast, page.redoActions ++ [action]⟩
  restored : request = .undo → next.view.redo.boardPageMap = board.view.boardPageMap

/-- A line goes on or ends on the page it was begun on, a second one is begun only where
nothing can be done again, no text is drawn on a page, nothing is cleared while a line
of another page is not ended, and an undo has something to undo or nothing can be
done again. -/
def Kept (board : Board Point) : Request Point → Prop
  | .lineBegin drawer _ _ _ mode => mode = .pen ∨ mode = .eraser → ∀ page, board.page = some page →
    ∀ action, board.view.pending drawer = some action → board.Here action ∧ page.redoActions = []
  | .lineEnd drawer => ∀ action, board.view.pending drawer = some action → board.Here action
  | .drawText _ _ _ _ _ => board.page = none
  | .clearAll => ∀ drawer action, board.view.pending drawer = some action → board.Here action
  | .undo => ∀ page, board.page = some page → page.undoActions ≠ [] ∨ page.redoActions = []
  | _ => True

/-- A view before anything was asked of it. -/
def start (scaled : Bool → Point → Point) : Board Point := { view := { scaled } }

end BeeSdk.DrawnOnce
