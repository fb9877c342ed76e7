import BeeSdk.Runs
import Mathlib.Algebra.Group.Nat.Defs

/-! The white board of the Android client: `BeeWhiteBoardDrawView` with its pages and
the channel of each drawer. What is drawn on the canvas, the laser pen and the images
behind the pages are left out; every call is a runnable of the main thread, so one
runs after the other. -/
namespace BeeSdk.DrawView

inductive BeeDrawingMode where
  | pen | eraser | laser | text | none
  deriving DecidableEq

/-- `MyPath`, `MyEraser` and `MyText`. -/
inductive Kind where
  | path
  | eraser
  | text (data : Option String)
  deriving DecidableEq

variable {Point : Type}

/-- An `Action`; `id` is the object its references share. -/
structure Action (Point : Type) where
  id : Nat
  kind : Kind
  points : List Point
  color : Int
  size : Int
  deriving DecidableEq

def Action.onMove (action : Action Point) (p : Point) : Action Point :=
  match action.kind with
  | .text _ => action
  | _ => { action with points := action.points ++ [p] }

/-! ### Pages -/

structure BeeWhiteBoardPage (Point : Type) where
  undoActions : List (Action Point) := []
  redoActions : List (Action Point) := []
  deriving DecidableEq

namespace BeeWhiteBoardPage

def pushUndo (page : BeeWhiteBoardPage Point) (action : Option (Action Point)) :
    BeeWhiteBoardPage Point :=
  { page with undoActions := page.undoActions ++ action.toList }

def popUndo (page : BeeWhiteBoardPage Point) : Option (Action Point) × BeeWhiteBoardPage Point :=
  (page.undoActions.getLast?, { page with undoActions := page.undoActions.dropLast })

def pushRedo (page : BeeWhiteBoardPage Point) (action : Option (Action Point)) :
    BeeWhiteBoardPage Point :=
  { page with redoActions := page.redoActions ++ action.toList }

def popRedo (page : BeeWhiteBoardPage Point) : Option (Action Point) × BeeWhiteBoardPage Point :=
  (page.redoActions.getLast?, { page with redoActions := page.redoActions.dropLast })

def clearUndoStack (page : BeeWhiteBoardPage Point) : BeeWhiteBoardPage Point :=
  { page with undoActions := [] }

def clearRedoStack (page : BeeWhiteBoardPage Point) : BeeWhiteBoardPage Point :=
  { page with redoActions := [] }

end BeeWhiteBoardPage

/-! ### Channels -/

def colorBlack : Int := -0x1000000

def colorWhite : Int := -1

/-- `convertRGBToARGB`: the low three bytes under a full alpha, as an `int`. -/
def convertRGBToARGB (rgb : Int) : Int := rgb % 0x1000000 - 0x1000000

def typePath : Int := 2

def eraserType : Int := -1

structure DrawChannel (Point : Type) where
  drawingMode : BeeDrawingMode := .pen
  type : Int := 0
  action : Option (Action Point) := none
  paintColor : Int := colorBlack
  paintSize : Int := 5
  lastPaintColor : Int := colorBlack
  lastPaintSize : Int := 5

namespace DrawChannel

def setType (channel : DrawChannel Point) (type : Int) : DrawChannel Point :=
  if channel.type = eraserType then
    { channel with paintColor := channel.lastPaintColor, paintSize := channel.lastPaintSize, type }
  else { channel with type }

def setSize (channel : DrawChannel Point) (size : Int) : DrawChannel Point :=
  if 0 < size then { channel with paintSize := size } else channel

def setEraseType (channel : DrawChannel Point) (bgColor size : Int) : DrawChannel Point :=
  { channel with
    type := eraserType, lastPaintColor := channel.paintColor, lastPaintSize := channel.paintSize,
    paintColor := bgColor }.setSize size

def setColor (channel : DrawChannel Point) (color : Int) : DrawChannel Point :=
  { channel with paintColor := color }

end DrawChannel

/-- Whose line it is: of this client, or of the other one with the session. -/
inductive Drawer where
  | own
  | other (session : String)
  deriving DecidableEq

/-! ### The view -/

/-- `handleBoardInfo` numbers the pages of its map from zero, so the map is a list.
`scaled` is what is made of a point of a message, for a document and otherwise, and
`made` counts the objects. -/
structure BeeWhiteBoardDrawView (Point : Type) where
  scaled : Bool → Point → Point
  isDoc : Bool := false
  boardPageCount : Int := 0
  boardPageMap : List (BeeWhiteBoardPage Point) := []
  currentPage : Int := 0
  paintSize : Int := 5
  drawChannel : DrawChannel Point := {}
  otherDrawChannelMap : String → Option (DrawChannel Point) := fun _ => none
  made : Nat := 0

namespace BeeWhiteBoardDrawView

def getBoardPage (view : BeeWhiteBoardDrawView Point) (nPage : Int) :
    Option (BeeWhiteBoardPage Point) :=
  if 0 ≤ nPage then view.boardPageMap[nPage.toNat]? else none

/-- The current page is a reference: what is done to it is done to the page in the map. -/
def putPage (view : BeeWhiteBoardDrawView Point) (page : BeeWhiteBoardPage Point) :
    BeeWhiteBoardDrawView Point :=
  { view with boardPageMap := view.boardPageMap.set view.currentPage.toNat page }

/-- The channel `getOtherChannel` makes for a session it does not know. -/
def newChannel (view : BeeWhiteBoardDrawView Point) : DrawChannel Point :=
  ({ paintSize := view.paintSize } : DrawChannel Point).setType (-1)

def getChannel (view : BeeWhiteBoardDrawView Point) : Drawer → DrawChannel Point
  | .own => view.drawChannel
  | .other session => (view.otherDrawChannelMap session).getD view.newChannel

def putChannel (view : BeeWhiteBoardDrawView Point) (drawer : Drawer) (channel : DrawChannel Point) :
    BeeWhiteBoardDrawView Point :=
  match drawer with
  | .own => { view with drawChannel := channel }
  | .other session =>
    { view with
      otherDrawChannelMap := fun other =>
        if other = session then some channel else view.otherDrawChannelMap other }

/-- What a drawer has begun and not ended. -/
def pending (view : BeeWhiteBoardDrawView Point) : Drawer → Option (Action Point)
  | .own => view.drawChannel.action
  | .other session => (view.otherDrawChannelMap session).bind DrawChannel.action

/-- A new action in the place of the one the channel holds, which goes to the page. -/
def begin (view : BeeWhiteBoardDrawView Point) (page : BeeWhiteBoardPage Point) (drawer : Drawer)
    (channel : DrawChannel Point) (mode : BeeDrawingMode) (kind : Kind) (p : Point) :
    BeeWhiteBoardDrawView Point :=
  let action := ⟨view.made, kind, [p], channel.paintColor, channel.paintSize⟩
  { (view.putPage (page.pushUndo channel.action)).putChannel drawer
      { channel with action := some action, drawingMode := mode } with made := view.made + 1 }

def onDrawLineBegin (view : BeeWhiteBoardDrawView Point) (p : Point) (strokeColor strokeWidth : Int)
    (mode : BeeDrawingMode) (drawer : Drawer) : BeeWhiteBoardDrawView Point :=
  match view.getBoardPage view.currentPage with
  | none => view
  | some page =>
    let channel := view.getChannel drawer
    match mode with
    | .pen =>
      let channel := ((channel.setType typePath).setSize strokeWidth).setColor
        (convertRGBToARGB strokeColor)
      view.begin page drawer channel .pen .path p
    | .eraser => view.begin page drawer (channel.setEraseType colorWhite strokeWidth) .eraser .eraser p
    | _ => view.putChannel drawer channel

def onDrawLineMove (view : BeeWhiteBoardDrawView Point) (p : Point) (mode : BeeDrawingMode)
    (drawer : Drawer) : BeeWhiteBoardDrawView Point :=
  match view.getBoardPage view.currentPage with
  | none => view
  | some _ =>
    let channel := view.getChannel drawer
    if mode = .pen ∨ mode = .eraser then
      view.putChannel drawer
        { channel with drawingMode := mode, action := channel.action.map (·.onMove p) }
    else view.putChannel drawer channel

def onDrawLineEnd (view : BeeWhiteBoardDrawView Point) (drawer : Drawer) :
    BeeWhiteBoardDrawView Point :=
  match view.getBoardPage view.currentPage with
  | none => view
  | some page =>
    let channel := view.getChannel drawer
    match channel.action with
    | none => view.putChannel drawer channel
    | some action =>
      (view.putPage (page.pushUndo (some action)).clearRedoStack).putChannel drawer
        { channel with action := none }

def onDrawText (view : BeeWhiteBoardDrawView Point) (p : Point) (strokeColor strokeWidth : Int)
    (data : Option String) (drawer : Drawer) : BeeWhiteBoardDrawView Point :=
  match view.getBoardPage view.currentPage with
  | none => view
  | some page =>
    let channel := ((view.getChannel drawer).setSize strokeWidth).setColor
      (convertRGBToARGB strokeColor)
    view.begin page drawer channel .text (.text data) p

def remove (view : BeeWhiteBoardDrawView Point) (uid : String) : BeeWhiteBoardDrawView Point :=
  { view with
    otherDrawChannelMap := fun other => if other = uid then none else view.otherDrawChannelMap other }

/-- `clear` for every channel. -/
def clearAll (view : BeeWhiteBoardDrawView Point) : BeeWhiteBoardDrawView Point :=
  let view :=
    match view.getBoardPage view.currentPage with
    | none => view
    | some page => view.putPage page.clearUndoStack.clearRedoStack
  { view with
    drawChannel := { view.drawChannel with action := none }
    otherDrawChannelMap := fun session =>
      (view.otherDrawChannelMap session).map fun channel => { channel with action := none } }

def undo (view : BeeWhiteBoardDrawView Point) : BeeWhiteBoardDrawView Point :=
  match view.getBoardPage view.currentPage with
  | none => view
  | some page =>
    let (action, page) := page.popUndo
    view.putPage (page.pushRedo action)

def redo (view : BeeWhiteBoardDrawView Point) : BeeWhiteBoardDrawView Point :=
  match view.getBoardPage view.currentPage with
  | none => view
  | some page =>
    let (action, page) := page.popRedo
    view.putPage (page.pushUndo action)

def prepage (view : BeeWhiteBoardDrawView Point) : BeeWhiteBoardDrawView Point :=
  if view.isDoc ∧ 0 < view.currentPage then { view with currentPage := view.currentPage - 1 }
  else view

def nextpage (view : BeeWhiteBoardDrawView Point) : BeeWhiteBoardDrawView Point :=
  if view.isDoc ∧ view.currentPage < view.boardPageCount - 1 then
    { view with currentPage := view.currentPage + 1 }
  else view

def setBoardInfo (view : BeeWhiteBoardDrawView Point) (doc : Bool)
    (pageMap : List (BeeWhiteBoardPage Point)) (pageNow : Int) : BeeWhiteBoardDrawView Point :=
  { view with
    isDoc := doc, currentPage := pageNow, boardPageMap := pageMap, boardPageCount := pageMap.length }

def setLineColor (view : BeeWhiteBoardDrawView Point) (color : Int) : BeeWhiteBoardDrawView Point :=
  { view with drawChannel := { view.drawChannel with paintColor := color } }

def setLineWidth (view : BeeWhiteBoardDrawView Point) (size : Int) : BeeWhiteBoardDrawView Point :=
  if 0 < size then { view with paintSize := size, drawChannel := view.drawChannel.setSize size }
  else view

def setDrawingMode (view : BeeWhiteBoardDrawView Point) (mode : BeeDrawingMode) :
    BeeWhiteBoardDrawView Point :=
  { view with drawChannel := { view.drawChannel with drawingMode := mode } }

end BeeWhiteBoardDrawView

/-! ### What may be asked of it -/

/-- What a page of a board info lists. -/
structure Listed (Point : Type) where
  past : List (Kind × List Point × Int × Int)
  future : List (Kind × List Point × Int × Int)

/-- The objects `handleBoardInfo` makes of one list, `made` being the number of those
there are. -/
def makeActions (made : Nat) : List (Kind × List Point × Int × Int) → List (Action Point)
  | [] => []
  | (kind, points, color, size) :: rest =>
    ⟨made, kind, points, color, size⟩ :: makeActions (made + 1) rest

/-- The pages it makes; `reverseRedoStack` turns what is to come around. -/
def makePages (made : Nat) : List (Listed Point) → List (BeeWhiteBoardPage Point)
  | [] => []
  | listed :: rest =>
    ⟨makeActions made listed.past,
      (makeActions (made + listed.past.length) listed.future).reverse⟩ ::
        makePages (made + listed.past.length + listed.future.length) rest

def listedCount : List (Listed Point) → Nat
  | [] => 0
  | listed :: rest => listed.past.length + listed.future.length + listedCount rest

/-- A local begin, move or end comes from a touch and its point is not scaled. -/
inductive Request (Point : Type) where
  | lineBegin (drawer : Drawer) (p : Point) (strokeColor strokeWidth : Int) (mode : BeeDrawingMode)
  | lineMove (drawer : Drawer) (p : Point) (mode : BeeDrawingMode)
  | lineEnd (drawer : Drawer)
  | drawText (drawer : Drawer) (p : Point) (strokeColor strokeWidth : Int) (data : Option String)
  | remove (uid : String)
  | clearAll
  | undo
  | redo
  | prepage
  | nextpage
  | setBoardInfo (doc : Bool) (pages : List (Listed Point)) (pageNow : Int)
  | setScale (scaled : Bool → Point → Point)
  | setLineColor (color : Int)
  | setLineWidth (size : Int)
  | setDrawingMode (mode : BeeDrawingMode)

def BeeWhiteBoardDrawView.scale (view : BeeWhiteBoardDrawView Point) (drawer : Drawer) (p : Point) :
    Point :=
  match drawer with
  | .own => p
  | .other _ => view.scaled view.isDoc p

def BeeWhiteBoardDrawView.serve (view : BeeWhiteBoardDrawView Point) :
    Request Point → BeeWhiteBoardDrawView Point
  | .lineBegin drawer p strokeColor strokeWidth mode =>
    view.onDrawLineBegin (view.scale drawer p) strokeColor strokeWidth mode drawer
  | .lineMove drawer p mode => view.onDrawLineMove (view.scale drawer p) mode drawer
  | .lineEnd drawer => view.onDrawLineEnd drawer
  | .drawText drawer p strokeColor strokeWidth data =>
    view.onDrawText (view.scale drawer p) strokeColor strokeWidth data drawer
  | .remove uid => view.remove uid
  | .clearAll => view.clearAll
  | .undo => view.undo
  | .redo => view.redo
  | .prepage => view.prepage
  | .nextpage => view.nextpage
  | .setBoardInfo doc pages pageNow =>
    { view with made := view.made + listedCount pages }.setBoardInfo doc
      (makePages view.made pages) pageNow
  | .setScale scaled => { view with scaled }
  | .setLineColor color => view.setLineColor color
  | .setLineWidth size => view.setLineWidth size
  | .setDrawingMode mode => view.setDrawingMode mode

end BeeSdk.DrawView
