import BeeSdk.DrawView
import BeeSdk.Replication

/-! Android clients at one board: a touch or a call changes the client's own view at once
and is broadcast, and what the others have broadcast is handled as it arrives. Points are
positions on the board, which the messages carry; what a client makes of them on its
screen is left out. -/
namespace BeeSdk.BoardClients
open DrawView

variable {Point : Type}

/-! ### Messages -/

/-- The messages that the touches and calls broadcast. -/
inductive Message (Point : Type) where
  | drawing (p0 p1 : Point) (color strokeWidth : Int) (mode : BeeDrawingMode)
  | savedata
  | clear
  | undo
  | redo
  | nextpage
  | prepage
  deriving DecidableEq

/-- The color of a message: the lower three bytes, which its reader takes for RGB. -/
def convertARGBToRGB (argb : Int) : Int := argb % 0x1000000

/-- `BeeWhiteBoard` and its view. `newLine` is the flag of every user in the table, `last`
the view's `lastX` and `lastY`; `sent` is kept beside them: whether a part of the line that
is being drawn here has been broadcast. -/
structure BeeWhiteBoard (Point : Type) where
  view : BeeWhiteBoardDrawView Point
  newLine : String → Bool := fun _ => true
  last : Point
  sent : Bool := false

/-- A finger on the view, and the methods of `BeeWhiteBoard`. -/
inductive Call (Point : Type) where
  | touchBegin (p : Point)
  | touchMove (p : Point)
  | touchEnd
  | clearAll
  | undo
  | redo
  | nextPage
  | prePage
  | setDrawingMode (mode : BeeDrawingMode)
  | setLineColor (rgbColor : Int)
  | setLineWidth (width : Int)

namespace BeeWhiteBoard

def onTouchBegin (near : Point → Point → Bool) (board : BeeWhiteBoard Point) (p : Point) :
    BeeWhiteBoard Point :=
  let channel := board.view.drawChannel
  if near p board.last ∨ channel.drawingMode = .laser then board
  else { board with
    view := board.view.serve
      (.lineBegin .own p channel.paintColor channel.paintSize channel.drawingMode)
    last := p }

/-- What `onDrawingLine` is told ends up in the message. -/
def onTouchMove (near : Point → Point → Bool) (board : BeeWhiteBoard Point) (p : Point) :
    Option (Message Point) × BeeWhiteBoard Point :=
  let channel := board.view.drawChannel
  if channel.action.isNone ∨ near p board.last ∨ channel.drawingMode = .laser then (none, board)
  else
    let view := board.view.serve (.lineMove .own p channel.drawingMode)
    (some (.drawing board.last p (convertARGBToRGB view.drawChannel.paintColor)
      view.drawChannel.paintSize view.drawChannel.drawingMode),
      { board with view, last := p, sent := true })

def onTouchEnd (board : BeeWhiteBoard Point) : Option (Message Point) × BeeWhiteBoard Point :=
  let channel := board.view.drawChannel
  if channel.action.isNone ∨ channel.drawingMode = .laser then (none, board)
  else (some .savedata, { board with view := board.view.serve (.lineEnd .own), sent := false })

/-- A call and what it broadcasts. -/
def call (near : Point → Point → Bool) (board : BeeWhiteBoard Point) :
    Call Point → Option (Message Point) × BeeWhiteBoard Point
  | .touchBegin p => (none, board.onTouchBegin near p)
  | .touchMove p => board.onTouchMove near p
  | .touchEnd => board.onTouchEnd
  | .clearAll => (some .clear, { board with view := board.view.serve .clearAll })
  | .undo => (some .undo, { board with view := board.view.serve .undo })
  | .redo => (some .redo, { board with view := board.view.serve .redo })
  | .nextPage => (some .nextpage, { board with view := board.view.serve .nextpage })
  | .prePage => (some .prepage, { board with view := board.view.serve .prepage })
  | .setDrawingMode mode => (none, { board with view := board.view.serve (.setDrawingMode mode) })
  | .setLineColor rgbColor => (none, { board with view := board.view.serve (.setLineColor rgbColor) })
  | .setLineWidth width => (none, { board with view := board.view.serve (.setLineWidth width) })

def handleDrawing (board : BeeWhiteBoard Point) («from» : String) (p0 p1 : Point)
    (color strokeWidth : Int) (mode : BeeDrawingMode) : BeeWhiteBoardDrawView Point :=
  if mode = .text then board.view.serve (.drawText (.other «from») p0 color strokeWidth none)
  else if board.newLine «from» then
    (board.view.serve (.lineBegin (.other «from») p0 color strokeWidth mode)).serve
      (.lineMove (.other «from») p1 mode)
  else board.view.serve (.lineMove (.other «from») p1 mode)

def setNewLine (board : BeeWhiteBoard Point) («from» : String) (newLine : Bool) :
    BeeWhiteBoard Point :=
  { board with newLine := fun user => if user = «from» then newLine else board.newLine user }

/-- Every sender is in the user table. -/
def handleWhiteBoardMessage (board : BeeWhiteBoard Point) («from» : String) :
    Message Point → BeeWhiteBoard Point
  | .drawing p0 p1 color strokeWidth mode =>
    let drawn := { board with view := board.handleDrawing «from» p0 p1 color strokeWidth mode }
    if mode = .pen ∨ mode = .eraser then drawn.setNewLine «from» false else drawn
  | .savedata =>
    { board with view := board.view.serve (.lineEnd (.other «from»)) }.setNewLine «from» true
  | .clear => { board with view := board.view.serve .clearAll }
  | .undo => { board with view := board.view.serve .undo }
  | .redo => { board with view := board.view.serve .redo }
  | .nextpage => { board with view := board.view.serve .nextpage }
  | .prepage => { board with view := board.view.serve .prepage }

end BeeWhiteBoard

/-! ### Clients -/

/-- The clients by their uid, and what is on its way to each of them. -/
structure Clients (Point : Type) where
  board : String → BeeWhiteBoard Point
  inbox : String → List (String × Message Point) := fun _ => []

inductive Request (Point : Type) where
  | act (uid : String) (call : Call Point)
  | deliver (receiver sender : String)

section
variable (near : Point → Point → Bool) (members : String → Bool)

/-- What is broadcast goes to every other member. -/
def broadcast (inbox : String → List (String × Message Point)) (uid : String)
    (message : Option (Message Point)) (member : String) : List (String × Message Point) :=
  match message with
  | some message =>
    if member ≠ uid ∧ members member then inbox member ++ [(uid, message)] else inbox member
  | none => inbox member

/-- A member acts, or takes the next message of one sender. -/
def Clients.step (clients : Clients Point) : Request Point → Option (Unit × Clients Point)
  | .act uid call =>
    if members uid then
      let (message, board) := (clients.board uid).call near call
      some ((), {
        board := fun member => if member = uid then board else clients.board member
        inbox := broadcast members clients.inbox uid message })
    else none
  | .deliver receiver sender =>
    (Replication.takeFirst sender (clients.inbox receiver)).map fun (message, rest) => ((), {
      board := fun member =>
        if member = receiver then
          (clients.board receiver).handleWhiteBoardMessage sender message
        else clients.board member
      inbox := fun member => if member = receiver then rest else clients.inbox member })

end

/-! ### What they agree on -/

/-- An item without the identity it has in one client. -/
structure Item (Point : Type) where
  kind : Kind
  points : List Point
  color : Int
  size : Int
  deriving DecidableEq

def item (action : Action Point) : Item Point := ⟨action.kind, action.points, action.color, action.size⟩

/-- A page as its two stacks. -/
def sheet (page : BeeWhiteBoardPage Point) : List (Item Point) × List (Item Point) :=
  (page.undoActions.map item, page.redoActions.map item)

/-- The same page, and on every page the same undo and redo stacks. -/
def Same (first second : BeeWhiteBoard Point) : Prop :=
  first.view.currentPage = second.view.currentPage ∧
    first.view.boardPageMap.map sheet = second.view.boardPageMap.map sheet

/-- Two messages of different clients that lead to the same board in either order: lines
that go on, and calls of the same kind; where all is cleared nothing is left to end or undo. -/
def Message.commutes : Message Point → Message Point → Bool
  | .drawing _ _ _ _ _, .clear | .clear, .drawing _ _ _ _ _ => false
  | .drawing _ _ _ _ _, _ | _, .drawing _ _ _ _ _ => true
  | .clear, .clear | .clear, .savedata | .savedata, .clear => true
  | .clear, .undo | .undo, .clear | .clear, .redo | .redo, .clear => true
  | .undo, .undo | .redo, .redo | .nextpage, .nextpage | .prepage, .prepage => true
  | _, _ => false

/-- A client touches its view for whole lines: it begins one when none of its own is there or
broadcast in part, ends it when a part has been broadcast, and changes no pen in between. -/
def BeeWhiteBoard.WholeLines (board : BeeWhiteBoard Point) : Call Point → Prop
  | .touchBegin _ => board.view.drawChannel.action = none ∧ board.sent = false
  | .touchEnd => board.view.drawChannel.action ≠ none → board.sent = true
  | .setDrawingMode _ | .setLineColor _ | .setLineWidth _ => board.view.drawChannel.action = none
  | _ => True

/-- And what a call broadcasts commutes with everything of others that is on its way. -/
def Kept (near : Point → Point → Bool) (clients : Clients Point) : Request Point → Prop
  | .act uid call => (clients.board uid).WholeLines call ∧
    ∀ message ∈ ((clients.board uid).call near call).1, ∀ member, ∀ sent ∈ clients.inbox member,
      sent.1 ≠ uid → sent.2.commutes message = true
  | .deliver _ _ => True

/-- A board info whose page is one of its pages. -/
structure BoardInfo (Point : Type) where
  doc : Bool
  pages : List (Listed Point)
  pageNow : Nat
  inside : pageNow < pages.length

/-- Every client begins with the same board. -/
def start (info : BoardInfo Point) (origin : Point) : Clients Point where
  board _ := {
    view := ({ scaled := fun _ p => p } : BeeWhiteBoardDrawView Point).serve
      (.setBoardInfo info.doc info.pages info.pageNow)
    last := origin }

end BeeSdk.BoardClients
