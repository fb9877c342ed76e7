import BeeSdk.BoardClients
import BeeSdk.DrawnOnceProofs

/-! Strokes on a touched view and what a peer makes of their messages. The view draws a stroke
from its touches, the peer from the segments between them, so a stroke that has no segment is
drawn here only; and a touch that is where the last one was begins nothing at all. -/
namespace BeeSdk.TouchStrokes
open DrawView BoardClients
open DrawnOnce (getBoardPage_putPage pending_putChannel getChannel_action pending_begin)

variable {Point : Type}

/-! ### Gestures -/

/-- What is picked between two touches. -/
inductive Tool where
  | pen
  | eraser
  deriving DecidableEq

def Tool.mode : Tool → BeeDrawingMode
  | .pen => .pen
  | .eraser => .eraser

inductive Touch (Point : Type) where
  | move (p : Point)
  | pick (tool : Tool)

/-- A finger comes down, moves and goes up, and pen and eraser may be switched at any time. -/
structure Gesture (Point : Type) where
  picked : List Tool
  first : Point
  touches : List (Touch Point)

def Touch.call : Touch Point → Call Point
  | .move p => .touchMove p
  | .pick tool => .setDrawingMode tool.mode

def Gesture.calls (gesture : Gesture Point) : List (Call Point) :=
  gesture.picked.map (fun tool => .setDrawingMode tool.mode) ++
    .touchBegin gesture.first :: gesture.touches.map Touch.call ++ [.touchEnd]

/-- The points of a message as they are sent. -/
def mapPoints (outgoing : Point → Point) : Message Point → Message Point
  | .drawing p0 p1 color strokeWidth mode => .drawing (outgoing p0) (outgoing p1) color strokeWidth mode
  | message => message

/-- The calls one after the other, and what they send. -/
def perform (near : Point → Point → Bool) (outgoing : Bool → Point → Point) :
    BeeWhiteBoard Point → List (Call Point) → List (Message Point) × BeeWhiteBoard Point
  | board, [] => ([], board)
  | board, call :: rest =>
    let (said, next) := board.call near call
    let (more, last) := perform near outgoing next rest
    ((said.map (mapPoints (outgoing board.view.isDoc))).toList ++ more, last)

/-- A peer handles the messages of one sender in order. -/
def handleAll (sender : String) (peer : BeeWhiteBoard Point) (messages : List (Message Point)) :
    BeeWhiteBoard Point :=
  messages.foldl (fun peer message => peer.handleWhiteBoardMessage sender message) peer

/-- The points of the items on the undo stack of the current page. -/
def undoPoints (board : BeeWhiteBoard Point) : List (List Point) :=
  ((board.view.getBoardPage board.view.currentPage).map fun page =>
    page.undoActions.map Action.points).getD []

/-! ### What is drawn -/

/-- The points that are not where the last one was. -/
def kept (near : Point → Point → Bool) (last : Point) : List (Touch Point) → List Point
  | [] => []
  | .pick _ :: rest => kept near last rest
  | .move p :: rest => if near p last then kept near last rest else p :: kept near p rest

/-- The strokes that gestures draw when the last touch was there. -/
def strokes (near : Point → Point → Bool) (last : Point) : List (Gesture Point) → List (List Point)
  | [] => []
  | gesture :: rest =>
    if near gesture.first last then strokes near last rest
    else
      let points := kept near gesture.first gesture.touches
      (gesture.first :: points) :: strokes near (points.getLastD gesture.first) rest

/-- No gesture begins where the last touch was, and each one goes on from where it begins. -/
def Whole (near : Point → Point → Bool) (last : Point) : List (Gesture Point) → Prop
  | [] => True
  | gesture :: rest => near gesture.first last = false ∧
    (∃ p, .move p ∈ gesture.touches ∧ near p gesture.first = false) ∧
    Whole near ((kept near gesture.first gesture.touches).getLastD gesture.first) rest

theorem kept_nil_iff (near : Point → Point → Bool) (last : Point) (touches : List (Touch Point)) :
    kept near last touches ≠ [] ↔ ∃ p, .move p ∈ touches ∧ near p last = false := by
  induction touches with
  | nil => simp [kept]
  | cons touch rest ih =>
    cases touch with
    | pick tool => simp [kept, ih]
    | move q =>
      rw [kept]
      cases close : near q last with
      | true =>
        rw [if_pos rfl, ih]
        constructor
        · rintro ⟨p, member, far⟩
          exact ⟨p, List.mem_cons_of_mem _ member, far⟩
        · rintro ⟨p, member, far⟩
          rcases List.mem_cons.mp member with same | member
          · cases same
            rw [close] at far
            cases far
          · exact ⟨p, member, far⟩
      | false =>
        rw [if_neg (by decide)]
        exact ⟨fun _ => ⟨q, List.mem_cons_self, close⟩, fun _ => List.cons_ne_nil _ _⟩

theorem strokes_length_le (near : Point → Point → Bool) (last : Point) (gestures : List (Gesture Point)) :
    (strokes near last gestures).length ≤ gestures.length := by
  induction gestures generalizing last with
  | nil => exact Nat.le_refl _
  | cons gesture rest ih =>
    rw [strokes]
    split
    · exact Nat.le_succ_of_le (ih last)
    · exact Nat.succ_le_succ (ih _)

/-- Each stroke begins where its gesture did, if every gesture has drawn one. -/
theorem strokes_heads (near : Point → Point → Bool) (last : Point) (gestures : List (Gesture Point))
    (all : (strokes near last gestures).length = gestures.length) :
    (strokes near last gestures).map List.head? = gestures.map fun gesture => some gesture.first := by
  induction gestures generalizing last with
  | nil => rfl
  | cons gesture rest ih =>
    rw [strokes] at all ⊢
    split at all
    · have := strokes_length_le near last rest
      simp only [List.length_cons] at all
      omega
    · rename_i far
      rw [if_neg far, List.map_cons, List.map_cons, ih _ (Nat.succ.inj all)]
      rfl

/-- All gestures have drawn a stroke of more than one point exactly when they are whole. -/
theorem strokes_whole_iff (near : Point → Point → Bool) (last : Point) (gestures : List (Gesture Point)) :
    (strokes near last gestures).length = gestures.length ∧
      (∀ stroke ∈ strokes near last gestures, 1 < stroke.length) ↔ Whole near last gestures := by
  induction gestures generalizing last with
  | nil => simp [strokes, Whole]
  | cons gesture rest ih =>
    have further := ih ((kept near gesture.first gesture.touches).getLastD gesture.first)
    rw [strokes, Whole, ← propext further, ← kept_nil_iff]
    cases close : near gesture.first last with
    | true =>
      rw [if_pos rfl]
      have := strokes_length_le near last rest
      simp only [List.length_cons, Bool.true_eq_false, false_and, iff_false, not_and]
      omega
    | false =>
      rw [if_neg (by decide)]
      simp only [List.length_cons, Nat.add_right_cancel_iff, List.mem_cons, forall_eq_or_imp, true_and]
      have more : 1 < (kept near gesture.first gesture.touches).length + 1 ↔
          kept near gesture.first gesture.touches ≠ [] := by
        rw [← List.length_pos_iff]
        omega
      rw [more]
      tauto

end BeeSdk.TouchStrokes
