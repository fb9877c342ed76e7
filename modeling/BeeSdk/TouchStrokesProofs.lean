import BeeSdk.TouchStrokes
import Mathlib.Algebra.Order.Field.Rat
import Mathlib.Tactic.FieldSimp
import Mathlib.Tactic.NormNum
import Mathlib.Tactic.Ring

/-! A view holds the points of what is finished and of the line that is being drawn, and the calls
of a gesture and its messages change these in the same way, except that the peer's line begins
with the first segment. -/
namespace BeeSdk.TouchStrokes
open DrawView BoardClients
open DrawnOnce (getBoardPage_putPage pending_putChannel getChannel_action pending_begin)

variable {Point : Type} {view : BeeWhiteBoardDrawView Point} {drawer : Drawer}

/-! ### The points of a view -/

/-- The pending action of the drawer draws through these points, if there is one. -/
def Line (view : BeeWhiteBoardDrawView Point) (drawer : Drawer) : Option (List Point) → Prop
  | none => view.pending drawer = none
  | some points => ∃ action, view.pending drawer = some action ∧ action.points = points ∧
    ∀ data, action.kind ≠ .text data

/-- A page is shown whose finished items have these points. -/
structure Drawing (view : BeeWhiteBoardDrawView Point) (drawer : Drawer) (done : List (List Point))
    (line : Option (List Point)) : Prop where
  page : ∃ page, view.getBoardPage view.currentPage = some page ∧
    page.undoActions.map Action.points = done
  line : Line view drawer line

theorem drawing_undoPoints {board : BeeWhiteBoard Point} {points : Option (List Point)}
    (drawing : Drawing board.view drawer done points) : undoPoints board = done := by
  obtain ⟨page, here, points⟩ := drawing.page
  rw [undoPoints, here]
  exact points

/-- The points of messages are scaled as before. -/
structure SameScale (before after : BeeWhiteBoardDrawView Point) : Prop where
  isDoc : after.isDoc = before.isDoc
  scaled : after.scaled = before.scaled

theorem SameScale.scale {after : BeeWhiteBoardDrawView Point} (same : SameScale view after)
    (drawer : Drawer) (p : Point) : after.scale drawer p = view.scale drawer p := by
  cases drawer with
  | own => rfl
  | other session => rw [BeeWhiteBoardDrawView.scale, same.isDoc, same.scaled]; rfl

theorem same_putChannel (channel : DrawChannel Point) :
    SameScale view (view.putChannel drawer channel) := by
  cases drawer <;> exact ⟨rfl, rfl⟩

theorem drawing_begin (drawing : Drawing view drawer done none) (tool : Tool) (p : Point)
    (color strokeWidth : Int) :
    Drawing (view.serve (.lineBegin drawer p color strokeWidth tool.mode)) drawer done
        (some [view.scale drawer p]) ∧
      SameScale view (view.serve (.lineBegin drawer p color strokeWidth tool.mode)) := by
  obtain ⟨⟨page, here, points⟩, idle⟩ := drawing
  have begins (channel : DrawChannel Point) (held : channel.action = none) (mode : BeeDrawingMode)
      (kind : Kind) (line : ∀ data, kind ≠ .text data) :
      Drawing (view.begin page drawer channel mode kind (view.scale drawer p)) drawer done
          (some [view.scale drawer p]) ∧
        SameScale view (view.begin page drawer channel mode kind (view.scale drawer p)) := by
    have same : page.pushUndo channel.action = page := by
      rw [held]
      simp [BeeWhiteBoardPage.pushUndo]
    refine ⟨⟨⟨page, ?_, points⟩, ⟨view.made, kind, [view.scale drawer p], channel.paintColor,
      channel.paintSize⟩, ?_, rfl, line⟩, ?_⟩
    · have stays := @DrawnOnce.getBoardPage_begin _ view page drawer channel mode kind
        (view.scale drawer p) view.currentPage here
      rw [if_pos rfl, same] at stays
      cases drawer <;> exact stays
    · rw [pending_begin, if_pos rfl]
    · cases drawer <;> exact ⟨rfl, rfl⟩
  have held : (view.getChannel drawer).action = none := getChannel_action.trans idle
  cases tool with
  | pen =>
    have goes := begins (((view.getChannel drawer).setType typePath).setSize strokeWidth |>.setColor
      (convertRGBToARGB color)) (by simp [DrawChannel.setColor, held]) .pen .path (by simp)
    simp only [BeeWhiteBoardDrawView.serve, BeeWhiteBoardDrawView.onDrawLineBegin, here, Tool.mode]
    exact goes
  | eraser =>
    have goes := begins ((view.getChannel drawer).setEraseType colorWhite strokeWidth)
      (by simp [DrawChannel.setEraseType, held]) .eraser .eraser (by simp)
    simp only [BeeWhiteBoardDrawView.serve, BeeWhiteBoardDrawView.onDrawLineBegin, here, Tool.mode]
    exact goes

theorem drawing_move (drawing : Drawing view drawer done (some points)) (tool : Tool) (p : Point) :
    Drawing (view.serve (.lineMove drawer p tool.mode)) drawer done
        (some (points ++ [view.scale drawer p])) ∧
      SameScale view (view.serve (.lineMove drawer p tool.mode)) := by
  obtain ⟨⟨page, here, finished⟩, action, held, rfl, line⟩ := drawing
  have pen : tool.mode = .pen ∨ tool.mode = .eraser := by
    cases tool
    · exact .inl rfl
    · exact .inr rfl
  have served : view.serve (.lineMove drawer p tool.mode) = view.putChannel drawer
      { view.getChannel drawer with
        drawingMode := tool.mode
        action := (view.getChannel drawer).action.map (·.onMove (view.scale drawer p)) } := by
    simp only [BeeWhiteBoardDrawView.serve, BeeWhiteBoardDrawView.onDrawLineMove, here, if_pos pen]
  have moved : action.onMove (view.scale drawer p) =
      { action with points := action.points ++ [view.scale drawer p] } := by
    unfold Action.onMove
    split
    · rename_i data text
      exact absurd text (line data)
    · rfl
  rw [served]
  refine ⟨⟨⟨page, ?_, finished⟩, action.onMove (view.scale drawer p), ?_, ?_, ?_⟩, ?_⟩
  · rw [DrawnOnce.getBoardPage_putChannel, DrawnOnce.currentPage_putChannel]
    exact here
  · rw [pending_putChannel, if_pos rfl, getChannel_action, held]
    rfl
  · rw [moved]
  · rw [moved]
    exact line
  · exact same_putChannel _

theorem drawing_end (drawing : Drawing view drawer done line) :
    Drawing (view.serve (.lineEnd drawer)) drawer (done ++ line.toList) none ∧
      SameScale view (view.serve (.lineEnd drawer)) := by
  obtain ⟨⟨page, here, finished⟩, drawn⟩ := drawing
  cases line with
  | none =>
    have served : view.serve (.lineEnd drawer) = view.putChannel drawer (view.getChannel drawer) := by
      have idle : (view.getChannel drawer).action = none := getChannel_action.trans drawn
      simp only [BeeWhiteBoardDrawView.serve, BeeWhiteBoardDrawView.onDrawLineEnd, here, idle]
    rw [served]
    refine ⟨⟨⟨page, ?_, ?_⟩, ?_⟩, ?_⟩
    · rw [DrawnOnce.getBoardPage_putChannel, DrawnOnce.currentPage_putChannel]
      exact here
    · rw [finished]
      exact (List.append_nil _).symm
    · rw [Line, pending_putChannel, if_pos rfl]
      exact getChannel_action.trans drawn
    · exact same_putChannel _
  | some points =>
    obtain ⟨action, held, rfl, _⟩ := drawn
    have served : view.serve (.lineEnd drawer) =
        (view.putPage (page.pushUndo (some action)).clearRedoStack).putChannel drawer
          { view.getChannel drawer with action := none } := by
      have some : (view.getChannel drawer).action = some action := getChannel_action.trans held
      simp only [BeeWhiteBoardDrawView.serve, BeeWhiteBoardDrawView.onDrawLineEnd, here, some]
    rw [served]
    refine ⟨⟨⟨(page.pushUndo (some action)).clearRedoStack, ?_, ?_⟩, ?_⟩, ?_⟩
    · rw [DrawnOnce.getBoardPage_putChannel, DrawnOnce.currentPage_putChannel,
        getBoardPage_putPage here]
      exact if_pos rfl
    · simp [BeeWhiteBoardPage.pushUndo, BeeWhiteBoardPage.clearRedoStack, ← finished]
    · rw [Line, pending_putChannel, if_pos rfl]
    · cases drawer <;> exact ⟨rfl, rfl⟩

/-- A line goes on in the mode it is drawn in. -/
theorem mode_begin (here : view.getBoardPage view.currentPage = some page) (tool : Tool) (p : Point)
    (color strokeWidth : Int) :
    (view.serve (.lineBegin .own p color strokeWidth tool.mode)).drawChannel.drawingMode = tool.mode := by
  cases tool <;>
    simp only [BeeWhiteBoardDrawView.serve, BeeWhiteBoardDrawView.onDrawLineBegin, here, Tool.mode] <;>
    rfl

theorem mode_move (here : view.getBoardPage view.currentPage = some page) (tool : Tool) (p : Point) :
    (view.serve (.lineMove .own p tool.mode)).drawChannel.drawingMode = tool.mode := by
  cases tool <;>
    simp only [BeeWhiteBoardDrawView.serve, BeeWhiteBoardDrawView.onDrawLineMove, here, Tool.mode] <;>
    rfl

theorem mode_end (view : BeeWhiteBoardDrawView Point) :
    (view.serve (.lineEnd .own)).drawChannel.drawingMode = view.drawChannel.drawingMode := by
  simp only [BeeWhiteBoardDrawView.serve, BeeWhiteBoardDrawView.onDrawLineEnd]
  split
  · rfl
  · split <;> rfl

/-! ### The sender -/

section Sender

variable {near : Point → Point → Bool} {outgoing : Bool → Point → Point} {board : BeeWhiteBoard Point}

/-- Segments of one sender from a point through the next ones. -/
inductive Segments (outgoing : Point → Point) : Point → List Point → List (Message Point) → Prop where
  | done : Segments outgoing last [] []
  | segment (tool : Tool) (color strokeWidth : Int) (further : Segments outgoing p points messages) :
      Segments outgoing last (p :: points)
        (.drawing (outgoing last) (outgoing p) color strokeWidth tool.mode :: messages)

/-- The board of somebody who draws. -/
structure Drawn (isDoc : Bool) (board : BeeWhiteBoard Point) (done : List (List Point))
    (line : Option (List Point)) (last : Point) : Prop where
  drawing : Drawing board.view .own done line
  tool : ∃ tool : Tool, board.view.drawChannel.drawingMode = tool.mode
  last : board.last = last
  isDoc : board.view.isDoc = isDoc

theorem perform_append (board : BeeWhiteBoard Point) (before after : List (Call Point)) :
    perform near outgoing board (before ++ after) =
      ((perform near outgoing board before).1 ++
          (perform near outgoing (perform near outgoing board before).2 after).1,
        (perform near outgoing (perform near outgoing board before).2 after).2) := by
  induction before generalizing board with
  | nil => rfl
  | cons call rest ih => simp [perform, ih]

theorem drawn_pick (drawn : Drawn isDoc board done line last) (tool : Tool) :
    Drawn isDoc (board.call near (.setDrawingMode tool.mode)).2 done line last := by
  refine ⟨⟨drawn.drawing.page, ?_⟩, ⟨tool, rfl⟩, drawn.last, drawn.isDoc⟩
  have drawing := drawn.drawing.line
  cases line <;> exact drawing

theorem perform_picks (drawn : Drawn isDoc board done line last) (tools : List Tool) :
    (perform near outgoing board (tools.map fun tool => .setDrawingMode tool.mode)).1 = [] ∧
      Drawn isDoc (perform near outgoing board (tools.map fun tool => .setDrawingMode tool.mode)).2
        done line last := by
  induction tools generalizing board with
  | nil => exact ⟨rfl, drawn⟩
  | cons tool rest ih => exact ih (@drawn_pick _ near _ _ _ _ _ drawn tool)

/-- A touch that begins nothing draws nothing, and nothing is sent of it. -/
theorem perform_idle (drawn : Drawn isDoc board done none last) (touches : List (Touch Point)) :
    (perform near outgoing board (touches.map Touch.call)).1 = [] ∧
      Drawn isDoc (perform near outgoing board (touches.map Touch.call)).2 done none last := by
  induction touches generalizing board with
  | nil => exact ⟨rfl, drawn⟩
  | cons touch rest ih =>
    cases touch with
    | pick tool => exact ih (@drawn_pick _ near _ _ _ _ _ drawn tool)
    | move p =>
      have nothing : board.view.drawChannel.action = none := drawn.drawing.line
      have still : board.call near (.touchMove p) = (none, board) := by
        simp only [BeeWhiteBoard.call, BeeWhiteBoard.onTouchMove]
        rw [if_pos (.inl (by rw [nothing]; rfl))]
      rw [List.map_cons, Touch.call, perform, still]
      exact ih drawn

theorem laser_not (tool : Tool) : tool.mode ≠ .laser := by
  cases tool <;> decide

/-- Each point that is not where the last one was goes on with the line and is sent. -/
theorem perform_touches (drawn : Drawn isDoc board done (some (points ++ [last])) last)
    (touches : List (Touch Point)) :
    Segments (outgoing isDoc) last (kept near last touches)
        (perform near outgoing board (touches.map Touch.call)).1 ∧
      Drawn isDoc (perform near outgoing board (touches.map Touch.call)).2 done
        (some (points ++ [last] ++ kept near last touches))
        ((kept near last touches).getLastD last) := by
  induction touches generalizing board points last with
  | nil =>
    rw [kept, List.append_nil]
    exact ⟨.done, drawn⟩
  | cons touch rest ih =>
    cases touch with
    | pick tool => exact ih (@drawn_pick _ near _ _ _ _ _ drawn tool)
    | move p =>
      obtain ⟨tool, mode⟩ := drawn.tool
      obtain ⟨action, held, _, _⟩ := drawn.drawing.line
      have held' : board.view.drawChannel.action = some action := held
      cases close : near p last with
      | true =>
        have still : board.call near (.touchMove p) = (none, board) := by
          simp only [BeeWhiteBoard.call, BeeWhiteBoard.onTouchMove]
          rw [if_pos (.inr (.inl (by rw [drawn.last]; exact close)))]
        rw [List.map_cons, Touch.call, perform, still, kept, if_pos close]
        exact ih drawn
      | false =>
        have draws : ¬ (board.view.drawChannel.action.isNone = true ∨ near p board.last = true ∨
            board.view.drawChannel.drawingMode = .laser) := by
          rw [held', drawn.last, close, mode]
          simp [laser_not]
        obtain ⟨page, here, _⟩ := drawn.drawing.page
        obtain ⟨drawing, scale⟩ := drawing_move drawn.drawing tool p
        have stays := mode_move here tool p
        have moves : board.call near (.touchMove p) = (some (.drawing last p
            (convertARGBToRGB (board.view.serve (.lineMove .own p tool.mode)).drawChannel.paintColor)
            (board.view.serve (.lineMove .own p tool.mode)).drawChannel.paintSize tool.mode),
            { board with
              view := board.view.serve (.lineMove .own p tool.mode), last := p, sent := true }) := by
          simp only [BeeWhiteBoard.call, BeeWhiteBoard.onTouchMove]
          rw [if_neg draws, mode, stays, drawn.last]
        have next : Drawn isDoc { board with
            view := board.view.serve (.lineMove .own p tool.mode), last := p, sent := true } done
            (some ((points ++ [last]) ++ [p])) p :=
          ⟨drawing, ⟨tool, stays⟩, rfl, scale.isDoc.trans drawn.isDoc⟩
        obtain ⟨further, after⟩ := ih next
        rw [List.map_cons, Touch.call, perform, moves, kept, if_neg (by rw [close]; decide)]
        refine ⟨?_, ?_⟩
        · rw [drawn.isDoc]
          exact .segment tool _ _ further
        · rw [List.append_assoc (points ++ [last]) [p]] at after
          rw [List.getLastD_cons]
          exact after

/-- A line that is drawn ends, and that is sent. -/
theorem drawn_end (drawn : Drawn isDoc board done (some points) last) :
    (board.call near .touchEnd).1 = some .savedata ∧
      Drawn isDoc (board.call near .touchEnd).2 (done ++ [points]) none last := by
  obtain ⟨tool, mode⟩ := drawn.tool
  obtain ⟨action, held, _, _⟩ := drawn.drawing.line
  have held' : board.view.drawChannel.action = some action := held
  have draws : ¬ (board.view.drawChannel.action.isNone = true ∨
      board.view.drawChannel.drawingMode = .laser) := by
    rw [held', mode]
    simp [laser_not]
  obtain ⟨drawing, scale⟩ := drawing_end drawn.drawing
  have ends : board.call near .touchEnd = (some .savedata,
      { board with view := board.view.serve (.lineEnd .own), sent := false }) := by
    simp only [BeeWhiteBoard.call, BeeWhiteBoard.onTouchEnd]
    rw [if_neg draws]
  rw [ends]
  exact ⟨rfl, drawing, ⟨tool, (mode_end _).trans mode⟩, drawn.last, scale.isDoc.trans drawn.isDoc⟩

theorem drawn_begin (drawn : Drawn isDoc board done none last) {p : Point} (far : near p last = false) :
    (board.call near (.touchBegin p)).1 = none ∧
      Drawn isDoc (board.call near (.touchBegin p)).2 done (some [p]) p := by
  obtain ⟨tool, mode⟩ := drawn.tool
  obtain ⟨page, here, _⟩ := drawn.drawing.page
  have draws : ¬ (near p board.last = true ∨ board.view.drawChannel.drawingMode = .laser) := by
    rw [drawn.last, far, mode]
    simp [laser_not]
  obtain ⟨drawing, scale⟩ := drawing_begin drawn.drawing tool p board.view.drawChannel.paintColor
    board.view.drawChannel.paintSize
  have begins : board.call near (.touchBegin p) = (none, { board with
      view := board.view.serve (.lineBegin .own p board.view.drawChannel.paintColor
        board.view.drawChannel.paintSize tool.mode), last := p }) := by
    simp only [BeeWhiteBoard.call, BeeWhiteBoard.onTouchBegin]
    rw [if_neg draws, mode]
  rw [begins]
  exact ⟨rfl, drawing, ⟨tool, mode_begin here tool p _ _⟩, rfl, scale.isDoc.trans drawn.isDoc⟩

/-- The whole gesture: a stroke and its segments, or nothing. -/
theorem perform_gesture (drawn : Drawn isDoc board done none last) (gesture : Gesture Point) :
    if near gesture.first last then
      (perform near outgoing board gesture.calls).1 = [] ∧
        Drawn isDoc (perform near outgoing board gesture.calls).2 done none last
    else
      ∃ segments, (perform near outgoing board gesture.calls).1 = segments ++ [.savedata] ∧
        Segments (outgoing isDoc) gesture.first (kept near gesture.first gesture.touches) segments ∧
        Drawn isDoc (perform near outgoing board gesture.calls).2
          (done ++ [gesture.first :: kept near gesture.first gesture.touches]) none
          ((kept near gesture.first gesture.touches).getLastD gesture.first) := by
  obtain ⟨quiet, picked⟩ := @perform_picks _ near outgoing _ _ _ _ _ drawn gesture.picked
  rw [Gesture.calls, List.append_assoc, perform_append, quiet, List.nil_append]
  generalize (perform near outgoing board (gesture.picked.map fun tool => .setDrawingMode tool.mode)).2 =
    begun at picked
  rw [perform_append, perform]
  split
  · rename_i close
    have still : begun.call near (.touchBegin gesture.first) = (none, begun) := by
      simp only [BeeWhiteBoard.call, BeeWhiteBoard.onTouchBegin]
      rw [if_pos (.inl (by rw [picked.last]; exact close))]
    obtain ⟨silent, idle⟩ := @perform_idle _ near outgoing _ _ _ _ picked gesture.touches
    have ends (board : BeeWhiteBoard Point) (nothing : board.view.drawChannel.action = none) :
        perform near outgoing board [.touchEnd] = ([], board) := by
      simp only [perform, BeeWhiteBoard.call, BeeWhiteBoard.onTouchEnd]
      rw [if_pos (.inl (by rw [nothing]; rfl))]
      rfl
    simp only [still, silent, ends _ idle.drawing.line]
    exact ⟨rfl, idle⟩
  · rename_i far
    obtain ⟨unsaid, first⟩ := drawn_begin picked (Bool.eq_false_iff.mpr far)
    have touched := @perform_touches _ near outgoing _ _ _ [] _ first gesture.touches
    obtain ⟨said, ended⟩ := @drawn_end _ near _ _ _ _ _ touched.2
    generalize begun.call near (.touchBegin gesture.first) = after at unsaid first touched said ended
    obtain ⟨message, next⟩ := after
    cases unsaid
    simp only [Option.map_none, Option.toList_none, List.nil_append, perform, said]
    exact ⟨_, rfl, touched.1, ended⟩

end Sender

/-! ### The peer -/

section Peer

variable {sender : String} {outgoing : Point → Point} {peer : BeeWhiteBoard Point}

/-- The board of a peer that follows the sender: it waits for a new line while it draws none, and
takes a point back to where it was touched. -/
structure Follows (sender : String) (outgoing : Point → Point) (peer : BeeWhiteBoard Point)
    (done : List (List Point)) (line : Option (List Point)) : Prop where
  drawing : Drawing peer.view (.other sender) done line
  newLine : peer.newLine sender = line.isNone
  back : ∀ p, peer.view.scale (.other sender) (outgoing p) = p

theorem handleDrawing_goes (follows : Follows sender outgoing peer done (some points)) (tool : Tool)
    (last p : Point) (color strokeWidth : Int) :
    Follows sender outgoing (peer.handleWhiteBoardMessage sender
      (.drawing (outgoing last) (outgoing p) color strokeWidth tool.mode)) done (some (points ++ [p])) := by
  obtain ⟨drawing, scale⟩ := drawing_move follows.drawing tool (outgoing p)
  rw [follows.back] at drawing
  have goes : peer.handleWhiteBoardMessage sender
      (.drawing (outgoing last) (outgoing p) color strokeWidth tool.mode) =
        { peer with view := peer.view.serve (.lineMove (.other sender) (outgoing p) tool.mode) }.setNewLine
          sender false := by
    have newLine := follows.newLine
    cases tool <;> simp [BeeWhiteBoard.handleWhiteBoardMessage, BeeWhiteBoard.handleDrawing, Tool.mode,
      newLine]
  rw [goes]
  exact ⟨drawing, if_pos rfl, fun p => (scale.scale _ _).trans (follows.back p)⟩

theorem handleDrawing_begins (follows : Follows sender outgoing peer done none) (tool : Tool)
    (last p : Point) (color strokeWidth : Int) :
    Follows sender outgoing (peer.handleWhiteBoardMessage sender
      (.drawing (outgoing last) (outgoing p) color strokeWidth tool.mode)) done (some [last, p]) := by
  obtain ⟨begun, scale⟩ := drawing_begin follows.drawing tool (outgoing last) color strokeWidth
  obtain ⟨drawing, scale'⟩ := drawing_move begun tool (outgoing p)
  rw [scale.scale, follows.back, follows.back] at drawing
  have goes : peer.handleWhiteBoardMessage sender
      (.drawing (outgoing last) (outgoing p) color strokeWidth tool.mode) =
        { peer with
          view := (peer.view.serve (.lineBegin (.other sender) (outgoing last) color strokeWidth
            tool.mode)).serve (.lineMove (.other sender) (outgoing p) tool.mode) }.setNewLine
          sender false := by
    have newLine := follows.newLine
    cases tool <;> simp [BeeWhiteBoard.handleWhiteBoardMessage, BeeWhiteBoard.handleDrawing, Tool.mode,
      newLine]
  rw [goes]
  exact ⟨drawing, if_pos rfl, fun p =>
    (scale'.scale _ _).trans ((scale.scale _ _).trans (follows.back p))⟩

theorem handleAll_segments (follows : Follows sender outgoing peer done (some points))
    (segments : Segments outgoing last further messages) :
    Follows sender outgoing (handleAll sender peer messages) done (some (points ++ further)) := by
  induction segments generalizing peer points with
  | done =>
    rw [List.append_nil]
    exact follows
  | @segment p further messages last tool color strokeWidth _ ih =>
    have next := ih (handleDrawing_goes follows tool last p color strokeWidth)
    rw [List.append_assoc] at next
    exact next

theorem handle_savedata (follows : Follows sender outgoing peer done line) :
    Follows sender outgoing (peer.handleWhiteBoardMessage sender .savedata) (done ++ line.toList) none := by
  obtain ⟨drawing, scale⟩ := drawing_end follows.drawing
  exact ⟨drawing, if_pos rfl, fun p => (scale.scale _ _).trans (follows.back p)⟩

/-- Of a stroke the peer gets what its segments say, and nothing of one without segments. -/
theorem handleAll_stroke (follows : Follows sender outgoing peer done none)
    (segments : Segments outgoing first further messages) :
    Follows sender outgoing (handleAll sender peer (messages ++ [.savedata]))
      (done ++ [first :: further].filter fun stroke => 1 < stroke.length) none := by
  rw [handleAll, List.foldl_append]
  cases segments with
  | done => exact handle_savedata follows
  | @segment p further messages last tool color strokeWidth rest =>
    have begun := handleDrawing_begins follows tool first p color strokeWidth
    have ended := handle_savedata (handleAll_segments begun rest)
    simpa [handleAll] using ended

end Peer

/-! ### All gestures -/

theorem perform_gestures {near : Point → Point → Bool} {outgoing : Bool → Point → Point}
    {sender : String} {board peer : BeeWhiteBoard Point} (gestures : List (Gesture Point))
    (drawn : Drawn isDoc board done none last)
    (follows : Follows sender (outgoing isDoc) peer done' none) :
    (∃ last', Drawn isDoc (perform near outgoing board (gestures.flatMap Gesture.calls)).2
        (done ++ strokes near last gestures) none last') ∧
      Follows sender (outgoing isDoc)
        (handleAll sender peer (perform near outgoing board (gestures.flatMap Gesture.calls)).1)
        (done' ++ (strokes near last gestures).filter fun stroke => 1 < stroke.length) none := by
  induction gestures generalizing board peer done done' last with
  | nil =>
    rw [strokes, List.append_nil, List.filter_nil, List.append_nil]
    exact ⟨⟨last, drawn⟩, follows⟩
  | cons gesture rest ih =>
    have goes := @perform_gesture _ near outgoing _ _ _ _ drawn gesture
    rw [List.flatMap_cons, perform_append, strokes]
    cases close : near gesture.first last with
    | true =>
      rw [if_pos close] at goes
      rw [if_pos rfl]
      obtain ⟨quiet, idle⟩ := goes
      simp only [quiet, List.nil_append]
      exact ih idle follows
    | false =>
      rw [if_neg (by rw [close]; decide)] at goes
      rw [if_neg (by decide)]
      obtain ⟨segments, said, linked, after⟩ := goes
      have followed := handleAll_stroke follows linked
      obtain ⟨ended, told⟩ := ih after followed
      rw [List.append_assoc, List.singleton_append] at ended
      rw [List.append_assoc, ← List.filter_append, List.singleton_append] at told
      refine ⟨ended, ?_⟩
      rw [said, handleAll, List.foldl_append]
      exact told

/-! ### Two views of one board -/

/-- How large a view is against the board, and where its image lies. A view has an extent. -/
structure Zoom where
  xZoom : ℚ
  yZoom : ℚ
  originImgOfferX : ℚ
  originImgOfferY : ℚ
  wide : xZoom ≠ 0
  high : yZoom ≠ 0

/-- A point as `onTouchMove` tells it. -/
def Zoom.outgoing (zoom : Zoom) (isDoc : Bool) (p : ℚ × ℚ) : ℚ × ℚ :=
  if isDoc then ((p.1 - zoom.originImgOfferX * zoom.xZoom) / zoom.xZoom,
    (p.2 - zoom.originImgOfferY * zoom.yZoom) / zoom.yZoom)
  else (p.1 / zoom.xZoom, p.2 / zoom.yZoom)

/-- A point as `lineBegin` and `lineMove` take it. -/
def Zoom.incoming (zoom : Zoom) (isDoc : Bool) (p : ℚ × ℚ) : ℚ × ℚ :=
  if isDoc then ((p.1 + zoom.originImgOfferX) * zoom.xZoom, (p.2 + zoom.originImgOfferY) * zoom.yZoom)
  else (p.1 * zoom.xZoom, p.2 * zoom.yZoom)

theorem Zoom.incoming_outgoing (zoom : Zoom) (isDoc : Bool) (p : ℚ × ℚ) :
    zoom.incoming isDoc (zoom.outgoing isDoc p) = p := by
  have wide := zoom.wide
  have high := zoom.high
  cases isDoc with
  | false =>
    refine Prod.ext ?_ ?_
    · simp only [incoming, outgoing]
      simp [wide]
    · simp only [incoming, outgoing]
      simp [high]
  | true =>
    refine Prod.ext ?_ ?_
    · simp only [incoming, outgoing, if_true]
      field_simp
      ring
    · simp only [incoming, outgoing, if_true]
      field_simp
      ring

/-- No further than the threshold in either direction. -/
def near (p last : ℚ × ℚ) : Bool := |p.1 - last.1| ≤ 1 / 10 ∧ |p.2 - last.2| ≤ 1 / 10

/-- A client that draws with a pen or an eraser and has begun nothing, and a peer with the same zoom
that waits for its next line; both show a page. -/
structure Pair where
  zoom : Zoom
  sender : String
  board : BeeWhiteBoard (ℚ × ℚ)
  peer : BeeWhiteBoard (ℚ × ℚ)
  tool : board.view.drawChannel.drawingMode = .pen ∨ board.view.drawChannel.drawingMode = .eraser
  idle : board.view.drawChannel.action = none
  page : board.view.getBoardPage board.view.currentPage ≠ none
  scaled : peer.view.scaled = zoom.incoming
  isDoc : peer.view.isDoc = board.view.isDoc
  newLine : peer.newLine sender = true
  follows : peer.view.pending (.other sender) = none
  peerPage : peer.view.getBoardPage peer.view.currentPage ≠ none

/-- The client and the peer after the gestures. -/
def Pair.after (pair : Pair) (gestures : List (Gesture (ℚ × ℚ))) :
    BeeWhiteBoard (ℚ × ℚ) × BeeWhiteBoard (ℚ × ℚ) :=
  let (messages, board) := perform near pair.zoom.outgoing pair.board (gestures.flatMap Gesture.calls)
  (board, handleAll pair.sender pair.peer messages)

/-- Each gesture has left one stroke, from where it began, on the undo stack, and the peer has
the same ones. -/
def Replicated (pair : Pair) (gestures : List (Gesture (ℚ × ℚ))) : Prop :=
  ∃ strokes : List (List (ℚ × ℚ)),
    undoPoints (pair.after gestures).1 = undoPoints pair.board ++ strokes ∧
    strokes.map List.head? = gestures.map (fun gesture => some gesture.first) ∧
    undoPoints (pair.after gestures).2 = undoPoints pair.peer ++ strokes

theorem Pair.after_points (pair : Pair) (gestures : List (Gesture (ℚ × ℚ))) :
    undoPoints (pair.after gestures).1 =
        undoPoints pair.board ++ strokes near pair.board.last gestures ∧
      undoPoints (pair.after gestures).2 = undoPoints pair.peer ++
        (strokes near pair.board.last gestures).filter fun stroke => 1 < stroke.length := by
  obtain ⟨page, here⟩ := Option.ne_none_iff_exists'.mp pair.page
  obtain ⟨peerPage, there⟩ := Option.ne_none_iff_exists'.mp pair.peerPage
  have drawing : Drawing pair.board.view .own (undoPoints pair.board) none :=
    ⟨⟨page, here, by rw [undoPoints, here]; rfl⟩, pair.idle⟩
  have drawn : Drawn pair.board.view.isDoc pair.board (undoPoints pair.board) none pair.board.last := by
    refine ⟨drawing, ?_, rfl, rfl⟩
    rcases pair.tool with mode | mode
    · exact ⟨.pen, mode⟩
    · exact ⟨.eraser, mode⟩
  have follows : Follows pair.sender (pair.zoom.outgoing pair.board.view.isDoc) pair.peer
      (undoPoints pair.peer) none := by
    refine ⟨⟨⟨peerPage, there, by rw [undoPoints, there]; rfl⟩, pair.follows⟩, pair.newLine, fun p => ?_⟩
    rw [BeeWhiteBoardDrawView.scale, pair.scaled, pair.isDoc]
    exact pair.zoom.incoming_outgoing _ p
  obtain ⟨⟨_, after⟩, told⟩ := @perform_gestures _ _ _ _ _ near _ _ _ _ gestures drawn follows
  exact ⟨drawing_undoPoints after.drawing, drawing_undoPoints told.drawing⟩

/-- The gestures are replicated exactly when none begins where the last touch was and each one
moves on from where it begins. -/
theorem replicated_iff (pair : Pair) (gestures : List (Gesture (ℚ × ℚ))) :
    Replicated pair gestures ↔ Whole near pair.board.last gestures := by
  obtain ⟨drawn, told⟩ := pair.after_points gestures
  rw [← strokes_whole_iff, Replicated, drawn, told]
  constructor
  · rintro ⟨others, same, heads, also⟩
    have all := List.append_cancel_left same
    subst all
    have filtered := List.append_cancel_left also
    refine ⟨?_, fun stroke member => ?_⟩
    · have counts := congrArg List.length heads
      rwa [List.length_map, List.length_map] at counts
    · have long := List.filter_eq_self.mp filtered stroke member
      exact of_decide_eq_true long
  · rintro ⟨all, long⟩
    refine ⟨_, rfl, strokes_heads near _ gestures all, ?_⟩
    rw [List.filter_eq_self.mpr fun stroke member => decide_eq_true (long stroke member)]

/-- A client and a peer at their first page. -/
def fresh : Pair where
  zoom := ⟨1, 1, 0, 0, by decide, by decide⟩
  sender := "a"
  board := { view := { scaled := fun _ p => p, boardPageMap := [{}] }, last := (0, 0) }
  peer := {
    view := { scaled := (⟨1, 1, 0, 0, by decide, by decide⟩ : Zoom).incoming, boardPageMap := [{}] }
    last := (0, 0) }
  tool := .inl rfl
  idle := rfl
  page := by simp [BeeWhiteBoardDrawView.getBoardPage]
  scaled := rfl
  isDoc := rfl
  newLine := rfl
  follows := rfl
  peerPage := by simp [BeeWhiteBoardDrawView.getBoardPage]

/-- A finger that comes down and goes up. -/
def dot : Gesture (ℚ × ℚ) := ⟨[], (5, 5), []⟩

/-- The peer never hears of a dot. -/
theorem dot_not_replicated :
    ¬ ∀ (pair : Pair) (gestures : List (Gesture (ℚ × ℚ))), Replicated pair gestures := by
  intro always
  obtain ⟨others, same, _, also⟩ := always fresh [dot]
  obtain ⟨drawn, told⟩ := fresh.after_points [dot]
  have far : near dot.first fresh.board.last = false := by
    simp [near, dot, fresh]
    norm_num
  have one : strokes near fresh.board.last [dot] = [[(5, 5)]] := by
    rw [strokes, if_neg (by rw [far]; decide)]
    rfl
  rw [one] at drawn told
  have here := List.append_cancel_left (drawn.symm.trans same)
  have there := List.append_cancel_left (told.symm.trans also)
  rw [← here] at there
  cases there

end BeeSdk.TouchStrokes
