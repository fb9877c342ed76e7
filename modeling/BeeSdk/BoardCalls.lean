import BeeSdk.BoardClientsProofs

/-! A client stays tidy whatever it does and is told, and a call of its own does to what it
has in common with the others what its message will do to theirs. -/
namespace BeeSdk.BoardClients
open DrawView Replication

variable {Point : Type} {board after : BeeWhiteBoard Point} {near : Point → Point → Bool}

/-! ### What messages leave tidy -/

/-- The own pen is as it was, but for a line that is gone. -/
def SamePen (before after : DrawChannel Point) : Prop :=
  after = before ∨ after = { before with action := none }

/-- A step that leaves the own line alone, or drops it. -/
theorem Tidy.aside (tidy : Tidy board) (effect : Effect board.view after.view change lines)
    (pen : SamePen board.view.drawChannel after.view.drawChannel)
    (last : after.last = board.last) (sent : after.sent = board.sent)
    (idle : ∀ user, after.newLine user = true → lines (.other user) = none) : Tidy after := by
  refine ⟨effect.scaled.trans tidy.unscaled, ?_, ?_, ?_, ?_, ?_⟩
  · rw [effect.boardPageCount, effect.length, tidy.count]
  · rw [effect.currentPage, effect.boardPageCount]
    exact tidy.inside
  · intro user begins
    rw [effect.pending]
    exact idle user begins
  · rcases pen with same | dropped
    · rw [same]
      exact tidy.width
    · rw [dropped]
      exact tidy.width
  · intro action held
    rcases pen with same | dropped
    · rw [same] at held ⊢
      rw [last, sent]
      exact tidy.begun action held
    · rw [dropped] at held
      cases held

theorem pen_begin (view : BeeWhiteBoardDrawView Point) (p : Point) (color strokeWidth : Int) :
    (view.serve (.lineBegin (.other user) p color strokeWidth mode)).drawChannel = view.drawChannel := by
  simp only [BeeWhiteBoardDrawView.serve, BeeWhiteBoardDrawView.onDrawLineBegin]
  split
  · rfl
  · cases mode <;> rfl

theorem pen_move (view : BeeWhiteBoardDrawView Point) :
    (view.serve (.lineMove (.other user) p mode)).drawChannel = view.drawChannel := by
  simp only [BeeWhiteBoardDrawView.serve, BeeWhiteBoardDrawView.onDrawLineMove]
  split
  · rfl
  · split <;> rfl

theorem pen_end (view : BeeWhiteBoardDrawView Point) :
    (view.serve (.lineEnd (.other user))).drawChannel = view.drawChannel := by
  simp only [BeeWhiteBoardDrawView.serve, BeeWhiteBoardDrawView.onDrawLineEnd]
  split
  · rfl
  · split <;> rfl

theorem pen_handleDrawing (line : mode ≠ .text) :
    (board.handleDrawing user p0 p1 color strokeWidth mode).drawChannel = board.view.drawChannel := by
  rw [BeeWhiteBoard.handleDrawing, if_neg line]
  split
  · exact (pen_move _).trans (pen_begin board.view p0 color strokeWidth)
  · exact pen_move _

/-- Whoever has a page in view has one after a turn. -/
theorem Tidy.turn (tidy : Tidy board) (turned : Prop) [Decidable turned] (page : Int)
    (inside : turned → 0 ≤ page ∧ page < board.view.boardPageCount) :
    Tidy { board with
      view := if turned then { board.view with currentPage := page } else board.view } := by
  by_cases turns : turned
  · rw [if_pos turns]
    exact ⟨tidy.unscaled, tidy.count, inside turns, tidy.idle, tidy.width, tidy.begun⟩
  · rw [if_neg turns]
    exact tidy

theorem ofAll_tidy (tidy : Tidy board) (message : Message Point) (ofAll : message.OfAll) :
    Tidy (board.handleWhiteBoardMessage user message) := by
  obtain ⟨page, here⟩ := tidy.here
  have inside := tidy.inside
  cases message with
  | drawing => cases ofAll
  | savedata => cases ofAll
  | clear =>
    have pen : (board.view.serve .clearAll).drawChannel =
        { board.view.drawChannel with action := none } := by
      simp only [BeeWhiteBoardDrawView.serve, BeeWhiteBoardDrawView.clearAll, here]
      rfl
    exact tidy.aside (clear_effect here) (.inr pen) rfl rfl fun _ _ => rfl
  | undo =>
    have pen : (board.view.serve .undo).drawChannel = board.view.drawChannel := by
      simp only [BeeWhiteBoardDrawView.serve, BeeWhiteBoardDrawView.undo, here]
      rfl
    exact tidy.aside (undo_effect here) (.inl pen) rfl rfl tidy.idle
  | redo =>
    have pen : (board.view.serve .redo).drawChannel = board.view.drawChannel := by
      simp only [BeeWhiteBoardDrawView.serve, BeeWhiteBoardDrawView.redo, here]
      rfl
    exact tidy.aside (redo_effect here) (.inl pen) rfl rfl tidy.idle
  | nextpage => exact tidy.turn _ _ fun turns => by omega
  | prepage => exact tidy.turn _ _ fun turns => by omega

theorem message_tidy (tidy : Tidy board) (message : Message Point) (sound : message.Sound) :
    Tidy (board.handleWhiteBoardMessage user message) := by
  obtain ⟨page, here⟩ := tidy.here
  cases message with
  | drawing p0 p1 color strokeWidth mode =>
    obtain ⟨id, effect⟩ := @handleDrawing_effect _ _ mode strokeWidth user p0 p1 color tidy sound.1
      sound.2
    have line : mode ≠ .text := by rcases sound.1 with rfl | rfl <;> simp
    simp only [BeeWhiteBoard.handleWhiteBoardMessage, if_pos sound.1]
    refine @Tidy.aside _ _ (BeeWhiteBoard.setNewLine _ _ _) _ _ tidy effect
      (.inl (pen_handleDrawing line)) rfl rfl fun other begins => ?_
    simp only [BeeWhiteBoard.setNewLine] at begins
    by_cases his : other = user
    · rw [if_pos his] at begins
      cases begins
    · rw [if_neg his] at begins
      rw [if_neg (by simpa using his)]
      exact tidy.idle other begins
  | savedata =>
    have idle : ∀ other, (if other = user then true else board.newLine other) = true →
        (if Drawer.other other = .other user then none else board.view.pending (.other other)) =
          none := by
      intro other begins
      by_cases his : other = user
      · rw [if_pos (by rw [his])]
      · rw [if_neg his] at begins
        rw [if_neg (by simpa using his)]
        exact tidy.idle other begins
    cases held : board.view.pending (.other user) with
    | none =>
      refine @Tidy.aside _ _ (BeeWhiteBoard.setNewLine _ _ _) _ _ tidy (end_idle_effect here held)
        (.inl (pen_end board.view)) rfl rfl fun other begins => ?_
      have none := idle other begins
      by_cases his : other = user
      · rw [his, held]
      · rw [if_neg (by simpa using his)] at none
        exact none
    | some action =>
      exact @Tidy.aside _ _ (BeeWhiteBoard.setNewLine _ _ _) _ _ tidy (end_effect here held)
        (.inl (pen_end board.view)) rfl rfl idle
  | _ => exact ofAll_tidy tidy _ trivial

/-! ### What calls do -/

/-- What a call does to the board in common, its message does. -/
structure Agreed (uid : String) (board : BeeWhiteBoard Point) (message : Option (Message Point))
    (after : BeeWhiteBoard Point) : Prop where
  tidy : Tidy after
  sound : ∀ said ∈ message, said.Sound
  common : common uid after =
    message.elim (common uid board) fun said => apply uid said (common uid board)

theorem agreed_nothing (tidy : Tidy board) : Agreed uid board none board :=
  ⟨tidy, fun _ said => absurd said (Option.not_mem_none _), rfl⟩

theorem ofAll_agreed (tidy : Tidy board) (message : Message Point) (ofAll : message.OfAll) :
    Agreed uid board (some message) (board.handleWhiteBoardMessage uid message) := by
  refine ⟨ofAll_tidy tidy message ofAll, fun said same => ?_, ofAll_common tidy message ofAll⟩
  cases same
  cases message with
  | drawing => cases ofAll
  | _ => trivial

/-- The color of a line as its message tells it is the color of the line. -/
theorem colorOf_told (mode : BeeDrawingMode) (color : Int) :
    colorOf mode (convertARGBToRGB (colorOf mode color)) = colorOf mode color := by
  simp only [colorOf]
  split
  · rfl
  · simp only [convertRGBToARGB, convertARGBToRGB]
    omega

/-- The own line of a client. -/
def ownLine (view : BeeWhiteBoardDrawView Point) (line : Option (Action Point)) (drawer : Drawer) :
    Option (Action Point) :=
  if drawer = .own then line else view.pending drawer

theorem common_own (effect : Effect board.view after.view change (ownLine board.view line))
    (newLine : after.newLine = board.newLine) :
    common uid after = (((common uid board).onPage change).setPending uid
      (if after.sent then line.map item else none)).setNewLine uid !after.sent := by
  rw [common_effect uid effect]
  refine Shared.ext rfl rfl rfl rfl ?_ ?_
  · funext user
    simp only [Shared.setNewLine, Shared.setPending, Shared.onPage, common, ownLine, if_true]
    by_cases own : user = uid
    · simp [own]
    · simp [own]
  · funext user
    simp only [Shared.setNewLine, Shared.setPending, Shared.onPage, common, newLine]
    by_cases own : user = uid
    · simp [own]
    · simp [own]

/-- While nothing of it is broadcast the line is not there for anybody else. -/
theorem common_unsent (unsent : board.sent = false) :
    ((common uid board).setPending uid none).setNewLine uid true = common uid board := by
  refine Shared.ext rfl rfl rfl rfl ?_ ?_
  · funext user
    simp only [Shared.setNewLine, Shared.setPending, common, unsent]
    by_cases own : user = uid
    · simp [own]
    · simp [own]
  · funext user
    simp only [Shared.setNewLine, Shared.setPending, common, unsent]
    by_cases own : user = uid
    · simp [own]
    · simp [own]

theorem Tidy.own (tidy : Tidy board)
    (effect : Effect board.view after.view change (ownLine board.view line))
    (newLine : after.newLine = board.newLine) (width : 0 < after.view.drawChannel.paintSize)
    (begun : ∀ action, after.view.drawChannel.action = some action →
      (after.view.drawChannel.drawingMode = .pen ∨ after.view.drawChannel.drawingMode = .eraser) ∧
        (after.sent = false → item action = ⟨kindOf after.view.drawChannel.drawingMode, [after.last],
          colorOf after.view.drawChannel.drawingMode
            (convertARGBToRGB after.view.drawChannel.paintColor), after.view.drawChannel.paintSize⟩)) :
    Tidy after := by
  refine ⟨effect.scaled.trans tidy.unscaled, ?_, ?_, ?_, width, begun⟩
  · rw [effect.boardPageCount, effect.length, tidy.count]
  · rw [effect.currentPage, effect.boardPageCount]
    exact tidy.inside
  · intro user begins
    rw [newLine] at begins
    rw [effect.pending]
    exact tidy.idle user begins

theorem touchBegin_agreed (tidy : Tidy board) (nothing : board.view.drawChannel.action = none)
    (unsent : board.sent = false) (p : Point) : Agreed uid board none (board.onTouchBegin near p) := by
  obtain ⟨page, here⟩ := tidy.here
  rw [BeeWhiteBoard.onTouchBegin]
  split
  · exact agreed_nothing tidy
  · by_cases pen :
        board.view.drawChannel.drawingMode = .pen ∨ board.view.drawChannel.drawingMode = .eraser
    · obtain ⟨id, effect⟩ := begin_effect .own p board.view.drawChannel.paintColor here pen tidy.width
        tidy.unscaled nothing
      obtain ⟨channel, held, size, color, served⟩ :=
        serve_begin .own p board.view.drawChannel.paintColor here pen tidy.width tidy.unscaled
      refine ⟨tidy.own effect rfl ?_ ?_, fun _ said => absurd said (Option.not_mem_none _), ?_⟩
      · rw [served]
        exact lt_of_lt_of_eq tidy.width size.symm
      · rw [served]
        intro action drawn
        cases drawn
        refine ⟨pen, fun _ => ?_⟩
        simp only [BeeWhiteBoardDrawView.begin, BeeWhiteBoardDrawView.putChannel, item, color,
          colorOf_told]
      · have same := @common_own _ board { board with
          view := board.view.serve (.lineBegin .own p board.view.drawChannel.paintColor
            board.view.drawChannel.paintSize board.view.drawChannel.drawingMode), last := p } _ _ uid
          effect rfl
        rw [same, onPage_same, unsent]
        exact common_unsent unsent
    · have served : board.view.serve (.lineBegin .own p board.view.drawChannel.paintColor
          board.view.drawChannel.paintSize board.view.drawChannel.drawingMode) = board.view := by
        simp only [BeeWhiteBoardDrawView.serve, BeeWhiteBoardDrawView.onDrawLineBegin, here]
        split
        · rename_i mode
          exact absurd (.inl mode) pen
        · rename_i mode
          exact absurd (.inr mode) pen
        · rfl
      simp only [served]
      refine ⟨⟨tidy.unscaled, tidy.count, tidy.inside, tidy.idle, tidy.width, fun action drawn => ?_⟩,
        fun _ said => absurd said (Option.not_mem_none _), rfl⟩
      rw [nothing] at drawn
      cases drawn

theorem touchMove_agreed (tidy : Tidy board) (p : Point) :
    Agreed uid board (board.onTouchMove near p).1 (board.onTouchMove near p).2 := by
  obtain ⟨page, here⟩ := tidy.here
  rw [BeeWhiteBoard.onTouchMove]
  split
  · exact agreed_nothing tidy
  · rename_i draws
    cases held : board.view.drawChannel.action with
    | none => exact absurd (.inl (by rw [held]; rfl)) draws
    | some action =>
      obtain ⟨pen, first⟩ := tidy.begun action held
      have effect := @move_effect _ _ page _ .own p here pen tidy.unscaled
      have served := @serve_move _ _ page _ .own p here pen tidy.unscaled
      have line : board.view.pending .own = some action := held
      have moved := (item_onMove action p).symm
      refine ⟨tidy.own effect rfl ?_ ?_, ?_, ?_⟩
      · rw [served]
        exact tidy.width
      · rw [served]
        exact fun _ _ => ⟨pen, fun unsent => by cases unsent⟩
      · intro said same
        cases same
        rw [served]
        exact ⟨pen, tidy.width⟩
      · have same := @common_own _ board { board with
          view := board.view.serve (.lineMove .own p board.view.drawChannel.drawingMode), last := p,
          sent := true } _ _ uid effect rfl
        have begins : (common uid board).newLine uid = !board.sent := if_pos rfl
        rw [same, onPage_same, served, line]
        simp only [Option.elim_some, apply, begins]
        cases sent : board.sent with
        | false =>
          rw [first sent] at moved
          have drawn : Item.onMove ⟨kindOf board.view.drawChannel.drawingMode, [board.last],
              colorOf board.view.drawChannel.drawingMode
                (convertARGBToRGB board.view.drawChannel.paintColor), board.view.drawChannel.paintSize⟩ p =
              ⟨kindOf board.view.drawChannel.drawingMode, [board.last, p],
                colorOf board.view.drawChannel.drawingMode
                  (convertARGBToRGB board.view.drawChannel.paintColor),
                board.view.drawChannel.paintSize⟩ := by
            rcases pen with mode | mode <;> rw [mode] <;> rfl
          rw [drawn] at moved
          simp only [Bool.not_false, if_true, Option.map_some, Bool.not_true, ← moved]
          rfl
        | true =>
          have shared : (common uid board).pending uid = some (item action) := by
            simp [common, sent, line]
          rw [shared]
          simp only [Bool.not_true, if_true, Option.map_some, moved]
          rfl

theorem touchEnd_agreed (tidy : Tidy board)
    (broadcast : board.view.drawChannel.action ≠ none → board.sent = true) :
    Agreed uid board board.onTouchEnd.1 board.onTouchEnd.2 := by
  obtain ⟨page, here⟩ := tidy.here
  rw [BeeWhiteBoard.onTouchEnd]
  split
  · exact agreed_nothing tidy
  · rename_i draws
    cases held : board.view.drawChannel.action with
    | none => exact absurd (.inl (by rw [held]; rfl)) draws
    | some action =>
      have line : board.view.pending .own = some action := held
      have sent : board.sent = true := broadcast (by rw [held]; simp)
      have effect := end_effect here line
      have served := serve_end here line
      refine ⟨tidy.own effect rfl ?_ ?_, ?_, ?_⟩
      · rw [served]
        exact tidy.width
      · rw [served]
        exact fun _ drawn => by cases drawn
      · intro said same
        cases same
        trivial
      · have same := @common_own _ board { board with
          view := board.view.serve (.lineEnd .own), sent := false } _ _ uid effect rfl
        have shared : (common uid board).pending uid = some (item action) := by
          simp [common, sent, line]
        rw [same]
        simp only [Option.elim_some, apply, shared]
        rfl

theorem pen_agreed (tidy : Tidy board) (channel : DrawChannel Point) (size : Int)
    (before : board.view.drawChannel.action = none) (nothing : channel.action = none)
    (width : 0 < channel.paintSize) :
    Agreed uid board none { board with
      view := { board.view with drawChannel := channel, paintSize := size } } := by
  have lines : BeeWhiteBoardDrawView.pending
      { board.view with drawChannel := channel, paintSize := size } = board.view.pending := by
    funext drawer
    cases drawer with
    | own => exact nothing.trans before.symm
    | other session => rfl
  refine ⟨⟨tidy.unscaled, tidy.count, tidy.inside, ?_, width, fun action drawn => ?_⟩,
    fun _ said => absurd said (Option.not_mem_none _), ?_⟩
  · rw [lines]
    exact tidy.idle
  · rw [nothing] at drawn
    cases drawn
  · refine Shared.ext rfl rfl rfl rfl ?_ rfl
    simp only [common, lines]
    rfl

/-- A call and its message. -/
theorem call_agreed (tidy : Tidy board) (call : Call Point) (whole : board.WholeLines call) :
    Agreed uid board (board.call near call).1 (board.call near call).2 := by
  cases call with
  | touchBegin p => exact touchBegin_agreed tidy whole.1 whole.2 p
  | touchMove p => exact touchMove_agreed tidy p
  | touchEnd => exact touchEnd_agreed tidy whole
  | clearAll => exact ofAll_agreed tidy .clear trivial
  | undo => exact ofAll_agreed tidy .undo trivial
  | redo => exact ofAll_agreed tidy .redo trivial
  | nextPage => exact ofAll_agreed tidy .nextpage trivial
  | prePage => exact ofAll_agreed tidy .prepage trivial
  | setDrawingMode mode => exact pen_agreed tidy _ board.view.paintSize whole whole tidy.width
  | setLineColor rgbColor => exact pen_agreed tidy _ board.view.paintSize whole whole tidy.width
  | setLineWidth width =>
    simp only [BeeWhiteBoard.call, BeeWhiteBoardDrawView.serve, BeeWhiteBoardDrawView.setLineWidth]
    split
    · rename_i positive
      have sized : board.view.drawChannel.setSize width =
          { board.view.drawChannel with paintSize := width } := if_pos positive
      rw [sized]
      exact pen_agreed tidy _ width whole whole positive
    · exact agreed_nothing tidy

end BeeSdk.BoardClients
