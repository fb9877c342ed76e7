import BeeSdk.BoardCalls
import BeeSdk.Runs

/-! Clients at one board stay replicas of it while they draw whole lines and what they
broadcast commutes with what is on its way; so once everything has arrived they have the
same pages. -/
namespace BeeSdk.BoardClients
open DrawView Replication Runs

variable {Point : Type} {near : Point → Point → Bool} {members : String → Bool}

/-! ### The rules are no stricter than they have to be -/

/-- Something to undo on the first page and to redo on the second, and a line of everybody. -/
def divided (uid : String) (currentPage : Int) : Shared Point where
  pages := [([⟨.path, [], 0, 1⟩], []), ([], [⟨.path, [], 0, 1⟩])]
  currentPage := currentPage
  isDoc := true
  boardPageCount := 2
  pending user := some ⟨if user = uid then .path else .eraser, [], 0, 2⟩
  newLine _ := false

/-- What the order of two messages would have to leave alone. -/
theorem commute_divided (commute : Commute apply (uid, first) (user, second)) (page : Int) :
    (apply uid first (apply user second (divided uid page : Shared Point))).pages =
        (apply user second (apply uid first (divided uid page))).pages ∧
      (apply uid first (apply user second (divided uid page : Shared Point))).currentPage =
        (apply user second (apply uid first (divided uid page))).currentPage :=
  ⟨congrArg Shared.pages (commute _), congrArg Shared.currentPage (commute _)⟩

theorem savedata_only (other : uid ≠ user) (message : Message Point)
    (commute : Commute apply (uid, .savedata) (user, message)) :
    Message.commutes .savedata message = true := by
  have here := (commute_divided commute 0).1
  have there := (commute_divided commute 1).1
  cases message with
  | drawing | clear => rfl
  | savedata =>
    simp [apply, divided, Shared.setPending, Shared.setNewLine, Shared.onPage, other, other.symm]
      at here
  | undo => simp [apply, divided, Shared.setPending, Shared.setNewLine, Shared.onPage, undoSheet] at here
  | redo =>
    simp [apply, divided, Shared.setPending, Shared.setNewLine, Shared.onPage, redoSheet, List.modify]
      at there
  | nextpage => simp [apply, divided, Shared.setPending, Shared.setNewLine, Shared.onPage] at here
  | prepage => simp [apply, divided, Shared.setPending, Shared.setNewLine, Shared.onPage] at there

theorem clear_only (message : Message Point) (commute : Commute apply (uid, .clear) (user, message)) :
    Message.commutes .clear message = true := by
  have here := (commute_divided commute 0).1
  have there := (commute_divided commute 1).1
  cases message with
  | drawing p0 p1 color strokeWidth mode =>
    have lines := congrArg Shared.pending (commute ⟨[], 0, true, 0, fun _ => none, fun _ => true⟩)
    have line := congrFun lines user
    simp [apply, Shared.setPending, Shared.setNewLine, Shared.onPage] at line
  | savedata | clear | undo | redo => rfl
  | nextpage => simp [apply, divided, Shared.onPage] at here
  | prepage => simp [apply, divided, Shared.onPage, List.modify] at there

theorem undo_only (message : Message Point) (commute : Commute apply (uid, .undo) (user, message)) :
    Message.commutes .undo message = true := by
  have here := (commute_divided commute 0).1
  have there := (commute_divided commute 1).1
  cases message with
  | drawing | clear | undo => rfl
  | savedata =>
    simp [apply, divided, Shared.setPending, Shared.setNewLine, Shared.onPage, undoSheet] at here
  | redo => simp [apply, divided, Shared.onPage, undoSheet, redoSheet, List.modify] at here
  | nextpage => simp [apply, divided, Shared.onPage, undoSheet, List.modify] at here
  | prepage => simp [apply, divided, Shared.onPage, undoSheet, List.modify] at there

theorem redo_only (message : Message Point) (commute : Commute apply (uid, .redo) (user, message)) :
    Message.commutes .redo message = true := by
  have here := (commute_divided commute 0).1
  have there := (commute_divided commute 1).1
  cases message with
  | drawing | clear | redo => rfl
  | savedata =>
    simp [apply, divided, Shared.setPending, Shared.setNewLine, Shared.onPage, redoSheet, List.modify]
      at there
  | undo => simp [apply, divided, Shared.onPage, undoSheet, redoSheet, List.modify] at here
  | nextpage => simp [apply, divided, Shared.onPage, redoSheet, List.modify] at here
  | prepage => simp [apply, divided, Shared.onPage, redoSheet, List.modify] at there

theorem turn_only (message turn : Message Point) (turns : turn = .nextpage ∨ turn = .prepage)
    (commute : Commute apply (uid, turn) (user, message)) : turn.commutes message = true := by
  have here := commute_divided commute 0
  have there := commute_divided commute 1
  rcases turns with rfl | rfl
  · cases message with
    | drawing | nextpage => rfl
    | savedata => simp [apply, divided, Shared.setPending, Shared.setNewLine, Shared.onPage] at here
    | clear => simp [apply, divided, Shared.onPage] at here
    | undo => simp [apply, divided, Shared.onPage, undoSheet, List.modify] at here
    | redo => simp [apply, divided, Shared.onPage, redoSheet, List.modify] at here
    | prepage => simp [apply, divided] at here
  · cases message with
    | drawing | prepage => rfl
    | savedata => simp [apply, divided, Shared.setPending, Shared.setNewLine, Shared.onPage] at there
    | clear => simp [apply, divided, Shared.onPage, List.modify] at there
    | undo => simp [apply, divided, Shared.onPage, undoSheet, List.modify] at there
    | redo => simp [apply, divided, Shared.onPage, redoSheet, List.modify] at there
    | nextpage => simp [apply, divided] at here

/-- Two messages of different clients commute just where the rules say so. -/
theorem commutes_iff_commute (other : uid ≠ user) (first second : Message Point) :
    first.commutes second = true ↔ Commute apply (uid, first) (user, second) := by
  refine ⟨commutes_commute other first second, fun commute => ?_⟩
  cases first with
  | drawing =>
    cases second with
    | clear =>
      have none := clear_only _ (commute_symm commute)
      cases none
    | _ => rfl
  | savedata => exact savedata_only other second commute
  | clear => exact clear_only second commute
  | undo => exact undo_only second commute
  | redo => exact redo_only second commute
  | nextpage => exact turn_only second _ (.inl rfl) commute
  | prepage => exact turn_only second _ (.inr rfl) commute

/-! ### Every step -/

/-- The clients as replicas of what they have in common. -/
def network (clients : Clients Point) : Network String (Message Point) (Shared Point) where
  replica member := common member (clients.board member)
  inbox := clients.inbox

structure Together (members : String → Bool) (clients : Clients Point) (shared : Shared Point) :
    Prop where
  converging : Converging apply (fun member => members member = true) (network clients) shared
  tidy : ∀ member, Tidy (clients.board member)
  sound : ∀ member, ∀ sent ∈ clients.inbox member, sent.2.Sound

variable {clients clients' : Clients Point} {shared : Shared Point}

theorem broadcast_inv {inbox : String → List (String × Message Point)}
    (found : sent ∈ broadcast members inbox uid (some message) member) :
    sent ∈ inbox member ∨ sent = (uid, message) ∧ members member := by
  simp only [broadcast] at found
  split at found
  · rename_i here
    rcases List.mem_append.mp found with old | new
    · exact .inl old
    · exact .inr ⟨List.mem_singleton.mp new, here.2⟩
  · exact .inl found

theorem act_together (together : Together members clients shared) (call : Call Point)
    (kept : Kept near clients (.act uid call))
    (stepped : clients.step near members (.act uid call) = some ((), clients')) :
    ∃ shared', Together members clients' shared' := by
  simp only [Clients.step] at stepped
  split at stepped
  · cases stepped
    have agreed := @call_agreed _ (clients.board uid) near uid (together.tidy uid) call kept.1
    have tidy : ∀ member, Tidy (if member = uid then ((clients.board uid).call near call).2
        else clients.board member) := by
      intro member
      split
      · exact agreed.tidy
      · exact together.tidy member
    have law := agreed.common
    cases told : ((clients.board uid).call near call).1 with
    | none =>
      rw [told] at law
      refine ⟨shared, ?_, tidy, together.sound⟩
      have same : network {
          board := fun member => if member = uid then ((clients.board uid).call near call).2
            else clients.board member
          inbox := broadcast members clients.inbox uid none } = network clients := by
        simp only [network]
        congr 1
        funext member
        split
        · rename_i own
          rw [own, law]
          rfl
        · rfl
      rw [same]
      exact together.converging
    | some message =>
      rw [told] at law
      have allowed : ∀ member, ∀ sent ∈ clients.inbox member, sent.1 ≠ uid →
          Commute apply sent (uid, message) := fun member sent found other =>
        (commutes_iff_commute other sent.2 message).mp (kept.2 message told member sent found other)
      refine ⟨apply uid message shared, ?_, tidy, fun member sent held => ?_⟩
      · have same : (network clients).send apply (fun member => members member = true) uid message =
            network {
              board := fun member => if member = uid then ((clients.board uid).call near call).2
                else clients.board member
              inbox := broadcast members clients.inbox uid (some message) } := by
          simp only [network, Network.send]
          congr 1
          funext member
          split
          · rename_i own
            rw [own, law]
            rfl
          · rfl
        rw [← same]
        exact send_converging together.converging allowed
      · rcases broadcast_inv held with old | ⟨rfl, -⟩
        · exact together.sound member sent old
        · exact agreed.sound message told
  · cases stepped

theorem deliver_together (together : Together members clients shared)
    (stepped : clients.step near members (.deliver receiver sender) = some ((), clients')) :
    Together members clients' shared := by
  obtain ⟨⟨message, rest⟩, taken, same⟩ := Option.map_eq_some_iff.mp stepped
  cases same
  obtain ⟨front, back, whole, rfl, others⟩ := takeFirst_inv taken
  have found : (sender, message) ∈ clients.inbox receiver := by simp [whole]
  have foreign : sender ≠ receiver := together.converging.foreign receiver _ found
  have sound : message.Sound := together.sound receiver _ found
  have tidy := together.tidy receiver
  refine ⟨?_, fun member => ?_, fun member sent held => ?_⟩
  · have received := receive_converging together.converging taken
    have same : (network clients).receive apply receiver sender message (front ++ back) =
        network {
          board := fun member =>
            if member = receiver then (clients.board receiver).handleWhiteBoardMessage sender message
            else clients.board member
          inbox := fun member =>
            if member = receiver then front ++ back else clients.inbox member } := by
      simp only [network, Network.receive]
      congr 1
      funext member
      split
      · rename_i here
        rw [here, message_common tidy foreign message sound]
      · rfl
    rw [same] at received
    exact received
  · simp only
    split
    · exact message_tidy tidy message sound
    · exact together.tidy member
  · simp only at held
    split at held
    · refine together.sound receiver sent ?_
      rw [whole]
      rcases List.mem_append.mp held with early | late
      · exact List.mem_append_left _ early
      · exact List.mem_append_right _ (List.mem_cons_of_mem _ late)
    · exact together.sound member sent held

theorem makePages_length (made : Nat) (listed : List (Listed Point)) :
    (makePages made listed).length = listed.length := by
  induction listed generalizing made with
  | nil => rfl
  | cons first rest ih => rw [makePages, List.length_cons, List.length_cons, ih]

/-- Nobody has begun a line. -/
theorem common_start (info : BoardInfo Point) (origin : Point) (member : String) :
    common member ((start info origin).board member) = {
      pages := (makePages 0 info.pages).map sheet, currentPage := info.pageNow, isDoc := info.doc
      boardPageCount := (makePages 0 info.pages).length
      pending := fun _ => none, newLine := fun _ => true } := by
  refine Shared.ext rfl rfl rfl rfl ?_ ?_
  · funext user
    by_cases own : user = member
    · exact if_pos own
    · exact if_neg own
  · funext user
    by_cases own : user = member
    · exact if_pos own
    · exact if_neg own

theorem start_together (info : BoardInfo Point) (origin : Point) :
    ∃ shared, Together members (start info origin) shared := by
  have inside := info.inside
  have count := makePages_length 0 info.pages
  refine ⟨_, ⟨fun member _ => common_start info origin member, fun member => List.Pairwise.nil, ?_⟩,
    fun member => ?_, ?_⟩
  · exact fun member sent held => absurd held List.not_mem_nil
  · refine ⟨rfl, rfl, ⟨Int.natCast_nonneg _, ?_⟩, fun _ _ => rfl, (by decide : (0 : Int) < 5),
      fun _ drawn => by cases drawn⟩
    simp only [start, BeeWhiteBoardDrawView.serve, BeeWhiteBoardDrawView.setBoardInfo]
    omega
  · exact fun member sent held => absurd held List.not_mem_nil

/-- Members to whom nothing is on its way have the same pages, after every run that keeps to
the rules. -/
theorem clients_agree (info : BoardInfo Point) (origin : Point) (first : members uid)
    (second : members user)
    (kept : AllSteps (Clients.step near members) (Kept near) (start info origin) requests)
    (ran : run (Clients.step near members) (start info origin) requests = some (outs, clients))
    (arrived : clients.inbox uid = []) (arrived' : clients.inbox user = []) :
    Same (clients.board uid) (clients.board user) := by
  obtain ⟨shared, together⟩ := run_invariant (fun clients => ∃ shared, Together members clients shared)
    (fun before request _ after inv met taken => by
      obtain ⟨shared, together⟩ := inv
      cases request with
      | act uid call => exact act_together together call met taken
      | deliver receiver sender => exact ⟨shared, deliver_together together taken⟩)
    (start_together info origin) kept ran
  have agree := together.converging.agree first second arrived arrived'
  exact ⟨congrArg Shared.currentPage agree, congrArg Shared.pages agree⟩

/-- A board of one page with one line on it. -/
def oneLine : BoardInfo Nat := ⟨false, [⟨[(.path, [3], 0, 5)], []⟩], 0, by decide⟩

def twoMembers (uid : String) : Bool := uid = "a" || uid = "b"

/-- While one draws, the other undoes what was there before. -/
def lineAndUndo : List (Request Nat) :=
  [.act "a" (.touchBegin 0), .act "a" (.touchMove 1), .act "b" .undo, .deliver "b" "a",
    .deliver "a" "b", .act "a" .touchEnd, .deliver "b" "a"]

theorem lineAndUndo_kept : AllSteps (Clients.step (fun _ _ => false) twoMembers) (Kept fun _ _ => false)
    (start oneLine 0) lineAndUndo := by
  refine ⟨⟨⟨rfl, rfl⟩, fun _ told => by cases told⟩, fun _ _ taken => ?_⟩
  cases taken
  refine ⟨⟨trivial, fun _ _ member sent found => by cases found⟩, fun _ _ taken => ?_⟩
  cases taken
  refine ⟨⟨trivial, fun message told member sent found other => ?_⟩, fun _ _ taken => ?_⟩
  · cases told
    rcases broadcast_inv found with old | ⟨rfl, -⟩
    · cases old
    · rfl
  cases taken
  refine ⟨trivial, fun _ _ taken => ?_⟩
  cases taken
  refine ⟨trivial, fun _ _ taken => ?_⟩
  cases taken
  refine ⟨⟨fun _ => rfl, fun message told member sent found other => ?_⟩, fun _ _ taken => ?_⟩
  · cases told
    by_cases atSecond : member = "b"
    · subst atSecond
      cases found
    · by_cases atFirst : member = "a"
      · subst atFirst
        cases found
      · simp only [if_neg atSecond, if_neg atFirst] at found
        rcases broadcast_inv found with old | ⟨-, isMember⟩
        · rcases broadcast_inv old with older | ⟨rfl, -⟩
          · cases older
          · rfl
        · simp [twoMembers, atFirst, atSecond] at isMember
  cases taken
  exact ⟨trivial, fun _ _ _ => trivial⟩

theorem clients_agree_undo : ∃ outs clients,
    run (Clients.step (fun _ _ => false) twoMembers) (start oneLine 0) lineAndUndo =
        some (outs, clients) ∧
      Same (clients.board "a") (clients.board "b") ∧
      (clients.board "b").view.boardPageMap.map sheet =
        [([⟨.path, [0, 1], colorBlack, 5⟩], [])] :=
  ⟨_, _, rfl, clients_agree oneLine 0 rfl rfl lineAndUndo_kept rfl rfl rfl, rfl⟩

/-- Each of the two sees the own line first, and will undo another one. -/
theorem clients_disagree : ¬ ∀ requests outs clients,
    run (Clients.step (fun _ _ => false) twoMembers) (start oneLine 0) requests =
      some (outs, clients) →
    clients.inbox "a" = [] → clients.inbox "b" = [] →
      Same (clients.board "a") (clients.board "b") := by
  intro agreed
  have same := agreed [.act "a" (.touchBegin 0), .act "a" (.touchMove 1),
    .act "b" (.touchBegin 5), .act "b" (.touchMove 6), .act "a" .touchEnd, .act "b" .touchEnd,
    .deliver "a" "b", .deliver "b" "a", .deliver "a" "b", .deliver "b" "a"] _ _ rfl rfl rfl
  exact absurd same.2 (by decide)

end BeeSdk.BoardClients
