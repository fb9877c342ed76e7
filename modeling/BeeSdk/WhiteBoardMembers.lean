import Mathlib.Data.List.Chain
import BeeSdk.WhiteBoardScript

/-! What the application is told of the members of a white board: each joins and leaves in
turn, and behind every list those inside are the ones it names. -/
namespace BeeSdk.WhiteBoard
open HttpHeader (Text)
open Script

/-- An entry tells of the uid that it joins, or that it leaves. -/
def Entry.move (uid : Uid) : Entry → Option Bool
  | .notifies (.remoteJoin other _ _) => if other = uid then some true else none
  | .notifies (.remoteLeave other) => if other = uid then some false else none
  | _ => none

/-- Everything told of the joining and leaving of a uid. -/
def told (uid : Uid) (entries : List Entry) : List Bool := entries.filterMap (Entry.move uid)

/-- Joining comes first, and then each comes behind the other. -/
def Alternating (told : List Bool) : Prop := told.head? ≠ some false ∧ told.IsChain (· ≠ ·)

/-- The last thing told is that it joins. -/
def Inside (told : List Bool) : Prop := told.getLast? = some true

/-- What the reply of the service says of errors, or nothing where looking raises one. -/
def errs (jsonData : LuaValue) : Option Bool :=
  if ¬ (jsonData.get "result").isNil ∧ ¬ (jsonData.get "result").rawEqual (.integer 1) ∧
      ¬ (jsonData.get "reason").isNil then strange (jsonData.get "reason")
  else some false

/-- The list of a message that is taken for one. -/
def Happening.listed : Happening → Option LuaValue
  | .msgSvcData (some jsonData) =>
    if jsonData.indexable ∧ errs jsonData = some false ∧
        (jsonData.get "cmd").text.map String.ofList = some "listback" then some (jsonData.get "list")
    else none
  | _ => none

/-- The uids other than one's own that the entries of a list name. -/
def remoteUids (own : Option Text) (message place : Nat) : List LuaValue → List Uid
  | [] => []
  | entry :: rest =>
    (remoteUid own message place entry).toList ++ remoteUids own message (place + 1) rest

/-- Those of the last list, which has just been decoded. -/
def Board.listedUids (board : Board) (list : LuaValue) : List Uid :=
  remoteUids board.uid board.received 1 ((Signalling.VideoRoom.listItems list).getD [])

/-- The entries can be read, the new members have a type, and each uid is found in the table
exactly where it is that of a member. -/
def Admits (own : Option Text) (message place : Nat) (memberTable : List Uid) :
    List LuaValue → Prop
  | [] => True
  | entry :: rest =>
    match remoteUid own message place entry with
    | none => (entry.truthy = true → entry.indexable = true) ∧
      Admits own message (place + 1) memberTable rest
    | some uid => (nickNameOf (entry.get "outinfo")).isSome = true ∧
      (probe memberTable uid = true ↔ uid ∈ memberTable) ∧
      (uid ∉ memberTable → (roleOf (entry.get "type")).isSome = true) ∧
      Admits own message (place + 1)
        (if uid ∈ memberTable then memberTable else memberTable ++ [uid]) rest

/-- A list that comes has items, and they are admitted. -/
def Probed (board : Board) (request : Request) : Prop :=
  ∀ list, request.happening.listed = some list →
    ∃ items, Signalling.VideoRoom.listItems list = some items ∧
      Admits board.uid (board.received + 1) 1 board.memberTable items

/-! ### Telling -/

theorem told_append (uid : Uid) (front back : List Entry) :
    told uid (front ++ back) = told uid front ++ told uid back := List.filterMap_append

theorem Alternating.joins {told : List Bool} (alternating : Alternating told)
    (outside : ¬ Inside told) : Alternating (told ++ [true]) ∧ Inside (told ++ [true]) := by
  refine ⟨⟨?_, List.isChain_append.mpr ⟨alternating.2, .singleton _, ?_⟩⟩, by simp [Inside]⟩
  · cases told with
    | nil => simp
    | cons first rest => exact alternating.1
  · intro last member first member'
    cases member'
    rintro rfl
    exact outside member

theorem Alternating.leaves {told : List Bool} (alternating : Alternating told)
    (inside : Inside told) : Alternating (told ++ [false]) ∧ ¬ Inside (told ++ [false]) := by
  refine ⟨⟨?_, List.isChain_append.mpr ⟨alternating.2, .singleton _, ?_⟩⟩, by simp [Inside]⟩
  · cases told with
    | nil => cases inside
    | cons first rest => exact alternating.1
  · intro last member first member'
    cases member'
    rw [inside] at member
    cases member
    decide

/-! ### Taking a list -/

section
variable {own : Option Text} {message : Nat}

theorem indexable_of_remoteUid {entry : LuaValue} {uid : Uid}
    (named : remoteUid own message place entry = some uid) :
    entry.truthy = true ∧ entry.indexable = true := by
  unfold remoteUid at named
  split at named
  · rename_i truthy
    refine ⟨truthy, ?_⟩
    cases indexable : entry.indexable with
    | true => rfl
    | false =>
      rw [LuaValue.get, LuaValue.field_of_not_indexable indexable] at named
      cases named
  · cases named

/-- The board with the members who have joined by a list, and what is told of it. -/
structure Grown (uids : List Uid) (before after : Board) : Prop where
  uid : after.uid = before.uid
  received : after.received = before.received
  members : ∀ uid, uid ∈ after.memberTable ↔ uid ∈ before.memberTable ∨ uid ∈ uids
  nodup : before.memberTable.Nodup → after.memberTable.Nodup
  told : ∃ new, after.history = before.history ++ new ∧ ∀ uid,
    told uid new = if uid ∈ after.memberTable ∧ uid ∉ before.memberTable then [true] else []

theorem Grown.refl (board : Board) : Grown [] board board :=
  ⟨rfl, rfl, by simp, id, [], by simp, fun uid => by
    rw [if_neg fun ⟨member, absent⟩ => absent member]
    rfl⟩

theorem Grown.trans (first : Grown uids before middle) (second : Grown uids' middle after) :
    Grown (uids ++ uids') before after where
  uid := second.uid.trans first.uid
  received := second.received.trans first.received
  members uid := by rw [second.members, first.members, List.mem_append, or_assoc]
  nodup := fun nodup => second.nodup (first.nodup nodup)
  told := by
    obtain ⟨new, history, told⟩ := first.told
    obtain ⟨new', history', told'⟩ := second.told
    refine ⟨new ++ new', by rw [history', history, List.append_assoc], fun uid => ?_⟩
    rw [told_append, told, told']
    have early : uid ∈ before.memberTable → uid ∈ middle.memberTable :=
      fun member => (first.members uid).mpr (.inl member)
    have late : uid ∈ middle.memberTable → uid ∈ after.memberTable :=
      fun member => (second.members uid).mpr (.inl member)
    by_cases old : uid ∈ before.memberTable
    · simp [old, early old]
    · by_cases between : uid ∈ middle.memberTable
      · simp [old, between, late between]
      · simp [old, between]

/-- One entry of a list that is admitted. -/
theorem admit_none {board : Board} {entry : LuaValue}
    (unnamed : remoteUid board.uid board.received place entry = none)
    (readable : entry.truthy = true → entry.indexable = true) :
    admitEntry place entry board = (some [], board) := by
  unfold admitEntry
  cases truthy : entry.truthy with
  | false => rfl
  | true => simp [field, LuaValue.field_of_indexable (readable truthy), unnamed]

theorem admit_some {board : Board} {entry : LuaValue} {uid : Uid}
    (named : remoteUid board.uid board.received place entry = some uid)
    (nick : (nickNameOf (entry.get "outinfo")).isSome = true)
    (probed : probe board.memberTable uid = true ↔ uid ∈ board.memberTable)
    (typed : uid ∉ board.memberTable → (roleOf (entry.get "type")).isSome = true) :
    ∃ after, admitEntry place entry board = (some [uid], after) ∧ Grown [uid] board after ∧
      after.memberTable =
        if uid ∈ board.memberTable then board.memberTable else board.memberTable ++ [uid] := by
  obtain ⟨truthy, indexable⟩ := indexable_of_remoteUid named
  obtain ⟨nickName, nick⟩ := Option.isSome_iff_exists.mp nick
  by_cases member : uid ∈ board.memberTable
  · refine ⟨board, ?_, ⟨rfl, rfl, fun other => ?_, id, [], by simp, fun other => ?_⟩, (if_pos member).symm⟩
    · simp [admitEntry, truthy, field, LuaValue.field_of_indexable indexable, named, nick,
        probed.mpr member]
    · simp only [List.mem_singleton]
      exact ⟨.inl, fun either => either.elim id fun same => same ▸ member⟩
    · rw [if_neg fun ⟨inside, outside⟩ => outside inside]
      rfl
  · obtain ⟨role, typed⟩ := Option.isSome_iff_exists.mp (typed member)
    have unprobed : probe board.memberTable uid = false :=
      eq_false_of_ne_true fun found => member (probed.mp found)
    refine ⟨{ board.enter (.notifies (.remoteJoin uid nickName role)) with
      memberTable := board.memberTable ++ [uid] }, ?_, ⟨rfl, rfl, fun other => ?_, fun nodup => ?_,
      [.notifies (.remoteJoin uid nickName role)], rfl, fun other => ?_⟩, (if_neg member).symm⟩
    · simp [admitEntry, truthy, field, LuaValue.field_of_indexable indexable, named, nick, unprobed, typed,
        reportData, Board.enter]
    · simp
    · exact List.nodup_append.mpr ⟨nodup, by simp, by
        rintro other inside _ (⟨_⟩ | ⟨_, ⟨⟩⟩) rfl
        exact member inside⟩
    · by_cases same : uid = other
      · subst same
        simp [WhiteBoard.told, Entry.move, member]
      · have apart : other ≠ uid := Ne.symm same
        simp [WhiteBoard.told, Entry.move, same, apart]

theorem admitAll_grown (items : List LuaValue) (place : Nat) (board : Board)
    (admits : Admits board.uid board.received place board.memberTable items) :
    ∃ after, admitAll place items board =
        (some (remoteUids board.uid board.received place items), after) ∧
      Grown (remoteUids board.uid board.received place items) board after := by
  induction items generalizing place board with
  | nil => exact ⟨board, rfl, .refl board⟩
  | cons entry rest ih =>
    unfold Admits at admits
    cases named : remoteUid board.uid board.received place entry with
    | none =>
      rw [named] at admits
      obtain ⟨after, ran, grown⟩ := ih (place + 1) board admits.2
      refine ⟨after, ?_, ?_⟩
      · simp [admitAll, admit_none named admits.1, ran, remoteUids, named]
      · simpa [remoteUids, named] using grown
    | some uid =>
      rw [named] at admits
      obtain ⟨nick, probed, typed, later⟩ := admits
      obtain ⟨middle, ran, grown, table⟩ := admit_some named nick probed typed
      rw [← table, ← grown.uid, ← grown.received] at later
      obtain ⟨after, ran', grown'⟩ := ih (place + 1) middle later
      rw [grown.uid, grown.received] at ran' grown'
      refine ⟨after, ?_, ?_⟩
      · simp [admitAll, ran, ran', remoteUids, named]
      · simpa [remoteUids, named] using grown.trans grown'

/-- The board once those on the list no more have left. -/
structure Shrunk (current : List Uid) (before after : Board) : Prop where
  uid : after.uid = before.uid
  received : after.received = before.received
  members : after.memberTable = before.memberTable.filter (· ∈ current)
  told : before.memberTable.Nodup → ∃ new, after.history = before.history ++ new ∧ ∀ uid,
    told uid new = if uid ∈ before.memberTable ∧ uid ∉ current then [false] else []

/-- The first part of the table stays, and the rest is walked over. -/
theorem dismiss_walk (current kept rest : List Uid) (board : Board)
    (table : board.memberTable = kept ++ rest) :
    ∃ after new, dismiss current kept rest board = (some (), after) ∧ after.uid = board.uid ∧
      after.received = board.received ∧
      after.memberTable = kept ++ rest.filter (· ∈ current) ∧
      after.history = board.history ++ new ∧
      (rest.Nodup → ∀ uid,
        told uid new = if uid ∈ rest ∧ uid ∉ current then [false] else []) := by
  induction rest generalizing kept board with
  | nil => exact ⟨board, [], rfl, rfl, rfl, by simpa using table, by simp, fun _ _ => rfl⟩
  | cons first rest ih =>
    by_cases listed : first ∈ current
    · obtain ⟨after, new, ran, uid, received, members, history, told⟩ :=
        ih (kept ++ [first]) board (by simpa using table)
      refine ⟨after, new, by simp [dismiss, listed, ran], uid, received, ?_, history, ?_⟩
      · simpa [listed] using members
      · intro nodup other
        rw [told (List.nodup_cons.mp nodup).2 other]
        by_cases same : other = first
        · simp [same, listed]
        · simp [same]
    · obtain ⟨after, new, ran, uid, received, members, history, told⟩ :=
        ih kept { board.enter (.notifies (.remoteLeave first)) with memberTable := kept ++ rest } rfl
      refine ⟨after, .notifies (.remoteLeave first) :: new, ?_, uid, received, ?_, ?_, ?_⟩
      · simpa [dismiss, listed, reportData] using ran
      · simpa [listed] using members
      · simpa [Board.enter] using history
      · intro nodup other
        obtain ⟨absent, nodup⟩ := List.nodup_cons.mp nodup
        have later := told nodup other
        by_cases same : first = other
        · subst same
          simp only [WhiteBoard.told, Entry.move, List.filterMap_cons, if_true] at later ⊢
          rw [later]
          simp [absent, listed]
        · simp only [WhiteBoard.told, Entry.move, List.filterMap_cons, if_neg same] at later ⊢
          rw [later]
          simp [Ne.symm same]

end

/-! ### What has been told fits the table -/

/-- Behind the start each uid has joined and left in turn, and those inside are the members. -/
structure Followed (start : List Entry) (board : Board) : Prop where
  nodup : board.memberTable.Nodup
  told : ∃ new, board.history = start ++ new ∧ ∀ uid,
    Alternating (told uid new) ∧ (Inside (told uid new) ↔ uid ∈ board.memberTable)

theorem Followed.grown (followed : Followed start before) (grown : Grown uids before after) :
    Followed start after := by
  obtain ⟨old, history, followed'⟩ := followed.told
  obtain ⟨new, history', told'⟩ := grown.told
  refine ⟨grown.nodup followed.nodup, old ++ new, by rw [history', history, List.append_assoc],
    fun uid => ?_⟩
  obtain ⟨alternating, inside⟩ := followed' uid
  rw [told_append, told' uid]
  split
  · rename_i joined
    obtain ⟨alternating, inside⟩ := alternating.joins fun inside' => joined.2 (inside.mp inside')
    exact ⟨alternating, fun _ => joined.1, fun _ => inside⟩
  · rename_i idle
    rw [List.append_nil]
    refine ⟨alternating, inside.trans ⟨fun member => (grown.members uid).mpr (.inl member), ?_⟩⟩
    intro member
    exact Classical.byContradiction fun absent => idle ⟨member, absent⟩

theorem Followed.shrunk (followed : Followed start before) (shrunk : Shrunk current before after) :
    Followed start after := by
  obtain ⟨old, history, followed'⟩ := followed.told
  obtain ⟨new, history', told'⟩ := shrunk.told followed.nodup
  refine ⟨by rw [shrunk.members]; exact followed.nodup.filter _, old ++ new,
    by rw [history', history, List.append_assoc], fun uid => ?_⟩
  obtain ⟨alternating, inside⟩ := followed' uid
  rw [told_append, told' uid, shrunk.members, List.mem_filter, decide_eq_true_eq]
  split
  · rename_i left
    obtain ⟨alternating, outside⟩ := alternating.leaves (inside.mpr left.1)
    exact ⟨alternating, fun inside => absurd inside outside, fun stays => absurd stays.2 left.2⟩
  · rename_i idle
    rw [List.append_nil]
    refine ⟨alternating, inside.trans ⟨fun member => ⟨member, ?_⟩, And.left⟩⟩
    exact Classical.byContradiction fun unlisted => idle ⟨member, unlisted⟩

theorem dismiss_shrunk (current : List Uid) (board : Board) :
    ∃ after, dismiss current [] board.memberTable board = (some (), after) ∧
      Shrunk current board after := by
  obtain ⟨after, new, ran, uid, received, members, history, told⟩ :=
    dismiss_walk current [] board.memberTable board rfl
  exact ⟨after, ran, uid, received, members, fun nodup => ⟨new, history, told nodup⟩⟩

/-- A list that is admitted leaves those it names, and nobody else, as members. -/
theorem listback_followed {board : Board} {jsonData : LuaValue} {items : List LuaValue}
    (followed : Followed start board) (indexable : jsonData.indexable = true)
    (listed : Signalling.VideoRoom.listItems (jsonData.get "list") = some items)
    (admits : Admits board.uid board.received 1 board.memberTable items) :
    ∃ after, handleMsgSvcListback jsonData board = (some (), after) ∧ Followed start after ∧
      ∀ uid, uid ∈ after.memberTable ↔ uid ∈ after.listedUids (jsonData.get "list") := by
  obtain ⟨middle, ran, grown⟩ := admitAll_grown items 1 board admits
  obtain ⟨after, ran', shrunk⟩ :=
    dismiss_shrunk (remoteUids board.uid board.received 1 items) middle
  refine ⟨after, ?_, (followed.grown grown).shrunk shrunk, fun uid => ?_⟩
  · simp [handleMsgSvcListback, field, LuaValue.field_of_indexable indexable, listed, ran, ran']
  · unfold Board.listedUids
    rw [shrunk.uid, grown.uid, shrunk.received, grown.received, listed, Option.getD_some,
      shrunk.members, List.mem_filter, decide_eq_true_eq, grown.members]
    exact ⟨And.right, fun named => ⟨.inr named, named⟩⟩

/-! ### Everything else leaves the members alone -/

structure Quiet (before after : Board) : Prop where
  members : after.memberTable = before.memberTable
  told : ∃ new, after.history = before.history ++ new ∧ ∀ uid, told uid new = []

instance quiet_frame : Frame Quiet where
  refl board := ⟨rfl, [], by simp, fun _ => rfl⟩
  trans := by
    rintro first second third ⟨members, new, history, told⟩ ⟨members', new', history', told'⟩
    refine ⟨members'.trans members, new ++ new', by rw [history', history, List.append_assoc], ?_⟩
    intro uid
    rw [told_append, told, told', List.append_nil]

theorem Followed.quiet (followed : Followed start before) (quiet : Quiet before after) :
    Followed start after := by
  obtain ⟨old, history, followed'⟩ := followed.told
  obtain ⟨members, new, history', silent⟩ := quiet
  refine ⟨members ▸ followed.nodup, old ++ new, by rw [history', history, List.append_assoc],
    fun uid => ?_⟩
  rw [told_append, silent uid, List.append_nil, members]
  exact followed' uid

theorem modify_quiet {change : Board → Board}
    (members : ∀ board, (change board).memberTable = board.memberTable)
    (history : ∀ board, (change board).history = board.history) :
    Within Quiet (modify change : Lua Unit) :=
  ⟨fun board => ⟨members board, [], by rw [List.append_nil]; exact history board, fun _ => rfl⟩⟩

theorem enter_quiet {entry : Board → Entry} (silent : ∀ board uid, (entry board).move uid = none) :
    Within Quiet (modify (fun board => board.enter (entry board)) : Lua Unit) :=
  ⟨fun board => ⟨rfl, [entry board], rfl, fun uid => by simp [told, silent board uid]⟩⟩

theorem assert_quiet (holds : Bool) : Within Quiet (assert holds) := by
  cases holds with
  | true => exact .pure ()
  | false => exact .raise

theorem field_quiet (value : LuaValue) (key : String) : Within Quiet (field value key) := .ofOption _

theorem writeMsgSvc_quiet (request : BoardRequest) : Within Quiet (writeMsgSvc request) :=
  .bind .get fun _ => .bind (assert_quiet _) fun _ => .bind .get fun _ =>
    .branch (fun _ => enter_quiet fun _ _ => rfl) fun _ => .pure ()

theorem requestNamedSvrForMsgSvc_quiet : Within Quiet requestNamedSvrForMsgSvc :=
  .bind .get fun _ => .bind (modify_quiet (fun _ => rfl) fun _ => rfl) fun _ => .bind .get fun _ =>
    .branch (fun _ => .bind (enter_quiet fun _ _ => rfl) fun _ => .pure _) fun _ => .pure _

theorem open_quiet : Within Quiet WhiteBoard.open :=
  .bind .get fun _ => .bind (assert_quiet _) fun _ => .bind .get fun _ =>
    .bind (modify_quiet (fun _ => rfl) fun _ => rfl) fun _ => .bind (assert_quiet _) fun _ =>
      .bind requestNamedSvrForMsgSvc_quiet fun _ => assert_quiet _

theorem join_quiet (args : JoinArgs) : Within Quiet (join args) := by
  unfold join
  refine .bind (.ofOption _) fun _ => .bind (.ofOption _) fun _ => .bind (.ofOption _) fun _ => ?_
  refine .bind (.ofOption _) fun _ => .bind (.ofOption _) fun _ => .bind (.ofOption _) fun _ => ?_
  exact .bind (modify_quiet (fun _ => rfl) fun _ => rfl) fun _ => open_quiet

theorem leave_quiet (args : LeaveArgs) : Within Quiet (leave args) :=
  .bind (assert_quiet _) fun _ => .bind (modify_quiet (fun _ => rfl) fun _ => rfl) fun _ =>
    enter_quiet fun _ _ => rfl

theorem sendMessage_quiet (args : SendArgs) : Within Quiet (sendMessage args) := by
  unfold sendMessage
  refine .bind (assert_quiet _) fun _ => .bind (assert_quiet _) fun _ => ?_
  refine .bind (assert_quiet _) fun _ => .bind (assert_quiet _) fun _ => .bind .get fun _ => ?_
  exact .branch (fun _ => .bind .get fun _ => writeMsgSvc_quiet _) fun _ => .pure ()

theorem namedReply_quiet (ec1 : Int) (body : Option LuaValue) :
    Within Quiet (onRequestNamedSvrForMsgSvc ec1 body) := by
  unfold onRequestNamedSvrForMsgSvc requestMsgSvc
  refine .bind (assert_quiet _) fun _ => .bind (.ofOption _) fun _ => .bind (field_quiet ..) fun _ => ?_
  refine .bind (modify_quiet (fun _ => rfl) fun _ => rfl) fun _ => .bind .get fun _ => ?_
  refine .bind (assert_quiet _) fun _ => .bind .get fun _ => ?_
  exact .branch (fun _ => enter_quiet fun _ _ => rfl) fun _ => .pure ()

theorem handleMsgSvcError_quiet : Within Quiet handleMsgSvcError :=
  .bind .get fun _ => .branch (fun _ => enter_quiet fun _ _ => rfl) fun _ =>
    .bind (enter_quiet fun _ _ => rfl) fun _ => modify_quiet (fun _ => rfl) fun _ => rfl

theorem handleMsgSvcConnect_quiet (res : Bool) : Within Quiet (handleMsgSvcConnect res) :=
  .bind .get fun _ => .branch
    (fun _ => .branch (fun _ => writeMsgSvc_quiet _) fun _ => writeMsgSvc_quiet _)
    fun _ => handleMsgSvcError_quiet

theorem handleMsgSvcJoinback_quiet : Within Quiet handleMsgSvcJoinback :=
  .bind (enter_quiet fun _ _ => rfl) fun _ => .bind .get fun _ =>
    modify_quiet (fun _ => rfl) fun _ => rfl

theorem failed_apply {jsonData : LuaValue} (indexable : jsonData.indexable = true) (board : Board) :
    failed jsonData board = (errs jsonData, board) := by
  unfold failed errs
  simp only [field, LuaValue.field_of_indexable indexable, bind_apply, ofOption_apply, if_apply,
    pure_apply]
  split <;> rfl

/-- A message is a list that is taken for one, or leaves the members alone. -/
theorem msgSvcData_cases (message : Option LuaValue) (board : Board) :
    (Happening.msgSvcData message).listed = none ∧ Quiet board (handleMsgSvcData message board).2 ∨
      ∃ jsonData, message = some jsonData ∧ jsonData.indexable = true ∧
        (Happening.msgSvcData message).listed = some (jsonData.get "list") ∧
        handleMsgSvcData message board =
          handleMsgSvcListback jsonData { board with received := board.received + 1 } := by
  cases message with
  | none => exact .inl ⟨rfl, Frame.refl board⟩
  | some jsonData =>
    have counted : Quiet board { board with received := board.received + 1 } :=
      ⟨rfl, [], by simp, fun _ => rfl⟩
    unfold handleMsgSvcData
    simp only [bind_apply, ofOption_apply, modify_apply]
    cases indexable : jsonData.indexable with
    | false =>
      refine .inl ⟨by simp [Happening.listed, indexable], ?_⟩
      simp only [failed, field, LuaValue.field_of_not_indexable indexable, bind_apply, ofOption_apply]
      exact counted
    | true =>
      rw [failed_apply indexable]
      cases fine : errs jsonData with
      | none => exact .inl ⟨by simp [Happening.listed, fine], counted⟩
      | some err =>
        cases err with
        | true =>
          exact .inl ⟨by simp [Happening.listed, fine],
            Frame.trans counted (handleMsgSvcError_quiet.kept _)⟩
        | false =>
          simp only [Bool.false_eq_true, if_false, bind_apply, field,
            LuaValue.field_of_indexable indexable, ofOption_apply]
          generalize said : (jsonData.get "cmd").text.map String.ofList = cmd
          split
          · exact .inl ⟨by simp [Happening.listed, said],
              Frame.trans counted ((writeMsgSvc_quiet _).kept _)⟩
          · exact .inl ⟨by simp [Happening.listed, said],
              Frame.trans counted (handleMsgSvcJoinback_quiet.kept _)⟩
          · exact .inr ⟨jsonData, rfl, indexable, by simp [Happening.listed, indexable, fine, said], rfl⟩
          · exact .inl ⟨by simp [Happening.listed, said],
              Frame.trans counted ((enter_quiet fun _ _ => rfl).kept _)⟩
          · rename_i other
            refine .inl ⟨?_, counted⟩
            simp only [Happening.listed, said]
            rw [if_neg]
            rintro ⟨_, _, same⟩
            exact absurd same (by assumption)

/-! ### Runs -/

theorem step_run (taken : step board request = some (ended, after)) :
    after = (request.happening.run { board with calls := request.calls }).2 := by
  unfold step at taken
  split at taken
  · cases taken
    rfl
  · cases taken

/-- One step, and where it takes a list those inside behind it are the ones named. -/
theorem step_followed (followed : Followed start board) (probed : Probed board request)
    (taken : step board request = some (ended, after)) :
    Followed start after ∧ ∀ list, request.happening.listed = some list →
      ∀ uid, uid ∈ after.memberTable ↔ uid ∈ after.listedUids list := by
  have landed := step_run taken
  have begun : Followed start { board with calls := request.calls } :=
    ⟨followed.nodup, followed.told⟩
  have quietly : ∀ {reached}, Quiet { board with calls := request.calls } reached →
      after = reached → Followed start after := fun quiet same => same ▸ begun.quiet quiet
  obtain ⟨happening, calls⟩ := request
  dsimp only at quietly probed landed ⊢
  cases happening with
  | join args => exact ⟨quietly ((join_quiet args).kept _) landed, fun _ none => by cases none⟩
  | leave args => exact ⟨quietly ((leave_quiet args).kept _) landed, fun _ none => by cases none⟩
  | sendMessage args =>
    exact ⟨quietly ((sendMessage_quiet args).kept _) landed, fun _ none => by cases none⟩
  | namedReply ec1 body =>
    exact ⟨quietly ((namedReply_quiet ec1 body).kept _) landed, fun _ none => by cases none⟩
  | msgSvcConnect res =>
    exact ⟨quietly ((handleMsgSvcConnect_quiet res).kept _) landed, fun _ none => by cases none⟩
  | msgSvcData message =>
    rcases msgSvcData_cases message { board with calls := calls } with
      ⟨unlisted, quiet⟩ | ⟨jsonData, rfl, indexable, listed, same⟩
    · refine ⟨quietly quiet landed, fun list listed => ?_⟩
      rw [unlisted] at listed
      cases listed
    · obtain ⟨items, read, admits⟩ := probed _ listed
      have counted : Followed start
          { board with calls := calls, received := board.received + 1 } :=
        ⟨followed.nodup, followed.told⟩
      obtain ⟨reached, ran, followed', members⟩ := listback_followed counted indexable read admits
      have landed : after = reached := landed.trans (congrArg Prod.snd (same.trans ran))
      rw [landed]
      refine ⟨followed', fun list listed' => ?_⟩
      rw [listed] at listed'
      cases listed'
      exact members
  | msgSvcError =>
    exact ⟨quietly (handleMsgSvcError_quiet.kept _) landed, fun _ none => by cases none⟩
  | msgSvcTimeout =>
    have quiet : Within Quiet handleMsgSvcTimeout := .bind .get fun _ => writeMsgSvc_quiet _
    exact ⟨quietly (quiet.kept _) landed, fun _ none => by cases none⟩

/-- Behind the start every uid has joined and left in turn, and after a list those inside are
the ones it names. -/
def Matched (start : List Entry) (request : Request) (after : Board) : Prop :=
  ∃ new, after.history = start ++ new ∧ ∀ uid, Alternating (told uid new) ∧
    ∀ list, request.happening.listed = some list →
      (Inside (told uid new) ↔ uid ∈ after.listedUids list)

/-- From a board without members on, every step of a run whose lists are admitted leaves the
application told of those inside. -/
theorem members_run (vacant : board.memberTable = [])
    (probed : Runs.AllSteps step Probed board requests)
    (ran : Runs.run step board requests = some (replies, final)) :
    Runs.AllTaken step (fun _ request _ after => Matched board.history request after) board
      requests := by
  refine Runs.all_taken_of_defined (Followed board.history) ?_ ?_ probed ran
  · intro state request ended after followed probed taken
    obtain ⟨followed, members⟩ := step_followed followed probed taken
    obtain ⟨new, history, told⟩ := followed.told
    refine ⟨⟨new, history, fun uid => ⟨(told uid).1, fun list listed => ?_⟩⟩, followed⟩
    exact (told uid).2.trans (members list listed uid)
  · refine ⟨vacant ▸ List.nodup_nil, [], by simp, fun uid => ⟨⟨by simp [told], .nil⟩, ?_⟩⟩
    simp [vacant, told, Inside]

/-- A message that lists one student beside oneself. -/
def aloneWith (uid : Text) : LuaValue :=
  .object [("cmd".toList, .string "listback".toList), ("list".toList, .array [
    .object [("uid".toList, .string uid), ("type".toList, .string "stu".toList)]])]

/-- A list with a student that nobody has a place for yet is admitted. -/
private theorem aloneWith_probed {request : Request} (own : board.uid = some "1".toList)
    (uid : Text) (other : uid ≠ ['1'])
    (comes : request.happening = .msgSvcData (some (aloneWith uid)))
    (away : .string uid ∉ board.memberTable) : Probed board request := by
  intro list listed
  rw [comes] at listed
  cases listed
  refine ⟨_, rfl, ?_⟩
  simp [Admits, remoteUid, nickNameOf, LuaValue.get, LuaValue.field, LuaValue.truthy, LuaValue.isNil,
    List.lookup_cons, Uid.ofValue, roleOf, LuaValue.rawEqual, probe, own, away, Ne.symm other]

/-- A student who comes into the room, and another one who comes in the student's place. -/
def newcomers : List Request :=
  [{ happening := .msgSvcData (some (aloneWith "2".toList)) },
    { happening := .msgSvcData (some (aloneWith "3".toList)) }]

theorem newcomers_followed :
    Runs.AllTaken step (fun _ request _ after => Matched [] request after)
      { uid := some "1".toList, msgSvcWs := { held := true } } newcomers := by
  have probed : Runs.AllSteps step Probed { uid := some "1".toList, msgSvcWs := { held := true } }
      newcomers := by
    refine ⟨aloneWith_probed rfl _ (by decide) rfl (by decide), fun _ _ taken => ?_⟩
    cases taken
    exact ⟨aloneWith_probed rfl _ (by decide) rfl (by decide), fun _ _ _ => trivial⟩
  exact members_run rfl probed rfl

/-- The second list that names a student has the student join again. -/
theorem listed_twice_joins_twice :
    ∃ final, Runs.run step { uid := some "1".toList, msgSvcWs := { held := true } } [
        { happening := .msgSvcData (some (aloneWith "2".toList)) },
        { happening := .msgSvcData (some (aloneWith "2".toList)) }] = some ([true, true], final) ∧
      told (.string "2".toList) final.history = [true, true] ∧
      ¬ ∃ new, final.history = [] ++ new ∧ Alternating (told (.string "2".toList) new) := by
  refine ⟨_, rfl, rfl, ?_⟩
  rintro ⟨new, same, _, chain⟩
  rw [List.nil_append] at same
  subst same
  revert chain
  decide

end BeeSdk.WhiteBoard
