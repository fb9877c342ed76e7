import BeeSdk.MethodsKept
import BeeSdk.WhiteBoardScript

/-! The room that notifications name. The name given to `join` is kept as `room_name_display`,
while what is told of a room prints `room_name`, which neither object ever assigns and a party
takes from its room. The reason of a refusal is searched for that name as well. -/
namespace BeeSdk.RoomNames
open HttpHeader (Text)
open Signalling (Session Notification)
open WhiteBoard (Board)
open Script (Frame Within)
open Runs

/-! ### Both objects of the script -/

/-- Beside each object goes the name that was last given to join it. -/
structure Services where
  videoRoom : Session := {}
  board : Board := {}
  roomGiven : Option Text := none
  boardGiven : Option Text := none

inductive Request where
  | videoRoom (request : Signalling.Request)
  | board (request : WhiteBoard.Request)

/-- The name that is given by joining the video room, or the board. -/
def roomJoined : Signalling.Happening → Option Text
  | .join args => args.roomName
  | _ => none

def boardJoined : WhiteBoard.Happening → Option Text
  | .join args => args.roomName
  | _ => none

/-- Neither object knows of the other. -/
def step (services : Services) : Request → Option (Bool × Services)
  | .videoRoom request => (Signalling.step services.videoRoom request).map fun (ended, next) =>
      (ended, { services with
        videoRoom := next
        roomGiven := (roomJoined request.happening).or services.roomGiven })
  | .board request => (WhiteBoard.step services.board request).map fun (ended, next) =>
      (ended, { services with
        board := next
        boardGiven := (boardJoined request.happening).or services.boardGiven })

/-- What `%s` prints of a name. -/
def printed (roomName : Option Text) : Text := roomName.getD "nil".toList

/-- What stands in the `room_name` of a notification of the board, where it has that field. The
message of leaving is the one without it. -/
def boardRoom : WhiteBoard.Notification → Option Text
  | .localJoin _ => some (printed none)
  | .localLeave ec => if ec = 0 then none else some (printed none)
  | .message _ => some (printed none)
  | .remoteJoin _ _ _ => none
  | .remoteLeave _ => none

/-! ### What is asked of a step -/

/-- Where a name has been given, every notification that is made names the room by it. -/
def RoomNamed (given : Option Text) (before after : Session) : Prop :=
  ∀ name, given = some name → ∀ party notification,
    .notifies party notification ∈ after.history.drop before.history.length →
      printed notification.roomName = name

def BoardNamed (given : Option Text) (before after : Board) : Prop :=
  ∀ name, given = some name → ∀ notification room,
    .notifies notification ∈ after.history.drop before.history.length →
      boardRoom notification = some room → room = name

/-- A message of the service that is a refusal. -/
def refusal (jsonData : LuaValue) : Bool :=
  ¬ (jsonData.get "result").isNil ∧ ¬ (jsonData.get "result").rawEqual (.integer 1) ∧
    ¬ (jsonData.get "reason").isNil

/-- The reason says that the room of that name exists. -/
def saysExists (name : Text) (jsonData : LuaValue) : Bool :=
  match jsonData.get "reason" with
  | .string reason => (TextSearch.find ("Room:".toList ++ name ++ " exist".toList) reason).isSome
  | _ => false

def answersCreate (jsonData : LuaValue) : Bool :=
  (jsonData.get "cmd").text = some "createback".toList

/-- The message by which a board that could not join, or has to leave, is told of. -/
def failure (board : Board) : WhiteBoard.Entry :=
  .notifies (if board.joined then .localLeave 16 else .localJoin 38)

/-- A create request that is refused because the room exists already is followed by a join
request, which is sent where the socket takes it; every other refusal is reported once, as a
failure. -/
def RefusalAnswered (name : Text) (jsonData : LuaValue) (writes : Bool) (before after : Board) : Prop :=
  if answersCreate jsonData ∧ saysExists name jsonData then
    after.history = before.history ++ if writes then [.asks (WhiteBoard.joinRequest before)] else []
  else after.history = before.history ++ [failure before]

/-- The refusal that reaches a board which has joined and not left, and whether its socket takes
what is written then. -/
def refused (services : Services) : Request → Option (Text × LuaValue × Bool)
  | .board { happening := .msgSvcData (some jsonData), calls := calls } =>
    services.boardGiven.bind fun name =>
      if refusal jsonData ∧ services.board.msgSvcWs.held then some (name, jsonData, calls.writes)
      else none
  | _ => none

/-- The claim of one step. -/
structure Right (services : Services) (request : Request) (ended : Bool) (next : Services) : Prop where
  room : RoomNamed next.roomGiven services.videoRoom next.videoRoom
  board : BoardNamed next.boardGiven services.board next.board
  refusal : ∀ name jsonData writes, refused services request = some (name, jsonData, writes) →
    RefusalAnswered name jsonData writes services.board next.board

/-- A join gives the name, where it gives one. -/
def Joins (name : Text) : Request → Prop
  | .videoRoom request => ∀ given, roomJoined request.happening = some given → given = name
  | .board request => ∀ given, boardJoined request.happening = some given → given = name

/-- The reason of a refusal is a text or a number, and one that says that the room exists answers
a create request. -/
def PlainRefusal (services : Services) (request : Request) : Prop :=
  ∀ name jsonData writes, refused services request = some (name, jsonData, writes) →
    (jsonData.get "reason").isString = true ∧ (saysExists name jsonData → answersCreate jsonData)

/-! ### Names that go round -/

/-- Nothing gets a name that nothing had, and what is told names the room by one that was there. -/
structure Naming (before after : Session) : Prop where
  names : ∀ roomName, after.HasName roomName → before.HasName roomName
  history : ∃ new, after.history = before.history ++ new ∧ ∀ party notification,
    .notifies party notification ∈ new → before.HasName notification.roomName

instance naming_frame : Frame Naming where
  refl session := ⟨fun _ => id, [], (List.append_nil _).symm, by simp⟩
  trans first second := by
    obtain ⟨new, history, named⟩ := first.history
    obtain ⟨new', history', named'⟩ := second.history
    refine ⟨fun roomName has => first.names roomName (second.names roomName has), new ++ new',
      by rw [history', history, List.append_assoc], fun party notification member => ?_⟩
    rcases List.mem_append.mp member with early | late
    · exact named party notification early
    · exact first.names _ (named' party notification late)

/-- Nothing is told, and nothing gets another name. -/
theorem Naming.quiet {before after : Session} (history : after.history = before.history)
    (room : after.room.roomName = before.room.roomName)
    (parties : ∀ party, before.HasName (after.parties party).roomName) : Naming before after := by
  refine ⟨fun roomName has => ?_, [], by rw [history, List.append_nil], by simp⟩
  rcases has with rfl | ⟨party, rfl⟩
  · exact .inl room
  · exact parties party

theorem Naming.same {before after : Session} (history : after.history = before.history)
    (room : after.room = before.room) (parties : after.parties = before.parties) :
    Naming before after :=
  .quiet history (by rw [room]) fun party => .inr ⟨party, by rw [parties]⟩

theorem Naming.party (session : Session) (party : Nat) {change : Signalling.Party → Signalling.Party}
    (named : ∀ before, (change before).roomName = before.roomName) :
    Naming session (session.updateParty party change) := by
  refine .quiet rfl rfl fun other => .inr ⟨other, ?_⟩
  by_cases same : other = party
  · rw [same, Session.updateParty_self, named]
  · rw [Session.updateParty_other _ _ _ same]

theorem Naming.make (session : Session) {party : Signalling.Party}
    (named : party.roomName = session.room.roomName) : Naming session (session.make party) := by
  refine .quiet rfl rfl fun other => ?_
  by_cases same : other = session.made
  · have new : (session.make party).parties other = party := if_pos same
    exact .inl (by rw [new, named])
  · have old : (session.make party).parties other = session.parties other := if_neg same
    exact .inr ⟨other, by rw [old]⟩

theorem Naming.enter (session : Session) {entry : Signalling.Entry}
    (named : ∀ party notification, entry = .notifies party notification →
      session.HasName notification.roomName) : Naming session (session.enter entry) :=
  ⟨fun _ => id, [entry], rfl, fun party notification member =>
    named party notification (List.mem_singleton.mp member).symm⟩

instance naming_keeps : Signalling.KeepsCandidates Naming where
  room _ _ named := .quiet rfl (named _) fun party => .inr ⟨party, rfl⟩
  party session party _ mild := .party session party fun before => (mild before).roomName
  make session _ named _ _ := .make session named
  enter session entry plain := by
    refine .enter session fun party notification same => ?_
    cases same
    exact plain
  fileHandle _ _ _ := .same rfl rfl rfl
  forgetHandle _ _ := .same rfl rfl rfl
  ack _ _ _ _ := .same rfl rfl rfl
  removeTransaction _ _ := .same rfl rfl rfl
  wires session party _ named := .party session party named
  gathers session _ _ := .enter session fun _ _ same => by cases same
  trickles session _ _ _ _ := .enter session fun _ _ same => by cases same
  insertCandidate _ _ := .same rfl rfl rfl

theorem transacts_naming : Signalling.Transacts Naming := fun _ _ _ => .same rfl rfl rfl

/-- No name is ever there. -/
def Nameless (session : Session) : Prop := ∀ roomName, session.HasName roomName → roomName = none

theorem nameless_step {session next : Session} (nameless : Nameless session)
    (taken : Signalling.step session request = some (ended, next)) :
    Nameless next ∧ ∀ party notification,
      .notifies party notification ∈ next.history.drop session.history.length →
        notification.roomName = none := by
  have naming : Naming { session with calls := request.calls }
      (request.happening.run { session with calls := request.calls }).2 :=
    (request.happening.run_kept transacts_naming).kept _
  unfold Signalling.step at taken
  split at taken
  · generalize request.happening.run { session with calls := request.calls } = result at naming taken
    cases taken
    obtain ⟨new, history, named⟩ := naming.history
    refine ⟨fun roomName has => nameless roomName (naming.names roomName has), ?_⟩
    intro party notification member
    rw [history, List.drop_left'] at member
    · exact nameless _ (named party notification member)
    · rfl
  · cases taken

/-! ### Refusals -/

/-- What a script adds to the history of the board. -/
def Adds (allowed : WhiteBoard.Entry → Prop) (before after : Board) : Prop :=
  ∃ new, after.history = before.history ++ new ∧ ∀ entry ∈ new, allowed entry

instance adds_frame (allowed : WhiteBoard.Entry → Prop) : Frame (Adds allowed) where
  refl _ := ⟨[], (List.append_nil _).symm, by simp⟩
  trans := by
    rintro _ _ _ ⟨new, history, all⟩ ⟨new', history', all'⟩
    refine ⟨new ++ new', by rw [history', history, List.append_assoc], fun entry member => ?_⟩
    exact (List.mem_append.mp member).elim (all entry) (all' entry)

section
variable {allowed : WhiteBoard.Entry → Prop}

theorem Adds.same {before after : Board} (history : after.history = before.history) :
    Adds allowed before after := ⟨[], by rw [history, List.append_nil], by simp⟩

theorem modify_adds {change : Board → Board} (same : ∀ before, (change before).history = before.history) :
    Within (Adds allowed) (Script.modify change) :=
  ⟨fun board => .same (same board)⟩

theorem enter_adds {entry : WhiteBoard.Entry} (may : allowed entry) :
    Within (Adds allowed) (Script.modify (·.enter entry)) :=
  ⟨fun _ => ⟨[entry], rfl, fun _ member => List.mem_singleton.mp member ▸ may⟩⟩

theorem field_adds (value : LuaValue) (key : String) :
    Within (Adds allowed) (WhiteBoard.field value key) := .ofOption _

/-- A list tells of members only. -/
theorem listback_adds (jsonData : LuaValue)
    (joins : ∀ uid nickName role, allowed (.notifies (.remoteJoin uid nickName role)))
    (leaves : ∀ uid, allowed (.notifies (.remoteLeave uid))) :
    Within (Adds allowed) (WhiteBoard.handleMsgSvcListback jsonData) := by
  have admitted : ∀ place entry, Within (Adds allowed) (WhiteBoard.admitEntry place entry) := by
    intro place entry
    refine .branch (fun _ => ?_) fun _ => .pure _
    refine (field_adds ..).discard.bind fun _ => .bind .get fun _ => ?_
    split
    · exact .pure _
    · refine (field_adds ..).bind fun _ => .bind (.ofOption _) fun nickName =>
        (field_adds ..).bind fun type => .bind .get fun _ => .branch (fun _ => ?_) fun _ => .pure _
      exact .bind (.ofOption _) fun role => .bind (enter_adds (joins ..)) fun _ =>
        .bind (modify_adds fun _ => rfl) fun _ => .pure _
  have all : ∀ items place, Within (Adds allowed) (WhiteBoard.admitAll place items) := by
    intro items
    induction items with
    | nil => exact fun _ => .pure _
    | cons entry rest ih =>
      exact fun place => (admitted place entry).bind fun _ => (ih (place + 1)).bind fun _ => .pure _
  have gone : ∀ current rest kept, Within (Adds allowed) (WhiteBoard.dismiss current kept rest) := by
    intro current rest
    induction rest with
    | nil => exact fun _ => .pure ()
    | cons uid rest ih =>
      intro kept
      exact .branch (fun _ => ih _) fun _ => .bind (enter_adds (leaves uid)) fun _ =>
        .bind (modify_adds fun _ => rfl) fun _ => ih kept
  exact (field_adds ..).bind fun _ => .bind (.ofOption _) fun items => (all items 1).bind fun current =>
    .bind .get fun _ => gone current _ []

end

/-- Neither of the failures. -/
def Unfailing (entry : WhiteBoard.Entry) : Prop :=
  entry ≠ .notifies (.localJoin 38) ∧ entry ≠ .notifies (.localLeave 16)

theorem Adds.unfailing {before after : Board} (adds : Adds Unfailing before after) :
    after.history ≠ before.history ++ [failure before] := by
  intro failed
  obtain ⟨new, history, unfailing⟩ := adds
  have same : new = [failure before] := List.append_cancel_left (history.symm.trans failed)
  have never := unfailing (failure before) (by rw [same]; exact List.mem_singleton.mpr rfl)
  unfold failure at never
  cases joined : before.joined with
  | true => exact never.2 (by rw [joined]; rfl)
  | false => exact never.1 (by rw [joined]; rfl)

/-- The name that is printed for none. -/
def nilName : Text := printed none

theorem refusal_indexable {jsonData : LuaValue} (refused : refusal jsonData = true) :
    jsonData.indexable = true := by
  cases indexable : jsonData.indexable with
  | true => rfl
  | false =>
    simp [refusal, LuaValue.get, LuaValue.field_of_not_indexable indexable, LuaValue.isNil] at refused

theorem refusal_refused {jsonData : LuaValue} (refused : refusal jsonData = true) :
    (jsonData.get "result").isNil = false ∧ (jsonData.get "result").rawEqual (.integer 1) = false ∧
      (jsonData.get "reason").isNil = false := by
  simpa [refusal] using refused

theorem failed_refused {jsonData : LuaValue} (refused : refusal jsonData = true) (board : Board) :
    WhiteBoard.failed jsonData board = (WhiteBoard.strange (jsonData.get "reason"), board) := by
  have indexable := refusal_indexable refused
  obtain ⟨result, one, reason⟩ := refusal_refused refused
  unfold WhiteBoard.failed
  simp [WhiteBoard.field, LuaValue.field_of_indexable indexable, result, one, reason]

/-- The reason is searched for the name that is printed for none. -/
theorem strange_reason (jsonData : LuaValue) :
    WhiteBoard.strange (jsonData.get "reason") =
      if (jsonData.get "reason").isString then some (! saysExists nilName jsonData) else none := by
  unfold saysExists WhiteBoard.strange
  cases jsonData.get "reason" with
  | string reason =>
    have same : "Room:".toList ++ nilName ++ " exist".toList = WhiteBoard.existStr := by decide
    simp only [same, LuaValue.isString, if_true]
    cases TextSearch.find WhiteBoard.existStr reason <;> rfl
  | nil => rfl
  | null => rfl
  | boolean _ => rfl
  | integer _ => rfl
  | fraction _ => rfl
  | array _ => rfl
  | object _ => rfl

theorem unreadable_refusal {jsonData : LuaValue} (refused : refusal jsonData = true) (before : Board)
    (strange : WhiteBoard.strange (jsonData.get "reason") = none) :
    (WhiteBoard.handleMsgSvcData (some jsonData) before).2.history = before.history := by
  unfold WhiteBoard.handleMsgSvcData
  simp only [Script.bind_apply, Script.ofOption_apply, Script.modify_apply, failed_refused refused, strange]

theorem told_refusal {jsonData : LuaValue} (refused : refusal jsonData = true) (before : Board)
    (strange : WhiteBoard.strange (jsonData.get "reason") = some true) :
    (WhiteBoard.handleMsgSvcData (some jsonData) before).2.history =
      before.history ++ [failure before] := by
  unfold WhiteBoard.handleMsgSvcData
  simp only [Script.bind_apply, Script.ofOption_apply, Script.modify_apply, failed_refused refused, strange,
    if_true, WhiteBoard.handleMsgSvcError, Script.get_apply, failure]
  cases before.joined <;> rfl

/-- What is done with a refusal that is taken for no error. -/
theorem handled_refusal {jsonData : LuaValue} {before : Board} (held : before.msgSvcWs.held = true)
    (refused : refusal jsonData = true)
    (familiar : WhiteBoard.strange (jsonData.get "reason") = some false) :
    (answersCreate jsonData = true → (WhiteBoard.handleMsgSvcData (some jsonData) before).2.history =
      before.history ++ if before.calls.writes then [.asks (WhiteBoard.joinRequest before)] else []) ∧
    (answersCreate jsonData = false →
      Adds Unfailing before (WhiteBoard.handleMsgSvcData (some jsonData) before).2) := by
  have indexable := refusal_indexable refused
  unfold WhiteBoard.handleMsgSvcData
  simp only [Script.bind_apply, Script.ofOption_apply, Script.modify_apply, failed_refused refused, familiar,
    Bool.false_eq_true, if_false, WhiteBoard.field, LuaValue.field_of_indexable indexable]
  constructor
  · intro create
    have said : (jsonData.get "cmd").text.map String.ofList = some "createback" := by
      rw [of_decide_eq_true create]
      rfl
    rw [said]
    simp only [WhiteBoard.handleMsgSvcCreateback, WhiteBoard.writeMsgSvc, WhiteBoard.assert, held, if_true,
      Script.bind_apply, Script.get_apply, Script.pure_apply]
    cases before.calls.writes with
    | true => rfl
    | false => exact (List.append_nil _).symm
  · intro other
    have counted : Adds Unfailing before { before with received := before.received + 1 } := .same rfl
    refine Frame.trans counted (Within.kept ?_ _)
    split
    · rename_i said
      obtain ⟨cmd, spelled, same⟩ := Option.map_eq_some_iff.mp said
      refine absurd ?_ (ne_true_of_eq_false other)
      rw [answersCreate, spelled, ← same, String.toList_ofList]
      exact decide_eq_true rfl
    · exact .bind (enter_adds (by simp [Unfailing])) fun _ => .bind .get fun _ => modify_adds fun _ => rfl
    · exact listback_adds jsonData (fun _ _ _ => by simp [Unfailing]) fun _ => by simp [Unfailing]
    · exact .bind (.ofOption _) fun _ => enter_adds (by simp [Unfailing])
    · exact .pure ()

/-- Where the board joined the room called as none is printed, a refusal is answered as it should
be if and only if it is a plain one. -/
theorem refusal_answered_iff {jsonData : LuaValue} {before : Board}
    (held : before.msgSvcWs.held = true) (refused : refusal jsonData = true) :
    RefusalAnswered nilName jsonData before.calls.writes before
        (WhiteBoard.handleMsgSvcData (some jsonData) before).2 ↔
      (jsonData.get "reason").isString = true ∧ (saysExists nilName jsonData → answersCreate jsonData) := by
  have unanswered : saysExists nilName jsonData = false → ∀ {after}, after.history =
      before.history ++ [failure before] → RefusalAnswered nilName jsonData before.calls.writes before after := by
    intro unsaid after told
    rw [RefusalAnswered, if_neg (by simp [unsaid])]
    exact told
  have strange := strange_reason jsonData
  cases string : (jsonData.get "reason").isString with
  | false =>
    rw [string, if_neg Bool.false_ne_true] at strange
    refine iff_of_false (fun answered => ?_) fun plain => Bool.false_ne_true plain.1
    have unsaid : saysExists nilName jsonData = false := by
      unfold saysExists
      split
      · rename_i reason same
        rw [same] at string
        cases string
      · rfl
    rw [RefusalAnswered, if_neg (by simp [unsaid]), unreadable_refusal refused before strange] at answered
    simp at answered
  | true =>
    rw [string, if_pos rfl] at strange
    cases said : saysExists nilName jsonData with
    | false =>
      rw [said] at strange
      exact iff_of_true (unanswered said (told_refusal refused before strange))
        ⟨rfl, fun never => absurd never Bool.false_ne_true⟩
    | true =>
      rw [said] at strange
      obtain ⟨create, other⟩ := handled_refusal held refused strange
      cases answers : answersCreate jsonData with
      | true =>
        refine iff_of_true ?_ ⟨rfl, fun _ => rfl⟩
        rw [RefusalAnswered, if_pos ⟨answers, said⟩]
        exact create answers
      | false =>
        refine iff_of_false ?_ fun plain => absurd (plain.2 rfl) Bool.false_ne_true
        rw [RefusalAnswered, if_neg (by simp [answers])]
        exact (other answers).unfailing

theorem refused_inv {services : Services} {request : Request}
    (found : refused services request = some (name, jsonData, writes)) :
    ∃ calls, request = .board { happening := .msgSvcData (some jsonData), calls := calls } ∧
      writes = calls.writes ∧ services.boardGiven = some name ∧ refusal jsonData = true ∧
      services.board.msgSvcWs.held = true := by
  unfold refused at found
  split at found
  · obtain ⟨given, named, found⟩ := Option.bind_eq_some_iff.mp found
    split at found
    · rename_i here
      cases found
      exact ⟨_, rfl, rfl, named, here⟩
    · cases found
  · cases found

theorem boardRoom_nil {notification : WhiteBoard.Notification}
    (told : boardRoom notification = some room) : room = nilName := by
  cases notification with
  | localJoin ec => exact (Option.some.inj told).symm
  | localLeave ec =>
    by_cases silent : ec = 0
    · rw [boardRoom, if_pos silent] at told
      cases told
    · rw [boardRoom, if_neg silent] at told
      exact (Option.some.inj told).symm
  | remoteJoin uid nickName role => cases told
  | remoteLeave uid => cases told
  | message sender => exact (Option.some.inj told).symm

/-! ### Whole runs -/

/-- Nothing has a name of its own, and the names that have been given are the one. -/
structure Unnamed (name : Text) (services : Services) : Prop where
  nameless : Nameless services.videoRoom
  room : ∀ given, services.roomGiven = some given → given = name
  board : ∀ given, services.boardGiven = some given → given = name

theorem given_one {joined before : Option Text} (one : ∀ given, joined = some given → given = name)
    (earlier : ∀ given, before = some given → given = name) (given : Text)
    (either : joined.or before = some given) : given = name := by
  cases joined with
  | none => exact earlier given either
  | some joined =>
    cases either
    exact one given rfl

theorem unnamed_step {services next : Services} (unnamed : Unnamed name services)
    (joins : Joins name request) (taken : step services request = some (ended, next)) :
    Unnamed name next := by
  cases request with
  | videoRoom request =>
    obtain ⟨⟨_, reached⟩, ran, same⟩ := Option.map_eq_some_iff.mp taken
    cases same
    exact ⟨(nameless_step unnamed.nameless ran).1, given_one joins unnamed.room, unnamed.board⟩
  | board request =>
    obtain ⟨⟨_, reached⟩, ran, same⟩ := Option.map_eq_some_iff.mp taken
    cases same
    exact ⟨unnamed.nameless, unnamed.room, given_one joins unnamed.board⟩

/-- In a room that is called as none is printed, the names are right in any case. -/
theorem step_right_iff {services next : Services} (unnamed : Unnamed nilName services)
    (joins : Joins nilName request) (taken : step services request = some (ended, next)) :
    Right services request ended next ↔ PlainRefusal services request := by
  have after := unnamed_step unnamed joins taken
  have room : RoomNamed next.roomGiven services.videoRoom next.videoRoom := by
    intro given named party notification member
    rw [after.room given named]
    cases request with
    | videoRoom request =>
      obtain ⟨⟨_, reached⟩, ran, same⟩ := Option.map_eq_some_iff.mp taken
      cases same
      exact congrArg printed ((nameless_step unnamed.nameless ran).2 party notification member)
    | board request =>
      obtain ⟨⟨_, reached⟩, ran, same⟩ := Option.map_eq_some_iff.mp taken
      cases same
      rw [List.drop_length] at member
      cases member
  have board : BoardNamed next.boardGiven services.board next.board := by
    intro given named notification room _ told
    rw [after.board given named]
    exact boardRoom_nil told
  have answered : ∀ given jsonData writes, refused services request = some (given, jsonData, writes) →
      (RefusalAnswered given jsonData writes services.board next.board ↔
        (jsonData.get "reason").isString = true ∧ (saysExists given jsonData → answersCreate jsonData)) := by
    intro given jsonData writes found
    obtain ⟨calls, rfl, rfl, named, refusal, held⟩ := refused_inv found
    obtain rfl := unnamed.board given named
    obtain ⟨⟨_, reached⟩, ran, same⟩ := Option.map_eq_some_iff.mp taken
    cases same
    unfold WhiteBoard.step at ran
    split at ran
    · cases ran
      exact @refusal_answered_iff jsonData { services.board with calls := calls } held refusal
    · cases ran
  exact ⟨fun right given jsonData writes found =>
      (answered given jsonData writes found).mp (right.refusal given jsonData writes found),
    fun plain => ⟨room, board, fun given jsonData writes found =>
      (answered given jsonData writes found).mpr (plain given jsonData writes found)⟩⟩

def joinArgs (name : Text) : WhiteBoard.JoinArgs where
  roomName := some name
  create := some true
  uid := some "u".toList
  nickName := some "n".toList
  token := some "t".toList
  role := some 1

/-- The board joins, and its socket fails. -/
def failedJoin (name : Text) : List Request :=
  [.board { happening := .join (joinArgs name) }, .board { happening := .msgSvcError }]

/-- For the room called as none is printed, and for no other, every run names the room and answers
its refusals as it should exactly where the refusals are plain. -/
theorem names_right_iff (name : Text) :
    (∀ requests replies final, (∀ request ∈ requests, Joins name request) →
      run step {} requests = some (replies, final) →
      (AllTaken step Right {} requests ↔ AllSteps step PlainRefusal {} requests)) ↔
    name = nilName := by
  constructor
  · intro exactly
    obtain ⟨replies, final, ran⟩ : ∃ replies final, run step {} (failedJoin name) = some (replies, final) :=
      ⟨_, _, rfl⟩
    have joins : ∀ request ∈ failedJoin name, Joins name request := by
      simp [failedJoin, Joins, boardJoined, joinArgs]
    have plain : AllSteps step PlainRefusal {} (failedJoin name) :=
      .of_forall fun services request member given jsonData writes found => by
        obtain ⟨calls, rfl, _⟩ := refused_inv found
        simp [failedJoin] at member
    obtain ⟨_, _, joined, _, _, _, failed, right, _⟩ := (exactly _ _ _ joins ran).mpr plain
    cases joined
    cases failed
    exact (right.board name rfl (.localJoin 38) nilName (List.mem_singleton.mpr rfl) rfl).symm
  · rintro rfl requests replies final joins ran
    exact taken_iff_of_allowed (Unnamed nilName) (Joins nilName)
      (fun _ _ _ _ unnamed joins taken => step_right_iff unnamed joins taken)
      (fun _ _ _ _ unnamed joins _ taken => unnamed_step unnamed joins taken) joins
      ⟨by rintro _ (rfl | ⟨_, rfl⟩) <;> rfl, by simp, by simp⟩ ran

/-- The room `r` is created on the board and exists already. -/
def existingRoom : List Request :=
  [.board { happening := .join (joinArgs "r".toList) },
    .board { happening := .namedReply 0 (some (.object [("stream_name".toList, .string "id".toList)])) },
    .board { happening := .msgSvcConnect true },
    .board { happening := .msgSvcData (some (.object [("cmd".toList, .string "createback".toList),
      ("result".toList, .integer 0), ("reason".toList, .string "Room:r exist".toList)])) }]

/-- No join request follows: the board is told that joining `nil` has failed. -/
theorem existing_room_fails :
    ¬ ∀ (name : Text) (requests : List Request) (replies : List Bool) (final : Services),
      (∀ request ∈ requests, Joins name request) →
      run step {} requests = some (replies, final) → AllTaken step Right {} requests := by
  intro right
  obtain ⟨replies, final, ran⟩ : ∃ replies final, run step {} existingRoom = some (replies, final) :=
    ⟨_, _, rfl⟩
  have joins : ∀ request ∈ existingRoom, Joins "r".toList request := by
    simp [existingRoom, Joins, boardJoined, joinArgs]
  obtain ⟨_, _, joined, _, _, _, named, _, _, _, connected, _, _, _, refused, answered, _⟩ :=
    right _ existingRoom replies final joins ran
  cases joined
  cases named
  cases connected
  cases refused
  have followed := answered.refusal "r".toList _ true rfl
  rw [RefusalAnswered, if_pos (by decide +kernel)] at followed
  cases List.append_cancel_left followed

end BeeSdk.RoomNames
