import BeeSdk.PartySetup

/-! What is told of the joining and leaving of parties and what the room keeps of them, and
the methods that leave all of that alone. -/
namespace BeeSdk.Signalling
open HttpHeader (Text)
open Script

/-- What an entry tells of a party's joining and leaving. -/
def Entry.report (party : Nat) : Entry → Option (Nat × Int)
  | .notifies (some other) (.ofParty type ec _ _ _) => if other = party then some (type, ec) else none
  | _ => none

/-- Everything told of a party's joining and leaving. -/
def Session.told (session : Session) (party : Nat) : List (Nat × Int) :=
  session.history.filterMap (Entry.report party)

/-- What the room keeps of its parties. -/
structure Books where
  pushes : AList fun _ : Text => Nat
  pulls : AList fun _ : Text => Nat
  pushCount : Int
  pullCount : Int

def VideoRoom.books (room : VideoRoom) : Books where
  pushes := room.pushStreamPartyTable
  pulls := room.pullStreamPartyTable
  pushCount := room.pushStreamCount
  pullCount := room.pullStreamCount

/-- Nothing happens that concerns the joining and leaving of a party. -/
structure Aside (before after : Session) : Prop where
  calls : after.calls = before.calls
  made : after.made = before.made
  look : ∀ party, (after.parties party).look = (before.parties party).look
  conns : ∀ party, (after.parties party).conns = (before.parties party).conns
  books : after.room.books = before.room.books
  told : ∀ party, after.told party = before.told party
  known : ∀ party, after.Knows party → before.Knows party

instance aside_frame : Frame Aside where
  refl _ := ⟨rfl, rfl, fun _ => rfl, fun _ => rfl, rfl, fun _ => rfl, fun _ => id⟩
  trans first second := ⟨second.calls.trans first.calls, second.made.trans first.made,
    fun party => (second.look party).trans (first.look party),
    fun party => (second.conns party).trans (first.conns party), second.books.trans first.books,
    fun party => (second.told party).trans (first.told party),
    fun party knows => first.known party (second.known party knows)⟩

theorem Aside.refl (session : Session) : Aside session session := Frame.refl session

theorem Aside.trans (first : Aside before middle) (second : Aside middle after) :
    Aside before after := Frame.trans first second

theorem Aside.pulls (aside : Aside before after) :
    after.room.pullStreamPartyTable = before.room.pullStreamPartyTable :=
  congrArg Books.pulls aside.books

theorem Aside.pushes (aside : Aside before after) :
    after.room.pushStreamPartyTable = before.room.pushStreamPartyTable :=
  congrArg Books.pushes aside.books

/-- A script that leaves the joining and leaving of parties alone. -/
abbrev Steady (script : Lua A) : Prop := Within Aside script

/-! ### Small steps aside -/

theorem Aside.room (session : Session) {change : VideoRoom → VideoRoom}
    (books : ∀ room, (change room).books = room.books) : Aside session (session.updateRoom change) :=
  ⟨rfl, rfl, fun _ => rfl, fun _ => rfl, books _, fun _ => rfl, fun _ => id⟩

theorem Aside.party (session : Session) (party : Nat) {change : Party → Party}
    (look : ∀ before, (change before).look = before.look)
    (conns : ∀ before, (change before).conns = before.conns) :
    Aside session (session.updateParty party change) where
  calls := rfl
  made := rfl
  look other := by
    by_cases same : other = party
    · rw [same, Session.updateParty_self, look]
    · rw [Session.updateParty_other _ _ _ same]
  conns other := by
    by_cases same : other = party
    · rw [same, Session.updateParty_self, conns]
    · rw [Session.updateParty_other _ _ _ same]
  books := rfl
  told _ := rfl
  known _ := id

theorem Aside.entry (session : Session) {entry : Entry}
    (silent : ∀ party, entry.report party = none) : Aside session (session.enter entry) where
  calls := rfl
  made := rfl
  look _ := rfl
  conns _ := rfl
  books := rfl
  told party := by simp [Session.told, silent party]
  known _ := id

theorem Aside.transact (session : Session) (hasRsp : Bool) :
    Aside session (session.transact hasRsp none) where
  calls := rfl
  made := rfl
  look _ := rfl
  conns _ := rfl
  books := rfl
  told _ := rfl
  known party knows := by
    rcases transact_known session hasRsp none party knows with old | ⟨_, called, _⟩
    · exact old
    · cases called

theorem Aside.removeTransaction (session : Session) (id : Text) :
    Aside session (session.removeTransaction id) where
  calls := rfl
  made := rfl
  look _ := rfl
  conns _ := rfl
  books := rfl
  told _ := rfl
  known party knows := by
    rcases knows with handle | ⟨other, transaction, cb, filed, calls⟩
    · exact .inl handle
    · unfold Session.removeTransaction at filed
      dsimp only at filed
      split at filed
      · cases filed
      · exact .inr ⟨other, transaction, cb, filed, calls⟩

/-- The transaction is filed again with the callback it had. -/
theorem Aside.ack {session : Session} {id : Text} {found : Transaction}
    (filed : session.transactionTable id = some found) :
    Aside session (session.fileTransaction id { found with acked := true }) where
  calls := rfl
  made := rfl
  look _ := rfl
  conns _ := rfl
  books := rfl
  told _ := rfl
  known party knows := by
    rcases knows with handle | ⟨other, transaction, cb, filed', calls⟩
    · exact .inl handle
    · unfold Session.fileTransaction at filed'
      dsimp only at filed'
      split at filed'
      · cases filed'
        exact .inr ⟨id, found, cb, filed, calls⟩
      · exact .inr ⟨other, transaction, cb, filed', calls⟩

theorem setRoom_steady {change : VideoRoom → VideoRoom}
    (books : ∀ room, (change room).books = room.books) : Steady (setRoom change) :=
  ⟨fun session => .room session books⟩

theorem setParty_steady {change : Party → Party} (party : Nat)
    (look : ∀ before, (change before).look = before.look)
    (conns : ∀ before, (change before).conns = before.conns) : Steady (setParty party change) :=
  ⟨fun session => .party session party look conns⟩

theorem enter_steady {entry : Entry} (silent : ∀ party, entry.report party = none) :
    Steady (enter entry) :=
  ⟨fun session => .entry session silent⟩

theorem theRoom_steady : Steady theRoom := ⟨.refl⟩
theorem theCalls_steady : Steady theCalls := ⟨.refl⟩
theorem theParty_steady (party : Nat) : Steady (theParty party) := ⟨.refl⟩

theorem assert_steady (holds : Bool) : Steady (assert holds) := .branch (fun _ => .pure ()) fun _ => .raise

theorem field_steady (value : LuaValue) (key : String) : Steady (field value key) := .ofOption _

theorem formatInteger_steady (value : LuaValue) : Steady (formatInteger value) := .ofOption _

/-! ### Steady methods -/

namespace VideoRoom

theorem createTransaction_steady (hasRsp : Bool) : Steady (createTransaction hasRsp none) :=
  ⟨fun session => .transact session hasRsp⟩

theorem reportData_steady {notification : Notification}
    (silent : ∀ party, (Entry.notifies told notification).report party = none) :
    Steady (reportData told notification) := enter_steady silent

theorem requestMediaSvc_steady : Steady requestMediaSvc :=
  theRoom_steady.bind fun _ => (assert_steady _).bind fun _ => theCalls_steady.bind fun _ =>
    .branch (fun _ => enter_steady fun _ => rfl) fun _ => .pure ()

theorem writeMediaSvc_steady (request : RoomRequest) : Steady (writeMediaSvc request) :=
  theRoom_steady.bind fun _ => (assert_steady _).bind fun _ => theCalls_steady.bind fun _ =>
    .branch (fun _ => enter_steady fun _ => rfl) fun _ => .pure ()

theorem onRequestNamedSvrForMediaSvc_steady (ec1 : Int) (body : Option LuaValue) :
    Steady (onRequestNamedSvrForMediaSvc ec1 body) :=
  .branch (fun _ => (Within.ofOption body).bind fun _ => (field_steady ..).bind fun _ =>
      .bind (setRoom_steady fun _ => rfl) fun _ => theRoom_steady.bind fun _ =>
        .branch (fun _ => requestMediaSvc_steady) fun _ => .pure ())
    fun _ => .pure ()

theorem requestNamedSvrForMediaSvc_steady : Steady requestNamedSvrForMediaSvc :=
  theCalls_steady.bind fun _ => .bind (setRoom_steady fun _ => rfl) fun _ =>
    theCalls_steady.bind fun _ =>
      .branch (fun _ => theRoom_steady.bind fun _ => enter_steady fun _ => rfl) fun _ => .pure ()

theorem handleMediaSvcError_steady : Steady handleMediaSvcError :=
  theRoom_steady.bind fun _ => reportData_steady fun _ => rfl

theorem handleMediaSvcConnect_steady (res : Bool) : Steady (handleMediaSvcConnect res) :=
  theRoom_steady.bind fun _ =>
    .branch (fun _ => .branch (fun _ => writeMediaSvc_steady _) fun _ => writeMediaSvc_steady _)
      fun _ => handleMediaSvcError_steady

theorem handleMediaSvcCreateback_steady : Steady handleMediaSvcCreateback :=
  theRoom_steady.bind fun _ => writeMediaSvc_steady _

theorem handleMediaSvcJoinback_steady : Steady handleMediaSvcJoinback :=
  theRoom_steady.bind fun _ => (reportData_steady fun _ => rfl).bind fun _ =>
    theCalls_steady.bind fun _ => setRoom_steady fun _ => rfl

theorem handleMediaSvcReceiveback_steady (sender : LuaValue) :
    Steady (handleMediaSvcReceiveback sender) :=
  theRoom_steady.bind fun _ => reportData_steady fun _ => rfl

theorem handleMediaSvcTimeout_steady : Steady handleMediaSvcTimeout :=
  theRoom_steady.bind fun _ => writeMediaSvc_steady _

theorem fieldIfAny_steady (value : LuaValue) (key : String) : Steady (fieldIfAny value key) :=
  .branch (fun _ => .pure _) fun _ => field_steady ..

theorem itemIfAny_steady (value : LuaValue) (i : Nat) : Steady (itemIfAny value i) :=
  .branch (fun _ => .pure _) fun _ => .ofOption _

theorem readStream_steady (entry : LuaValue) : Steady (readStream entry) :=
  (field_steady ..).bind fun _ => (field_steady ..).bind fun _ => (fieldIfAny_steady ..).bind fun _ =>
    (field_steady ..).bind fun _ => (field_steady ..).bind fun _ => (itemIfAny_steady ..).bind fun _ =>
    (fieldIfAny_steady ..).bind fun _ =>
      .branch (fun _ => .pure _) fun _ => (field_steady ..).bind fun _ => .pure _

theorem readStreams_steady (entries : List LuaValue) : Steady (readStreams entries) := by
  induction entries with
  | nil => exact .pure _
  | cons entry rest ih =>
    exact .branch (fun _ => ih) fun _ => (readStream_steady entry).bind fun _ => ih.bind fun _ => .pure _

theorem readMembers_steady (room : VideoRoom) (streams : List Stream) :
    Steady (readMembers room streams) := by
  induction streams with
  | nil => exact .pure _
  | cons stream rest ih =>
    exact .branch (fun _ => (formatInteger_steady _).bind fun _ => ih.bind fun _ => .pure _) fun _ => ih

theorem reportMembers_steady (streams : List Stream) : Steady (reportMembers streams) :=
  theRoom_steady.bind fun _ => (readMembers_steady ..).bind fun _ =>
    .branch (fun _ => reportData_steady fun _ => rfl) fun _ => .pure ()

theorem senderParty_steady (jsonData : LuaValue) : Steady (senderParty jsonData) :=
  (field_steady ..).bind fun _ => (formatInteger_steady _).discard.bind fun _ =>
    (field_steady ..).bind fun _ => (formatInteger_steady _).discard.bind fun _ =>
      Within.get.bind fun _ => .pure _


theorem processSlowlinkNotify_steady (jsonData : LuaValue) :
    Steady (processSlowlinkNotify jsonData) := by
  refine (senderParty_steady jsonData).bind fun sender => (field_steady ..).bind fun nacks =>
    (formatInteger_steady nacks).bind fun nack => ?_
  cases sender with
  | none => exact .pure ()
  | some party => exact (theParty_steady party).bind fun _ => reportData_steady fun _ => rfl

end VideoRoom

namespace Party

theorem sendCandidate_steady (party : Nat) (candidate : Text) :
    Steady (sendCandidate party candidate) :=
  (VideoRoom.createTransaction_steady false).discard.bind fun _ => (theParty_steady party).bind fun _ =>
    (formatInteger_steady _).bind fun _ => (formatInteger_steady _).bind fun _ =>
    (assert_steady _).bind fun _ => theCalls_steady.bind fun _ =>
      .branch (fun _ => enter_steady fun _ => rfl) fun _ => .pure ()

theorem insertCandidate_steady (party : Nat) (candidate : Text) :
    Steady (insertCandidate party candidate) := by
  refine (theParty_steady party).bind fun before => ?_
  split
  · exact setParty_steady party (fun _ => rfl) fun _ => rfl
  · exact ⟨fun session => ⟨rfl, rfl, fun _ => rfl, fun _ => rfl, rfl, fun _ => rfl, fun _ => id⟩⟩

theorem takeCandidate_steady (party : Nat) (candidate : Text) :
    Steady (takeCandidate party candidate) :=
  (enter_steady fun _ => rfl).bind fun _ => (theParty_steady party).bind fun _ =>
    .branch (fun _ => sendCandidate_steady ..) fun _ => insertCandidate_steady ..

theorem onIceGatheringChange_steady (party : Nat) (newState : Nat) :
    Steady (onIceGatheringChange party newState) :=
  .branch (fun _ => takeCandidate_steady ..) fun _ => .pure ()

theorem handleJanusTimeout_steady (party : Nat) : Steady (handleJanusTimeout party) :=
  (VideoRoom.createTransaction_steady false).bind fun _ => (theParty_steady party).bind fun _ =>
    (formatInteger_steady _).bind fun _ => theCalls_steady.bind fun _ =>
      .branch (fun _ => enter_steady fun _ => rfl) fun _ => .pure ()

end Party

end BeeSdk.Signalling
