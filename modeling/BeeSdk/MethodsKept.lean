import BeeSdk.ListTold

/-! The methods of the script gone through once, for any relation between the session before
and after. A relation is kept by every method as soon as it is kept by each single thing that
methods do to a session: none of them touches a name of a room, what they tell the application
names the room by a name that the room or a party has, and few of them have to do with the
candidates of a party. -/
namespace BeeSdk.Signalling
open HttpHeader (Text)
open Script

/-- The room named in a notification. -/
def Notification.roomName : Notification → Option Text
  | .ofParty _ _ roomName _ _ => roomName
  | .joined roomName _ => roomName
  | .failed roomName _ => roomName
  | .slowLink _ roomName _ _ => roomName
  | .members roomName _ => roomName
  | .message roomName _ => roomName

/-- The room has the name, or a party has. -/
def Session.HasName (session : Session) (roomName : Option Text) : Prop :=
  roomName = session.room.roomName ∨ ∃ party, roomName = (session.parties party).roomName

/-- What is neither a candidate gathered nor one sent, and names the room, where it tells of one,
by a name of the session. -/
def Entry.PlainIn (session : Session) : Entry → Prop
  | .notifies _ notification => session.HasName notification.roomName
  | .gathers _ _ => False
  | .trickles _ _ _ _ => False
  | _ => True

/-- A party is changed in nothing that its candidates are sent with. -/
structure Mild (before after : Party) : Prop where
  roomName : after.roomName = before.roomName
  wires : after.wires = before.wires
  janus : (after.conns .janus).held = true → (before.conns .janus).held = true

/-- A relation that is kept by each single thing methods do, but for filing a transaction and
for what concerns the candidates of a party. -/
class Keeps (relation : Session → Session → Prop) : Prop extends Frame relation where
  room (session : Session) {change : VideoRoom → VideoRoom} :
    (∀ room, (change room).roomName = room.roomName) → relation session (session.updateRoom change)
  party (session : Session) (party : Nat) {change : Party → Party} :
    (∀ before, Mild before (change before)) → relation session (session.updateParty party change)
  make (session : Session) {party : Party} : party.roomName = session.room.roomName →
    party.wires = ({} : Party).wires → (party.conns .janus).held = false →
      relation session (session.make party)
  enter (session : Session) {entry : Entry} :
    entry.PlainIn session → relation session (session.enter entry)
  fileHandle (session : Session) (handle : LuaValue) (party : Nat) :
    relation session (session.fileHandle handle party)
  forgetHandle (session : Session) (handle : LuaValue) :
    relation session (session.forgetHandle handle)
  ack (session : Session) (id : Text) (transaction : Transaction) :
    (session.transactionTable id).isSome →
      relation session (session.fileTransaction id transaction)
  removeTransaction (session : Session) (id : Text) :
    relation session (session.removeTransaction id)

/-- A transaction may be filed under a new id. -/
def Transacts (relation : Session → Session → Prop) : Prop :=
  ∀ session hasRsp cb, relation session (session.transact hasRsp cb)

/-- A relation that is kept by what is done with candidates, too. -/
class KeepsCandidates (relation : Session → Session → Prop) : Prop extends Keeps relation where
  wires (session : Session) (party : Nat) {change : Party → Party} :
    (∀ before, (change before).roomName = before.roomName) →
      relation session (session.updateParty party change)
  gathers (session : Session) (party : Nat) (candidate : Text) :
    relation session (session.enter (.gathers party candidate))
  trickles (session : Session) (party : Nat) (sid hid : Int) (candidate : Text) :
    relation session (session.enter (.trickles party sid hid candidate))
  insertCandidate (session : Session) (candidate : Text) :
    relation session (session.insertCandidate candidate)

section
variable {relation : Session → Session → Prop} [Keeps relation]

theorem setRoom_kept {change : VideoRoom → VideoRoom}
    (named : ∀ room, (change room).roomName = room.roomName) : Within relation (setRoom change) :=
  ⟨fun session => Keeps.room session named⟩

theorem setParty_kept (party : Nat) {change : Party → Party}
    (mild : ∀ before, Mild before (change before)) : Within relation (setParty party change) :=
  ⟨fun session => Keeps.party session party mild⟩

theorem setConn_kept (party : Nat) {conn : Conn} (apart : conn ≠ .janus) (opened : Bool) :
    Within relation (setConn party conn opened) := by
  refine setParty_kept party fun before => ⟨rfl, rfl, fun held => ?_⟩
  simp only [Party.assignConn] at held
  rwa [if_neg (Ne.symm apart)] at held

theorem enter_kept {entry : Entry} (plain : ∀ session, entry.PlainIn session) :
    Within relation (enter entry) :=
  ⟨fun session => Keeps.enter session (plain session)⟩

theorem theRoom_kept : Within relation theRoom := ⟨Frame.refl⟩
theorem theCalls_kept : Within relation theCalls := ⟨Frame.refl⟩
theorem theParty_kept (party : Nat) : Within relation (theParty party) := ⟨Frame.refl⟩

theorem assert_kept (holds : Bool) : Within relation (assert holds) :=
  .branch (fun _ => .pure ()) fun _ => .raise

theorem field_kept (value : LuaValue) (key : String) : Within relation (field value key) :=
  .ofOption _

theorem formatInteger_kept (value : LuaValue) : Within relation (formatInteger value) :=
  .ofOption _

/-! ### What is told of the room and of a party -/

theorem reportRoom_kept {notification : VideoRoom → Notification}
    (named : ∀ room, (notification room).roomName = room.roomName) :
    Within relation (do VideoRoom.reportData none (notification (← theRoom)) : Lua Unit) :=
  ⟨fun session => Keeps.enter session (.inl (named session.room))⟩

theorem reportParty_kept (party : Nat) {notification : Party → Notification}
    (named : ∀ told, (notification told).roomName = told.roomName) :
    Within relation (do VideoRoom.reportData (some party) (notification (← theParty party)) : Lua Unit) :=
  ⟨fun session => Keeps.enter session (.inr ⟨party, named (session.parties party)⟩)⟩

/-! ### Closing -/

theorem VideoRoom.drop_roomName (room : VideoRoom) (type : PartyType) (streamName : Text) :
    (room.drop type streamName).roomName = room.roomName := by
  cases type <;> rfl

theorem VideoRoom.onPartyClosed_kept (party : Nat) :
    Within relation (VideoRoom.onPartyClosed party) :=
  (theParty_kept party).bind fun closed =>
    .bind ⟨fun session => Keeps.forgetHandle session closed.handle⟩ fun _ =>
      setRoom_kept fun room => room.drop_roomName _ _

theorem VideoRoom.requestMediaSvc_kept : Within relation VideoRoom.requestMediaSvc :=
  theRoom_kept.bind fun _ => (assert_kept _).bind fun _ => theCalls_kept.bind fun _ =>
    .branch (fun _ => enter_kept fun _ => trivial) fun _ => .pure ()

theorem Party.reportClose_kept (party : Nat) (reason : Option Int) :
    Within relation (Party.reportClose party reason) := by
  refine ⟨fun session => ?_⟩
  unfold Party.reportClose
  cases reason with
  | none => exact Frame.refl session
  | some ec => exact Keeps.enter session (.inr ⟨party, rfl⟩)

theorem Party.close_kept (party : Nat) (reason : Option Int) :
    Within relation (Party.close party reason) :=
  .bind (setParty_kept party fun _ => ⟨rfl, rfl, fun held => absurd held Bool.false_ne_true⟩)
    fun _ => (VideoRoom.onPartyClosed_kept party).bind fun _ =>
    (Party.reportClose_kept party reason).bind fun _ => setParty_kept party fun _ => ⟨rfl, rfl, id⟩

theorem Party.leave_kept (party : Nat) (reason : Option Int) :
    Within relation (Party.leave party reason) :=
  .bind (setParty_kept party fun _ => ⟨rfl, rfl, id⟩) fun _ => Party.close_kept party reason

theorem VideoRoom.onPartyCreate_kept (res : Int) (party : Nat) :
    Within relation (VideoRoom.onPartyCreate res party) := by
  refine (theParty_kept party).bind fun told => ?_
  cases told.type with
  | localParty =>
    exact .branch (fun _ => .bind (setRoom_kept fun _ => rfl) fun _ =>
      .bind (setParty_kept party fun _ => ⟨rfl, rfl, id⟩) fun _ => theRoom_kept.bind fun _ =>
        .branch (fun _ => VideoRoom.requestMediaSvc_kept) fun _ => setRoom_kept fun _ => rfl)
      fun _ => Party.close_kept party _
  | remoteParty =>
    exact .branch (fun _ => .bind (setRoom_kept fun _ => rfl) fun _ => Party.close_kept party _)
      fun _ => .pure ()

/-! ### Callbacks that file nothing -/

namespace Party

theorem onIceConnectionChange_kept (party : Nat) (newState : Nat) :
    Within relation (onIceConnectionChange party newState) :=
  (theParty_kept party).bind fun _ =>
    .branch (fun _ => VideoRoom.onPartyCreate_kept _ _) fun _ => .pure ()

theorem requestScheduledSvr_kept (party : Nat) (scheduledSvr : LuaValue) :
    Within relation (requestScheduledSvr party scheduledSvr) :=
  .branch (fun _ => theCalls_kept.bind fun _ => .bind (setConn_kept party (by decide) _) fun _ =>
      (assert_kept _).bind fun _ => theCalls_kept.bind fun _ =>
        .branch (fun _ => enter_kept fun _ => trivial) fun _ => .pure ())
    fun _ => VideoRoom.onPartyCreate_kept _ _

theorem onRequestNamedSvr_kept (party : Nat) (ec1 : Int) (body : Option LuaValue) :
    Within relation (onRequestNamedSvr party ec1 body) :=
  .branch (fun _ => (Within.ofOption body).bind fun _ => (field_kept ..).bind fun _ =>
      .bind (setParty_kept party fun _ => ⟨rfl, rfl, id⟩) fun _ => (field_kept ..).bind fun _ =>
      (field_kept ..).bind fun _ => (field_kept ..).bind fun _ => (assert_kept _).bind fun _ =>
        requestScheduledSvr_kept party _)
    fun _ => VideoRoom.onPartyCreate_kept _ _

theorem onRequestMasterdSvr_kept (party : Nat) (ec1 : Int) (body : Option LuaValue) :
    Within relation (onRequestMasterdSvr party ec1 body) :=
  .branch (fun _ => (Within.ofOption body).bind fun _ => (field_kept ..).bind fun _ =>
      (field_kept ..).bind fun _ => (field_kept ..).bind fun _ => (assert_kept _).bind fun _ =>
        requestScheduledSvr_kept party _)
    fun _ => VideoRoom.onPartyCreate_kept _ _

theorem attachedJsep_kept (jsonData : LuaValue) : Within relation (attachedJsep jsonData) :=
  (field_kept ..).bind fun _ => (field_kept ..).bind fun _ => (field_kept ..).bind fun _ =>
    .branch (fun _ => field_kept ..) fun _ => .pure _

theorem onListened_kept (party : Nat) (jsonData : LuaValue) :
    Within relation (onListened party jsonData) :=
  (attachedJsep_kept jsonData).bind fun _ =>
    .branch (fun _ => theCalls_kept.bind fun _ => .bind (setConn_kept party (by decide) _) fun _ =>
      (assert_kept _).bind fun _ => theCalls_kept.bind fun _ =>
      .branch (fun _ => .bind (enter_kept fun _ => trivial) fun _ => theCalls_kept.bind fun _ =>
          setConn_kept party (by decide) _)
        fun _ => theCalls_kept.bind fun _ => setConn_kept party (by decide) _)
      fun _ => VideoRoom.onPartyCreate_kept _ _

theorem onOfferAnswered_kept (party : Nat) (jsonData : LuaValue) :
    Within relation (onOfferAnswered party jsonData) :=
  (field_kept ..).bind fun _ =>
    .branch (fun _ => theCalls_kept.bind fun _ => .bind (setConn_kept party (by decide) _) fun _ =>
        (theParty_kept party).bind fun _ => (assert_kept _).bind fun _ =>
        theCalls_kept.bind fun _ => .branch (fun _ => enter_kept fun _ => trivial) fun _ => .pure ())
      fun _ => VideoRoom.onPartyCreate_kept _ _

theorem startedOk_kept (jsonData : LuaValue) : Within relation (startedOk jsonData) :=
  .branch (fun _ => .pure _) fun _ => (field_kept ..).bind fun _ =>
    .branch (fun _ => .pure _) fun _ => (field_kept ..).bind fun _ =>
      .branch (fun _ => .pure _) fun _ => (field_kept ..).bind fun _ => .pure _

theorem onAnswerAcked_kept (party : Nat) (jsonData : LuaValue) :
    Within relation (onAnswerAcked party jsonData) :=
  (startedOk_kept jsonData).bind fun _ =>
    .branch (fun _ => VideoRoom.onPartyCreate_kept _ _) fun _ => .pure ()

theorem checkChannelReady_kept (party : Nat) : Within relation (checkChannelReady party) := by
  refine ⟨fun session => ?_⟩
  unfold checkChannelReady
  rw [bind_apply, theParty_apply]
  dsimp only
  rw [if_apply]
  split
  · cases (session.parties party).type with
    | localParty =>
      refine Within.kept ?_ session
      exact (VideoRoom.onPartyCreate_kept _ _).bind fun _ =>
        setParty_kept party fun _ => ⟨rfl, rfl, id⟩
    | remoteParty =>
      have told : relation session (session.enter (.notifies (some party)
          (.ofParty eVideoConfNotify_Remote_Join 0 (session.parties party).roomName
            (session.parties party).streamNameDisplay (session.parties party).uid))) :=
        Keeps.enter session (.inr ⟨party, rfl⟩)
      have ready : Within relation (setParty party fun before => { before with allReady := true }) :=
        setParty_kept party fun _ => ⟨rfl, rfl, id⟩
      exact Frame.trans told (ready.kept _)
  · exact Frame.refl session

theorem onWebrtcup_kept (party : Nat) : Within relation (onWebrtcup party) :=
  .bind (setParty_kept party fun _ => ⟨rfl, rfl, id⟩) fun _ => checkChannelReady_kept party

theorem onMediaReady_kept (party : Nat) : Within relation (onMediaReady party) :=
  .bind (setParty_kept party fun _ => ⟨rfl, rfl, id⟩) fun _ => checkChannelReady_kept party

theorem createLocalOffer_kept (party : Nat) : Within relation (createLocalOffer party) :=
  theCalls_kept.bind fun _ => .bind (setConn_kept party (by decide) _) fun _ =>
    .branch (fun _ => theCalls_kept.bind fun _ =>
        .branch (fun _ => .bind (enter_kept fun _ => trivial) fun _ => .pure _)
          fun _ => (VideoRoom.onPartyCreate_kept _ _).bind fun _ => .pure _)
      fun _ => (VideoRoom.onPartyCreate_kept _ _).bind fun _ => .pure _

theorem push_kept (party : Nat) (audioSource videoSource : Option Int) :
    Within relation (push party audioSource videoSource) :=
  .bind (setParty_kept party fun _ => ⟨rfl, rfl, id⟩) fun _ =>
    (createLocalOffer_kept party).bind fun _ => (assert_kept _).bind fun _ =>
    theCalls_kept.bind fun _ => .bind (setConn_kept party (by decide) _) fun _ =>
    (assert_kept _).bind fun _ => theCalls_kept.bind fun _ => (assert_kept _).bind fun _ =>
    (theParty_kept party).bind fun _ => enter_kept fun _ => trivial

theorem pull_kept (party : Nat) (streamName : Text) (pullAudio pullVideo : Bool) :
    Within relation (pull party streamName pullAudio pullVideo) :=
  .bind (setParty_kept party fun _ => ⟨rfl, rfl, id⟩) fun _ =>
    .bind (setParty_kept party fun _ => ⟨rfl, rfl, id⟩) fun _ =>
    theCalls_kept.bind fun _ => .bind (setConn_kept party (by decide) _) fun _ =>
    (assert_kept _).bind fun _ => theCalls_kept.bind fun _ =>
      .branch (fun _ => enter_kept fun _ => trivial) fun _ => VideoRoom.onPartyCreate_kept _ _

end Party

/-! ### Callbacks that file a transaction -/

omit [Keeps relation] in
theorem VideoRoom.createTransaction_kept (transacts : Transacts relation) (hasRsp : Bool)
    (cb : Option TransactionCallback) : Within relation (VideoRoom.createTransaction hasRsp cb) :=
  ⟨fun session => transacts session hasRsp cb⟩

namespace Party

theorem createHandleEx_kept (transacts : Transacts relation) (party : Nat) :
    Within relation (createHandleEx party) :=
  (theParty_kept party).bind fun _ =>
    .branch (fun _ => (VideoRoom.createTransaction_kept transacts _ _).bind fun _ =>
      theCalls_kept.bind fun _ =>
        .branch (fun _ => (theParty_kept party).bind fun _ => enter_kept fun _ => trivial)
          fun _ => VideoRoom.onPartyCreate_kept _ _)
      fun _ => VideoRoom.onPartyCreate_kept _ _

theorem sendLocalOffer_kept (transacts : Transacts relation) (party : Nat) (jsep : Text) :
    Within relation (sendLocalOffer party jsep) :=
  (theParty_kept party).bind fun _ =>
    .branch (fun _ => (VideoRoom.createTransaction_kept transacts _ _).bind fun _ =>
      (theParty_kept party).bind fun _ => (formatInteger_kept _).bind fun _ =>
      (formatInteger_kept _).bind fun _ => theCalls_kept.bind fun _ =>
        .branch (fun _ => .bind (enter_kept fun _ => trivial) fun _ => .pure _) fun _ => .pure _)
      fun _ => .pure _

theorem publishLocalOffer_kept (transacts : Transacts relation) (party : Nat) :
    Within relation (publishLocalOffer party) :=
  (theParty_kept party).bind fun _ =>
    .branch (fun _ => .branch (fun _ => (sendLocalOffer_kept transacts party _).bind fun _ =>
        .branch (fun _ => VideoRoom.onPartyCreate_kept _ _) fun _ => .pure ()) fun _ => .pure ())
      fun _ => setParty_kept party fun _ => ⟨rfl, rfl, id⟩

theorem listen_kept (transacts : Transacts relation) (party : Nat) :
    Within relation (listen party) :=
  (VideoRoom.createTransaction_kept transacts _ _).bind fun _ => (theParty_kept party).bind fun _ =>
    (formatInteger_kept _).bind fun _ => (formatInteger_kept _).bind fun _ =>
    (assert_kept _).bind fun _ => theCalls_kept.bind fun _ =>
      .branch (fun _ => .bind (enter_kept fun _ => trivial) fun _ => .pure _) fun _ => .pure _

theorem onJanusConnectResult_kept (transacts : Transacts relation) (party : Nat) (res : Bool) :
    Within relation (onJanusConnectResult party res) :=
  .branch (fun _ => createHandleEx_kept transacts party) fun _ => VideoRoom.onPartyCreate_kept _ _

theorem onCreateOffer_kept (transacts : Transacts relation) (party : Nat) (jsep : Text) :
    Within relation (onCreateOffer party jsep) :=
  .bind (setParty_kept party fun _ => ⟨rfl, rfl, id⟩) fun _ =>
    .branch (fun _ => VideoRoom.onPartyCreate_kept _ _) fun _ => (theParty_kept party).bind fun _ =>
      .branch (fun _ => publishLocalOffer_kept transacts party) fun _ => .pure ()

theorem onCreateAnswer_kept (transacts : Transacts relation) (party : Nat) (jsep : Text) :
    Within relation (onCreateAnswer party jsep) :=
  .branch (fun _ => (theParty_kept party).bind fun _ =>
      .branch (fun _ => (VideoRoom.createTransaction_kept transacts _ _).bind fun _ =>
        (theParty_kept party).bind fun _ => (formatInteger_kept _).bind fun _ =>
        (formatInteger_kept _).bind fun _ => theCalls_kept.bind fun _ =>
          .branch (fun _ => enter_kept fun _ => trivial) fun _ => .pure ()) fun _ => .pure ())
    fun _ => .pure ()

theorem handleJanusTimeout_kept (transacts : Transacts relation) (party : Nat) :
    Within relation (handleJanusTimeout party) :=
  (VideoRoom.createTransaction_kept transacts _ _).bind fun _ => (theParty_kept party).bind fun _ =>
    (formatInteger_kept _).bind fun _ => theCalls_kept.bind fun _ =>
      .branch (fun _ => enter_kept fun _ => trivial) fun _ => .pure ()

end Party

/-! ### Orders of the application -/

namespace VideoRoom

theorem makeParty_kept (type : PartyType) (uid nickName : Option Text) (streamName : Text) :
    Within relation (makeParty type uid nickName streamName) :=
  ⟨fun session => Keeps.make session rfl rfl rfl⟩

theorem push_kept (streamName : Text) : Within relation (push streamName) :=
  theRoom_kept.bind fun _ => (makeParty_kept ..).bind fun _ =>
    .bind (setRoom_kept fun _ => rfl) fun _ => (Party.push_kept ..).bind fun _ =>
      setRoom_kept fun _ => rfl

theorem requestNamedSvrForMediaSvc_kept : Within relation requestNamedSvrForMediaSvc :=
  theCalls_kept.bind fun _ => .bind (setRoom_kept fun _ => rfl) fun _ => theCalls_kept.bind fun _ =>
    .branch (fun _ => theRoom_kept.bind fun _ => enter_kept fun _ => trivial) fun _ => .pure ()

theorem open_kept : Within relation VideoRoom.open :=
  theCalls_kept.bind fun _ => (assert_kept _).bind fun _ => theCalls_kept.bind fun _ =>
    .bind (setRoom_kept fun _ => rfl) fun _ => (assert_kept _).bind fun _ =>
    requestNamedSvrForMediaSvc_kept.bind fun _ => theRoom_kept.bind fun _ =>
      .branch (fun _ => push_kept _) fun _ => setRoom_kept fun _ => rfl

theorem takePush_kept (push : PushArgs) : Within relation (takePush push) := by
  refine (Within.ofOption _).bind fun _ => .bind (setRoom_kept fun _ => rfl) fun _ => ?_
  cases push.audio with
  | none =>
    cases push.video with
    | none => exact .pure ()
    | some video => exact setRoom_kept fun _ => rfl
  | some audio =>
    refine .bind (setRoom_kept fun _ => rfl) fun _ => ?_
    cases push.video with
    | none => exact .pure ()
    | some video => exact setRoom_kept fun _ => rfl

theorem join_kept (args : JoinArgs) : Within relation (join args) := by
  have opening : Within relation (do
      let room ← theRoom
      assert (¬ room.pushVideo || (room.videoSource.isSome && room.videoSource ≠ some 0))
      VideoRoom.open : Lua Unit) :=
    theRoom_kept.bind fun _ => (assert_kept _).bind fun _ => open_kept
  refine (Within.ofOption _).bind fun _ => (Within.ofOption _).bind fun _ =>
    (Within.ofOption _).bind fun _ => (Within.ofOption _).bind fun _ =>
    (Within.ofOption _).bind fun _ => (Within.ofOption _).bind fun _ =>
    .bind (setRoom_kept fun _ => rfl) fun _ => ?_
  cases args.push with
  | none => exact opening
  | some push => exact (takePush_kept push).bind fun _ => opening

theorem leaveParties_kept (table : VideoRoom → AList fun _ : Text => Nat) (reason : Option Int) :
    Within relation (leaveParties table reason) :=
  theRoom_kept.bind fun _ => .each fun _ => theRoom_kept.bind fun _ =>
    .branch (fun _ => Party.leave_kept ..) fun _ => .pure ()

theorem leave_kept (args : LeaveArgs) : Within relation (leave args) :=
  (assert_kept _).bind fun _ => (assert_kept _).bind fun _ => .bind (setRoom_kept fun _ => rfl) fun _ =>
    (leaveParties_kept ..).bind fun _ => leaveParties_kept ..

theorem connectStream_kept (args : ConnectArgs) : Within relation (connectStream args) :=
  (assert_kept _).bind fun _ => (Within.ofOption _).bind fun _ => (Within.ofOption _).bind fun _ =>
    (makeParty_kept ..).bind fun _ => .bind (setRoom_kept fun _ => rfl) fun _ => Party.pull_kept ..

theorem disconnectStream_kept (args : DisconnectArgs) :
    Within relation (disconnectStream args) := by
  refine (assert_kept _).bind fun _ => (Within.ofOption _).bind fun streamName =>
    (assert_kept _).bind fun _ => (Within.ofOption _).bind fun type =>
    (assert_kept _).bind fun _ => theRoom_kept.bind fun room => ?_
  dsimp only
  split
  · exact Party.leave_kept ..
  · exact .pure ()

/-! ### Messages of a party's server -/

theorem senderParty_kept (jsonData : LuaValue) : Within relation (senderParty jsonData) :=
  (field_kept ..).bind fun _ => (formatInteger_kept _).discard.bind fun _ =>
    (field_kept ..).bind fun _ => (formatInteger_kept _).discard.bind fun _ =>
      Within.get.bind fun _ => .pure _

theorem processWebrtcupNotify_kept (jsonData : LuaValue) :
    Within relation (processWebrtcupNotify jsonData) := by
  refine (senderParty_kept jsonData).bind fun sender => ?_
  cases sender with
  | none => exact .pure ()
  | some party => exact Party.onWebrtcup_kept party

theorem processDetachedNotify_kept (jsonData : LuaValue) :
    Within relation (processDetachedNotify jsonData) := by
  refine (senderParty_kept jsonData).bind fun sender => ?_
  cases sender with
  | none => exact .pure ()
  | some party => exact Party.close_kept party _

theorem processSlowlinkNotify_kept (jsonData : LuaValue) :
    Within relation (processSlowlinkNotify jsonData) := by
  refine (senderParty_kept jsonData).bind fun sender => (field_kept ..).bind fun nacks =>
    (formatInteger_kept nacks).bind fun nack => ?_
  cases sender with
  | none => exact .pure ()
  | some party => exact reportParty_kept party fun _ => rfl

omit [Keeps relation] in
/-- What is done for a transaction that has been looked up. -/
theorem lookupTransaction_of {P : Session → Prop} {next : Option (Text × Transaction) → Lua Unit}
    (jsonData : LuaValue) (session : Session) (start : P session)
    (missed : P (next none session).2)
    (found : ∀ id transaction, session.transactionOf jsonData = some (id, transaction) →
      P (next (some (id, transaction)) session).2) :
    P ((lookupTransaction jsonData >>= next) session).2 := by
  cases indexable : jsonData.indexable with
  | false =>
    simp only [lookupTransaction, bind_apply, field_apply, LuaValue.field_of_not_indexable indexable]
    exact start
  | true =>
    rw [bind_apply, lookupTransaction_apply indexable]
    cases entry : session.transactionOf jsonData with
    | none => exact missed
    | some entry' => exact found entry'.1 entry'.2 entry

theorem processAck_kept (jsonData : LuaValue) : Within relation (processAck jsonData) := by
  refine ⟨fun session => lookupTransaction_of jsonData session (Frame.refl session)
    (Frame.refl session) ?_⟩
  intro id transaction found
  have acked : relation session (session.fileTransaction id { transaction with acked := true }) :=
    Keeps.ack session id _ (by rw [transactionOf_filed found]; rfl)
  simp only [bind_apply, modify_apply]
  rw [if_apply]
  split
  · exact Frame.trans acked (Keeps.removeTransaction _ id)
  · exact acked

section
variable {P : Session → Prop} (session : Session)
  (stays : ∀ after, relation session after → P after)
  (removes : ∀ reached id, P reached → P (reached.removeTransaction id))
include stays removes

/-- The reply that gives a party its handle is what is left open here. -/
theorem finishTransaction_of (success : Bool) (jsonData : LuaValue) (entry : Text × Transaction)
    (handles : ∀ party, entry.2.cb = some (.onCreateHandleEx party) → success = true →
      P (Party.onCreateHandleEx party true jsonData session).2) :
    P (finishTransaction success jsonData entry session).2 := by
  have processed : P (processTransaction entry.2 success jsonData session).2 := by
    unfold processTransaction
    cases calls : entry.2.cb with
    | none => exact stays _ (Frame.refl session)
    | some cb =>
      cases cb with
      | onCreateHandleEx party =>
        cases success with
        | false => exact stays _ ((onPartyCreate_kept 35 party).kept session)
        | true => exact handles party calls rfl
      | onListened party => exact stays _ ((Party.onListened_kept ..).kept session)
      | onOfferAnswered party => exact stays _ ((Party.onOfferAnswered_kept ..).kept session)
      | onAnswerAcked party => exact stays _ ((Party.onAnswerAcked_kept ..).kept session)
  unfold finishTransaction
  rw [bind_apply]
  generalize processTransaction entry.2 success jsonData session = result at processed ⊢
  obtain ⟨_ | _, reached⟩ := result
  · exact processed
  · exact removes reached entry.1 processed

theorem handleJanusData_of (message : Option LuaValue)
    (handles : ∀ jsonData party body, message = some jsonData →
      session.janusReply jsonData = some (party, .handle true body) →
        P (Party.onCreateHandleEx party true body session).2) :
    P (handleJanusData message session).2 := by
  have still : P session := stays session (Frame.refl session)
  unfold handleJanusData
  cases message with
  | none => exact still
  | some jsonData =>
    have finish : ∀ success, session.janusReply jsonData = session.called success jsonData →
        ∀ id transaction, session.transactionOf jsonData = some (id, transaction) →
          P (finishTransaction success jsonData (id, transaction) session).2 := by
      intro success due id transaction found
      refine finishTransaction_of session stays removes success jsonData _ fun party calls yes => ?_
      refine handles jsonData party jsonData rfl ?_
      rw [due, called_of_found found calls, yes]
      rfl
    have result : ∀ success, session.janusReply jsonData = session.called success jsonData →
        P (processTransactionResult success jsonData session).2 := fun success due =>
      lookupTransaction_of jsonData session still still (finish success due)
    cases indexable : jsonData.indexable with
    | false =>
      simp only [bind_apply, ofOption_apply, field_apply, LuaValue.field_of_not_indexable indexable]
      exact still
    | true =>
      simp only [bind_apply, ofOption_apply, field_apply, LuaValue.field_of_indexable indexable]
      generalize kind : (jsonData.get "bee").text.map String.ofList = said
      split
      · exact result true (by simp only [Session.janusReply, Session.kindOf, kind])
      · exact result false (by simp only [Session.janusReply, Session.kindOf, kind])
      · exact stays _ ((processAck_kept jsonData).kept session)
      · unfold processEvent
        simp only [bind_apply, field_apply, LuaValue.field_of_indexable indexable, get_apply]
        rw [if_apply]
        split
        · rename_i known
          have due : session.janusReply jsonData = session.called true jsonData := by
            simp only [Session.janusReply, Session.kindOf, kind, known, if_true]
          refine lookupTransaction_of jsonData session still (stays _ (Within.kept ?_ session))
            (finish true due)
          exact (field_kept ..).bind fun _ => .branch (fun _ => (field_kept ..).bind fun _ =>
            .branch (fun _ => (field_kept ..).discard) fun _ => .pure ()) fun _ => .pure ()
        · exact still
      · exact stays _ ((processWebrtcupNotify_kept jsonData).kept session)
      · exact stays _ ((senderParty_kept jsonData).discard.kept session)
      · exact stays _ ((processSlowlinkNotify_kept jsonData).kept session)
      · exact stays _ ((senderParty_kept jsonData).discard.kept session)
      · exact stays _ ((processDetachedNotify_kept jsonData).kept session)
      · exact still

end

/-! ### The media service -/

theorem onRequestNamedSvrForMediaSvc_kept (ec1 : Int) (body : Option LuaValue) :
    Within relation (onRequestNamedSvrForMediaSvc ec1 body) :=
  .branch (fun _ => (Within.ofOption body).bind fun _ => (field_kept ..).bind fun _ =>
      .bind (setRoom_kept fun _ => rfl) fun _ => theRoom_kept.bind fun _ =>
        .branch (fun _ => requestMediaSvc_kept) fun _ => .pure ())
    fun _ => .pure ()

theorem writeMediaSvc_kept (request : RoomRequest) : Within relation (writeMediaSvc request) :=
  theRoom_kept.bind fun _ => (assert_kept _).bind fun _ => theCalls_kept.bind fun _ =>
    .branch (fun _ => enter_kept fun _ => trivial) fun _ => .pure ()

theorem handleMediaSvcError_kept : Within relation handleMediaSvcError :=
  reportRoom_kept fun _ => rfl

theorem handleMediaSvcConnect_kept (res : Bool) : Within relation (handleMediaSvcConnect res) :=
  theRoom_kept.bind fun _ =>
    .branch (fun _ => .branch (fun _ => writeMediaSvc_kept _) fun _ => writeMediaSvc_kept _)
      fun _ => handleMediaSvcError_kept

theorem handleMediaSvcJoinback_kept : Within relation handleMediaSvcJoinback := by
  refine ⟨fun session => ?_⟩
  have told : relation session (session.enter
      (.notifies none (.joined session.room.roomName session.room.streamNameDisplay))) :=
    Keeps.enter session (.inl rfl)
  have timed : Within relation (setRoom fun room => { room with
      msgSvcKeepaliveTimer := room.msgSvcKeepaliveTimer.assign session.calls.timerOpens }) :=
    setRoom_kept fun _ => rfl
  exact Frame.trans told (timed.kept _)

theorem handleMediaSvcTimeout_kept : Within relation handleMediaSvcTimeout :=
  theRoom_kept.bind fun _ => writeMediaSvc_kept _

theorem readStreams_kept (entries : List LuaValue) : Within relation (readStreams entries) := by
  refine ⟨fun session => ?_⟩
  obtain ⟨reads, raises⟩ := readStreams_apply entries session
  by_cases readable : ∀ entry ∈ entries, Readable entry
  · rw [reads readable]
    exact Frame.refl session
  · rw [raises readable]
    exact Frame.refl session

theorem reportMembers_kept (streams : List Stream) : Within relation (reportMembers streams) := by
  refine ⟨fun session => ?_⟩
  unfold reportMembers
  rw [bind_apply, theRoom_apply]
  dsimp only
  obtain ⟨reads, raises⟩ := readMembers_apply session.room streams session
  by_cases printed : ∀ stream ∈ streams.filter session.room.isReported, stream.role.toInteger.isSome
  · rw [bind_apply, reads printed]
    dsimp only
    rw [if_apply]
    split
    · exact Keeps.enter session (.inl rfl)
    · exact Frame.refl session
  · rw [bind_apply, raises printed]
    exact Frame.refl session

theorem checkParties_kept (jsonData : LuaValue) : Within relation (checkParties jsonData) :=
  (field_kept ..).bind fun _ => (Within.ofOption _).bind fun _ => (readStreams_kept _).bind fun _ =>
    theRoom_kept.bind fun _ => .bind (.each fun _ => theRoom_kept.bind fun _ =>
      .branch (fun _ => (theParty_kept _).bind fun _ =>
        .branch (fun _ => Party.leave_kept ..) fun _ => Party.leave_kept ..) fun _ => .pure ())
      fun _ => .pure _

theorem handleMediaSvcListback_kept (jsonData : LuaValue) :
    Within relation (handleMediaSvcListback jsonData) :=
  (checkParties_kept jsonData).bind fun _ =>
    .branch (fun _ => reportMembers_kept _) fun _ => .pure ()

theorem handleMediaSvcData_kept (message : Option LuaValue) :
    Within relation (handleMediaSvcData message) := by
  refine (Within.ofOption _).bind fun jsonData => (field_kept ..).bind fun _ =>
    (field_kept ..).bind fun _ => .branch (fun _ => handleMediaSvcError_kept) fun _ =>
    (field_kept ..).bind fun cmd => ?_
  split
  · exact theRoom_kept.bind fun _ => writeMediaSvc_kept _
  · exact handleMediaSvcJoinback_kept
  · exact handleMediaSvcListback_kept jsonData
  · exact (field_kept ..).bind fun _ => reportRoom_kept fun _ => rfl
  · exact .pure ()

end VideoRoom

end

/-! ### Candidates -/

section
variable {relation : Session → Session → Prop} [KeepsCandidates relation]

theorem setWires_kept (party : Nat) {change : Party → Party}
    (named : ∀ before, (change before).roomName = before.roomName) :
    Within relation (setParty party change) :=
  ⟨fun session => KeepsCandidates.wires session party named⟩

namespace Party

theorem insertCandidate_kept (party : Nat) (candidate : Text) :
    Within relation (insertCandidate party candidate) := by
  refine (theParty_kept party).bind fun before => ?_
  split
  · exact setWires_kept party fun _ => rfl
  · exact ⟨fun session => KeepsCandidates.insertCandidate session candidate⟩

theorem connectJanusSvr_kept (party : Nat) (janusSvr : LuaValue) :
    Within relation (connectJanusSvr party janusSvr) :=
  .branch (fun _ => theCalls_kept.bind fun _ => .bind (setWires_kept party fun _ => rfl) fun _ =>
      theCalls_kept.bind fun _ =>
        .branch (fun _ => enter_kept fun _ => trivial) fun _ => VideoRoom.onPartyCreate_kept _ _)
    fun _ => VideoRoom.onPartyCreate_kept _ _

theorem onRequestScheduledSvr_kept (party : Nat) (ec1 : Int) (body : Option LuaValue) :
    Within relation (onRequestScheduledSvr party ec1 body) :=
  .branch (fun _ => (Within.ofOption body).bind fun _ => (field_kept ..).bind fun _ =>
      .branch (fun _ => (field_kept ..).bind fun _ => (field_kept ..).bind fun _ =>
        (field_kept ..).bind fun _ => .bind (setParty_kept party fun _ => ⟨rfl, rfl, id⟩) fun _ =>
          connectJanusSvr_kept party _)
        fun _ => (formatInteger_kept _).discard.bind fun _ => VideoRoom.onPartyCreate_kept _ _)
    fun _ => VideoRoom.onPartyCreate_kept _ _

theorem sendCandidate_kept (transacts : Transacts relation) (party : Nat) (candidate : Text) :
    Within relation (sendCandidate party candidate) :=
  (VideoRoom.createTransaction_kept transacts _ _).discard.bind fun _ =>
    (theParty_kept party).bind fun _ => (formatInteger_kept _).bind fun _ =>
    (formatInteger_kept _).bind fun _ => (assert_kept _).bind fun _ => theCalls_kept.bind fun _ =>
      .branch (fun _ => ⟨fun session => KeepsCandidates.trickles session party _ _ _⟩) fun _ => .pure ()

theorem publishCandidates_kept (transacts : Transacts relation) (party : Nat) :
    Within relation (publishCandidates party) :=
  Within.get.bind fun _ => (theParty_kept party).bind fun _ =>
    .branch (fun _ => .bind (.each fun _ => sendCandidate_kept transacts party _)
      fun _ => setWires_kept party fun _ => rfl) fun _ => .pure ()

theorem takeCandidate_kept (transacts : Transacts relation) (party : Nat) (candidate : Text) :
    Within relation (takeCandidate party candidate) :=
  .bind ⟨fun session => KeepsCandidates.gathers session party candidate⟩ fun _ =>
    (theParty_kept party).bind fun _ =>
    .branch (fun _ => sendCandidate_kept transacts party candidate)
      fun _ => insertCandidate_kept party candidate

theorem onIceGatheringChange_kept (transacts : Transacts relation) (party : Nat) (newState : Nat) :
    Within relation (onIceGatheringChange party newState) :=
  .branch (fun _ => takeCandidate_kept transacts party _) fun _ => .pure ()

theorem onCreateHandleEx_kept (transacts : Transacts relation) (party : Nat) (success : Bool)
    (jsonData : LuaValue) : Within relation (onCreateHandleEx party success jsonData) := by
  refine .branch (fun _ => VideoRoom.onPartyCreate_kept _ _) fun _ => ?_
  refine (field_kept ..).bind fun _ => (field_kept ..).bind fun _ => (field_kept ..).bind fun hid =>
    .bind (setWires_kept party fun _ => rfl) fun _ => .bind ((assert_kept _).bind fun _ =>
      ⟨fun session => Keeps.fileHandle session hid party⟩) fun _ =>
    (formatInteger_kept _).discard.bind fun _ => (formatInteger_kept _).discard.bind fun _ =>
    (theParty_kept party).bind fun before => ?_
  cases before.type with
  | localParty =>
    exact (publishLocalOffer_kept transacts party).bind fun _ => publishCandidates_kept transacts party
  | remoteParty =>
    exact (listen_kept transacts party).bind fun _ =>
      .branch (fun _ => VideoRoom.onPartyCreate_kept _ _) fun _ => .pure ()

end Party

theorem VideoRoom.handleJanusData_kept (transacts : Transacts relation)
    (message : Option LuaValue) : Within relation (handleJanusData message) :=
  ⟨fun session => handleJanusData_of session (fun _ => id)
    (fun reached id kept => Frame.trans kept (Keeps.removeTransaction reached id)) message
    fun _ party body _ _ => (Party.onCreateHandleEx_kept transacts party true body).kept session⟩

end

/-! ### Everything that can happen -/

/-- The callbacks that have to do with a handle or with candidates. -/
def Callback.Wiring : Callback → Prop
  | .scheduledReply _ _ | .janusData _ | .iceCandidate _ | .iceGatheringChange _ => True
  | _ => False

section
variable {relation : Session → Session → Prop} [Keeps relation]

theorem Callback.run_apart (transacts : Transacts relation) (party : Nat) (callback : Callback)
    (apart : ¬ callback.Wiring) : Within relation (callback.run party) := by
  cases callback with
  | namedReply ec1 body => exact Party.onRequestNamedSvr_kept party ec1 body
  | masterdReply ec1 body => exact Party.onRequestMasterdSvr_kept party ec1 body
  | janusConnectResult res => exact Party.onJanusConnectResult_kept transacts party res
  | offerCreated jsep => exact Party.onCreateOffer_kept transacts party jsep
  | answerCreated jsep => exact Party.onCreateAnswer_kept transacts party jsep
  | iceConnectionChange newState => exact Party.onIceConnectionChange_kept party newState
  | mediaReady => exact Party.onMediaReady_kept party
  | janusTimeout => exact Party.handleJanusTimeout_kept transacts party
  | _ => exact absurd trivial apart

theorem Happening.run_apart (transacts : Transacts relation) (happening : Happening)
    (apart : ∀ party callback, happening = .callsBack party callback → ¬ callback.Wiring) :
    Within relation happening.run := by
  cases happening with
  | join args => exact VideoRoom.join_kept args
  | leave args => exact VideoRoom.leave_kept args
  | connectStream args => exact VideoRoom.connectStream_kept args
  | disconnectStream args => exact VideoRoom.disconnectStream_kept args
  | callsBack party callback => exact callback.run_apart transacts party (apart party callback rfl)
  | namedReply ec1 body => exact VideoRoom.onRequestNamedSvrForMediaSvc_kept ec1 body
  | mediaSvcConnect res => exact VideoRoom.handleMediaSvcConnect_kept res
  | mediaSvcData message => exact VideoRoom.handleMediaSvcData_kept message
  | mediaSvcError => exact VideoRoom.handleMediaSvcError_kept
  | mediaSvcTimeout => exact VideoRoom.handleMediaSvcTimeout_kept

end

section
variable {relation : Session → Session → Prop} [KeepsCandidates relation]

theorem Happening.run_kept (transacts : Transacts relation) (happening : Happening) :
    Within relation happening.run := by
  by_cases apart : ∀ party callback, happening = .callsBack party callback → ¬ callback.Wiring
  · exact happening.run_apart transacts apart
  · push Not at apart
    obtain ⟨party, callback, rfl, wiring⟩ := apart
    cases callback with
    | scheduledReply ec1 body => exact Party.onRequestScheduledSvr_kept party ec1 body
    | janusData message => exact VideoRoom.handleJanusData_kept transacts message
    | iceCandidate candidate => exact Party.takeCandidate_kept transacts party candidate
    | iceGatheringChange newState => exact Party.onIceGatheringChange_kept transacts party newState
    | _ => exact wiring.elim

end
end BeeSdk.Signalling
