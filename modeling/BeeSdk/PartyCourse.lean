import BeeSdk.PartyAside

/-! What one happening can do to the parties and to the books the room keeps of them, said
once for everything that is proved of whole runs. -/
namespace BeeSdk.Signalling
open HttpHeader (Text)
open Script

/-! ### What a happening is for a party -/

/-- What a transaction's answer is to the party it calls back. -/
def TransactionCallback.reply (success : Bool) (jsonData : LuaValue) :
    TransactionCallback → SetupReply
  | .onCreateHandleEx _ => .handle success jsonData
  | .onListened _ => .listened jsonData
  | .onOfferAnswered _ => .offerAnswered jsonData
  | .onAnswerAcked _ => .acked jsonData

namespace Session

/-- The transaction a message belongs to. -/
def transactionOf (session : Session) (jsonData : LuaValue) : Option (Text × Transaction) :=
  (jsonData.get "transaction").text.bind fun id =>
    (session.transactionTable id).map fun found => (id, found)

/-- The party a transaction's answer calls back, and what it says to it. -/
def called (session : Session) (success : Bool) (jsonData : LuaValue) : Option (Nat × SetupReply) :=
  (session.transactionOf jsonData).bind fun found =>
    found.2.cb.map fun cb => (cb.party, cb.reply success jsonData)

def kindOf (jsonData : LuaValue) : Option String := (jsonData.get "bee").text.map String.ofList

/-- What a message of a server says to which party. -/
def janusReply (session : Session) (jsonData : LuaValue) : Option (Nat × SetupReply) :=
  match kindOf jsonData with
  | some "success" => session.called true jsonData
  | some "error" => session.called false jsonData
  | some "event" =>
    if (session.handlePartyTable (jsonData.get "sender")).isSome then session.called true jsonData
    else none
  | _ => none

/-- The reply of a step of the setting up that a happening is, and the party it is for. -/
def reply (session : Session) : Happening → Option (Nat × SetupReply)
  | .callsBack party (.namedReply ec1 body) => some (party, .named ec1 body)
  | .callsBack party (.masterdReply ec1 body) => some (party, .masterd ec1 body)
  | .callsBack party (.scheduledReply ec1 body) => some (party, .scheduled ec1 body)
  | .callsBack party (.janusConnectResult res) => some (party, .janusConnect res)
  | .callsBack party (.offerCreated jsep) => some (party, .offer jsep)
  | .callsBack party (.answerCreated jsep) => some (party, .answer jsep)
  | .callsBack _ (.janusData (some jsonData)) => session.janusReply jsonData
  | _ => none

/-- The party whose server sends a message, where the ids in it can be printed. -/
def senderOf (session : Session) (jsonData : LuaValue) : Option Nat :=
  if (jsonData.get "session_id").toInteger.isSome ∧ (jsonData.get "sender").toInteger.isSome then
    session.handlePartyTable (jsonData.get "sender")
  else none

end Session

/-- One of the two channels of a party. -/
inductive Channel where
  | signal
  | media
  deriving DecidableEq

/-- A party one of whose channels has become ready. -/
def Party.readied (party : Party) : Channel → Party
  | .signal => { party with signalReady := true }
  | .media => { party with closed := some (party.closed.getD false), mediaReady := true }

namespace Session

/-- The channel that becomes ready by a happening, and its party. -/
def readies (session : Session) : Happening → Option (Nat × Channel)
  | .callsBack party .mediaReady => some (party, .media)
  | .callsBack _ (.janusData (some jsonData)) =>
    if kindOf jsonData = some "webrtcup" then
      (session.senderOf jsonData).map fun party => (party, .signal)
    else none
  | _ => none

/-- The party a happening says has been detached from its server. -/
def detaches (session : Session) : Happening → Option Nat
  | .callsBack _ (.janusData (some jsonData)) =>
    if kindOf jsonData = some "detached" then session.senderOf jsonData else none
  | _ => none

/-- A remote party is told to have joined, now that all of it is ready. -/
def welcome (session : Session) (party : Nat) : Session :=
  (session.enter (.notifies (some party) (.ofParty eVideoConfNotify_Remote_Join 0
    (session.parties party).roomName (session.parties party).streamNameDisplay
    (session.parties party).uid))).updateParty party fun before => { before with allReady := true }

/-- A local party is counted as created. -/
def announce (session : Session) (party : Nat) : Session :=
  (session.updateRoom (·.countPush (session.parties party).streamNameInternal)).updateParty party
    fun before => { before with created := true }

/-- A party whose closing stops in an error, its reason being none that can be printed. -/
def abandon (session : Session) (party : Nat) : Session :=
  (session.updateParty party (·.closeConns)).unfile party

/-- A connection of the party is open, or a table leads to it. -/
def Reaches (session : Session) (party : Nat) : Prop :=
  session.Knows party ∨ ∃ conn, ((session.parties party).conns conn).isOpen = true

end Session

/-- A party as it is made for a stream. -/
structure Newborn (type : PartyType) (streamName : Text) (party : Party) : Prop where
  type : party.type = type
  streamName : party.streamNameDisplay = streamName
  early : party.signalReady = false ∧ party.mediaReady = false ∧ party.allReady = false
  «open» : party.closed = none ∧ party.created = false
  conns : ∀ conn, party.conns conn = {}

/-- Parties of a table are left one after the other, each for a reason that may be chosen. -/
inductive Leaves (table : VideoRoom → AList fun _ : Text => Nat) (choice : Party → Int → Prop) :
    Session → Session → Prop where
  | done (session : Session) : Leaves table choice session session
  | leaves (listed : (table session.room).lookup streamName = some party)
      (chosen : choice (session.parties party) ec)
      (rest : Leaves table choice (session.shut party ec) after) : Leaves table choice session after

/-- The reason a party that is on no list any more is left for. -/
def UnlistedReason (party : Party) (ec : Int) : Prop := ec = if party.allReady then 0 else 20

/-- An order to leave that gets through its assertions. -/
def LeaveArgs.valid (args : LeaveArgs) : Bool := args.roomName.isSome && args.reason.truthy

/-- The stream to push, where there is sound or a picture and the picture has a source. -/
def PushArgs.chosen (push : PushArgs) : Option Text :=
  let audio := (push.audio.bind (·.present)).getD false
  let video := (push.video.bind (·.present)).getD false
  let source := push.video.bind (·.source)
  if (video || audio) && (!video || (source.isSome && source ≠ some 0)) then push.streamName
  else none

/-- The stream a join pushes, where it gets as far as that. -/
def JoinArgs.pushes (args : JoinArgs) (calls : Calls) : Option Text :=
  if args.roomName.isSome ∧ args.create.isSome ∧ args.uid.isSome ∧ args.nickName.isSome ∧
      args.token.isSome ∧ args.role.isSome ∧ calls.starts ∧ calls.roomWsOpens then
    args.push.bind (·.chosen)
  else none

/-- The stream a valid order to connect gives. -/
def ConnectArgs.target (args : ConnectArgs) : Option Text :=
  if args.roomName.isSome ∧ args.uid.isSome then args.streamName else none

/-- The name a valid order to disconnect gives, and whether the stream is a local one. -/
def DisconnectArgs.target (args : DisconnectArgs) : Option (PartyType × Text) :=
  if args.roomName.isSome ∧ args.uid.isSome ∧ args.reason.truthy then
    args.type.bind fun type => args.streamName.map fun streamName =>
      (if type = 0 then .localParty else .remoteParty, streamName)
  else none

def VideoRoom.tableOf (room : VideoRoom) : PartyType → AList fun _ : Text => Nat
  | .localParty => room.pushStreamPartyTable
  | .remoteParty => room.pullStreamPartyTable

/-- Everything one happening can come to. -/
inductive Course (session : Session) (happening : Happening) : Session → Prop where
  | aside (aside : Aside session after) : Course session happening after
  | getsOn (due : session.reply happening = some (party, reply)) (reached : session.Reaches party)
      (drifts : Drifts party (reply.opens session.calls) new session middle) (aside : Aside middle after) :
      Course session happening after
  | refuses (due : session.reply happening = some (party, reply)) (reached : session.Reaches party)
      (refused : reply.Refuses session party) (drifts : Drifts party (reply.opens session.calls) new session middle)
      (failure : ec ≠ 0) (aside : Aside (middle.fail party ec) after) :
      Course session happening after
  | iceFails (due : happening = .callsBack party (.iceConnectionChange newState))
      (reached : session.Reaches party) (alive : (session.parties party).closed = some false)
      (failing : newState = kIceConnectionFailed ∨ newState = kIceConnectionDisconnected ∨
        newState = kIceConnectionClosed) :
      Course session happening (session.fail party 51)
  | halfReady (due : session.readies happening = some (party, channel))
      (reached : session.Reaches party)
      (half : ¬ (((session.parties party).readied channel).signalReady = true ∧
        ((session.parties party).readied channel).mediaReady = true)) :
      Course session happening (session.updateParty party (·.readied channel))
  | welcome (due : session.readies happening = some (party, channel)) (reached : session.Reaches party)
      (type : (session.parties party).type = .remoteParty)
      (both : ((session.parties party).readied channel).signalReady = true ∧
        ((session.parties party).readied channel).mediaReady = true) :
      Course session happening ((session.updateParty party (·.readied channel)).welcome party)
  | announce (due : session.readies happening = some (party, channel)) (reached : session.Reaches party)
      (type : (session.parties party).type = .localParty)
      (both : ((session.parties party).readied channel).signalReady = true ∧
        ((session.parties party).readied channel).mediaReady = true)
      (aside : Aside ((session.updateParty party (·.readied channel)).announce party) middle) :
      Course session happening
        (middle.updateParty party fun before => { before with allReady := before.allReady || all })
  | detaches (due : session.detaches happening = some party) (known : session.Knows party) :
      Course session happening (session.shut party 0)
  | leaves (due : happening = .leave args) (valid : args.valid = true) (reason : args.reason.toInteger = some ec)
      (aside : Aside session first)
      (pushes : Leaves (·.pushStreamPartyTable) (fun _ chosen => chosen = ec) first second)
      (pulls : Leaves (·.pullStreamPartyTable) (fun _ chosen => chosen = ec) second after) :
      Course session happening after
  | unlists (due : happening = .mediaSvcData message) (aside : Aside session first)
      (pulls : Leaves (·.pullStreamPartyTable) UnlistedReason first second)
      (behind : Aside second after) : Course session happening after
  | abandonsLeaving (due : happening = .leave args) (valid : args.valid = true) (reason : args.reason.toInteger = none)
      (aside : Aside session middle)
      (listed : (middle.room.tableOf type).lookup streamName = some party) :
      Course session happening (middle.abandon party)
  | abandons (due : happening = .disconnectStream args)
      (target : args.target = some (type, streamName))
      (listed : (session.room.tableOf type).lookup streamName = some party) :
      Course session happening (session.abandon party)
  | joins (due : happening = .join args) (pushed : args.pushes session.calls = some streamName)
      (aside : Aside session first)
      (newborn : Newborn .localParty streamName party)
      (drifts : Drifts session.made [.rtc, .named] new
        ((first.make party).updateRoom (·.addPush streamName session.made)) middle)
      (ends : Aside middle after ∨
        ¬ (session.calls.rtcOpens = true ∧ session.calls.offers = true) ∧
          ∃ ec, ec ≠ 0 ∧ Aside (middle.fail session.made ec) after) :
      Course session happening after
  | connects (due : happening = .connectStream args) (target : args.target = some streamName)
      (newborn : Newborn .remoteParty streamName party)
      (drifts : Drifts session.made [.masterd] new
        ((session.make party).updateRoom (·.addPull streamName session.made)) middle)
      (ends : Aside middle after ∨ session.calls.httpOpens = true ∧ session.calls.gets = false ∧
        after = middle.fail session.made 23) :
      Course session happening after

/-- Nothing but steps aside before a script goes on. -/
theorem Course.lead {session first : Session} {script : Lua A} {next : A → Lua B}
    (aside : Aside session first) (steady : Steady script)
    (goes : ∀ value reached, Aside session reached →
      Course session happening (next value reached).2) :
    Course session happening ((script >>= next) first).2 :=
  Within.lead steady (fun _ kept => .aside (aside.trans kept))
    fun value reached kept => goes value reached (aside.trans kept)

/-! ### The callbacks of a party -/

theorem run_course {session after : Session} (due : session.reply happening = some (party, reply))
    (reached : session.Reaches party) (aside : Aside (reply.run party session).2 after) :
    Course session happening after := by
  have outcome := reply.run_outcome session party
  have reads := reply.verdict_reads session party
  generalize reply.verdict session party = verdict at outcome reads
  generalize reply.run party session = result at outcome aside
  cases outcome with
  | asks drifts => exact .getsOn due reached drifts aside
  | rests drifts => exact .getsOn due reached drifts aside
  | refuses drifts silent failure =>
    exact .refuses due reached (reads.2.mp ⟨_, rfl⟩) drifts failure aside
  | raises drifts => exact .getsOn due reached drifts aside
  | stalls drifts => exact .getsOn due reached drifts aside

theorem iceConnection_course (session : Session) (party : Nat) (newState : Nat)
    (reached : session.Reaches party) :
    Course session (.callsBack party (.iceConnectionChange newState))
      (Party.onIceConnectionChange party newState session).2 := by
  unfold Party.onIceConnectionChange
  rw [bind_apply, theParty_apply]
  dsimp only
  rw [if_apply]
  split
  · rename_i failing
    rw [onPartyCreate_fail session party (by decide)]
    exact .iceFails rfl reached failing.1 failing.2
  · exact .aside (.refl session)

/-- What the room does once a local party has been counted. -/
def VideoRoom.onCreated : Lua Unit := do
  if ¬ (← theRoom).roomNameInternal.isNil then VideoRoom.requestMediaSvc
  else setRoom fun room => { room with msgSvcPending := true }

theorem onCreated_steady : Steady VideoRoom.onCreated :=
  theRoom_steady.bind fun _ =>
    .branch (fun _ => VideoRoom.requestMediaSvc_steady) fun _ => setRoom_steady fun _ => rfl

theorem onPartyCreate_success {session : Session} (type : (session.parties party).type = .localParty) :
    VideoRoom.onPartyCreate 0 party session = VideoRoom.onCreated (session.announce party) := by
  unfold VideoRoom.onPartyCreate VideoRoom.onCreated
  simp only [bind_apply, theParty_apply, type, if_true, setRoom_apply, setParty_apply]
  rfl

theorem updateParty_same (session : Session) (party : Nat) {change : Party → Party}
    (same : ∀ before, change before = before) : session.updateParty party change = session := by
  unfold Session.updateParty
  congr
  funext other
  split
  · rename_i eq
    rw [same, eq]
  · rfl

theorem check_course {session : Session} (due : session.readies happening = some (party, channel))
    (reached : session.Reaches party) :
    Course session happening
      (Party.checkChannelReady party (session.updateParty party (·.readied channel))).2 := by
  have own : (session.updateParty party (·.readied channel)).parties party =
    (session.parties party).readied channel := Session.updateParty_self ..
  have kept : ((session.parties party).readied channel).type = (session.parties party).type := by
    cases channel <;> rfl
  unfold Party.checkChannelReady
  rw [bind_apply, theParty_apply]
  dsimp only
  rw [if_apply, own, kept]
  split
  · rename_i both
    cases type : (session.parties party).type with
    | localParty =>
      dsimp only
      rw [bind_apply, onPartyCreate_success (by rw [own, kept, type])]
      have aside := onCreated_steady.kept
        ((session.updateParty party (·.readied channel)).announce party)
      generalize VideoRoom.onCreated
        ((session.updateParty party (·.readied channel)).announce party) = result at aside
      obtain ⟨_ | _, middle⟩ := result
      · have ended : Course session happening (middle.updateParty party fun before =>
          { before with allReady := before.allReady || false }) := .announce due reached type both aside
        rwa [updateParty_same _ _ fun before => by rw [Bool.or_false]] at ended
      · have ended : Course session happening (middle.updateParty party fun before =>
          { before with allReady := before.allReady || true }) := .announce due reached type both aside
        simp only [Bool.or_true] at ended
        exact ended
    | remoteParty =>
      have welcomed := Course.welcome due reached type both
      unfold Session.welcome at welcomed
      rw [own] at welcomed
      exact welcomed
  · rename_i half
    exact .halfReady due reached half

/-! ### Messages of a server -/

theorem lookupTransaction_apply {jsonData : LuaValue} (indexable : jsonData.indexable = true)
    (session : Session) :
    VideoRoom.lookupTransaction jsonData session = (some (session.transactionOf jsonData), session) := by
  unfold VideoRoom.lookupTransaction Session.transactionOf
  simp [LuaValue.field_of_indexable indexable]

theorem transactionOf_filed {session : Session} {jsonData : LuaValue} {id : Text}
    (found : session.transactionOf jsonData = some (id, transaction)) :
    session.transactionTable id = some transaction := by
  unfold Session.transactionOf at found
  obtain ⟨id', _, found⟩ := Option.bind_eq_some_iff.mp found
  obtain ⟨transaction', filed, same⟩ := Option.map_eq_some_iff.mp found
  cases same
  exact filed

theorem processTransaction_run {transaction : Transaction} (calls : transaction.cb = some cb)
    (success : Bool) (jsonData : LuaValue) :
    VideoRoom.processTransaction transaction success jsonData =
      (cb.reply success jsonData).run cb.party := by
  unfold VideoRoom.processTransaction
  rw [calls]
  cases cb <;> rfl

/-- A transaction is processed, and removed unless its callback stops in an error. -/
def VideoRoom.finishTransaction (success : Bool) (jsonData : LuaValue) (found : Text × Transaction) :
    Lua Unit := do
  processTransaction found.2 success jsonData
  modify (·.removeTransaction found.1)

theorem finishTransaction_course {session : Session} {jsonData : LuaValue}
    (found : session.transactionOf jsonData = some entry)
    (due : ∀ cb, entry.2.cb = some cb →
      session.reply happening = some (cb.party, cb.reply success jsonData)) :
    Course session happening
      (VideoRoom.finishTransaction success jsonData entry session).2 := by
  obtain ⟨id, transaction⟩ := entry
  unfold VideoRoom.finishTransaction
  rw [bind_apply]
  cases calls : transaction.cb with
  | none =>
    have idle : VideoRoom.processTransaction transaction success jsonData session =
        (some (), session) := by
      unfold VideoRoom.processTransaction
      rw [calls]
      rfl
    simp only [idle]
    exact .aside (.removeTransaction session id)
  | some cb =>
    have reached : session.Reaches cb.party :=
      .inl (.inr ⟨id, transaction, cb, transactionOf_filed found, calls, rfl⟩)
    apply run_course (due cb calls) reached
    simp only [processTransaction_run calls]
    generalize (cb.reply success jsonData).run cb.party session = result
    obtain ⟨_ | _, middle⟩ := result
    · exact .refl middle
    · exact .removeTransaction middle id

section
variable {session : Session} {jsonData : LuaValue} {happening : Happening}

theorem called_of_found (found : session.transactionOf jsonData = some entry)
    (calls : entry.2.cb = some cb) (success : Bool) :
    session.called success jsonData = some (cb.party, cb.reply success jsonData) := by
  simp [Session.called, found, calls]

theorem transactionResult_course (indexable : jsonData.indexable = true) (success : Bool)
    (due : session.reply happening = session.called success jsonData) :
    Course session happening (VideoRoom.processTransactionResult success jsonData session).2 := by
  unfold VideoRoom.processTransactionResult
  rw [bind_apply, lookupTransaction_apply indexable]
  cases found : session.transactionOf jsonData with
  | none => exact .aside (.refl session)
  | some entry =>
    exact finishTransaction_course found fun cb calls => due.trans (called_of_found found calls success)

theorem event_course (indexable : jsonData.indexable = true)
    (due : (session.handlePartyTable (jsonData.get "sender")).isSome = true →
      session.reply happening = session.called true jsonData) :
    Course session happening (VideoRoom.processEvent jsonData session).2 := by
  unfold VideoRoom.processEvent
  simp only [bind_apply, field_apply, LuaValue.field_of_indexable indexable, get_apply]
  rw [if_apply]
  split
  · rename_i known
    rw [bind_apply, lookupTransaction_apply indexable]
    cases found : session.transactionOf jsonData with
    | none =>
      refine .aside (Within.kept ?_ session)
      refine (field_steady ..).bind fun _ => .branch (fun _ => ?_) fun _ => .pure ()
      exact (field_steady ..).bind fun _ =>
        .branch (fun _ => (field_steady ..).discard) fun _ => .pure ()
    | some entry =>
      exact finishTransaction_course found fun cb calls =>
        (due known).trans (called_of_found found calls true)
  · exact .aside (.refl session)

theorem ack_aside (jsonData : LuaValue) (session : Session) :
    Aside session (VideoRoom.processAck jsonData session).2 := by
  unfold VideoRoom.processAck
  cases indexable : jsonData.indexable with
  | false =>
    simp [VideoRoom.lookupTransaction, LuaValue.field_of_not_indexable indexable, Aside.refl]
  | true =>
    rw [bind_apply, lookupTransaction_apply indexable]
    cases found : session.transactionOf jsonData with
    | none => exact .refl session
    | some entry =>
      obtain ⟨id, transaction⟩ := entry
      have acked : Aside session _ := .ack (transactionOf_filed found)
      simp only [bind_apply, modify_apply]
      rw [if_apply]
      split
      · exact acked.trans (.removeTransaction _ id)
      · exact acked

theorem senderParty_apply (indexable : jsonData.indexable = true) (session : Session) :
    VideoRoom.senderParty jsonData session =
      if (jsonData.get "session_id").toInteger.isSome ∧ (jsonData.get "sender").toInteger.isSome then
        (some (session.handlePartyTable (jsonData.get "sender")), session)
      else (none, session) := by
  unfold VideoRoom.senderParty
  cases first : (jsonData.get "session_id").toInteger with
  | none => simp [LuaValue.field_of_indexable indexable, first]
  | some sid =>
    cases second : (jsonData.get "sender").toInteger with
    | none => simp [LuaValue.field_of_indexable indexable, first, second]
    | some hid => simp [LuaValue.field_of_indexable indexable, first, second]

theorem webrtcup_course (indexable : jsonData.indexable = true)
    (due : session.readies happening =
      (session.senderOf jsonData).map fun party => (party, .signal)) :
    Course session happening (VideoRoom.processWebrtcupNotify jsonData session).2 := by
  unfold VideoRoom.processWebrtcupNotify
  unfold Session.senderOf at due
  rw [bind_apply, senderParty_apply indexable]
  split at due
  · rename_i printed
    rw [if_pos printed]
    cases known : session.handlePartyTable (jsonData.get "sender") with
    | none => exact .aside (.refl session)
    | some party =>
      rw [known] at due
      exact check_course due (.inl (.inl ⟨_, known⟩))
  · rename_i unprinted
    rw [if_neg unprinted]
    exact .aside (.refl session)

theorem detached_course (indexable : jsonData.indexable = true)
    (due : session.detaches happening = session.senderOf jsonData) :
    Course session happening (VideoRoom.processDetachedNotify jsonData session).2 := by
  unfold VideoRoom.processDetachedNotify
  unfold Session.senderOf at due
  rw [bind_apply, senderParty_apply indexable]
  split at due
  · rename_i printed
    rw [if_pos printed]
    cases known : session.handlePartyTable (jsonData.get "sender") with
    | none => exact .aside (.refl session)
    | some party =>
      rw [known] at due
      dsimp only
      rw [close_some]
      exact .detaches due (.inl ⟨_, known⟩)
  · rename_i unprinted
    rw [if_neg unprinted]
    exact .aside (.refl session)

end

theorem janusData_course (session : Session) (party : Nat) (message : Option LuaValue) :
    Course session (.callsBack party (.janusData message))
      (VideoRoom.handleJanusData message session).2 := by
  unfold VideoRoom.handleJanusData
  cases message with
  | none => exact .aside (.refl session)
  | some jsonData =>
    cases indexable : jsonData.indexable with
    | false =>
      simp only [bind_apply, ofOption_apply, field_apply, LuaValue.field_of_not_indexable indexable]
      exact .aside (.refl session)
    | true =>
      simp only [bind_apply, ofOption_apply, field_apply, LuaValue.field_of_indexable indexable]
      generalize kind : (jsonData.get "bee").text.map String.ofList = said
      have kind' : Session.kindOf jsonData = said := kind
      split
      · exact transactionResult_course indexable true (by simp [Session.reply, Session.janusReply, kind'])
      · exact transactionResult_course indexable false (by simp [Session.reply, Session.janusReply, kind'])
      · exact .aside (ack_aside jsonData session)
      · exact event_course indexable fun known => by
          simp [Session.reply, Session.janusReply, kind', known]
      · exact webrtcup_course indexable (by simp [Session.readies, kind'])
      · exact .aside ((VideoRoom.senderParty_steady jsonData).discard.kept session)
      · exact .aside ((VideoRoom.processSlowlinkNotify_steady jsonData).kept session)
      · exact .aside ((VideoRoom.senderParty_steady jsonData).discard.kept session)
      · exact detached_course indexable (by simp [Session.detaches, kind'])
      · exact .aside (.refl session)

theorem callback_course (session : Session) (party : Nat) (callback : Callback)
    (due : ((session.parties party).conns callback.conn).isOpen = true) :
    Course session (.callsBack party callback) (callback.run party session).2 := by
  have reached : session.Reaches party := .inr ⟨_, due⟩
  cases callback with
  | namedReply ec1 body => exact run_course rfl reached (.refl _)
  | masterdReply ec1 body => exact run_course rfl reached (.refl _)
  | scheduledReply ec1 body => exact run_course rfl reached (.refl _)
  | janusConnectResult res => exact run_course rfl reached (.refl _)
  | janusData message => exact janusData_course session party message
  | offerCreated jsep => exact run_course rfl reached (.refl _)
  | answerCreated jsep => exact run_course rfl reached (.refl _)
  | iceCandidate candidate => exact .aside ((Party.takeCandidate_steady party candidate).kept session)
  | iceGatheringChange newState =>
    exact .aside ((Party.onIceGatheringChange_steady party newState).kept session)
  | iceConnectionChange newState => exact iceConnection_course session party newState reached
  | mediaReady =>
    have due : session.readies (.callsBack party .mediaReady) = some (party, .media) := rfl
    exact check_course due reached
  | janusTimeout => exact .aside ((Party.handleJanusTimeout_steady party).kept session)

/-! ### Leaving -/

theorem updateParty_twice (session : Session) (party : Nat) (first second : Party → Party) :
    (session.updateParty party first).updateParty party second =
      session.updateParty party fun before => second (first before) := by
  unfold Session.updateParty
  congr
  funext other
  by_cases same : other = party <;> simp [same]

theorem leave_updates (session : Session) (party : Nat) :
    (session.updateParty party (·.closeRtc)).updateParty party (·.closeConns) =
      session.updateParty party (·.closeConns) := by
  rw [updateParty_twice]
  congr
  funext before
  unfold Party.closeConns Party.closeRtc
  congr
  funext conn
  by_cases rtc : conn = .rtc <;> simp [rtc, Slot.close]

theorem abandon_closeRtc (session : Session) (party : Nat) :
    (session.updateParty party (·.closeRtc)).abandon party = session.abandon party := by
  unfold Session.abandon
  rw [leave_updates]

theorem leave_some (session : Session) (party : Nat) (ec : Int) :
    Party.leave party (some ec) session = (some (), session.shut party ec) := by
  have same : (session.updateParty party (·.closeRtc)).shut party ec = session.shut party ec := by
    unfold Session.shut
    rw [leave_updates, Session.updateParty_self]
    rfl
  unfold Party.leave
  rw [bind_apply, setParty_apply]
  dsimp only
  rw [close_some, same]

theorem leave_none (session : Session) (party : Nat) :
    Party.leave party none session = (none, session.abandon party) := by
  unfold Party.leave Party.close
  rw [← abandon_closeRtc]
  simp [onPartyClosed_apply, Party.reportClose, Session.abandon]

section
variable {table : VideoRoom → AList fun _ : Text => Nat} {choice : Party → Int → Prop}

/-- A loop over a table each of whose rounds leaves one party, or none. -/
theorem each_leaves {script : A → Lua Unit}
    (round : ∀ value session, script value session = (some (), session) ∨
      ∃ streamName party ec, (table session.room).lookup streamName = some party ∧
        choice (session.parties party) ec ∧ script value session = (some (), session.shut party ec))
    (list : List A) (session : Session) :
    ∃ after, each list script session = (some (), after) ∧ Leaves table choice session after := by
  induction list generalizing session with
  | nil => exact ⟨session, rfl, .done session⟩
  | cons value rest ih =>
    rcases round value session with idle | ⟨streamName, party, ec, listed, chosen, left⟩
    · simpa [each, idle] using ih session
    · obtain ⟨after, ran, leaves⟩ := ih (session.shut party ec)
      exact ⟨after, by simp [each, left, ran], .leaves listed chosen leaves⟩

theorem leaveParties_some (table : VideoRoom → AList fun _ : Text => Nat) (session : Session)
    (ec : Int) :
    ∃ after, VideoRoom.leaveParties table (some ec) session = (some (), after) ∧
      Leaves table (fun _ chosen => chosen = ec) session after := by
  unfold VideoRoom.leaveParties
  rw [bind_apply, theRoom_apply]
  refine each_leaves (fun entry session => ?_) _ session
  rw [bind_apply, theRoom_apply]
  dsimp only
  rw [if_apply]
  split
  · rename_i listed
    exact .inr ⟨_, _, ec, listed, rfl, leave_some ..⟩
  · exact .inl rfl

/-- Without a reason that can be printed the first party that is left ends the loop. -/
theorem leaveParties_none (table : VideoRoom → AList fun _ : Text => Nat) (session : Session) :
    VideoRoom.leaveParties table none session = (some (), session) ∨
      ∃ streamName party, (table session.room).lookup streamName = some party ∧
        VideoRoom.leaveParties table none session = (none, session.abandon party) := by
  unfold VideoRoom.leaveParties
  rw [bind_apply, theRoom_apply]
  dsimp only
  generalize (table session.room).entries = list
  induction list with
  | nil => exact .inl rfl
  | cons entry rest ih =>
    by_cases listed : (table session.room).lookup entry.1 = some entry.2
    · exact .inr ⟨_, _, listed, by simp [each, listed, leave_none]⟩
    · simpa [each, listed] using ih

end

theorem close_course (session : Session) {args : LeaveArgs} (valid : args.valid = true) :
    Course session (.leave args) (VideoRoom.close args.reason.toInteger session).2 := by
  have begun : Aside session (session.updateRoom (·.beginLeaving)) := .room session fun _ => rfl
  unfold VideoRoom.close
  rw [bind_apply, setRoom_apply]
  dsimp only
  cases reason : args.reason.toInteger with
  | some ec =>
    obtain ⟨second, ran, pushes⟩ := leaveParties_some (·.pushStreamPartyTable)
      (session.updateRoom (·.beginLeaving)) ec
    obtain ⟨after, ran', pulls⟩ := leaveParties_some (·.pullStreamPartyTable) second ec
    rw [bind_apply, ran]
    dsimp only
    rw [ran']
    exact .leaves rfl valid reason begun pushes pulls
  | none =>
    rw [bind_apply]
    rcases leaveParties_none (·.pushStreamPartyTable) (session.updateRoom (·.beginLeaving)) with
      idle | ⟨streamName, party, listed, stopped⟩
    · rw [idle]
      dsimp only
      rcases leaveParties_none (·.pullStreamPartyTable) (session.updateRoom (·.beginLeaving)) with
        idle | ⟨streamName, party, listed, stopped⟩
      · rw [idle]
        exact .aside begun
      · rw [stopped]
        have held : ((session.updateRoom (·.beginLeaving)).room.tableOf .remoteParty).lookup
          streamName = some party := listed
        exact .abandonsLeaving rfl valid reason begun held
    · rw [stopped]
      have held : ((session.updateRoom (·.beginLeaving)).room.tableOf .localParty).lookup
        streamName = some party := listed
      exact .abandonsLeaving rfl valid reason begun held

theorem leave_course (session : Session) (args : LeaveArgs) :
    Course session (.leave args) (VideoRoom.leave args session).2 := by
  unfold VideoRoom.leave
  cases named : args.roomName with
  | none => simpa [named] using Course.aside (.refl session)
  | some roomName =>
    cases given : args.reason.truthy with
    | false => simpa [named, given] using Course.aside (.refl session)
    | true =>
      have valid : args.valid = true := by simp [LeaveArgs.valid, named, given]
      simpa [named, given] using close_course session valid

theorem disconnect_course (session : Session) (args : DisconnectArgs) :
    Course session (.disconnectStream args) (VideoRoom.disconnectStream args session).2 := by
  unfold VideoRoom.disconnectStream
  cases named : args.roomName with
  | none => simpa [named] using Course.aside (.refl session)
  | some roomName =>
    cases streamed : args.streamName with
    | none => simpa [named, streamed] using Course.aside (.refl session)
    | some streamName =>
      cases uid : args.uid with
      | none => simpa [named, streamed, uid] using Course.aside (.refl session)
      | some uid' =>
        cases typed : args.type with
        | none => simpa [named, streamed, uid, typed] using Course.aside (.refl session)
        | some type =>
          cases given : args.reason.truthy with
          | false => simpa [named, streamed, uid, typed, given] using Course.aside (.refl session)
          | true =>
            have target : args.target =
                some (if type = 0 then .localParty else .remoteParty, streamName) := by
              simp [DisconnectArgs.target, named, streamed, uid, typed, given]
            have table : (if type = 0 then session.room.pushStreamPartyTable
                else session.room.pullStreamPartyTable) =
                session.room.tableOf (if type = 0 then .localParty else .remoteParty) := by
              split <;> rfl
            simp only [bind_apply, assert_apply, ofOption_apply, Option.isSome_some, if_true,
              theRoom_apply, table]
            cases listed : (session.room.tableOf
                (if type = 0 then .localParty else .remoteParty)).lookup streamName with
            | none => exact .aside (.refl session)
            | some party =>
              dsimp only
              rw [leave_none]
              exact .abandons rfl target listed

/-! ### Making parties -/

theorem makeParty_apply (session : Session) (type : PartyType) (uid nickName : Option Text)
    (streamName : Text) :
    ∃ party, Newborn type streamName party ∧
      VideoRoom.makeParty type uid nickName streamName session =
        (some session.made, session.make party) :=
  ⟨_, ⟨rfl, rfl, ⟨rfl, rfl, rfl⟩, ⟨rfl, rfl⟩, fun _ => rfl⟩, rfl⟩

theorem requestMasterdSvr_drifts (session : Session) (party : Nat) (streamName : Text) :
    ∃ new middle, Moves party [.masterd] new session middle ∧
      ((Party.requestMasterdSvr party streamName session).2 = middle ∨
        session.calls.httpOpens = true ∧ session.calls.gets = false ∧
          (Party.requestMasterdSvr party streamName session).2 = middle.fail party 23) := by
  have named : Moves party [] [] session (session.updateParty party fun before =>
    { before with streamNameInternal := .string streamName }) := .update _ _ rfl rfl rfl
  unfold Party.requestMasterdSvr
  rw [bind_apply, setParty_apply]
  dsimp only
  generalize session.updateParty party (fun before =>
    { before with streamNameInternal := .string streamName }) = filed at named ⊢
  have connected := named.trans (.assign _ .masterd filed.calls.httpOpens rfl) (by simp)
  simp only [bind_apply, theCalls_apply, setConn_apply, assert_apply]
  cases opened : filed.calls.httpOpens with
  | false =>
    rw [opened] at connected
    exact ⟨_, _, connected, .inl rfl⟩
  | true =>
    rw [opened] at connected
    cases got : filed.calls.gets with
    | true =>
      refine ⟨_, _, connected.asking (.masterdSvr streamName), .inl ?_⟩
      simp [got]
    | false =>
      refine ⟨_, _, connected, .inr ⟨named.calls ▸ opened, named.calls ▸ got, ?_⟩⟩
      simp [got, onPartyCreate_fail]

theorem pull_drifts (session : Session) (party : Nat) (streamName : Text) (audio video : Bool) :
    ∃ new middle, Drifts party [.masterd] new session middle ∧
      ((Party.pull party streamName audio video session).2 = middle ∨
        session.calls.httpOpens = true ∧ session.calls.gets = false ∧
          (Party.pull party streamName audio video session).2 = middle.fail party 23) := by
  have flagged : Moves party [] [] session (session.updateParty party fun before =>
    { before with pullAudio := audio, pullVideo := video }) := .update _ _ rfl rfl rfl
  unfold Party.pull
  rw [bind_apply, setParty_apply]
  dsimp only
  obtain ⟨new, middle, moves, ends⟩ := requestMasterdSvr_drifts
    (session.updateParty party fun before =>
      { before with pullAudio := audio, pullVideo := video }) party streamName
  exact ⟨_, middle, (flagged.trans moves (by simp)).toDrifts, ends⟩

theorem connect_course (session : Session) (args : ConnectArgs) :
    Course session (.connectStream args) (VideoRoom.connectStream args session).2 := by
  unfold VideoRoom.connectStream
  cases named : args.roomName with
  | none => simpa [named] using Course.aside (.refl session)
  | some roomName =>
    cases streamed : args.streamName with
    | none => simpa [named, streamed] using Course.aside (.refl session)
    | some streamName =>
      cases uid : args.uid with
      | none => simpa [named, streamed, uid] using Course.aside (.refl session)
      | some uid' =>
        unfold VideoRoom.doConnectStream
        obtain ⟨party, newborn, made⟩ :=
          makeParty_apply session .remoteParty (some uid') none streamName
        simp only [bind_apply, assert_apply, ofOption_apply, Option.isSome_some, if_true, made,
          setRoom_apply]
        obtain ⟨new, middle, drifts, ends⟩ := pull_drifts
          ((session.make party).updateRoom (·.addPull streamName session.made)) session.made streamName
          (args.pullAudio.getD true) (args.pullVideo.getD true)
        have target : args.target = some streamName := by
          simp [ConnectArgs.target, named, streamed, uid]
        refine .connects rfl target newborn drifts ?_
        rcases ends with same | failed
        · rw [same]
          exact .inl (.refl middle)
        · exact .inr failed

theorem createLocalOffer_moves (session : Session) (party : Nat) :
    ∃ new middle, Moves party [.rtc] new session middle ∧
      (Party.createLocalOffer party session = (some true, middle) ∨
        ¬ (session.calls.rtcOpens = true ∧ session.calls.offers = true) ∧
          ∃ ec, ec ≠ 0 ∧
            Party.createLocalOffer party session = (some false, middle.fail party ec)) := by
  have connected : Moves party [.rtc] [] session _ := .assign session .rtc session.calls.rtcOpens rfl
  unfold Party.createLocalOffer
  simp only [bind_apply, theCalls_apply, setConn_apply]
  cases opened : session.calls.rtcOpens with
  | false =>
    rw [opened] at connected
    refine ⟨_, _, connected, .inr ⟨by simp, 39, by decide, ?_⟩⟩
    simp [onPartyCreate_fail]
  | true =>
    rw [opened] at connected
    cases offered : session.calls.offers with
    | true =>
      refine ⟨_, _, connected.asking .createOffer, .inl ?_⟩
      simp [offered]
    | false =>
      refine ⟨_, _, connected, .inr ⟨by simp, 41, by decide, ?_⟩⟩
      simp [offered, onPartyCreate_fail]

theorem push_drifts (session : Session) (party : Nat) (audio video : Option Int) :
    ∃ new middle, Drifts party [.rtc, .named] new session middle ∧
      ((Party.push party audio video session).2 = middle ∨
        ¬ (session.calls.rtcOpens = true ∧ session.calls.offers = true) ∧
          ∃ ec, ec ≠ 0 ∧ (Party.push party audio video session).2 = middle.fail party ec) := by
  have flagged : Moves party [] [] session (session.updateParty party fun before => { before with
      pushAudio := before.pushAudio || audio ≠ some 0
      pushVideo := before.pushVideo || video ≠ some 0 }) := .update _ _ rfl rfl rfl
  unfold Party.push
  rw [bind_apply, setParty_apply]
  dsimp only
  generalize session.updateParty party (fun before => { before with
      pushAudio := before.pushAudio || audio ≠ some 0
      pushVideo := before.pushVideo || video ≠ some 0 }) = filed at flagged ⊢
  obtain ⟨new, middle, moves, ends⟩ := createLocalOffer_moves filed party
  have offered := flagged.trans moves (by simp)
  rw [bind_apply]
  rcases ends with done | ⟨refused, ec, failure, failed⟩
  · rw [done]
    simp only [bind_apply, theCalls_apply, setConn_apply, assert_apply, if_true]
    have connected := offered.trans (.assign _ .named middle.calls.httpOpens rfl) (by simp)
    cases opened : middle.calls.httpOpens with
    | false =>
      rw [opened] at connected
      exact ⟨_, _, connected.toDrifts, .inl rfl⟩
    | true =>
      rw [opened] at connected
      cases got : middle.calls.gets with
      | true =>
        refine ⟨_, _, (connected.asking (.namedSvr
          (middle.parties party).streamNameDisplay)).toDrifts, .inl ?_⟩
        simp [got, Party.assignConn]
      | false =>
        refine ⟨_, _, connected.toDrifts, .inl ?_⟩
        simp [got]
  · rw [failed]
    refine ⟨_, middle, (offered.within (by simp)).toDrifts, .inr ⟨flagged.calls ▸ refused, ec, failure, ?_⟩⟩
    rfl

/-- A party is made for the stream to push, wherever the room has got to by then. -/
theorem push_course {session first : Session} (aside : Aside session first)
    (pushed : args.pushes session.calls = some streamName) :
    Course session (.join args) (VideoRoom.push streamName first).2 := by
  unfold VideoRoom.push
  obtain ⟨party, newborn, made⟩ :=
    makeParty_apply first .localParty first.room.uid first.room.nickName streamName
  simp only [bind_apply, theRoom_apply, made, setRoom_apply]
  obtain ⟨new, middle, drifts, ends⟩ := push_drifts
    ((first.make party).updateRoom (·.addPush streamName first.made)) first.made
    first.room.audioSource first.room.videoSource
  generalize Party.push first.made first.room.audioSource first.room.videoSource
    ((first.make party).updateRoom (·.addPush streamName first.made)) = result at ends
  rw [aside.made] at drifts ends
  have calls : ((first.make party).updateRoom (·.addPush streamName session.made)).calls =
    session.calls := aside.calls
  obtain ⟨ended, reached⟩ := result
  have course : ∀ {after}, Aside reached after → Course session (.join args) after := by
    intro after behind
    refine .joins rfl pushed aside newborn drifts ?_
    rcases ends with same | ⟨refused, ec, failure, failed⟩
    · exact .inl (same ▸ behind)
    · exact .inr ⟨calls ▸ refused, ec, failure, failed ▸ behind⟩
  cases ended with
  | none => exact course (.refl reached)
  | some _ =>
    refine course ?_
    dsimp only
    exact .room reached fun _ => rfl

/-- What is to be pushed, and under which name. -/
def VideoRoom.choice (room : VideoRoom) : Option Text × Bool × Bool :=
  (room.streamNameDisplay, room.pushVideo, room.pushAudio)

theorem requestNamedSvrForMediaSvc_apply (session : Session) :
    ∃ reached, VideoRoom.requestNamedSvrForMediaSvc session = (some (), reached) ∧
      Aside session reached ∧ reached.room.choice = session.room.choice := by
  have kept := VideoRoom.requestNamedSvrForMediaSvc_steady.kept session
  refine ⟨_, ?_, kept, ?_⟩
  · simp only [VideoRoom.requestNamedSvrForMediaSvc, bind_apply, theCalls_apply, setRoom_apply]
    rw [if_apply]
    split <;> rfl
  · simp only [VideoRoom.requestNamedSvrForMediaSvc, bind_apply, theCalls_apply, setRoom_apply]
    rw [if_apply]
    split <;> rfl

theorem open_course {session first : Session} {args : JoinArgs} (aside : Aside session first)
    (pushed : (first.room.pushVideo = true ∨ first.room.pushAudio = true) →
      session.calls.starts = true → session.calls.roomWsOpens = true →
        args.pushes session.calls = some (first.room.streamNameDisplay.getD [])) :
    Course session (.join args) (VideoRoom.open first).2 := by
  have connected : Aside session (first.updateRoom fun room =>
    { room with msgSvcWs := room.msgSvcWs.assign session.calls.roomWsOpens }) :=
    aside.trans (.room first fun _ => rfl)
  unfold VideoRoom.open
  cases starts : session.calls.starts with
  | false =>
    simp only [bind_apply, theCalls_apply, assert_apply, aside.calls, starts, Bool.false_eq_true,
      if_false]
    exact .aside aside
  | true =>
    simp only [bind_apply, theCalls_apply, assert_apply, setRoom_apply, aside.calls, starts, if_true]
    cases opened : session.calls.roomWsOpens with
    | false =>
      rw [opened] at connected
      exact .aside connected
    | true =>
      rw [opened] at connected
      obtain ⟨reached, ran, behind, choice⟩ := requestNamedSvrForMediaSvc_apply
        (first.updateRoom fun room => { room with msgSvcWs := room.msgSvcWs.assign true })
      have name : reached.room.streamNameDisplay = first.room.streamNameDisplay :=
        congrArg Prod.fst choice
      have flags : (reached.room.pushVideo, reached.room.pushAudio) =
        (first.room.pushVideo, first.room.pushAudio) := congrArg Prod.snd choice
      obtain ⟨video, audio⟩ := Prod.mk.inj flags
      simp only [if_true, ran, theRoom_apply]
      rw [if_apply]
      split
      · rename_i pushes
        rw [video, audio] at pushes
        rw [name]
        exact push_course (connected.trans behind) (pushed pushes starts opened)
      · refine .aside (connected.trans (behind.trans (Within.kept ?_ reached)))
        exact setRoom_steady fun _ => rfl

/-- The room once it has taken what is to be pushed. -/
def VideoRoom.taking (room : VideoRoom) (streamName : Text) (push : PushArgs) : VideoRoom :=
  { room with
    streamNameDisplay := some streamName
    pushAudio := (push.audio.bind (·.present)).getD room.pushAudio
    audioSource := (push.audio.map (·.source)).getD room.audioSource
    pushVideo := (push.video.bind (·.present)).getD room.pushVideo
    videoSource := (push.video.map (·.source)).getD room.videoSource }

theorem takePush_apply (push : PushArgs) (session : Session) :
    VideoRoom.takePush push session = match push.streamName with
      | none => (none, session)
      | some streamName => (some (), session.updateRoom (·.taking streamName push)) := by
  obtain ⟨streamName, audio, video⟩ := push
  unfold VideoRoom.takePush
  cases streamName with
  | none => rfl
  | some streamName => cases audio <;> cases video <;> rfl

/-- What a join does once it has taken what is to be pushed. -/
def VideoRoom.checkAndOpen : Lua Unit := do
  let room ← theRoom
  assert (¬ room.pushVideo || (room.videoSource.isSome && room.videoSource ≠ some 0))
  VideoRoom.open

theorem checkAndOpen_course {session first : Session} {args : JoinArgs} (aside : Aside session first)
    (pushed : (first.room.pushVideo = true ∨ first.room.pushAudio = true) →
      (first.room.pushVideo = true → first.room.videoSource.isSome = true ∧
        first.room.videoSource ≠ some 0) →
      session.calls.starts = true → session.calls.roomWsOpens = true →
        args.pushes session.calls = some (first.room.streamNameDisplay.getD [])) :
    Course session (.join args) (VideoRoom.checkAndOpen first).2 := by
  unfold VideoRoom.checkAndOpen
  simp only [bind_apply, theRoom_apply, assert_apply]
  generalize checked : (decide ¬ first.room.pushVideo = true ||
    first.room.videoSource.isSome && decide (first.room.videoSource ≠ some 0)) = fine
  cases fine with
  | true =>
    refine open_course aside fun pushes => pushed pushes fun video => ?_
    simpa [video] using checked
  | false => exact .aside aside

theorem join_course (session : Session) (args : JoinArgs) :
    Course session (.join args) (VideoRoom.join args session).2 := by
  unfold VideoRoom.join
  simp only [bind_apply, ofOption_apply]
  cases roomName : args.roomName with
  | none => exact .aside (.refl session)
  | some roomName' =>
  cases create : args.create with
  | none => exact .aside (.refl session)
  | some create' =>
  cases uid : args.uid with
  | none => exact .aside (.refl session)
  | some uid' =>
  cases nickName : args.nickName with
  | none => exact .aside (.refl session)
  | some nickName' =>
  cases token : args.token with
  | none => exact .aside (.refl session)
  | some token' =>
  cases role : args.role with
  | none => exact .aside (.refl session)
  | some role' =>
  dsimp only
  have named : Aside session (session.updateRoom fun room => { room with
      roomNameDisplay := some roomName'
      roomNameCompat := some ("media_".toList ++ roomName')
      create := some create'
      uid := some uid'
      nickName := some nickName'
      token := some token'
      role := some role'
      pushAudio := false
      pushVideo := false
      roleAlias := VideoRoom.roleAliasOf role' }) := .room session fun _ => rfl
  rw [setRoom_apply]
  generalize entered : session.updateRoom (fun room => { room with
      roomNameDisplay := some roomName'
      roomNameCompat := some ("media_".toList ++ roomName')
      create := some create'
      uid := some uid'
      nickName := some nickName'
      token := some token'
      role := some role'
      pushAudio := false
      pushVideo := false
      roleAlias := VideoRoom.roleAliasOf role' }) = first at named
  have silent : first.room.pushAudio = false ∧ first.room.pushVideo = false := by
    rw [← entered]
    exact ⟨rfl, rfl⟩
  cases pushing : args.push with
  | none =>
    refine checkAndOpen_course named fun pushes => ?_
    simp [silent] at pushes
  | some push =>
    dsimp only
    rw [bind_apply, takePush_apply]
    cases streamName : push.streamName with
    | none => exact .aside named
    | some streamName =>
      refine checkAndOpen_course (named.trans (.room first fun _ => rfl)) fun pushes source
        starts opened => ?_
      simp only [Session.updateRoom_room, VideoRoom.taking, silent] at pushes source ⊢
      simp [JoinArgs.pushes, PushArgs.chosen, roomName, create, uid, nickName, token, role, starts,
        opened, pushing, streamName]
      refine ⟨pushes, fun video => ?_⟩
      cases pictured : push.video with
      | none => simp [pictured] at video
      | some picture => simpa [pictured] using source video

/-! ### Lists -/

/-- One round over the parties: those on no list any more are left. -/
theorem unlist_round (streams : List VideoRoom.Stream) (entry : (_ : Text) × Nat) (session : Session) :
    let script : Lua Unit := do
      if (← theRoom).pullStreamPartyTable.lookup entry.1 = some entry.2 ∧
          ¬ VideoRoom.named streams entry.1 then
        if (← theParty entry.2).allReady then Party.leave entry.2 (some 0)
        else Party.leave entry.2 (some 20)
    script session = (some (), session) ∨
      ∃ streamName party ec, session.room.pullStreamPartyTable.lookup streamName = some party ∧
        UnlistedReason (session.parties party) ec ∧ script session = (some (), session.shut party ec) := by
  dsimp only
  rw [bind_apply, theRoom_apply]
  dsimp only
  rw [if_apply]
  split
  · rename_i unlisted
    right
    refine ⟨_, _, if (session.parties entry.2).allReady then 0 else 20, unlisted.1, rfl, ?_⟩
    rw [bind_apply, theParty_apply]
    dsimp only
    rw [if_apply]
    split <;> rw [leave_some]
  · exact .inl rfl

theorem checkParties_cases (jsonData : LuaValue) (first : Session) :
    ((VideoRoom.checkParties jsonData first).1 = none ∧
      Aside first (VideoRoom.checkParties jsonData first).2) ∨
    ∃ streams middle after, Aside first middle ∧
      Leaves (·.pullStreamPartyTable) UnlistedReason middle after ∧
      VideoRoom.checkParties jsonData first = (some streams, after) := by
  unfold VideoRoom.checkParties
  rw [bind_apply, field_apply]
  cases jsonData.field "list" with
  | none => exact .inl ⟨rfl, .refl first⟩
  | some list =>
    dsimp only
    rw [bind_apply, ofOption_apply]
    cases VideoRoom.listItems list with
    | none => exact .inl ⟨rfl, .refl first⟩
    | some items =>
      dsimp only
      rw [bind_apply]
      have read := (VideoRoom.readStreams_steady items).kept first
      generalize VideoRoom.readStreams items first = result at read
      obtain ⟨_ | streams, middle⟩ := result
      · exact .inl ⟨rfl, read⟩
      · dsimp only
        rw [bind_apply, theRoom_apply]
        dsimp only
        obtain ⟨after, ran, leaves⟩ := each_leaves (unlist_round streams)
          middle.room.pullStreamPartyTable.entries middle
        rw [bind_apply, ran]
        exact .inr ⟨_, middle, after, read, leaves, rfl⟩

theorem listback_course {session first : Session} (aside : Aside session first)
    (jsonData : LuaValue) (message : Option LuaValue) :
    Course session (.mediaSvcData message) (VideoRoom.handleMediaSvcListback jsonData first).2 := by
  unfold VideoRoom.handleMediaSvcListback
  rw [bind_apply]
  rcases checkParties_cases jsonData first with ⟨stopped, kept⟩ | ⟨streams, middle, after, kept, leaves, ran⟩
  · generalize VideoRoom.checkParties jsonData first = result at stopped kept
    obtain ⟨ended, reached⟩ := result
    cases stopped
    exact .aside (aside.trans kept)
  · rw [ran]
    refine .unlists rfl (aside.trans kept) leaves (Within.kept ?_ after)
    exact .branch (fun _ => VideoRoom.reportMembers_steady streams) fun _ => .pure ()

theorem mediaSvcData_course (session : Session) (message : Option LuaValue) :
    Course session (.mediaSvcData message) (VideoRoom.handleMediaSvcData message session).2 := by
  unfold VideoRoom.handleMediaSvcData
  refine .lead (.refl session) (.ofOption _) fun jsonData first aside => ?_
  refine .lead aside (field_steady ..) fun result first aside => ?_
  refine .lead aside (field_steady ..) fun reason first aside => ?_
  rw [if_apply]
  split
  · exact .aside (aside.trans (VideoRoom.handleMediaSvcError_steady.kept first))
  · refine .lead aside (field_steady ..) fun cmd first aside => ?_
    generalize cmd.text.map String.ofList = said
    split
    · exact .aside (aside.trans (VideoRoom.handleMediaSvcCreateback_steady.kept first))
    · exact .aside (aside.trans (VideoRoom.handleMediaSvcJoinback_steady.kept first))
    · exact listback_course aside jsonData message
    · refine .lead aside (field_steady ..) fun sender first aside => ?_
      exact .aside (aside.trans ((VideoRoom.handleMediaSvcReceiveback_steady sender).kept first))
    · exact .aside aside

/-- Every step of the script takes one of the courses. -/
theorem step_course (taken : step session request = some (ended, after)) :
    Course { session with calls := request.calls } request.happening after := by
  unfold step at taken
  split at taken
  · rename_i due
    cases taken
    obtain ⟨happening, calls⟩ := request
    dsimp only at due ⊢
    cases happening with
    | join args => exact join_course _ args
    | leave args => exact leave_course _ args
    | connectStream args => exact connect_course _ args
    | disconnectStream args => exact disconnect_course _ args
    | callsBack party callback => exact callback_course _ party callback due
    | namedReply ec1 body =>
      exact .aside ((VideoRoom.onRequestNamedSvrForMediaSvc_steady ec1 body).kept _)
    | mediaSvcConnect res => exact .aside ((VideoRoom.handleMediaSvcConnect_steady res).kept _)
    | mediaSvcData message => exact mediaSvcData_course _ message
    | mediaSvcError => exact .aside (VideoRoom.handleMediaSvcError_steady.kept _)
    | mediaSvcTimeout => exact .aside (VideoRoom.handleMediaSvcTimeout_steady.kept _)
  · cases taken

end BeeSdk.Signalling
