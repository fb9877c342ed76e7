import BeeSdk.SignallingState

/-! The methods of `Party`, and those of `VideoRoom` they call. The test server of the
script is switched off, and its renderers, statistics and logs are left out. -/
namespace BeeSdk.Signalling
open HttpHeader (Text)
open Script

namespace VideoRoom

def reportData (party : Option Nat) (notification : Notification) : Lua Unit :=
  enter (.notifies party notification)

def createTransaction (hasRsp : Bool) (cb : Option TransactionCallback) : Lua Text := do
  let transId := transactionId (← get).drawn
  modify (·.draw)
  modify (·.fileTransaction transId { hasRsp := hasRsp, cb := cb })
  return transId

/-- An index that is nil raises an error. -/
def onPartyHandleCreated (handle : LuaValue) (party : Nat) : Lua Unit := do
  assert (¬ handle.isNil)
  modify (·.fileHandle handle party)

def requestMediaSvc : Lua Unit := do
  assert (← theRoom).msgSvcWs.held
  if (← theCalls).roomConnects then enter (.roomAsks .mediaSvc)

def onPartyClosed (party : Nat) : Lua Unit := do
  let closed ← theParty party
  modify (·.forgetHandle closed.handle)
  setRoom (·.drop closed.type closed.streamNameDisplay)

end VideoRoom

namespace Party

/-- The type of the message a party is closed with. -/
def closeType (party : Party) : Nat :=
  match party.allReady, party.type with
  | true, .localParty => eVideoConfNotify_Local_Leaved
  | true, .remoteParty => eVideoConfNotify_Remote_Leaved
  | false, .localParty => eVideoConfNotify_Local_Join
  | false, .remoteParty => eVideoConfNotify_Remote_Join

/-- The reason is nothing where `%d` cannot print it. -/
def reportClose (party : Nat) (reason : Option Int) : Lua Unit := do
  let closed ← theParty party
  let ec ← ofOption reason
  VideoRoom.reportData (some party)
    (.ofParty closed.closeType ec closed.roomName closed.streamNameDisplay closed.uid)

def close (party : Nat) (reason : Option Int) : Lua Unit := do
  setParty party (·.closeConns)
  VideoRoom.onPartyClosed party
  reportClose party reason
  setParty party fun before => { before with closed := some true }

/-- The peer connection is closed ahead of the others; there is no destroy message. -/
def leave (party : Nat) (reason : Option Int) : Lua Unit := do
  setParty party (·.closeRtc)
  close party reason

end Party

def VideoRoom.onPartyCreate (res : Int) (party : Nat) : Lua Unit := do
  let told ← theParty party
  match told.type with
  | .localParty =>
    if res = 0 then
      setRoom (·.countPush told.streamNameInternal)
      setParty party fun before => { before with created := true }
      if ¬ (← theRoom).roomNameInternal.isNil then VideoRoom.requestMediaSvc
      else setRoom fun room => { room with msgSvcPending := true }
    else Party.close party (some res)
  | .remoteParty =>
    if res ≠ 0 then
      setRoom (·.drop .remoteParty told.streamNameDisplay)
      Party.close party (some res)

namespace Party

/-! ### Candidates -/

def sendCandidate (party : Nat) (candidate : Text) : Lua Unit := do
  discard (VideoRoom.createTransaction false none)
  let sender ← theParty party
  let sid ← formatInteger sender.sessionId
  let hid ← formatInteger sender.handle
  assert (sender.conns .janus).held
  if (← theCalls).trickles then enter (.trickles party sid hid candidate)

/-- `self.candidate_list`, which is the table of the class until the party assigns its own. -/
def candidates (session : Session) (party : Nat) : List Text :=
  (session.parties party).candidateList.getD session.candidateList

def insertCandidate (party : Nat) (candidate : Text) : Lua Unit := do
  match (← theParty party).candidateList with
  | some own => setParty party fun before => { before with
      candidateList := some (own ++ [candidate]) }
  | none => modify (·.insertCandidate candidate)

/-- The party can send on behalf of its handle. -/
def wired (party : Party) : Bool :=
  (party.conns .janus).held && party.sessionId.truthy && party.handle.truthy

def publishCandidates (party : Nat) : Lua Unit := do
  let list := candidates (← get) party
  if list ≠ [] ∧ (← theParty party).wired then
    each list (sendCandidate party)
    setParty party fun before => { before with candidateList := some [] }

/-- What a gathered candidate becomes: sent, or queued. -/
def takeCandidate (party : Nat) (candidate : Text) : Lua Unit := do
  enter (.gathers party candidate)
  if (← theParty party).wired then sendCandidate party candidate
  else insertCandidate party candidate

def onIceCandidate (party : Nat) (candidate : Text) : Lua Unit := takeCandidate party candidate

def completedMsg : Text := "\x7b\"completed\": true\x7d".toList

def onIceGatheringChange (party : Nat) (newState : Nat) : Lua Unit := do
  if newState = eIceGathering_Completed then takeCandidate party completedMsg

def onIceConnectionChange (party : Nat) (newState : Nat) : Lua Unit := do
  if (← theParty party).closed = some false ∧ (newState = kIceConnectionFailed ∨
      newState = kIceConnectionDisconnected ∨ newState = kIceConnectionClosed) then
    VideoRoom.onPartyCreate 51 party

/-! ### From the servers to the handle -/

/-- `ws:connect` and `http:async_get` raise an error for an address that is no string, and
the wrappers turn it into a result. -/
def connectJanusSvr (party : Nat) (janusSvr : LuaValue) : Lua Unit := do
  if janusSvr.truthy then
    let opened := (← theCalls).wsOpens
    setConn party .janus opened
    if opened ∧ janusSvr.isString ∧ (← theCalls).connects then
      enter (.asks party (.janusSvr janusSvr))
    else VideoRoom.onPartyCreate 23 party
  else VideoRoom.onPartyCreate 23 party

/-- The header callback is set before the connection is checked for nil, and the result of
`async_get` is not looked at. -/
def requestScheduledSvr (party : Nat) (scheduledSvr : LuaValue) : Lua Unit := do
  if scheduledSvr.truthy then
    let opened := (← theCalls).httpOpens
    setConn party .scheduled opened
    assert opened
    if scheduledSvr.isString ∧ (← theCalls).gets then
      enter (.asks party (.scheduledSvr scheduledSvr))
  else VideoRoom.onPartyCreate 23 party

/-- A level or a time that is neither missing nor a number raises an error. -/
def configNetLog (logLevel logBaseTime : LuaValue) : Lua Unit :=
  assert ((logLevel.isNil || logLevel.isNumber) && (logBaseTime.isNil || logBaseTime.isNumber))

/-- The body is nothing where decrypting or decoding it raises an error. -/
def onRequestNamedSvr (party : Nat) (ec1 : Int) (body : Option LuaValue) : Lua Unit := do
  if ec1 = 0 then
    let jsonData ← ofOption body
    let streamName ← field jsonData "stream_name"
    setParty party fun before => { before with streamNameInternal := streamName }
    let scheduledSvr ← field jsonData "sche_url"
    configNetLog (← field jsonData "log_level") (← field jsonData "log_base_time")
    requestScheduledSvr party scheduledSvr
  else VideoRoom.onPartyCreate ec1 party

def onRequestMasterdSvr (party : Nat) (ec1 : Int) (body : Option LuaValue) : Lua Unit := do
  if ec1 = 0 then
    let jsonData ← ofOption body
    let scheduledSvr ← field jsonData "sche_url"
    configNetLog (← field jsonData "log_level") (← field jsonData "log_base_time")
    requestScheduledSvr party scheduledSvr
  else VideoRoom.onPartyCreate ec1 party

/-- The error code is printed with `%d` before the failure is reported. -/
def onRequestScheduledSvr (party : Nat) (ec1 : Int) (body : Option LuaValue) : Lua Unit := do
  if ec1 = 0 then
    let jsonData ← ofOption body
    let code ← field jsonData "code"
    if code.rawEqual (.integer 1) then
      let info ← field jsonData "info"
      let janusSvr ← field info "webrtc_url"
      let streamName ← field info "stream_name"
      setParty party fun before => { before with streamNameInternal := streamName }
      connectJanusSvr party janusSvr
    else
      discard (formatInteger code)
      VideoRoom.onPartyCreate 35 party
  else VideoRoom.onPartyCreate ec1 party

def createHandleEx (party : Nat) : Lua Unit := do
  if ((← theParty party).conns .janus).held then
    let transaction ← VideoRoom.createTransaction true (some (.onCreateHandleEx party))
    if (← theCalls).writes then
      enter (.asks party (.createHandle transaction (← theParty party).streamNameInternal))
    else VideoRoom.onPartyCreate 38 party
  else VideoRoom.onPartyCreate 38 party

def onJanusConnectResult (party : Nat) (res : Bool) : Lua Unit := do
  if res then createHandleEx party
  else VideoRoom.onPartyCreate 23 party

/-! ### Offer and answer -/

def sendLocalOffer (party : Nat) (jsep : Text) : Lua Bool := do
  if ((← theParty party).conns .janus).held then
    let transaction ← VideoRoom.createTransaction true (some (.onOfferAnswered party))
    let sender ← theParty party
    let sid ← formatInteger sender.sessionId
    let hid ← formatInteger sender.handle
    if (← theCalls).writes then
      enter (.asks party (.publish sid hid transaction sender.streamNameInternal sender.pushAudio
        sender.pushVideo sender.maxBitrate sender.minBitrate jsep))
      return true
    else return false
  else return false

/-- An offer that could not be created is not sent, and nothing is said of it here. -/
def publishLocalOffer (party : Nat) : Lua Unit := do
  let sender ← theParty party
  if sender.localOfferCreated then
    if sender.localOfferSdp ≠ [] then
      if ¬ (← sendLocalOffer party sender.localOfferSdp) then VideoRoom.onPartyCreate 38 party
  else setParty party fun before => { before with sendLocalOfferPending := true }

def listen (party : Nat) : Lua Bool := do
  let transaction ← VideoRoom.createTransaction true (some (.onListened party))
  let sender ← theParty party
  let sid ← formatInteger sender.sessionId
  let hid ← formatInteger sender.handle
  assert (sender.conns .janus).held
  if (← theCalls).writes then
    enter (.asks party (.listen sid hid transaction sender.streamNameInternal sender.pullAudio
      sender.pullVideo))
    return true
  else return false

/-- The ids are stored and filed before `%d` prints them. -/
def onCreateHandleEx (party : Nat) (success : Bool) (jsonData : LuaValue) : Lua Unit := do
  if ¬ success then VideoRoom.onPartyCreate 35 party
  else
    let data ← field jsonData "data"
    let sid ← field data "sid"
    let hid ← field data "hid"
    setParty party fun before => { before with sessionId := sid, handle := hid }
    VideoRoom.onPartyHandleCreated hid party
    discard (formatInteger sid)
    discard (formatInteger hid)
    match (← theParty party).type with
    | .localParty =>
      publishLocalOffer party
      publishCandidates party
    | .remoteParty => if ¬ (← listen party) then VideoRoom.onPartyCreate 38 party

/-- The description is the empty text where no offer could be created. -/
def onCreateOffer (party : Nat) (localJsep : Text) : Lua Unit := do
  setParty party fun before => { before with
    localOfferSdp := localJsep
    localOfferCreated := true }
  if localJsep = [] then VideoRoom.onPartyCreate 41 party
  else if (← theParty party).sendLocalOfferPending then publishLocalOffer party

def createLocalOffer (party : Nat) : Lua Bool := do
  let opened := (← theCalls).rtcOpens
  setConn party .rtc opened
  if opened then
    if (← theCalls).offers then
      enter (.asks party .createOffer)
      return true
    else
      VideoRoom.onPartyCreate 41 party
      return false
  else
    VideoRoom.onPartyCreate 39 party
    return false

/-- The description in a message that says the party has been attached, else nil. -/
def attachedJsep (jsonData : LuaValue) : Lua LuaValue := do
  let plugindata ← field jsonData "plugindata"
  let data ← field plugindata "data"
  let videoroom ← field data "videoroom"
  if videoroom.rawEqual (.string "attached".toList) then field jsonData "jsep"
  else return .nil

/-- The results of creating the answer and of opening the timer are not looked at. -/
def onListened (party : Nat) (jsonData : LuaValue) : Lua Unit := do
  let jsep ← attachedJsep jsonData
  if ¬ jsep.isNil then
    let opened := (← theCalls).rtcOpens
    setConn party .rtc opened
    assert opened
    if (← theCalls).answers then enter (.asks party (.createAnswer jsep))
    setConn party .keepalive (← theCalls).timerOpens
  else VideoRoom.onPartyCreate 35 party

/-- The result of the write is not looked at. -/
def sendRemoteAnswer (party : Nat) (jsep : Text) : Lua Unit := do
  if ((← theParty party).conns .janus).held then
    let transaction ← VideoRoom.createTransaction true (some (.onAnswerAcked party))
    let sender ← theParty party
    let sid ← formatInteger sender.sessionId
    let hid ← formatInteger sender.handle
    if (← theCalls).writes then enter (.asks party (.start sid hid transaction jsep))

/-- An answer that could not be created is only logged. -/
def onCreateAnswer (party : Nat) (jsep : Text) : Lua Unit := do
  if jsep ≠ [] then sendRemoteAnswer party jsep

/-- The result of setting the description is not looked at. -/
def onOfferAnswered (party : Nat) (jsonData : LuaValue) : Lua Unit := do
  let jsep ← field jsonData "jsep"
  if ¬ jsep.isNil ∧ ¬ jsep.rawEqual (.string []) then
    setConn party .keepalive (← theCalls).timerOpens
    assert ((← theParty party).conns .rtc).held
    if (← theCalls).answers then enter (.asks party (.setRemoteDesc jsep))
  else VideoRoom.onPartyCreate 43 party

/-- The message says that the subscription has started. A nil is not indexed. -/
def startedOk (jsonData : LuaValue) : Lua Bool := do
  if jsonData.isNil then return false
  else
    let plugindata ← field jsonData "plugindata"
    if plugindata.isNil then return false
    else
      let data ← field plugindata "data"
      if data.isNil then return false
      else return (← field data "started").rawEqual (.string "ok".toList)

def onAnswerAcked (party : Nat) (jsonData : LuaValue) : Lua Unit := do
  if ¬ (← startedOk jsonData) then VideoRoom.onPartyCreate 35 party

def handleJanusTimeout (party : Nat) : Lua Unit := do
  let transaction ← VideoRoom.createTransaction false none
  let sender ← theParty party
  let sid ← formatInteger sender.sessionId
  if (sender.conns .janus).held ∧ (← theCalls).writes then
    enter (.asks party (.keepalive sid transaction))

/-! ### Ready -/

def checkChannelReady (party : Nat) : Lua Unit := do
  let ready ← theParty party
  if ready.signalReady ∧ ready.mediaReady then
    match ready.type with
    | .localParty => VideoRoom.onPartyCreate 0 party
    | .remoteParty => VideoRoom.reportData (some party) (.ofParty eVideoConfNotify_Remote_Join 0
        ready.roomName ready.streamNameDisplay ready.uid)
    setParty party fun before => { before with allReady := true }

def onWebrtcup (party : Nat) : Lua Unit := do
  setParty party fun before => { before with signalReady := true }
  checkChannelReady party

def onMediaReady (party : Nat) : Lua Unit := do
  setParty party fun before => { before with
    closed := some (before.closed.getD false)
    mediaReady := true }
  checkChannelReady party

/-! ### Beginning -/

/-- Sources that are nil differ from zero as well. -/
def push (party : Nat) (audioSource videoSource : Option Int) : Lua Unit := do
  setParty party fun before => { before with
    pushAudio := before.pushAudio || audioSource ≠ some 0
    pushVideo := before.pushVideo || videoSource ≠ some 0 }
  assert (← createLocalOffer party)
  let opened := (← theCalls).httpOpens
  setConn party .named opened
  assert opened
  assert (← theCalls).gets
  enter (.asks party (.namedSvr (← theParty party).streamNameDisplay))

def requestMasterdSvr (party : Nat) (streamName : Text) : Lua Unit := do
  setParty party fun before => { before with streamNameInternal := .string streamName }
  let opened := (← theCalls).httpOpens
  setConn party .masterd opened
  assert opened
  if (← theCalls).gets then enter (.asks party (.masterdSvr streamName))
  else VideoRoom.onPartyCreate 23 party

def pull (party : Nat) (streamName : Text) (pullAudio pullVideo : Bool) : Lua Unit := do
  setParty party fun before => { before with pullAudio := pullAudio, pullVideo := pullVideo }
  requestMasterdSvr party streamName

end Party
end BeeSdk.Signalling
