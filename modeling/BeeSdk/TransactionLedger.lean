import BeeSdk.TransactionFiles
import BeeSdk.PartyAccounts

/-! The table of transactions over whole runs: who has filed which transaction, which have been
called back, and the happenings that leave none behind. -/
namespace BeeSdk.Signalling
open HttpHeader (Text)
open Script

/-- The message of a server that a happening is. -/
def Happening.message : Happening → Option LuaValue
  | .callsBack _ (.janusData message) => message
  | _ => none

namespace Session

/-- The transaction a message is processed for, and whether as a success. An event counts only
where its sender is known. -/
def answered (session : Session) (jsonData : LuaValue) : Option ((Text × Transaction) × Bool) :=
  match kindOf jsonData with
  | some "success" => (session.transactionOf jsonData).map (·, true)
  | some "error" => (session.transactionOf jsonData).map (·, false)
  | some "event" =>
    if (session.handlePartyTable (jsonData.get "sender")).isSome then
      (session.transactionOf jsonData).map (·, true)
    else none
  | _ => none

/-- The transaction that a happening calls back. -/
def invoked (session : Session) (happening : Happening) : Option (Text × TransactionCallback) :=
  happening.message.bind fun jsonData =>
    (session.answered jsonData).bind fun found => found.1.2.cb.map fun cb => (found.1.1, cb)

/-- The transaction whose last message a happening is: an acknowledgement is the last of one
that expects no more. -/
def replied (session : Session) (happening : Happening) : Option Text :=
  happening.message.bind fun jsonData => (session.transactionOf jsonData).bind fun found =>
    match kindOf jsonData with
    | some "success" | some "error" | some "event" => some found.1
    | some "ack" => if found.2.hasRsp then none else some found.1
    | _ => none

/-- What an error message is to the party it calls back. -/
def failure (session : Session) (happening : Happening) : Option (Nat × SetupReply) :=
  happening.message.bind fun jsonData =>
    if kindOf jsonData = some "error" then session.called false jsonData else none

/-- The party for which a happening files transactions. -/
def drawer (session : Session) : Happening → Option Nat
  | .callsBack party (.janusConnectResult res) =>
    if res ∧ ((session.parties party).conns .janus).held then some party else none
  | .callsBack _ (.janusData (some jsonData)) =>
    match session.janusReply jsonData with
    | some (party, .handle true _) => some party
    | _ => none
  | .callsBack party (.offerCreated jsep) =>
    if jsep ≠ [] ∧ (session.parties party).sendLocalOfferPending ∧
      ((session.parties party).conns .janus).held then some party else none
  | .callsBack party (.answerCreated jsep) =>
    if jsep ≠ [] ∧ ((session.parties party).conns .janus).held then some party else none
  | .callsBack party (.iceCandidate _) => if (session.parties party).wired then some party else none
  | .callsBack party (.iceGatheringChange newState) =>
    if newState = eIceGathering_Completed ∧ (session.parties party).wired then some party else none
  | .callsBack party .janusTimeout => some party
  | _ => none

/-- A party that has its server, and has not been closed. -/
def Alive (session : Session) (party : Nat) : Prop :=
  party < session.made ∧ ((session.parties party).conns .janus).held = true ∧
    (session.parties party).closed ≠ some true

/-- A message of the media service is a list that can be read and no longer has the party. -/
def Unlists (session : Session) (jsonData : LuaValue) (party : Nat) : Prop :=
  ((jsonData.get "result").isNil ∨ (jsonData.get "result").rawEqual (.integer 1) ∨
    (jsonData.get "reason").isNil) ∧
  (jsonData.get "cmd").text = some "listback".toList ∧ (jsonData.get "list").length.isSome ∧
  (∀ entry ∈ entriesOf jsonData, Readable entry) ∧
  party ∈ (session.unlisted (streamsRead (entriesOf jsonData))).map Prod.snd

/-- A happening closes the party: it is refused, fails, is detached, left, disconnected or no
longer listed. -/
def Ends (session : Session) (happening : Happening) (party : Nat) : Prop :=
  (∃ reply, session.reply happening = some (party, reply) ∧ reply.Refuses session party) ∨
  (∃ newState, happening = .callsBack party (.iceConnectionChange newState) ∧
    (session.parties party).closed = some false ∧ (newState = kIceConnectionFailed ∨
      newState = kIceConnectionDisconnected ∨ newState = kIceConnectionClosed)) ∨
  session.detaches happening = some party ∨
  (∃ args, happening = .leave args ∧ args.valid = true ∧ session.room.Lists party) ∨
  (∃ args type streamName, happening = .disconnectStream args ∧
    args.target = some (type, streamName) ∧
      (session.room.tableOf type).lookup streamName = some party) ∨
  ∃ jsonData, happening = .mediaSvcData (some jsonData) ∧ session.Unlists jsonData party

end Session

/-! ### The ledger -/

/-- The session, the party each transaction has been filed for, and the transactions that have
been called back, in order. -/
structure Ledger where
  session : Session := {}
  owner : Text → Option Nat := fun _ => none
  called : List Text := []

namespace Ledger

/-- The session as a request finds it. -/
def facing (ledger : Ledger) (request : Request) : Session :=
  { ledger.session with calls := request.calls }

def step (ledger : Ledger) (request : Request) : Option (Bool × Ledger) :=
  (Signalling.step ledger.session request).map fun (ended, after) => (ended, {
    session := after
    owner := fun id =>
      if (ledger.session.transactionTable id).isNone ∧ (after.transactionTable id).isSome then
        (ledger.facing request).drawer request.happening
      else ledger.owner id
    called := ledger.called ++
      ((ledger.facing request).invoked request.happening).toList.map Prod.fst })

/-- No transaction has been called back twice, and none on the table belongs to a party that
is gone. -/
structure Kept (ledger : Ledger) : Prop where
  once : ledger.called.Nodup
  owned : ∀ id, (ledger.session.transactionTable id).isSome →
    ∃ party, ledger.owner id = some party ∧ ledger.session.Alive party

/-- A message has been processed: it carries the id of what it calls back, a failure is reported
of the party, and the transaction it is the last message of is gone. -/
structure Processed (before : Session) (happening : Happening) (after : Session) : Prop where
  own : ∀ id cb, before.invoked happening = some (id, cb) →
    ∃ jsonData, happening.message = some jsonData ∧ (jsonData.get "transaction").text = some id
  reported : ∀ party reply, before.failure happening = some (party, reply) →
    ∃ new ec, ec ≠ 0 ∧ after.history = before.history ++ new ∧
      Entry.notifies (some party) ((before.parties party).closing ec) ∈ new
  removed : ∀ id, before.replied happening = some id → after.transactionTable id = none

/-- What the happenings must not do: a callback must not raise an error, nor take an error
message for anything but a refusal; an event that replies must have a known sender; a party
must not end before its transactions, nor may one be filed for a party that is gone or ends. -/
structure Smooth (ledger : Ledger) (request : Request) : Prop where
  unraised : ∀ jsonData party reply, request.happening.message = some jsonData →
    (ledger.facing request).janusReply jsonData = some (party, reply) →
      reply.verdict (ledger.facing request) party ≠ .raises
  refused : ∀ party reply, (ledger.facing request).failure request.happening = some (party, reply) →
    reply.Refuses (ledger.facing request) party
  known : ∀ jsonData, request.happening.message = some jsonData →
    Session.kindOf jsonData = some "event" → (ledger.session.transactionOf jsonData).isSome →
      (ledger.session.handlePartyTable (jsonData.get "sender")).isSome
  ended : ∀ party, (ledger.facing request).Ends request.happening party →
    ∀ id, (ledger.session.transactionTable id).isSome → ledger.owner id = some party →
      (ledger.facing request).replied request.happening = some id
  filed : ∀ party, (ledger.facing request).drawer request.happening = some party →
    ledger.session.Alive party ∧ ¬ (ledger.facing request).Ends request.happening party

end Ledger

end BeeSdk.Signalling
