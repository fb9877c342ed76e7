import BeeSdk.Statusd

/-! What the status server is told, foretold from what the client still has to do, and
the runs in which that is the id of the open session. -/
namespace BeeSdk.Statusd
open HttpHeader (Text)

/-- The id in the last of the packets that carries one. -/
def lastSid (packets : List Packet) : Option Text := (packets.filterMap Packet.sid).getLast?

theorem lastSid_append_sid {packet : Packet} (carries : packet.sid = some sid) :
    lastSid (packets ++ [packet]) = some sid := by
  simp [lastSid, carries]

theorem lastSid_append_log : lastSid (packets ++ [.log text]) = lastSid packets := by
  simp [lastSid, Packet.sid]

namespace StatusdClient

/-- What the server will have heard last when the client has done what it is about to do,
the posted calls apart. -/
def told (client : StatusdClient) : Option Text :=
  match client.currentState with
  | .connect => some client.sid
  | .login _ sid => some (if client.syncSidPending then client.sid else sid)
  | .finished | .interrupted => lastSid (client.sent ++ client.writes)

/-- What will have been heard no longer depends on the session id the client holds. -/
def Firm (client : StatusdClient) : Prop :=
  match client.currentState with
  | .connect => False
  | .login _ _ => client.syncSidPending = false
  | .finished | .interrupted => True

instance (client : StatusdClient) : Decidable client.Firm := by
  unfold Firm
  split <;> infer_instance

/-- The client with all posted calls made. -/
def settled (client : StatusdClient) (posted : List (Text × Bool)) : StatusdClient :=
  posted.foldl innerSetSid client

/-- A client that will not be logged in again. -/
def Dead (client : StatusdClient) : Prop :=
  client.logined = false ∧ (client.currentState = .finished ∨ client.currentState = .interrupted)

instance (client : StatusdClient) : Decidable client.Dead :=
  inferInstanceAs (Decidable (_ ∧ _))

/-- A client that is logged in, or on its way there with nothing written yet. -/
def Alive (client : StatusdClient) : Prop :=
  (client.logined = true ∧ client.currentState = .finished) ∨
    (client.logined = false ∧ client.writes = [] ∧ (client.currentState = .connect ∨
      ∃ uid sid, client.currentState = .login uid sid))

theorem told_of_not_firm {client : StatusdClient} (loose : ¬ client.Firm) :
    client.told = some client.sid := by
  unfold Firm at loose
  unfold told
  split at loose
  · simp_all
  · simp_all
  · exact absurd trivial loose
  · exact absurd trivial loose

/-- All that `inner_set_sid` can do. -/
theorem innerSetSid_cases (client : StatusdClient) (sid : Text) (sync : Bool) :
    (sid = client.sid ∧ client.innerSetSid (sid, sync) = client) ∨
      (sync = false ∧ client.innerSetSid (sid, sync) = { client with sid := sid }) ∨
      (sync = true ∧ client.logined = false ∧ client.innerSetSid (sid, sync) =
        { client with sid := sid, syncSidPending := true }) ∨
      (sync = true ∧ client.logined = true ∧ client.innerSetSid (sid, sync) =
        { client with sid := sid, writes := client.writes ++ [.resetSid sid] }) := by
  by_cases same : sid = client.sid
  · exact .inl ⟨same, if_pos same⟩
  · cases sync with
    | false => exact .inr (.inl ⟨rfl, by simp [innerSetSid, same]⟩)
    | true =>
      cases logined : client.logined with
      | false => exact .inr (.inr (.inl ⟨rfl, rfl, by simp [innerSetSid, same, logined]⟩))
      | true =>
        exact .inr (.inr (.inr ⟨rfl, rfl, by simp [innerSetSid, same, logined, syncSid, write]⟩))

theorem innerSetSid_alive {client : StatusdClient} (call : Text × Bool) (alive : client.Alive) :
    (client.innerSetSid call).Alive := by
  obtain ⟨sid, sync⟩ := call
  rcases innerSetSid_cases client sid sync with
    ⟨_, same⟩ | ⟨_, same⟩ | ⟨_, _, same⟩ | ⟨_, logged, same⟩ <;> rw [same]
  · exact alive
  · exact alive
  · exact alive
  · rcases alive with online | ⟨out, _⟩
    · exact .inl online
    · exact absurd (out.symm.trans logged) (by simp)

theorem innerSetSid_dead {client : StatusdClient} (call : Text × Bool) (dead : client.Dead) :
    (client.innerSetSid call).Dead := by
  obtain ⟨sid, sync⟩ := call
  rcases innerSetSid_cases client sid sync with ⟨_, same⟩ | ⟨_, same⟩ | ⟨_, _, same⟩ | ⟨_, _, same⟩ <;>
    · rw [same]
      exact dead

/-- A call that synchronises is told, at once or behind the login. -/
theorem told_pending {client : StatusdClient} (alive : client.Alive) (logged : client.logined = false)
    (pending : client.syncSidPending = true) : client.told = some client.sid := by
  rcases alive with ⟨logined, _⟩ | ⟨_, _, connecting | ⟨uid, sid, composed⟩⟩
  · exact absurd (logged.symm.trans logined) (by simp)
  · simp [told, connecting]
  · simp [told, composed, pending]

theorem told_finished {client : StatusdClient} (alive : client.Alive) (logged : client.logined = true) :
    client.told = lastSid (client.sent ++ client.writes) := by
  rcases alive with ⟨_, finished⟩ | ⟨out, _⟩
  · simp [told, finished]
  · exact absurd (out.symm.trans logged) (by simp)

theorem told_reset {client : StatusdClient} {sid : Text}
    (alive : Alive { client with sid := sid, writes := client.writes ++ [.resetSid sid] })
    (logged : client.logined = true) :
    told { client with sid := sid, writes := client.writes ++ [.resetSid sid] } = some sid := by
  rw [told_finished alive logged]
  show lastSid (client.sent ++ (client.writes ++ [.resetSid sid])) = some sid
  rw [← List.append_assoc]
  exact lastSid_append_sid rfl

/-- Where the server will hear something settled, another id held does not matter. -/
theorem told_of_firm {client : StatusdClient} (sid : Text) (firm : client.Firm) :
    told { client with sid := sid } = client.told := by
  unfold Firm at firm
  unfold told
  split at firm
  · exact firm.elim
  · simp_all
  · simp_all
  · simp_all

theorem firm_of_logined {client : StatusdClient} (alive : client.Alive)
    (logged : client.logined = true) : client.Firm := by
  rcases alive with ⟨_, finished⟩ | ⟨out, _⟩
  · simp [Firm, finished]
  · exact absurd (out.symm.trans logged) (by simp)

theorem not_firm_of_pending {client : StatusdClient} (alive : client.Alive)
    (logged : client.logined = false) (pending : client.syncSidPending = true) : ¬ client.Firm := by
  rcases alive with ⟨logined, _⟩ | ⟨_, _, connecting | ⟨uid, sid, composed⟩⟩
  · exact absurd (logged.symm.trans logined) (by simp)
  · simp [Firm, connecting]
  · simp [Firm, composed, pending]

end StatusdClient
open StatusdClient

/-- The id of the session opened last among those open. -/
def lastOpened (sessions : List (Int × LiveSessionId)) : Option Text :=
  sessions.head?.map fun session => session.2.val

/-- Once the client is logged in and has nothing to write, what it has sent last is the
id of the open session. A posted `inner_set_sid` counts among what is to be written. -/
def Reported (entrance : BeeEntrance) : Prop :=
  ∀ client, entrance.statusdClient = some client → client.logined = true → client.writes = [] →
    entrance.posted = [] → ∀ id, lastOpened entrance.sessions = some id →
      lastSid client.sent = some id

/-- A client that is not logged in is only replaced while no session is open, and a session
is only closed beside another one if the one opened last stays open and what the server
will hear is settled, or the client will not be logged in any more. -/
def Keeps (entrance : BeeEntrance) : BeeEntrance.Request → Prop
  | .statusdTimeout => entrance.enableStatusd = true → entrance.isStatusdLogined = false →
      entrance.sessions = []
  | .closes handle closed =>
    ∀ client ∈ entrance.statusdClient, entrance.closeBusySession handle closed = [] ∨ client.Dead ∨
      (lastOpened (entrance.closeBusySession handle closed) = lastOpened entrance.sessions ∧
        (client.settled entrance.posted).Firm)
  | _ => True

instance (entrance : BeeEntrance) (request : BeeEntrance.Request) :
    Decidable (Keeps entrance request) := by
  unfold Keeps
  split <;> infer_instance

/-- Only the empty id is posted without being synchronised. -/
def Proper (call : Text × Bool) : Prop := call.2 = true ↔ call.1 ≠ []

/-- A session id the client holds is the one the server hears last. -/
def Sound (client : StatusdClient) : Prop :=
  client.sid ≠ [] → client.told = some client.sid

/-- What holds of a client that may still be logged in. -/
structure Tells (sessions : List (Int × LiveSessionId)) (client : StatusdClient)
    (posted : List (Text × Bool)) : Prop where
  alive : client.Alive
  sound : Sound client
  proper : ∀ call ∈ posted, Proper call
  told : ∀ id, lastOpened sessions = some id → (client.settled posted).told = some id

/-- The invariant of the runs. -/
def Tracked (entrance : BeeEntrance) : Prop :=
  ∀ client, entrance.statusdClient = some client →
    client.Dead ∨ Tells entrance.sessions client entrance.posted

theorem lastOpened_nonempty {id : Text} (opened : lastOpened sessions = some id) : id ≠ [] := by
  unfold lastOpened at opened
  obtain ⟨session, _, rfl⟩ := Option.map_eq_some_iff.mp opened
  exact session.2.nonempty

theorem innerSetSid_sound {client : StatusdClient} (proper : Proper call) (alive : client.Alive)
    (sound : Sound client) : Sound (client.innerSetSid call) := by
  obtain ⟨sid, sync⟩ := call
  have after := innerSetSid_alive (sid, sync) alive
  intro held
  rcases innerSetSid_cases client sid sync with
    ⟨_, same⟩ | ⟨quiet, same⟩ | ⟨_, out, same⟩ | ⟨_, logged, same⟩ <;> rw [same] at held after ⊢
  · exact sound held
  · exact absurd (proper.mpr held) (by simp [quiet])
  · exact told_pending after out rfl
  · exact told_reset after logged

theorem settled_sound {client : StatusdClient} (proper : ∀ call ∈ posted, Proper call)
    (alive : client.Alive) (sound : Sound client) :
    (client.settled posted).Alive ∧ Sound (client.settled posted) := by
  induction posted generalizing client with
  | nil => exact ⟨alive, sound⟩
  | cons call rest ih =>
    exact ih (fun call member => proper call (by simp [member])) (innerSetSid_alive call alive)
      (innerSetSid_sound (proper call (by simp)) alive sound)

/-- The second client will be heard as the first would, whatever is posted to both. -/
structure Follows (before after : StatusdClient) : Prop where
  sid : after.sid = before.sid
  logined : before.logined = true → after.logined = true
  firm : before.Firm → after.Firm ∧ after.told = before.told

theorem innerSetSid_follows {before after : StatusdClient} (call : Text × Bool)
    (alive : before.Alive) (alive' : after.Alive) (follows : Follows before after) :
    Follows (before.innerSetSid call) (after.innerSetSid call) := by
  obtain ⟨sid, sync⟩ := call
  by_cases held : sid = before.sid
  · have first : before.innerSetSid (sid, sync) = before := if_pos held
    have second : after.innerSetSid (sid, sync) = after := if_pos (held.trans follows.sid.symm)
    rw [first, second]
    exact follows
  · have held' : sid ≠ after.sid := fun same => held (same.trans follows.sid)
    cases sync with
    | false =>
      have first : before.innerSetSid (sid, false) = { before with sid := sid } := by
        simp [innerSetSid, held]
      have second : after.innerSetSid (sid, false) = { after with sid := sid } := by
        simp [innerSetSid, held']
      rw [first, second]
      refine ⟨rfl, follows.logined, fun firm => ?_⟩
      obtain ⟨firm', same⟩ := follows.firm firm
      have settled : told { before with sid := sid } = before.told := told_of_firm sid firm
      exact ⟨firm', (told_of_firm sid firm').trans (same.trans settled.symm)⟩
    | true =>
      have alive := innerSetSid_alive (sid, true) alive
      have alive' := innerSetSid_alive (sid, true) alive'
      cases logged : before.logined with
      | true =>
        have first : before.innerSetSid (sid, true) =
            { before with sid := sid, writes := before.writes ++ [.resetSid sid] } := by
          simp [innerSetSid, held, logged, syncSid, write]
        have second : after.innerSetSid (sid, true) =
            { after with sid := sid, writes := after.writes ++ [.resetSid sid] } := by
          simp [innerSetSid, held', follows.logined logged, syncSid, write]
        rw [first] at alive ⊢
        rw [second] at alive' ⊢
        refine ⟨rfl, follows.logined, fun _ => ⟨firm_of_logined alive' (follows.logined logged), ?_⟩⟩
        rw [told_reset alive logged, told_reset alive' (follows.logined logged)]
      | false =>
        have first : before.innerSetSid (sid, true) =
            { before with sid := sid, syncSidPending := true } := by
          simp [innerSetSid, held, logged]
        rw [first] at alive ⊢
        refine ⟨?_, fun logined => absurd (logged.symm.trans logined) (by simp), fun firm => ?_⟩
        · rcases innerSetSid_cases after sid true with
            ⟨same, _⟩ | ⟨quiet, _⟩ | ⟨_, _, same⟩ | ⟨_, _, same⟩
          · exact absurd same held'
          · cases quiet
          · rw [same]
          · rw [same]
        · exact absurd firm (not_firm_of_pending alive logged rfl)

theorem settled_follows {before after : StatusdClient} (posted : List (Text × Bool))
    (alive : before.Alive) (alive' : after.Alive) (follows : Follows before after) :
    Follows (before.settled posted) (after.settled posted) := by
  induction posted generalizing before after with
  | nil => exact follows
  | cons call rest ih =>
    exact ih (innerSetSid_alive call alive) (innerSetSid_alive call alive')
      (innerSetSid_follows call alive alive' follows)

/-- A client that follows one that tells the open session tells it too. -/
theorem Tells.follows {before after : StatusdClient} (tells : Tells sessions before posted)
    (alive : after.Alive) (sound : Sound after) (follows : Follows before after) :
    Tells sessions after posted := by
  refine ⟨alive, sound, tells.proper, fun id opened => ?_⟩
  have behind := settled_follows posted tells.alive alive follows
  have heard := tells.told id opened
  by_cases firm : (before.settled posted).Firm
  · rw [(behind.firm firm).2]
    exact heard
  · -- The first client tells the id it holds, and so does the second one, which holds it too.
    rw [told_of_not_firm firm] at heard
    cases heard
    rw [← behind.sid]
    refine (settled_sound tells.proper alive sound).2 ?_
    rw [behind.sid]
    exact lastOpened_nonempty opened

/-! ### One operation after the other -/

theorem handleConnect_kept {client : StatusdClient} (ok : Bool)
    (connecting : client.currentState = .connect) (tells : Tells sessions client posted) :
    Tells sessions (client.handleConnect ok) posted := by
  have loose : ¬ client.Firm := by simp [Firm, connecting]
  rcases tells.alive with ⟨_, finished⟩ | ⟨out, clear, _⟩
  · rw [connecting] at finished
    cases finished
  · unfold handleConnect
    split
    · refine tells.follows (.inr ⟨rfl, clear, .inl connecting⟩) (fun _ => ?_)
        ⟨rfl, fun logined => absurd (out.symm.trans logined) (by simp), fun firm => absurd firm loose⟩
      simp [told, handleError, connecting]
    · split
      · exact tells
      · refine tells.follows (.inr ⟨out, clear, .inr ⟨_, _, rfl⟩⟩) (fun _ => ?_)
          ⟨rfl, id, fun firm => absurd firm loose⟩
        simp [told]

theorem handleLogin_kept {client : StatusdClient} {uid sid : Text} (ok : Bool)
    (composed : client.currentState = .login uid sid) (tells : Tells sessions client posted) :
    (client.handleLogin uid sid ok).Dead ∨ Tells sessions (client.handleLogin uid sid ok) posted := by
  cases ok with
  | false => exact .inl ⟨rfl, .inr rfl⟩
  | true =>
    right
    have sound := tells.sound
    simp only [Sound, told, composed] at sound
    rcases tells.alive with ⟨_, finished⟩ | ⟨out, clear, _⟩
    · rw [composed] at finished
      cases finished
    cases pending : client.syncSidPending with
    | true =>
      have heard : told (client.handleLogin uid sid true) = some client.sid := by
        simp [handleLogin, pending, told, syncSid, write, clear, lastSid, Packet.sid]
      have same : (client.handleLogin uid sid true).sid = client.sid := by
        simp [handleLogin, pending, syncSid, write]
      refine tells.follows (.inl (by simp [handleLogin, pending, syncSid, write]))
        (fun _ => heard.trans (by rw [same])) ⟨same, fun logined => ?_, fun firm => ?_⟩
      · exact absurd (out.symm.trans logined) (by simp)
      · simp [Firm, composed, pending] at firm
    | false =>
      have heard : told (client.handleLogin uid sid true) = some sid := by
        simp [handleLogin, pending, told, clear, lastSid, Packet.sid]
      have same : (client.handleLogin uid sid true).sid = client.sid := by
        simp [handleLogin, pending]
      have before : client.told = some sid := by simp [told, composed, pending]
      have online : (client.handleLogin uid sid true).logined = true ∧
          (client.handleLogin uid sid true).currentState = .finished := by
        simp [handleLogin, pending]
      refine tells.follows (.inl online) (fun held => ?_) ⟨same, fun _ => online.1, fun _ =>
        ⟨firm_of_logined (.inl online) online.1, heard.trans before.symm⟩⟩
      rw [same] at held ⊢
      rw [heard, ← before]
      exact tells.sound held

/-- Whatever leaves the client as it is but for what it has sent and written, and tells the
same, is followed. -/
theorem Tells.written {client after : StatusdClient} (tells : Tells sessions client posted)
    (logged : client.logined = true) (logged' : after.logined = true)
    (finished : after.currentState = .finished) (sid : after.sid = client.sid)
    (same : lastSid (after.sent ++ after.writes) = lastSid (client.sent ++ client.writes)) :
    Tells sessions after posted := by
  have alive : after.Alive := .inl ⟨logged', finished⟩
  have heard : after.told = client.told := by
    rw [told_finished alive logged', told_finished tells.alive logged, same]
  refine tells.follows alive (fun held => ?_)
    ⟨sid, fun _ => logged', fun _ => ⟨firm_of_logined alive logged', heard⟩⟩
  rw [sid] at held ⊢
  rw [heard]
  exact tells.sound held

theorem innerWriteLog_kept {client : StatusdClient} (log : Text)
    (finished : client.currentState = .finished)
    (kept : client.Dead ∨ Tells sessions client posted) :
    (client.innerWriteLog log).Dead ∨ Tells sessions (client.innerWriteLog log) posted := by
  rcases kept with dead | tells
  · exact .inl dead
  · rcases tells.alive with ⟨logged, _⟩ | ⟨_, _, connecting | ⟨uid, sid, composed⟩⟩
    · refine .inr (tells.written logged logged finished rfl ?_)
      show lastSid (client.sent ++ (client.writes ++ [.log log])) = _
      rw [← List.append_assoc]
      exact lastSid_append_log
    · rw [finished] at connecting
      cases connecting
    · rw [finished] at composed
      cases composed

theorem handleWrite_kept {client : StatusdClient} (ok : Bool) (logged : client.logined = true)
    (queued : client.writes = packet :: rest)
    (kept : client.Dead ∨ Tells sessions client posted) :
    (client.handleWrite packet rest ok).Dead ∨
      Tells sessions (client.handleWrite packet rest ok) posted := by
  rcases kept with dead | tells
  · exact absurd (dead.1.symm.trans logged) (by simp)
  · rcases tells.alive with ⟨_, finished⟩ | ⟨out, _⟩
    · cases ok with
      | false => exact .inl ⟨rfl, .inl finished⟩
      | true =>
        refine .inr (tells.written logged logged finished rfl ?_)
        show lastSid ((client.sent ++ [packet]) ++ rest) = _
        rw [queued, List.append_assoc]
        rfl
    · exact absurd (out.symm.trans logged) (by simp)

theorem innerSetSid_kept {client : StatusdClient}
    (kept : client.Dead ∨ Tells sessions client (call :: rest)) :
    (client.innerSetSid call).Dead ∨ Tells sessions (client.innerSetSid call) rest := by
  rcases kept with dead | tells
  · exact .inl (innerSetSid_dead call dead)
  · exact .inr ⟨innerSetSid_alive call tells.alive,
      innerSetSid_sound (tells.proper call (by simp)) tells.alive tells.sound,
      fun other member => tells.proper other (by simp [member]), tells.told⟩

theorem settled_append (client : StatusdClient) (posted : List (Text × Bool)) (call : Text × Bool) :
    client.settled (posted ++ [call]) = (client.settled posted).innerSetSid call :=
  List.foldl_append.trans rfl

/-- Posting the id of a session opened makes it the one that will be told. -/
theorem opened_kept {client : StatusdClient} (handle : Int) (id : LiveSessionId)
    (tells : Tells sessions client posted) :
    Tells ((handle, id) :: others) client (posted ++ [(id.val, true)]) := by
  have proper : Proper (id.val, true) := ⟨fun _ => id.nonempty, fun _ => rfl⟩
  refine ⟨tells.alive, tells.sound, fun call member => ?_, fun other opened => ?_⟩
  · rcases List.mem_append.mp member with old | new
    · exact tells.proper call old
    · rw [List.mem_singleton.mp new]
      exact proper
  · cases opened
    rw [settled_append]
    obtain ⟨alive, sound⟩ := settled_sound tells.proper tells.alive tells.sound
    have held : ((client.settled posted).innerSetSid (id.val, true)).sid = id.val := by
      rcases innerSetSid_cases (client.settled posted) id.val true with
        ⟨same, kept⟩ | ⟨quiet, _⟩ | ⟨_, _, kept⟩ | ⟨_, _, kept⟩
      · rw [kept, same]
      · cases quiet
      · rw [kept]
      · rw [kept]
    have heard := innerSetSid_sound proper alive sound
    rw [Sound, held] at heard
    exact heard id.nonempty

/-- Posting the empty id does not change what a settled client will tell. -/
theorem closed_kept {client : StatusdClient} (tells : Tells sessions client posted)
    (leaves : remaining = [] ∨
      (lastOpened remaining = lastOpened sessions ∧ (client.settled posted).Firm)) :
    Tells remaining client (posted ++ [([], false)]) := by
  refine ⟨tells.alive, tells.sound, fun call member => ?_, fun id opened => ?_⟩
  · rcases List.mem_append.mp member with old | new
    · exact tells.proper call old
    · rw [List.mem_singleton.mp new]
      simp [Proper]
  · rcases leaves with rfl | ⟨last, firm⟩
    · cases opened
    · rw [settled_append]
      rw [last] at opened
      have heard := tells.told id opened
      rcases innerSetSid_cases (client.settled posted) [] false with
        ⟨_, kept⟩ | ⟨_, kept⟩ | ⟨sync, _⟩ | ⟨sync, _⟩
      · rw [kept]
        exact heard
      · rw [kept, told_of_firm [] firm]
        exact heard
      · cases sync
      · cases sync

/-! ### The runs -/

theorem setSid_tracked {entrance : BeeEntrance} (sid : Text) (sync : Bool)
    (kept : ∀ client, entrance.statusdClient = some client →
      client.Dead ∨ Tells entrance.sessions client (entrance.posted ++ [(sid, sync)])) :
    Tracked (entrance.setSid sid sync) := by
  intro client there
  unfold BeeEntrance.setSid at there ⊢
  split at there
  next none =>
    rw [none] at there
    cases there
  next => exact kept client there

theorem client_tracked {entrance : BeeEntrance} {client : StatusdClient}
    (kept : client.Dead ∨ Tells entrance.sessions client posted) :
    Tracked { entrance with statusdClient := some client, posted := posted } := by
  intro other same
  cases same
  exact kept

theorem step_tracked {entrance next : BeeEntrance} {request : BeeEntrance.Request}
    (tracked : Tracked entrance) (keeps : Keeps entrance request)
    (taken : entrance.step request = some (reply, next)) : Tracked next := by
  cases request with
  | sets enableStatusd machineCode =>
    cases taken
    exact tracked
  | opens handle id =>
    cases taken
    refine setSid_tracked _ _ fun client there => ?_
    rcases tracked client there with dead | tells
    · exact .inl dead
    · exact .inr (opened_kept handle id tells)
  | closes handle closed =>
    cases taken
    refine setSid_tracked _ _ fun client there => ?_
    rcases tracked client there with dead | tells
    · exact .inl dead
    · rcases keeps client there with none | dead | leaves
      · exact .inr (closed_kept tells (.inl none))
      · exact .inl dead
      · exact .inr (closed_kept tells (.inr leaves))
  | statusdTimeout =>
    cases taken
    unfold BeeEntrance.handleStatusdTimeout
    split
    · exact tracked
    next enabled =>
      split
      · exact tracked
      next out =>
        have closed := keeps (by simpa using enabled) (by simpa using out)
        intro client there
        cases there
        refine .inr ⟨.inr ⟨rfl, rfl, .inl rfl⟩, fun held => absurd rfl held, by simp, fun id opened => ?_⟩
        rw [closed] at opened
        cases opened
  | stops =>
    cases taken
    intro client there
    cases there
  | connects ok =>
    obtain ⟨client, there, same⟩ := Option.bind_eq_some_iff.mp taken
    split at same
    next connecting =>
      cases same
      refine client_tracked ?_
      rcases tracked client there with dead | tells
      · simp [Dead, connecting] at dead
      · exact .inr (handleConnect_kept ok connecting tells)
    next => cases same
  | loginWritten ok =>
    obtain ⟨client, there, same⟩ := Option.bind_eq_some_iff.mp taken
    split at same
    next uid sid composed =>
      cases same
      refine client_tracked ?_
      rcases tracked client there with dead | tells
      · simp [Dead, composed] at dead
      · exact handleLogin_kept ok composed tells
    next => cases same
  | runsPosted =>
    obtain ⟨client, there, same⟩ := Option.bind_eq_some_iff.mp taken
    split at same
    next => cases same
    next call rest queued =>
      cases same
      refine client_tracked (innerSetSid_kept ?_)
      rw [← queued]
      exact tracked client there
  | writesLog log =>
    obtain ⟨client, there, same⟩ := Option.bind_eq_some_iff.mp taken
    split at same
    next finished =>
      cases same
      exact client_tracked (innerWriteLog_kept log finished (tracked client there))
    next => cases same
  | wrote ok =>
    obtain ⟨client, there, same⟩ := Option.bind_eq_some_iff.mp taken
    split at same
    next packet rest logged queued =>
      cases same
      exact client_tracked (handleWrite_kept ok logged queued (tracked client there))
    next => cases same

theorem reported_of_tracked {entrance : BeeEntrance} (tracked : Tracked entrance) :
    Reported entrance := by
  intro client there logged clear drained id opened
  rcases tracked client there with dead | tells
  · exact absurd (dead.1.symm.trans logged) (by simp)
  · have heard := tells.told id opened
    rw [drained] at heard
    rw [settled, List.foldl_nil, told_finished tells.alive logged, clear, List.append_nil] at heard
    exact heard

/-- The entrance as it is made. -/
def BeeEntrance.constructed (machineCode : Text) : BeeEntrance := { machineCode := machineCode }

/-- In a run that replaces its client only between sessions and closes sessions one at a
time, the status server has heard the id of the open session in every state reached. -/
theorem sid_reported (met : Runs.AllSteps BeeEntrance.step Keeps (.constructed machineCode) requests)
    (ran : Runs.run BeeEntrance.step (.constructed machineCode) requests = some (replies, entrance)) :
    Reported entrance := by
  apply reported_of_tracked
  exact Runs.run_invariant Tracked (fun _ _ _ _ tracked keeps taken =>
    step_tracked tracked keeps taken) (fun _ there => by cases there) met ran

/-- A session is opened while the client is still connecting, and is told behind its login. -/
def opensEarly (id : LiveSessionId) : List BeeEntrance.Request :=
  [.statusdTimeout, .connects true, .opens 3 id, .runsPosted, .loginWritten true, .wrote true]

/-- The connection is lost under an open session, and the timer makes a new client. -/
def reconnects (id : LiveSessionId) : List BeeEntrance.Request :=
  opensEarly id ++ [.writesLog "heartbeat".toList, .wrote false, .statusdTimeout, .connects true,
    .loginWritten true]

def liveId : LiveSessionId := ⟨List.replicate 32 'A', rfl⟩

theorem early_session_reported : ∃ entrance, Runs.run BeeEntrance.step
    (.constructed "pc".toList) (opensEarly liveId) = some (List.replicate 6 (), entrance) ∧
    Reported entrance ∧ lastOpened entrance.sessions = some liveId.val ∧
    (∃ client, entrance.statusdClient = some client ∧ client.logined = true ∧ client.writes = []) :=
  ⟨_, rfl, sid_reported (by decide : Runs.AllSteps BeeEntrance.step Keeps
    (.constructed "pc".toList) (opensEarly liveId)) rfl, rfl, _, rfl, rfl, rfl⟩

theorem session_lost_on_reconnect : ¬ ∀ machineCode requests replies entrance,
    Runs.run BeeEntrance.step (.constructed machineCode) requests = some (replies, entrance) →
      Reported entrance := by
  intro reported
  have heard := reported "pc".toList (reconnects liveId) _ _ rfl _ rfl rfl rfl rfl liveId.val rfl
  revert heard
  decide

end BeeSdk.Statusd
