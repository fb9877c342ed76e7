import BeeSdk.BeeSession

/-! Who hears a notification of the script. The session's table is keyed by code, while
services come and go as objects; beside the table goes an account of who registered last
and has not left since. -/
namespace BeeSdk
open StateMachine Runs

/-- `on_svc_notify`: the service that is handed the text, if one is. -/
def BeeSession.onSvcNotify (session : BeeSession) (svcCode : Int) (data : Option (List UInt8)) :
    Option (Nat × List UInt8) :=
  match data with
  | none => none
  | some data =>
    if svcCode < 0 ∨ data.length = 0 then none
    else (session.services.lookup svcCode).map fun service => (service, data)

/-- The session and, for each code, the service that registered last with success and
neither left nor saw the session closed since. -/
structure SessionServices where
  session : BeeSession
  owner : Int → Option Nat := fun _ => none

namespace SessionServices

inductive Call where
  | session (request : BeeSession.Request)
  | onSvcNotify (svcCode : Int) (data : Option (List UInt8))
  deriving DecidableEq

inductive Reply where
  | returned (code : BeeErrorCode)
  | handled (told : Option (Nat × List UInt8))
  deriving DecidableEq

/-- What a call that succeeds does to the account. -/
def settle (owner : Int → Option Nat) : BeeSession.Request → Int → Option Nat
  | .regSvc (some (svcCode, service)) => fun code =>
    if code = svcCode then some service else owner code
  | .unregSvc (some (svcCode, service)) => fun code =>
    if code = svcCode ∧ owner code = some service then none else owner code
  | .close => fun _ => none
  | _ => owner

def step (state : SessionServices) : Call → Option (Reply × SessionServices)
  | .session request => (state.session.step request).map fun (code, session) =>
    (.returned code,
      { session, owner := if code = .success then settle state.owner request else state.owner })
  | .onSvcNotify svcCode data =>
    some (.handled (state.session.onSvcNotify svcCode data), state)

/-- A notification reaches whom the account names, with what it says; a service that is
registered with success is the receiver from then on; one that leaves takes no other's
registration along. -/
def Delivers (state : SessionServices) : Call → Reply → SessionServices → Prop
  | .onSvcNotify svcCode data, .handled told, _ =>
    told = (state.owner svcCode).map (·, data.getD [])
  | .session (.regSvc (some (svcCode, service))), .returned code, next =>
    code = .success → next.session.services.lookup svcCode = some service
  | .session (.unregSvc (some (svcCode, service))), .returned code, next =>
    code = .success → ∀ other registered, state.session.services.lookup other = some registered →
      (other, registered) ≠ (svcCode, service) →
      next.session.services.lookup other = some registered
  | _, _, _ => True

/-- No other service is registered under the code. -/
def Unclaimed (session : BeeSession) (svcCode : Int) (service : Nat) : Prop :=
  ∀ registered ∈ session.services.lookup svcCode, registered = service

/-- Whoever registers where the script allows it, or leaves, finds no other service under
its code, and a notification for a registered code says something. -/
def Apart (state : SessionServices) : Call → Prop
  | .session (.regSvc (some (svcCode, service))) =>
    svcCode ∈ state.session.capabilities → Unclaimed state.session svcCode service
  | .session (.unregSvc (some (svcCode, service))) => Unclaimed state.session svcCode service
  | .onSvcNotify svcCode data =>
    (state.session.services.lookup svcCode).isSome → data.getD [] ≠ []
  | _ => True

instance (session : BeeSession) (svcCode : Int) (service : Nat) :
    Decidable (Unclaimed session svcCode service) :=
  match registered : session.services.lookup svcCode with
  | none => isTrue fun _ member => by rw [registered] at member; cases member
  | some other => decidable_of_iff (other = service)
      ⟨fun same _ member => by rw [registered] at member; cases member; exact same,
        fun all => all other registered⟩

instance (state : SessionServices) : ∀ call, Decidable (Apart state call)
  | .session (.regSvc (some _)) => inferInstanceAs (Decidable (_ → Unclaimed _ _ _))
  | .session (.unregSvc (some _)) => inferInstanceAs (Decidable (Unclaimed _ _ _))
  | .onSvcNotify .. => inferInstanceAs (Decidable (_ → _ ≠ []))
  | .session (.open_ _) => isTrue trivial
  | .session .close => isTrue trivial
  | .session (.execute ..) => isTrue trivial
  | .session (.regSvc none) => isTrue trivial
  | .session (.unregSvc none) => isTrue trivial

variable {state next : SessionServices}

/-! ### The table and the account -/

/-- The table is the account, and holds no negative code. -/
structure Agrees (state : SessionServices) : Prop where
  owned : ∀ code, state.session.services.lookup code = state.owner code
  listed : ∀ code, code < 0 → state.session.services.lookup code = none

theorem lookup_append (services : List (Int × Nat)) (svcCode : Int) (service : Nat)
    (free : services.lookup svcCode = none) (code : Int) :
    (services ++ [(svcCode, service)]).lookup code =
      if code = svcCode then some service else services.lookup code := by
  rw [List.lookup_append]
  by_cases same : code = svcCode
  · rw [same, free, if_pos rfl]
    simp
  · rw [if_neg same]
    have other : (code == svcCode) = false := by simpa using same
    simp [List.lookup_cons, other]

theorem lookup_filter (services : List (Int × Nat)) (svcCode code : Int) :
    (services.filter (·.1 ≠ svcCode)).lookup code =
      if code = svcCode then none else services.lookup code := by
  induction services with
  | nil => simp
  | cons entry rest ih =>
    obtain ⟨key, service⟩ := entry
    by_cases dropped : key = svcCode
    · rw [List.filter_cons_of_neg (by simp [dropped]), ih, List.lookup_cons]
      by_cases same : code = svcCode
      · rw [if_pos same, if_pos same]
      · have other : (code == key) = false := by simpa [dropped] using same
        rw [if_neg same, if_neg same, other]
    · rw [List.filter_cons_of_pos (by simp [dropped]), List.lookup_cons, List.lookup_cons, ih]
      by_cases here : code = key
      · rw [here, if_neg dropped, beq_self_eq_true, if_neg dropped]
      · have other : (code == key) = false := by simpa using here
        rw [other]

/-! ### The calls of the session -/

theorem switchState_services {session after : BeeSession} {ev : Int} {taken : Bool}
    (switched : session.switchState ev = some (taken, after)) : after.services = session.services := by
  obtain ⟨_, _, shape⟩ := Option.map_eq_some_iff.mp switched
  cases shape
  rfl

theorem finishOpen_services (session : BeeSession) (code : BeeErrorCode) :
    (session.finishOpen code).2.services = session.services := by
  unfold BeeSession.finishOpen BeeSession.resetState
  dsimp only
  split <;> rfl

theorem openSession_services {session after : BeeSession} {opening : Opening} {code : BeeErrorCode}
    (ran : session.openSession opening = some (code, after)) : after.services = session.services := by
  obtain ⟨⟨taken, entered⟩, switched, ran⟩ := Option.bind_eq_some_iff.mp ran
  have kept := switchState_services switched
  dsimp only at ran
  split at ran
  · cases ran
    exact (finishOpen_services _ _).trans kept
  · split at ran
    · cases ran
      exact (finishOpen_services _ _).trans kept
    · obtain ⟨⟨taken, opened⟩, switched, shape⟩ := Option.map_eq_some_iff.mp ran
      have still := switchState_services switched
      dsimp only at shape
      split at shape <;> cases shape
      · exact (finishOpen_services _ _).trans (still.trans kept)
      · exact still.trans kept

theorem execute_services {session after : BeeSession} {svcCode : Int} {answer code : BeeErrorCode}
    (ran : session.execute svcCode answer = some (code, after)) :
    after.services = session.services := by
  unfold BeeSession.execute at ran
  split at ran
  · cases ran
    rfl
  · split at ran
    · cases ran
      rfl
    · obtain ⟨⟨taken, executed⟩, switched, shape⟩ := Option.map_eq_some_iff.mp ran
      have kept := switchState_services switched
      dsimp only at shape
      split at shape <;> cases shape <;> exact kept

/-- A close clears the table or leaves it, by what it returns. -/
theorem close_services {session after : BeeSession} {code : BeeErrorCode}
    (ran : session.close = some (code, after)) :
    code = .success ∧ after.services = [] ∨ code ≠ .success ∧ after.services = session.services := by
  obtain ⟨⟨taken, entered⟩, switched, ran⟩ := Option.bind_eq_some_iff.mp ran
  dsimp only at ran
  split at ran
  · cases ran
    exact .inr ⟨by decide, switchState_services switched⟩
  · obtain ⟨_, _, shape⟩ := Option.map_eq_some_iff.mp ran
    cases shape
    exact .inl ⟨rfl, rfl⟩

/-- What registering does: it is refused, or the code is looked up and only then, if it is
free, bound. -/
theorem regSvc_cases (session : BeeSession) (svcCode : Int) (service : Nat) :
    (¬ (0 ≤ svcCode ∧ svcCode ∈ session.capabilities) ∧
      (session.regSvc (some (svcCode, service))).1 ≠ .success ∧
      (session.regSvc (some (svcCode, service))).2 = session) ∨
    (0 ≤ svcCode ∧ svcCode ∈ session.capabilities ∧
      (session.regSvc (some (svcCode, service))).1 = .success ∧
      ∀ code, (session.regSvc (some (svcCode, service))).2.services.lookup code =
        if code = svcCode ∧ session.services.lookup code = none then some service
        else session.services.lookup code) := by
  rw [BeeSession.regSvc]
  by_cases negative : svcCode < 0
  · rw [if_pos negative]
    exact .inl ⟨fun valid => by omega, by simp, rfl⟩
  · rw [if_neg negative]
    by_cases capable : svcCode ∈ session.capabilities
    · rw [if_neg (by simpa using capable)]
      refine .inr ⟨by omega, capable, ?_⟩
      cases registered : session.services.lookup svcCode with
      | some other =>
        refine ⟨rfl, fun code => ?_⟩
        simp only [Option.isSome_some, if_true]
        rw [if_neg]
        rintro ⟨rfl, free⟩
        rw [registered] at free
        cases free
      | none =>
        refine ⟨rfl, fun code => ?_⟩
        simp only [Option.isSome_none, Bool.false_eq_true, if_false]
        rw [lookup_append _ _ _ registered]
        by_cases same : code = svcCode
        · rw [if_pos same, if_pos ⟨same, same ▸ registered⟩]
        · rw [if_neg same, if_neg fun both => same both.1]
    · rw [if_pos (by simpa using capable)]
      exact .inl ⟨fun valid => capable valid.2, by simp, rfl⟩

/-- What unregistering does: it is refused, or whoever is registered under the code goes. -/
theorem unregSvc_cases (session : BeeSession) (svcCode : Int) (service : Nat) :
    ((svcCode < 0 ∨ session.services.lookup svcCode = none) ∧
      (session.unregSvc (some (svcCode, service))).1 ≠ .success ∧
      (session.unregSvc (some (svcCode, service))).2 = session) ∨
    (0 ≤ svcCode ∧ (session.services.lookup svcCode).isSome ∧
      (session.unregSvc (some (svcCode, service))).1 = .success ∧
      ∀ code, (session.unregSvc (some (svcCode, service))).2.services.lookup code =
        if code = svcCode then none else session.services.lookup code) := by
  rw [BeeSession.unregSvc]
  by_cases negative : svcCode < 0
  · rw [if_pos negative]
    exact .inl ⟨.inl negative, by simp, rfl⟩
  · rw [if_neg negative]
    cases registered : session.services.lookup svcCode with
    | none => exact .inl ⟨.inr rfl, by simp, rfl⟩
    | some other =>
      exact .inr ⟨by omega, rfl, rfl, fun code => lookup_filter session.services svcCode code⟩

/-! ### Every run -/

theorem agrees_same {session : BeeSession} (agrees : Agrees state)
    (services : session.services = state.session.services) : Agrees ⟨session, state.owner⟩ := by
  constructor
  · intro code
    rw [services]
    exact agrees.owned code
  · intro code negative
    rw [services]
    exact agrees.listed code negative

/-- A step that finds no other service in its way keeps table and account together. -/
theorem agrees_step {call : Call} {reply : Reply} (agrees : Agrees state)
    (apart : Apart state call) (ran : step state call = some (reply, next)) : Agrees next := by
  cases call with
  | onSvcNotify svcCode data =>
    cases ran
    exact agrees
  | session request =>
    obtain ⟨⟨code, after⟩, taken, shape⟩ := Option.map_eq_some_iff.mp ran
    cases shape
    cases request with
    | open_ opening =>
      have kept := agrees_same agrees (openSession_services taken)
      simpa only [settle, ite_self] using kept
    | execute svcCode answer =>
      have kept := agrees_same agrees (execute_services taken)
      simpa only [settle, ite_self] using kept
    | close =>
      rcases close_services taken with ⟨rfl, cleared⟩ | ⟨failed, kept⟩
      · rw [if_pos rfl]
        constructor <;> intro code <;> simp [cleared, settle]
      · rw [if_neg failed]
        exact agrees_same agrees kept
    | regSvc svc =>
      obtain ⟨rfl, rfl⟩ := Prod.ext_iff.mp (Option.some.inj taken).symm
      cases svc with
      | none =>
        rw [if_neg (by simp [BeeSession.regSvc])]
        exact agrees_same agrees rfl
      | some pair =>
        obtain ⟨svcCode, service⟩ := pair
        rcases regSvc_cases state.session svcCode service with
          ⟨_, failed, same⟩ | ⟨valid, capable, success, bound⟩
        · rw [if_neg failed]
          exact agrees_same agrees (congrArg BeeSession.services same)
        · rw [if_pos success]
          have mine := apart capable
          constructor
          · intro code
            rw [bound]
            simp only [settle]
            by_cases same : code = svcCode
            · rw [if_pos same]
              cases registered : state.session.services.lookup code with
              | none => rw [if_pos ⟨same, rfl⟩]
              | some other =>
                rw [if_neg (fun both => by cases both.2), mine other (same ▸ registered)]
            · rw [if_neg same, if_neg fun both => same both.1, agrees.owned]
          · intro code negative
            rw [bound, if_neg (by rintro ⟨rfl, _⟩; omega)]
            exact agrees.listed code negative
    | unregSvc svc =>
      obtain ⟨rfl, rfl⟩ := Prod.ext_iff.mp (Option.some.inj taken).symm
      cases svc with
      | none =>
        rw [if_neg (by simp [BeeSession.unregSvc])]
        exact agrees_same agrees rfl
      | some pair =>
        obtain ⟨svcCode, service⟩ := pair
        rcases unregSvc_cases state.session svcCode service with
          ⟨_, failed, same⟩ | ⟨valid, registered, success, left⟩
        · rw [if_neg failed]
          exact agrees_same agrees (congrArg BeeSession.services same)
        · rw [if_pos success]
          obtain ⟨other, found⟩ := Option.isSome_iff_exists.mp registered
          have mine := apart other found
          constructor
          · intro code
            rw [left]
            simp only [settle]
            by_cases same : code = svcCode
            · have held : state.owner code = some service := by
                rw [same, ← agrees.owned, found, mine]
              rw [if_pos same, if_pos ⟨same, held⟩]
            · rw [if_neg same, if_neg fun both => same both.1, agrees.owned]
          · intro code negative
            rw [left, if_neg (by omega)]
            exact agrees.listed code negative

/-- What a step owes it does exactly where no other service is in its way. -/
theorem delivers_iff {call : Call} {reply : Reply} (agrees : Agrees state)
    (ran : step state call = some (reply, next)) :
    Delivers state call reply next ↔ Apart state call := by
  cases call with
  | onSvcNotify svcCode data =>
    cases ran
    rw [Delivers, Apart, ← agrees.owned]
    cases registered : state.session.services.lookup svcCode with
    | none =>
      refine iff_of_true ?_ (by rintro ⟨⟩)
      cases data with
      | none => rfl
      | some data =>
        rw [BeeSession.onSvcNotify]
        split
        · rfl
        · rw [registered]
          rfl
    | some service =>
      have valid : ¬ svcCode < 0 := by
        intro negative
        rw [agrees.listed svcCode negative] at registered
        cases registered
      cases data with
      | none => exact iff_of_false (by simp [BeeSession.onSvcNotify]) (by simp)
      | some data =>
        rw [BeeSession.onSvcNotify]
        cases data with
        | nil => exact iff_of_false (by simp) (by simp)
        | cons byte rest =>
          rw [if_neg (by simp [valid]), registered]
          exact iff_of_true rfl (by simp)
  | session request =>
    obtain ⟨⟨code, after⟩, taken, shape⟩ := Option.map_eq_some_iff.mp ran
    cases shape
    cases request with
    | open_ opening | execute svcCode answer | close => exact iff_of_true trivial trivial
    | regSvc svc =>
      obtain ⟨rfl, rfl⟩ := Prod.ext_iff.mp (Option.some.inj taken).symm
      cases svc with
      | none => exact iff_of_true trivial trivial
      | some pair =>
        obtain ⟨svcCode, service⟩ := pair
        simp only [Delivers, Apart, Unclaimed]
        rcases regSvc_cases state.session svcCode service with
          ⟨refused, failed, _⟩ | ⟨valid, capable, success, bound⟩
        · refine iff_of_true (fun success => absurd success failed) fun capable other found => ?_
          by_cases valid : 0 ≤ svcCode
          · exact absurd ⟨valid, capable⟩ refused
          · rw [agrees.listed svcCode (by omega)] at found
            cases found
        · rw [bound]
          cases registered : state.session.services.lookup svcCode with
          | none => simp
          | some other => simp [capable, success]
    | unregSvc svc =>
      obtain ⟨rfl, rfl⟩ := Prod.ext_iff.mp (Option.some.inj taken).symm
      cases svc with
      | none => exact iff_of_true trivial trivial
      | some pair =>
        obtain ⟨svcCode, service⟩ := pair
        simp only [Delivers, Apart, Unclaimed]
        rcases unregSvc_cases state.session svcCode service with
          ⟨free, failed, _⟩ | ⟨valid, registered, success, left⟩
        · refine iff_of_true (fun success => absurd success failed) fun other found => ?_
          rcases free with negative | free
          · rw [agrees.listed svcCode negative] at found
            cases found
          · rw [free] at found
            cases found
        · constructor
          · intro keeps other found
            apply Classical.byContradiction
            intro stranger
            have still := keeps success svcCode other found (by
              rintro ⟨⟩
              exact stranger rfl)
            rw [left, if_pos rfl] at still
            cases still
          · intro mine _ other service' found apart
            rw [left, if_neg]
            · exact found
            · rintro rfl
              exact apart (by rw [mine service' found])

/-- Along every run of a session that is defined, all calls do what they owe exactly when
none of them finds another service in its way. -/
theorem delivers_run_iff (sessionId : Int) {calls : List Call} {replies : List Reply}
    {final : SessionServices}
    (ran : run step { session := (BeeSession.constructed sessionId).initStateMachine } calls =
      some (replies, final)) :
    AllTaken step Delivers { session := (BeeSession.constructed sessionId).initStateMachine } calls ↔
      AllSteps step Apart { session := (BeeSession.constructed sessionId).initStateMachine } calls := by
  apply taken_iff_of_defined Agrees
  · intro state call reply next agrees taken
    exact delivers_iff agrees taken
  · intro state call reply next agrees apart taken
    exact agrees_step agrees apart taken
  · exact ⟨fun _ => rfl, fun _ _ => rfl⟩
  · exact ran

/-- A session opened with one capability, on which two services meet. -/
def opened : Call := .session (.open_ ⟨7, "live", 9, .success, [3]⟩)

/-- A service comes, hears a notification and goes. -/
def visit : List Call :=
  [opened, .session (.regSvc (some (3, 1))), .onSvcNotify 3 (some [65]),
    .session (.unregSvc (some (3, 1))), .session .close]

theorem visit_delivered :
    AllTaken step Delivers { session := (BeeSession.constructed 0).initStateMachine } visit := by
  obtain ⟨⟨replies, final⟩, ran⟩ : ∃ result,
      run step { session := (BeeSession.constructed 0).initStateMachine } visit = some result :=
    Option.isSome_iff_exists.mp (by decide +kernel)
  exact (delivers_run_iff 0 ran).mpr (by decide +kernel)

/-- A second service is registered with success and hears nothing; when it leaves, the
first one hears nothing any more. -/
theorem second_service_unheard : (run step { session := (BeeSession.constructed 0).initStateMachine }
      [opened, .session (.regSvc (some (3, 1))), .session (.regSvc (some (3, 2))),
        .onSvcNotify 3 (some [65]), .session (.unregSvc (some (3, 2))),
        .onSvcNotify 3 (some [66])]).map Prod.fst =
    some [.returned .success, .returned .success, .returned .success, .handled (some (1, [65])),
      .returned .success, .handled none] := by
  decide +kernel

end SessionServices
end BeeSdk
