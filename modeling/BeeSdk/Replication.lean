import Mathlib.Data.List.Basic

/-! Replicas of one state that apply their own operations at once and those of the others
when they are delivered: each one once, those of one sender in the order in which they
were sent, those of different senders in any. Operations that are on their way together
have to commute; then all replicas end where the operations lead in the order in which
they were sent. -/
namespace BeeSdk.Replication

variable {Member Op State : Type}

/-- The replicas, and what is on its way to each of them in the order it was sent. -/
structure Network (Member Op State : Type) where
  replica : Member → State
  inbox : Member → List (Member × Op)

variable (apply : Member → Op → State → State)

/-- One after the other. -/
def applyAll (list : List (Member × Op)) (state : State) : State :=
  list.foldl (fun state sent => apply sent.1 sent.2 state) state

/-- The order of the two makes no difference. -/
def Commute (first second : Member × Op) : Prop :=
  ∀ state, apply first.1 first.2 (apply second.1 second.2 state) =
    apply second.1 second.2 (apply first.1 first.2 state)

/-! ### What the replicas lead to -/

variable {apply}

theorem applyAll_append (front back : List (Member × Op)) (state : State) :
    applyAll apply (front ++ back) state = applyAll apply back (applyAll apply front state) :=
  List.foldl_append

/-- An operation that commutes with all of them may as well come last. -/
theorem applyAll_commute {list : List (Member × Op)} {last : Member × Op}
    (commute : ∀ sent ∈ list, Commute apply sent last) (state : State) :
    applyAll apply list (apply last.1 last.2 state) =
      apply last.1 last.2 (applyAll apply list state) := by
  induction list generalizing state with
  | nil => rfl
  | cons sent list ih =>
    have first := commute sent List.mem_cons_self
    rw [applyAll, List.foldl_cons, first state]
    exact ih (fun other member => commute other (List.mem_cons_of_mem _ member)) _

/-- With everything delivered every member would be at `common`, and what is on its way
from different senders commutes. -/
structure Converging (apply : Member → Op → State → State) (members : Member → Prop)
    (net : Network Member Op State) (common : State) : Prop where
  settles : ∀ member, members member →
    applyAll apply (net.inbox member) (net.replica member) = common
  commute : ∀ member, (net.inbox member).Pairwise fun first second =>
    first.1 ≠ second.1 → Commute apply first second
  foreign : ∀ member, ∀ sent ∈ net.inbox member, sent.1 ≠ member

variable {members : Member → Prop} {net : Network Member Op State} {common : State}

/-- Members to whom nothing is on its way have the same replica. -/
theorem Converging.agree (converging : Converging apply members net common)
    (first : members member) (second : members other) (quiet : net.inbox member = [])
    (quiet' : net.inbox other = []) : net.replica member = net.replica other := by
  have here := converging.settles member first
  have there := converging.settles other second
  rw [quiet] at here
  rw [quiet'] at there
  exact here.trans there.symm

/-! ### Steps -/

variable [DecidableEq Member]

/-- The first operation of a sender, taken out. -/
def takeFirst (sender : Member) : List (Member × Op) → Option (Op × List (Member × Op))
  | [] => none
  | sent :: rest =>
    if sent.1 = sender then some (sent.2, rest)
    else (takeFirst sender rest).map fun taken => (taken.1, sent :: taken.2)

theorem takeFirst_inv {list : List (Member × Op)} (taken : takeFirst sender list = some (op, rest)) :
    ∃ front back, list = front ++ (sender, op) :: back ∧ rest = front ++ back ∧
      ∀ sent ∈ front, sent.1 ≠ sender := by
  induction list generalizing rest with
  | nil => cases taken
  | cons sent list ih =>
    rw [takeFirst] at taken
    split at taken
    · rename_i same
      cases taken
      exact ⟨[], list, by rw [← same]; rfl, rfl, by simp⟩
    · rename_i other
      obtain ⟨⟨op', rest'⟩, inner, same⟩ := Option.map_eq_some_iff.mp taken
      cases same
      obtain ⟨front, back, rfl, rfl, others⟩ := ih inner
      exact ⟨sent :: front, back, rfl, rfl, List.forall_mem_cons.mpr ⟨other, others⟩⟩

namespace Network

/-- Every other member of `members` is sent what one applies to its own replica. -/
def send (apply : Member → Op → State → State) (members : Member → Prop) [DecidablePred members]
    (net : Network Member Op State) (sender : Member) (op : Op) : Network Member Op State where
  replica member :=
    if member = sender then apply sender op (net.replica sender) else net.replica member
  inbox member :=
    if member ≠ sender ∧ members member then net.inbox member ++ [(sender, op)]
    else net.inbox member

def receive (apply : Member → Op → State → State) (net : Network Member Op State)
    (receiver sender : Member) (op : Op) (rest : List (Member × Op)) : Network Member Op State where
  replica member :=
    if member = receiver then apply sender op (net.replica receiver) else net.replica member
  inbox member := if member = receiver then rest else net.inbox member

end Network

/-- An operation may be sent where it commutes with everything on its way from others. -/
theorem send_converging [DecidablePred members] (converging : Converging apply members net common)
    (allowed : ∀ member, ∀ sent ∈ net.inbox member, sent.1 ≠ sender →
      Commute apply sent (sender, op)) :
    Converging apply members (net.send apply members sender op) (apply sender op common) := by
  refine ⟨fun member isMember => ?_, fun member => ?_, fun member => ?_⟩
  · have settled := converging.settles member isMember
    simp only [Network.send]
    by_cases own : member = sender
    · subst own
      rw [if_pos rfl, if_neg (by simp), ← settled]
      exact applyAll_commute (fun sent found => allowed member sent found
        (converging.foreign member sent found)) _
    · rw [if_neg own, if_pos ⟨own, isMember⟩, applyAll_append, settled]
      rfl
  · have before := converging.commute member
    simp only [Network.send]
    split
    · rw [List.pairwise_append]
      refine ⟨before, List.pairwise_singleton _ _, fun sent found last isLast other => ?_⟩
      cases List.mem_singleton.mp isLast
      exact allowed member sent found other
    · exact before
  · have before := converging.foreign member
    simp only [Network.send]
    split
    · rename_i here
      intro sent found
      rcases List.mem_append.mp found with old | new
      · exact before sent old
      · cases List.mem_singleton.mp new
        exact Ne.symm here.1
    · exact before

theorem receive_converging (converging : Converging apply members net common)
    (taken : takeFirst sender (net.inbox receiver) = some (op, rest)) :
    Converging apply members (net.receive apply receiver sender op rest) common := by
  obtain ⟨front, back, whole, rfl, others⟩ := takeFirst_inv taken
  have commute := converging.commute receiver
  rw [whole, List.pairwise_append] at commute
  obtain ⟨inFront, behind, between⟩ := commute
  refine ⟨fun member isMember => ?_, fun member => ?_, fun member => ?_⟩
  · have settled := converging.settles member isMember
    simp only [Network.receive]
    by_cases here : member = receiver
    · subst here
      rw [if_pos rfl, if_pos rfl, ← settled, whole, applyAll_append, applyAll_append]
      have moved : applyAll apply front (apply sender op (net.replica member)) =
          apply sender op (applyAll apply front (net.replica member)) :=
        applyAll_commute (fun sent found =>
          between sent found _ List.mem_cons_self (others sent found)) _
      rw [moved]
      rfl
    · rw [if_neg here, if_neg here]
      exact settled
  · simp only [Network.receive]
    split
    · exact List.pairwise_append.mpr ⟨inFront, (List.pairwise_cons.mp behind).2,
        fun sent found other later => between sent found other (List.mem_cons_of_mem _ later)⟩
    · exact converging.commute member
  · have before := converging.foreign member
    simp only [Network.receive]
    split
    · rename_i here
      subst here
      intro sent found
      refine before sent ?_
      rw [whole]
      rcases List.mem_append.mp found with early | late
      · exact List.mem_append_left _ early
      · exact List.mem_append_right _ (List.mem_cons_of_mem _ late)
    · exact before

end BeeSdk.Replication
