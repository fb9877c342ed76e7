import Mathlib.Data.List.Nodup
import Mathlib.Data.List.Pairwise
import Mathlib.Order.Lattice

/-! Strict weak orders on the members of a list, as sorting by a comparison needs them, and
where a sorted list has two members. Elements ordered by a key are such an order. -/
namespace BeeSdk.WeakOrder

variable {α Key : Type}

/-- A strict weak order on some elements: nothing is said of the others. -/
structure StrictWeakOrder (less : α → α → Prop) (among : List α) : Prop where
  irreflexive : ∀ a ∈ among, ¬ less a a
  transitive : ∀ a ∈ among, ∀ b ∈ among, ∀ c ∈ among, less a b → less b c → less a c
  incomparable : ∀ a ∈ among, ∀ b ∈ among, ∀ c ∈ among,
    ¬ less a b → ¬ less b a → ¬ less b c → ¬ less c b → ¬ less a c ∧ ¬ less c a

/-- A comparison that goes by a key among these elements. -/
theorem StrictWeakOrder.of_key [LinearOrder Key] {less : α → α → Prop} {among : List α} (key : α → Key)
    (same : ∀ a ∈ among, ∀ b ∈ among, less a b ↔ key a < key b) : StrictWeakOrder less among where
  irreflexive a held := by
    rw [same a held a held]
    exact lt_irrefl _
  transitive a aHeld b bHeld c cHeld first second := by
    rw [same a aHeld c cHeld]
    exact lt_trans ((same a aHeld b bHeld).mp first) ((same b bHeld c cHeld).mp second)
  incomparable a aHeld b bHeld c cHeld ab ba bc cb := by
    rw [same a aHeld b bHeld] at ab
    rw [same b bHeld a aHeld] at ba
    rw [same b bHeld c cHeld] at bc
    rw [same c cHeld b bHeld] at cb
    rw [same a aHeld c cHeld, same c cHeld a aHeld]
    have alike := le_antisymm (not_lt.mp ba) (not_lt.mp ab)
    rw [alike]
    exact ⟨bc, cb⟩

/-- Two members of a list stand in one order or the other. -/
theorem pair_sublist {a b : α} {list : List α} (aHeld : a ∈ list) (bHeld : b ∈ list) (differ : a ≠ b) :
    [a, b].Sublist list ∨ [b, a].Sublist list := by
  induction list with
  | nil => cases aHeld
  | cons head rest ih =>
    rcases List.mem_cons.mp aHeld with rfl | aLater
    · rcases List.mem_cons.mp bHeld with rfl | bLater
      · exact absurd rfl differ
      · exact .inl ((List.singleton_sublist.mpr bLater).cons_cons a)
    · rcases List.mem_cons.mp bHeld with rfl | bLater
      · exact .inr ((List.singleton_sublist.mpr aLater).cons_cons b)
      · rcases ih aLater bLater with first | first
        · exact .inl (first.cons head)
        · exact .inr (first.cons head)

/-- In a list sorted downwards the larger of two comparable members stands first. -/
theorem sublist_iff_less {less : α → α → Prop} {a b : α} {sorted : List α}
    (downwards : sorted.Pairwise fun first second => ¬ less first second)
    (aHeld : a ∈ sorted) (bHeld : b ∈ sorted) (comparable : less a b ∨ less b a) (differ : a ≠ b) :
    [a, b].Sublist sorted ↔ less b a := by
  have ordered : ∀ {first second : α}, [first, second].Sublist sorted → ¬ less first second :=
    List.pairwise_iff_forall_sublist.mp downwards
  constructor
  · intro stands
    exact comparable.resolve_left (ordered stands)
  · intro smaller
    exact (pair_sublist aHeld bHeld differ).resolve_right fun stands => ordered stands smaller

end BeeSdk.WeakOrder
