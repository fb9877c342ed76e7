import Mathlib.Data.List.AList

/-! How many entries of a table have a value that is counted. A development that keeps such
a number beside a table reads off the rules below what each change of the table is to it. -/
namespace BeeSdk.Tally

variable {Key Value : Type}

def tally (table : AList fun _ : Key => Value) (counted : Value → Bool) : Nat :=
  table.entries.countP fun entry => counted entry.2

/-- Where every value is counted, every entry is. -/
theorem tally_all (table : AList fun _ : Key => Value) :
    tally table (fun _ => true) = table.entries.length := by
  unfold tally
  rw [List.countP_true]

variable [DecidableEq Key] {table : AList fun _ : Key => Value} {key : Key} {value : Value}
variable {counted counted' : Value → Bool}

theorem tally_congr
    (same : ∀ key value, table.lookup key = some value → counted value = counted' value) :
    tally table counted = tally table counted' := by
  refine List.countP_congr fun ⟨key, value⟩ member => ?_
  rw [same key value (List.mem_dlookup_iff table.nodupKeys |>.mpr member)]

/-- What one value is to the tally. -/
def weight (counted : Value → Bool) (value : Value) : Nat := if counted value then 1 else 0

theorem tally_insert (free : table.lookup key = none) :
    tally (table.insert key value) counted = weight counted value + tally table counted := by
  unfold tally weight
  rw [AList.entries_insert_of_notMem (AList.lookup_eq_none.mp free), List.countP_cons, Nat.add_comm]

theorem tally_erase (held : table.lookup key = some value) :
    tally table counted = weight counted value + tally (table.erase key) counted := by
  have member : key ∈ table.entries.keys :=
    AList.mem_keys.mp (AList.lookup_isSome.mp (by rw [held]; rfl))
  obtain ⟨value', front, back, absent, split, erased⟩ := List.exists_of_kerase member
  have same : value' = value := by
    have found : value' ∈ table.entries.dlookup key :=
      List.mem_dlookup table.nodupKeys (by rw [split]; simp)
    exact Option.some.inj (found.symm.trans held)
  unfold tally weight
  rw [show (table.erase key).entries = front ++ back from erased, split, same]
  simp only [List.countP_append, List.countP_cons]
  omega

/-- One more value is counted, which is that of one entry. -/
theorem tally_count (held : table.lookup key = some value) (before : counted value = false)
    (after : counted' value = true)
    (others : ∀ other value, other ≠ key → table.lookup other = some value →
      counted' value = counted value) :
    tally table counted' = tally table counted + 1 := by
  have rest : tally (table.erase key) counted' = tally (table.erase key) counted := by
    refine tally_congr fun other value found => ?_
    have apart : other ≠ key := by
      rintro rfl
      rw [AList.lookup_erase] at found
      cases found
    rw [AList.lookup_erase_ne apart] at found
    exact others other value apart found
  have uncounted : tally table counted = tally (table.erase key) counted := by
    rw [tally_erase held, weight, before]
    exact Nat.zero_add _
  calc tally table counted' = 1 + tally (table.erase key) counted' := by
        rw [tally_erase held, weight, if_pos after]
    _ = tally table counted + 1 := by rw [rest, uncounted, Nat.add_comm]

end BeeSdk.Tally
