import BeeSdk.Runs
import BeeSdk.TextSearch

/-! `Split` as the loop it is: over any text and any separator but the empty one it comes to an
end, and appends the pieces between the places of the separator to what has been there before. -/
namespace BeeSdk.SplitPieces
open Runs
open TextSearch (find split)

variable {α : Type} [DecidableEq α]

structure Split (α : Type) where
  lastPos : Nat := 0
  result : List (List α)
  returned : Bool := false

/-- One round of the loop of `Split`, nothing once it has ended. -/
def next (input spliter : List α) (state : Split α) : Option (Split α) :=
  if state.returned ∨ ¬ state.lastPos < input.length then none
  else match (find spliter (input.drop state.lastPos)).map (· + state.lastPos) with
    | none => some { state with
        result := state.result ++ [input.drop state.lastPos]
        returned := true }
    | some pos => some { state with
        result := state.result ++ [(input.drop state.lastPos).take (pos - state.lastPos)]
        lastPos := pos + spliter.length }

section
variable {input spliter : List α} {lastPos : Nat} {result : List (List α)}

theorem next_returned (state : Split α) (returned : state.returned = true) :
    next input spliter state = none := by
  rw [next, if_pos (.inl returned)]

theorem next_free (inside : lastPos < input.length)
    (free : find spliter (input.drop lastPos) = none) :
    next input spliter { lastPos := lastPos, result := result } =
      some { lastPos := lastPos, result := result ++ [input.drop lastPos], returned := true } := by
  unfold next
  rw [if_neg (by simpa using inside), free]
  rfl

theorem next_found (inside : lastPos < input.length)
    (found : find spliter (input.drop lastPos) = some position) :
    next input spliter { lastPos := lastPos, result := result } =
      some { lastPos := lastPos + (position + spliter.length),
             result := result ++ [(input.drop lastPos).take position] } := by
  unfold next
  rw [if_neg (by simpa using inside), found]
  simp only [Option.map_some, Nat.add_sub_cancel]
  rw [Nat.add_comm position, Nat.add_assoc]

/-- Every round but the last moves on by a separator at least. -/
theorem split_settles (input : List α) (real : spliter ≠ []) (lastPos : Nat) (result : List (List α)) :
    ∃ final, Settles (next input spliter) { lastPos := lastPos, result := result } final ∧
      final.result = result ++ split (input.drop lastPos) spliter := by
  generalize left : input.length - lastPos = rest
  induction rest using Nat.strongRecOn generalizing lastPos result with
  | ind rest ih =>
    by_cases inside : lastPos < input.length
    · have filled : input.drop lastPos ≠ [] := by simpa using inside
      cases found : find spliter (input.drop lastPos) with
      | none =>
        have free := TextSearch.find_eq_none_iff.mp found
        refine ⟨_, settles_step (next_free inside found) ⟨.refl, next_returned _ rfl⟩, ?_⟩
        rw [TextSearch.split_of_free filled free]
      | some position =>
        have long := List.length_pos_iff.mpr real
        obtain ⟨final, settles, pieces⟩ := ih (input.length - (lastPos + (position + spliter.length)))
          (by omega) (lastPos + (position + spliter.length))
          (result ++ [(input.drop lastPos).take position]) rfl
        refine ⟨final, settles_step (next_found inside found) settles, ?_⟩
        rw [pieces, TextSearch.split_of_found real filled found, List.drop_drop, List.append_assoc]
        rfl
    · refine ⟨_, ⟨.refl, ?_⟩, ?_⟩
      · rw [next, if_pos (.inr inside)]
      · rw [List.drop_eq_nil_of_le (Nat.le_of_not_lt inside)]
        exact (List.append_nil _).symm

end

/-- Nothing is taken from the result, no piece holds the separator, and the pieces joined are the
input, but for a separator at its end. -/
theorem split_inverts_join (input : List α) {spliter : List α} (real : spliter ≠ [])
    (result : List (List α)) :
    ∃ final pieces, Settles (next input spliter) { result := result } final ∧
      final.result = result ++ pieces ∧ (∀ piece ∈ pieces, ¬ spliter <:+: piece) ∧
      (spliter.intercalate pieces = input ∨ spliter.intercalate pieces ++ spliter = input) := by
  obtain ⟨final, settles, pieces⟩ := split_settles input real 0 result
  rw [List.drop_zero] at pieces
  exact ⟨final, split input spliter, settles, pieces,
    fun _ member => TextSearch.free_of_mem_split real member, TextSearch.join_split real input⟩

/-- Separators that overlap, repeat and come last. -/
theorem overlapping_pieces : ∃ final pieces,
    Settles (next "aaabaa".toList "aa".toList) { result := [['x']] } final ∧
      final.result = [['x']] ++ pieces ∧ (∀ piece ∈ pieces, ¬ "aa".toList <:+: piece) ∧
      ("aa".toList.intercalate pieces = "aaabaa".toList ∨
        "aa".toList.intercalate pieces ++ "aa".toList = "aaabaa".toList) :=
  split_inverts_join "aaabaa".toList (by decide) [['x']]

end BeeSdk.SplitPieces
