import BeeSdk.LogVolumesProofs
import BeeSdk.WeakOrder

/-! Sorting the log directory. The comparison goes by one number of each name, which is a
strict weak order, but the number is looked for in pieces that may be missing or blank: then
it is read outside the pieces or outside the text. -/
namespace BeeSdk.LogVolumes
open HttpHeader (Text)
open TextSearch WeakOrder LogAppenderFile

/-- A piece `str_trim` steps out of. -/
def Blank (piece : Text) : Prop := piece ≠ [] ∧ piece.all isBlank = true

/-- The piece the number is read off is there and is not blank: the last one, or the one in
front of a last `gz`. -/
def Readable (name : Text) : Prop :=
  match (split name ".".toList).reverse with
  | [] => True
  | last :: before =>
    if last = "gz".toList then ∃ piece rest, before = piece :: rest ∧ ¬ Blank piece else ¬ Blank last

/-- `LogFilenameCompare(s1, s2)` is true. -/
def Less (settings : Settings) (s1 s2 : Text) : Prop :=
  logFilenameCompare settings.overflow s1 s2 = some true

/-- What `std::sort` asks of the comparison among these names, and what the rolling of
volumes asks of the sorted listing: any two are compared without stepping outside, by a
strict weak order, and wherever the sort may leave the names the volume with the larger index
stands in front. -/
structure Sorts (settings : Settings) (names : List Text) : Prop where
  safe : ∀ s1 ∈ names, ∀ s2 ∈ names, s1 ≠ s2 → (logFilenameCompare settings.overflow s1 s2).isSome = true
  order : StrictWeakOrder (Less settings) names
  volumes : ∀ sorted : List Text, sorted.Perm names → (sorted.Pairwise fun s1 s2 => ¬ Less settings s1 s2) →
    ∀ k j, k ≤ 2147483647 → j ≤ 2147483647 → volumeName settings k ∈ names → volumeName settings j ∈ names →
      ([volumeName settings k, volumeName settings j].Sublist sorted ↔ j < k)

/-! ### Names that can be read -/

theorem strTrim_isSome_iff (piece : Text) : (strTrim piece).isSome = true ↔ ¬ Blank piece := by
  rw [strTrim, Blank]
  by_cases empty : piece = []
  · simp [empty]
  · by_cases blank : piece.all isBlank = true
    · rw [if_neg empty, if_pos blank]
      simp only [Option.isSome_none, Bool.false_eq_true, false_iff, not_not]
      exact ⟨empty, blank⟩
    · rw [if_neg empty, if_neg blank]
      simp only [Option.isSome_some, true_iff, not_and]
      exact fun _ => blank

/-- A number is read off a name exactly where its piece is there and not blank. -/
theorem lastNumber_isSome_iff (overflow : Int → Int) (name : Text) :
    (lastNumber overflow (split name ".".toList)).isSome = true ↔ Readable name := by
  rw [lastNumber, Readable]
  cases pieces : (split name ".".toList).reverse with
  | nil => simp
  | cons last before =>
    dsimp only
    by_cases marked : last = "gz".toList
    · rw [if_pos marked, if_pos marked]
      cases before with
      | nil => simp
      | cons piece rest =>
        rw [Option.isSome_map, strTrim_isSome_iff]
        constructor
        · intro solid
          exact ⟨piece, rest, rfl, solid⟩
        · rintro ⟨_, _, same, solid⟩
          cases same
          exact solid
    · rw [if_neg marked, if_neg marked, Option.isSome_map, strTrim_isSome_iff]

/-! ### The listing -/

variable {settings : Settings} {names : List Text}

/-- Readable names are compared by their numbers. -/
theorem less_iff {s1 s2 : Text} (named : [] ∉ names) (readable : ∀ name ∈ names, Readable name)
    (first : s1 ∈ names) (second : s2 ∈ names) : logFilenameCompare settings.overflow s1 s2 =
      some (decide (sortNumber settings.overflow s1 < sortNumber settings.overflow s2)) := by
  have comparable : ∀ name ∈ names, Comparable settings.overflow name := fun name member =>
    ⟨fun empty => named (empty ▸ member), (lastNumber_isSome_iff _ _).mpr (readable name member)⟩
  exact logFilenameCompare_eq (comparable s1 first) (comparable s2 second)

theorem sortNumber_volumeName {index : Nat} (fits : index ≤ 2147483647) :
    sortNumber settings.overflow (volumeName settings index) = index := by
  rw [sortNumber, lastNumber_volumeName fits]
  rfl

/-- No name is less than itself, whether it can be read or not. -/
theorem not_less_self {name : Text} (filled : name ≠ []) : ¬ Less settings name name := by
  intro less
  have kept := less
  rw [Less, logFilenameCompare, if_neg (by simp [filled])] at less
  obtain ⟨index1, read, -⟩ := Option.bind_eq_some_iff.mp less
  have comparable : Comparable settings.overflow name := ⟨filled, by rw [read]; rfl⟩
  rw [Less, logFilenameCompare_eq comparable comparable] at kept
  simp at kept

/-- Two names at least: each of them is compared with another one. -/
theorem readable_of_safe (distinct : names.Nodup) (many : 1 < names.length) (named : [] ∉ names)
    (safe : ∀ s1 ∈ names, ∀ s2 ∈ names, s1 ≠ s2 →
      (logFilenameCompare settings.overflow s1 s2).isSome = true) :
    ∀ name ∈ names, Readable name := by
  intro name member
  obtain ⟨other, otherMember, differ⟩ : ∃ other ∈ names, name ≠ other := by
    apply Classical.byContradiction
    intro alone
    have all : ∀ other ∈ names, other = name := fun other held =>
      Classical.byContradiction fun differ => alone ⟨other, held, fun same => differ same.symm⟩
    match names, distinct, many, all with
    | first :: second :: rest, distinct, _, all =>
      have same : first = second := (all first (by simp)).trans (all second (by simp)).symm
      exact (List.nodup_cons.mp distinct).1 (same ▸ List.mem_cons_self)
  have compared := safe name member other otherMember differ
  have filled : ∀ {text : Text}, text ∈ names → text ≠ [] := fun held empty => named (empty ▸ held)
  rw [logFilenameCompare, if_neg (by simp [filled member, filled otherMember])] at compared
  rw [← lastNumber_isSome_iff settings.overflow]
  simp only at compared
  cases read : lastNumber settings.overflow (split name ".".toList) with
  | none =>
    rw [read] at compared
    cases compared
  | some index => rfl

/-- The names of a directory are sorted as they should be exactly when there is at most one, or
the piece each number is read off is there and is not blank. -/
theorem sorts_iff (distinct : names.Nodup) (named : [] ∉ names) :
    Sorts settings names ↔ names.length ≤ 1 ∨ ∀ name ∈ names, Readable name := by
  constructor
  · intro sorts
    by_cases few : names.length ≤ 1
    · exact .inl few
    · exact .inr (readable_of_safe distinct (Nat.lt_of_not_le few) named sorts.safe)
  · rintro (few | readable)
    · have one : ∀ s1 ∈ names, ∀ s2 ∈ names, s1 = s2 := by
        match names, few with
        | [], _ => exact fun s1 held => by cases held
        | [name], _ =>
          intro s1 first s2 second
          rw [List.mem_singleton.mp first, List.mem_singleton.mp second]
      refine ⟨fun s1 first s2 second differ => absurd (one s1 first s2 second) differ, ⟨?_, ?_, ?_⟩, ?_⟩
      · exact fun name member => not_less_self fun empty => named (empty ▸ member)
      · intro a aHeld b bHeld c cHeld less
        exact absurd (one a aHeld b bHeld ▸ less) (not_less_self fun empty => named (empty ▸ bHeld))
      · intro a aHeld b bHeld c cHeld ab ba _ _
        rw [← one b bHeld c cHeld]
        exact ⟨ab, ba⟩
      · intro sorted same _ k j kFits jFits kHeld jHeld
        have equal := volumeName_injective (one _ kHeld _ jHeld)
        rw [equal]
        constructor
        · intro stands
          have long := stands.length_le
          rw [same.length_eq, List.length_cons, List.length_singleton] at long
          omega
        · exact fun less => absurd less (Nat.lt_irrefl _)
    · have same : ∀ s1 ∈ names, ∀ s2 ∈ names, Less settings s1 s2 ↔
          sortNumber settings.overflow s1 < sortNumber settings.overflow s2 := by
        intro s1 first s2 second
        rw [Less, less_iff named readable first second]
        simp
      refine ⟨fun s1 first s2 second _ => ?_, .of_key _ same, ?_⟩
      · rw [less_iff named readable first second]
        rfl
      · intro sorted perm downwards k j kFits jFits kHeld jHeld
        have number : ∀ {one other : Nat}, one ≤ 2147483647 → other ≤ 2147483647 →
            volumeName settings one ∈ names → volumeName settings other ∈ names →
            (Less settings (volumeName settings one) (volumeName settings other) ↔ one < other) := by
          intro one other oneFits otherFits oneHeld otherHeld
          rw [same _ oneHeld _ otherHeld, sortNumber_volumeName oneFits, sortNumber_volumeName otherFits]
          exact Int.ofNat_lt
        by_cases equal : k = j
        · subst equal
          constructor
          · intro stands
            have twice := (perm.nodup_iff.mpr distinct).sublist stands
            simp at twice
          · exact fun less => absurd less (Nat.lt_irrefl _)
        · rw [← number jFits kFits jHeld kHeld]
          refine sublist_iff_less downwards (perm.mem_iff.mpr kHeld) (perm.mem_iff.mpr jHeld) ?_ ?_
          · rw [number kFits jFits kHeld jHeld, number jFits kFits jHeld kHeld]
            omega
          · exact fun named => equal (volumeName_injective named)

theorem readable_volumeName {index : Nat} (fits : index ≤ 2147483647) :
    Readable (volumeName settings index) := by
  rw [← lastNumber_isSome_iff settings.overflow, lastNumber_volumeName fits]
  rfl

theorem three_volumes_sorted :
    Sorts threeVolumes [volumeName threeVolumes 1, volumeName threeVolumes 0, volumeName threeVolumes 2] := by
  refine (sorts_iff (by decide +kernel) (by decide +kernel)).mpr (.inr fun name member => ?_)
  simp only [List.mem_cons, List.not_mem_nil, or_false] at member
  rcases member with rfl | rfl | rfl
  · exact readable_volumeName (by decide)
  · exact readable_volumeName (by decide)
  · exact readable_volumeName (by decide)

/-- A file with the name `gz` has one piece, and the one in front of it is looked for. -/
theorem gz_not_sorted :
    logFilenameCompare id "gz".toList "bee.log".toList = none ∧
      ¬ Sorts threeVolumes ["bee.log".toList, "gz".toList] := by
  refine ⟨by decide +kernel, fun sorts => ?_⟩
  have compared := sorts.safe "gz".toList (by decide +kernel) "bee.log".toList (by decide +kernel)
    (by decide +kernel)
  revert compared
  decide +kernel

end BeeSdk.LogVolumes
