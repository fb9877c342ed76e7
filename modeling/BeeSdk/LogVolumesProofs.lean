import BeeSdk.LogVolumes

/-! What rolling the log does to the volumes and to the other files in its directory. -/
namespace BeeSdk.LogVolumes
open HttpHeader (Text isSpace)
open TextSearch

/-! ### Names of volumes -/

theorem atoi_digits (overflow : Int → Int) {number : Nat} (fits : number ≤ 2147483647) :
    atoi overflow (Nat.toDigits 10 number) = number := by
  have digits : ∀ symbol ∈ Nat.toDigits 10 number, symbol.isDigit := fun _ member =>
    Nat.isDigit_of_mem_toDigits (by decide) (by decide) member
  have all : (Nat.toDigits 10 number).takeWhile Char.isDigit = Nat.toDigits 10 number :=
    List.takeWhile_eq_self_iff.mpr digits
  have value : Nat.ofDigitChars 10 (Nat.toDigits 10 number) 0 = number :=
    Nat.ofDigitChars_ten_toDigits
  cases shape : Nat.toDigits 10 number with
  | nil => exact absurd shape Nat.toDigits_ne_nil
  | cons first rest =>
    rw [shape] at all value
    have digit : first.isDigit := digits first (by rw [shape]; exact List.mem_cons_self)
    have solid : isSpace first = false := by
      simp only [Char.isDigit, Bool.and_eq_true, decide_eq_true_eq] at digit
      have low : 48 ≤ first.toNat := UInt32.le_iff_toNat_le.mp digit.1
      simp only [isSpace, decide_eq_false_iff_not]
      omega
    have plain : first ≠ '-' ∧ first ≠ '+' := by
      constructor <;> rintro rfl <;> exact absurd digit (by decide)
    simp only [atoi, List.dropWhile_cons, solid]
    simp [plain.1, plain.2, all, value]
    omega

namespace LogAppenderFile
variable {settings : Settings}

theorem volumeName_zero : volumeName settings 0 = logFileName settings := rfl

theorem volumeName_succ (index : Nat) :
    volumeName settings (index + 1) = logFileName settings ++ '.' :: Nat.toDigits 10 (index + 1) :=
  rfl

theorem volumeName_injective {left right : Nat}
    (same : volumeName settings left = volumeName settings right) : left = right := by
  cases left with
  | zero =>
    cases right with
    | zero => rfl
    | succ right =>
      rw [volumeName_zero, volumeName_succ] at same
      exact absurd (List.self_eq_append_right.mp same) (List.cons_ne_nil _ _)
  | succ left =>
    cases right with
    | zero =>
      rw [volumeName_zero, volumeName_succ] at same
      exact absurd (List.self_eq_append_right.mp same.symm) (List.cons_ne_nil _ _)
    | succ right =>
      rw [volumeName_succ, volumeName_succ] at same
      have digits := (List.cons.inj (List.append_cancel_left same)).2
      rw [← Nat.ofDigitChars_ten_toDigits (n := left + 1), digits, Nat.ofDigitChars_ten_toDigits]

/-- The index of a volume is read back off its name. -/
theorem getIndexFromVolume_volumeName {index : Nat} (fits : index ≤ 2147483647) :
    getIndexFromVolume settings.overflow (logFileName settings) (volumeName settings index) =
      index := by
  cases index with
  | zero => simp [volumeName_zero, getIndexFromVolume]
  | succ index =>
    rw [volumeName_succ, getIndexFromVolume, if_pos (List.prefix_append _ _)]
    simp only [List.drop_left, ne_eq, List.cons_ne_nil, not_false_eq_true, ↓reduceIte,
      List.drop_succ_cons, List.drop_zero]
    exact atoi_digits _ fits

/-- What stands behind the last dot is the last piece. -/
theorem split_last {last : Text} (before : Text) (filled : last ≠ []) (free : '.' ∉ last) :
    ∃ pieces, split (before ++ '.' :: last) ".".toList = pieces ++ [last] := by
  have real : ['.'] ≠ [] := by decide
  have absent {text : Text} (without : '.' ∉ text) : ¬ ['.'] <:+: text := by
    intro held
    exact without (held.subset List.mem_cons_self)
  show ∃ pieces, split (before ++ '.' :: last) ['.'] = pieces ++ [last]
  generalize size : before.length = length
  induction length using Nat.strongRecOn generalizing before with
  | ind length ih =>
    rcases findFirstOf_cases '.' before with ⟨without, _⟩ | ⟨front, behind, rfl, without, _⟩
    · have pieces := split_append last real (absent (by simpa using without))
      rw [List.append_assoc, List.singleton_append, split_of_free filled (absent free)] at pieces
      exact ⟨[before], pieces⟩
    · obtain ⟨pieces, rest⟩ := ih behind.length (by simp at size; omega) behind rfl
      have first := split_append (behind ++ '.' :: last) real (absent (by simpa using without))
      rw [rest] at first
      exact ⟨front :: pieces, by simpa using first⟩

/-- A last piece without blanks is read as it is. -/
private theorem lastNumber_solid (overflow : Int → Int) (pieces : List Text) {last : Text}
    (filled : last ≠ []) (solid : ∀ symbol ∈ last, isBlank symbol = false)
    (plain : last ≠ "gz".toList) :
    lastNumber overflow (pieces ++ [last]) = some (atoi overflow last) := by
  have trimmed : trim isBlank last = last := by
    refine Trimmed.trim_eq ⟨fun symbol member => ?_, fun symbol member => ?_⟩
    · exact solid symbol (List.mem_of_mem_head? member)
    · exact solid symbol (List.mem_of_getLast? member)
  have visible : ¬ last.all isBlank := by
    obtain ⟨first, rest, rfl⟩ := List.exists_cons_of_ne_nil filled
    simp [solid first List.mem_cons_self]
  simp only [lastNumber, List.reverse_append, List.reverse_singleton, List.singleton_append]
  rw [if_neg plain, strTrim, if_neg filled, if_neg visible, trimmed]
  rfl

/-- The number read off the name of a volume is its index. -/
theorem lastNumber_volumeName {index : Nat} (fits : index ≤ 2147483647) :
    lastNumber settings.overflow (split (volumeName settings index) ".".toList) =
      some (index : Int) := by
  cases index with
  | zero =>
    obtain ⟨pieces, shape⟩ :=
      split_last settings.logPrefix (show "log".toList ≠ [] by decide) (by decide)
    have name : volumeName settings 0 = settings.logPrefix ++ '.' :: "log".toList := rfl
    have solid : ∀ symbol ∈ "log".toList, isBlank symbol = false := by
      intro symbol member
      rcases (by simpa using member : symbol = 'l' ∨ symbol = 'o' ∨ symbol = 'g') with
        rfl | rfl | rfl <;> rfl
    rw [name, shape, lastNumber_solid _ _ (by decide) solid (by decide)]
    rfl
  | succ index =>
    have digits : ∀ symbol ∈ Nat.toDigits 10 (index + 1), symbol.isDigit := fun _ member =>
      Nat.isDigit_of_mem_toDigits (by decide) (by decide) member
    have free : '.' ∉ Nat.toDigits 10 (index + 1) := fun member =>
      absurd (digits _ member) (by decide)
    obtain ⟨pieces, shape⟩ := split_last (logFileName settings) Nat.toDigits_ne_nil free
    rw [volumeName_succ, shape, lastNumber_solid _ _ Nat.toDigits_ne_nil, atoi_digits _ fits]
    · intro symbol member
      have digit := digits symbol member
      have spaced : symbol ≠ ' ' ∧ symbol ≠ '\t' := by
        constructor <;> rintro rfl <;> exact absurd digit (by decide)
      simp [isBlank, spaced]
    · intro same
      exact absurd (digits 'g' (by rw [same]; decide)) (by decide)

end LogAppenderFile

/-! ### The order of the listing -/

/-- The number a name is sorted by. -/
def sortNumber (overflow : Int → Int) (name : Text) : Int :=
  (lastNumber overflow (split name ".".toList)).getD 0

private theorem split_filled {name : Text} (filled : name ≠ []) : split name ".".toList ≠ [] := by
  obtain ⟨first, rest, rfl⟩ := List.exists_cons_of_ne_nil filled
  rcases findFirstOf_cases '.' (first :: rest) with ⟨without, _⟩ | ⟨front, behind, shape, without, _⟩
  · have free : ¬ ".".toList <:+: first :: rest := fun held =>
      without (held.subset List.mem_cons_self)
    rw [split_of_free filled free]
    exact List.cons_ne_nil _ _
  · have free : ¬ ['.'] <:+: front ++ ['.'].dropLast := fun held =>
      without (by simpa using held.subset List.mem_cons_self)
    have pieces := split_append behind (List.cons_ne_nil '.' []) free
    rw [List.append_assoc, List.singleton_append, ← shape] at pieces
    show split (first :: rest) ['.'] ≠ []
    rw [pieces]
    exact List.cons_ne_nil _ _

/-- What stands in front of pieces that have a number of their own does not matter. -/
private theorem lastNumber_append {overflow : Int → Int} (before : List Text) {pieces : List Text}
    (filled : pieces ≠ []) (number : (lastNumber overflow pieces).isSome) :
    lastNumber overflow (before ++ pieces) = lastNumber overflow pieces := by
  obtain ⟨front, last, rfl⟩ := List.eq_nil_or_concat pieces |>.resolve_left filled
  simp only [lastNumber, List.reverse_append, List.concat_eq_append, List.reverse_singleton,
    List.cons_append] at number ⊢
  split
  · rename_i marked
    rw [if_pos marked] at number
    cases shape : front.reverse with
    | nil =>
      rw [shape] at number
      cases number
    | cons piece rest => rfl
  · rfl

/-- Names that may be compared are compared by their numbers. -/
theorem logFilenameCompare_eq {overflow : Int → Int} {s1 s2 : Text}
    (first : Comparable overflow s1) (second : Comparable overflow s2) :
    logFilenameCompare overflow s1 s2 =
      some (decide (sortNumber overflow s1 < sortNumber overflow s2)) := by
  obtain ⟨index1, read1⟩ := Option.isSome_iff_exists.mp first.2
  obtain ⟨index2, read2⟩ := Option.isSome_iff_exists.mp second.2
  have behind := lastNumber_append (split s1 ".".toList) (split_filled second.1) second.2
  rw [logFilenameCompare, if_neg (by simp [first.1, second.1])]
  simp only [read1, behind, read2, sortNumber, Option.bind_some, Option.map_some, Option.getD_some]

/-- A sorted listing holds the same names, and none behind one with a smaller number. -/
theorem sortReversely_spec {overflow : Int → Int} {names sorted : List Text}
    (came : sortReversely overflow names = some sorted) :
    sorted.Perm names ∧
      sorted.Pairwise fun s1 s2 => sortNumber overflow s2 ≤ sortNumber overflow s1 := by
  unfold sortReversely at came
  split at came
  · rename_i sortable
    cases came
    refine ⟨List.perm_insertionSort _ names, ?_⟩
    rcases sortable with single | comparable
    · match names, single with
      | [], _ => exact List.Pairwise.nil
      | [name], _ => exact List.pairwise_singleton _ _
    · have same := List.map_insertionSort
        (fun s1 s2 => logFilenameCompare overflow s1 s2 ≠ some true)
        (fun s1 s2 => sortNumber overflow s2 ≤ sortNumber overflow s1) id names
        (fun s1 first s2 second => by
          rw [logFilenameCompare_eq (comparable s1 first) (comparable s2 second)]
          simp)
      rw [List.map_id, List.map_id] at same
      rw [same]
      have : Std.Total fun s1 s2 : Text => sortNumber overflow s2 ≤ sortNumber overflow s1 :=
        ⟨fun s1 s2 => Int.le_total _ _⟩
      have : IsTrans Text fun s1 s2 => sortNumber overflow s2 ≤ sortNumber overflow s1 :=
        ⟨fun s1 s2 s3 first second => Int.le_trans second first⟩
      exact List.pairwise_insertionSort _ names
  · cases came

theorem sortReversely_isSome {overflow : Int → Int} {names : List Text}
    (sortable : Sortable overflow names) : (sortReversely overflow names).isSome := by
  rw [sortReversely, if_pos sortable]
  rfl

namespace LogAppenderFile
variable {settings : Settings}

/-! ### Renaming -/

/-- The names whose files rolling the log renames. -/
def Renamed (settings : Settings) (name : Text) : Prop :=
  let k := getIndexFromVolume settings.overflow (logFileName settings) name
  k < (settings.volumeCount : Int) - 1 ∧ k ≥ 0

instance (settings : Settings) (name : Text) : Decidable (Renamed settings name) :=
  inferInstanceAs (Decidable (_ ∧ _))

private theorem fits_of_lt (settings : Settings) {index : Nat}
    (below : index < settings.volumeCount) : index ≤ 2147483647 := by
  have := settings.bounded
  omega

theorem renamed_volumeName {index : Nat} (below : index + 1 < settings.volumeCount) :
    Renamed settings (volumeName settings index) := by
  unfold Renamed
  rw [getIndexFromVolume_volumeName (fits_of_lt settings (by omega))]
  omega

theorem renameFile_of_absent {replaces : Bool} {directory : Directory} {ofile nfile : Text}
    {file : File} (there : directory.lookup ofile = some file) (writable : file.writable = true)
    (absent : nfile ∉ directory) :
    renameFile replaces directory ofile nfile = (directory.erase ofile).insert nfile file := by
  rw [renameFile, there]
  simp [writable, AList.lookup_eq_none.mpr absent]

/-- A file that is no volume and cannot be renamed is left where it is. -/
private def Skipped (settings : Settings) (directory : Directory) (name : Text) : Prop :=
  ¬ Renamed settings name ∨ (∀ index, name ≠ volumeName settings index) ∧
    ∀ file, directory.lookup name = some file → file.writable = false

private theorem renameVolume_skipped {directory : Directory} {name : Text}
    (skipped : Skipped settings directory name) :
    renameVolume settings directory name = directory := by
  simp only [renameVolume]
  split
  · rename_i renamed
    rcases skipped with kept | ⟨_, locked⟩
    · exact absurd renamed kept
    · rw [renameFile]
      split
      · rfl
      · rename_i file there
        rw [if_pos (.inl (locked file there))]
  · rfl

/-- One volume moves up into the free place above it. -/
private theorem renameVolume_volume {directory : Directory} {index : Nat} {file : File}
    (below : index + 1 < settings.volumeCount)
    (there : directory.lookup (volumeName settings index) = some file)
    (writable : file.writable = true) (absent : volumeName settings (index + 1) ∉ directory) :
    renameVolume settings directory (volumeName settings index) =
      (directory.erase (volumeName settings index)).insert
        (volumeName settings (index + 1)) file := by
  have renamed := renamed_volumeName below
  unfold Renamed at renamed
  rw [renameVolume, if_pos renamed, getIndexFromVolume_volumeName (fits_of_lt settings (by omega))]
  exact renameFile_of_absent there writable absent

/-- What has become of the volumes up to a bound, which was free. -/
private structure Shifted (settings : Settings) (bound : Nat) (before after : Directory) : Prop where
  above : ∀ index, index < bound →
    after.lookup (volumeName settings (index + 1)) = before.lookup (volumeName settings index)
  vacated : volumeName settings 0 ∉ after
  others : ∀ name, (∀ index, index ≤ bound → name ≠ volumeName settings index) →
    after.lookup name = before.lookup name

/-- The listing goes down through the volumes below the bound and leaves the rest alone. -/
private structure Descends (settings : Settings) (bound : Nat) (directory : Directory)
    (names : List Text) : Prop where
  below : bound < settings.volumeCount
  down : names.Pairwise fun first second => ∀ high low, first = volumeName settings high →
    second = volumeName settings low → low < high
  each : ∀ name ∈ names, Skipped settings directory name ∨
    ∃ index < bound, name = volumeName settings index
  listed : ∀ index < bound,
    (volumeName settings index ∈ directory ↔ volumeName settings index ∈ names)
  writable : ∀ index < bound, ∀ file,
    directory.lookup (volumeName settings index) = some file → file.writable = true
  free : volumeName settings bound ∉ directory

private theorem Descends.skip {bound : Nat} {directory : Directory} {name : Text} {rest : List Text}
    (descends : Descends settings bound directory (name :: rest))
    (skipped : Skipped settings directory name) : Descends settings bound directory rest where
  below := descends.below
  down := (List.pairwise_cons.mp descends.down).2
  each name member := descends.each name (List.mem_cons_of_mem _ member)
  listed index below := by
    rw [descends.listed index below, List.mem_cons]
    refine or_iff_right fun same => ?_
    rcases skipped with kept | ⟨foreign, _⟩
    · have := descends.below
      exact kept (same ▸ renamed_volumeName (by omega))
    · exact foreign index same.symm
  writable := descends.writable
  free := descends.free

/-- A volume one place up: no other name is touched. -/
private theorem lookup_moved {directory : Directory} {index : Nat} {file : File} {name : Text}
    (source : name ≠ volumeName settings index) (target : name ≠ volumeName settings (index + 1)) :
    ((directory.erase (volumeName settings index)).insert
      (volumeName settings (index + 1)) file).lookup name = directory.lookup name := by
  rw [AList.lookup_insert_ne target, AList.lookup_erase_ne source]

private theorem volumeName_ne {left right : Nat} (differ : left ≠ right) :
    volumeName settings left ≠ volumeName settings right :=
  fun same => differ (volumeName_injective same)

private theorem Descends.move {bound index : Nat} {directory : Directory} {rest : List Text}
    (descends : Descends settings bound directory (volumeName settings index :: rest))
    (below : index < bound) (file : File) :
    Descends settings index ((directory.erase (volumeName settings index)).insert
      (volumeName settings (index + 1)) file) rest where
  below := Nat.lt_trans below descends.below
  down := (List.pairwise_cons.mp descends.down).2
  each name member := by
    rcases descends.each name (List.mem_cons_of_mem _ member) with
      (kept | ⟨foreign, locked⟩) | ⟨low, _, rfl⟩
    · exact .inl (.inl kept)
    · refine .inl (.inr ⟨foreign, ?_⟩)
      rwa [lookup_moved (foreign _) (foreign _)]
    · exact .inr ⟨low, (List.pairwise_cons.mp descends.down).1 _ member _ _ rfl rfl, rfl⟩
  listed low lower := by
    have place : volumeName settings low ≠ volumeName settings index := volumeName_ne (by omega)
    have up : volumeName settings low ≠ volumeName settings (index + 1) := volumeName_ne (by omega)
    have before := descends.listed low (Nat.lt_trans lower below)
    rw [AList.mem_insert, AList.mem_erase]
    simpa [place, up] using before
  writable low lower found there := by
    rw [lookup_moved (volumeName_ne (by omega)) (volumeName_ne (by omega))] at there
    exact descends.writable low (Nat.lt_trans lower below) found there
  free := by
    rw [AList.mem_insert, AList.mem_erase]
    rintro (same | ⟨other, _⟩)
    · exact volumeName_ne (by omega) same
    · exact other rfl

/-- Up to the bound there is no volume above the one that comes next. -/
private theorem Descends.absent_above {bound index other : Nat} {directory : Directory}
    {rest : List Text}
    (descends : Descends settings bound directory (volumeName settings index :: rest))
    (above : index < other) (within : other ≤ bound) : volumeName settings other ∉ directory := by
  by_cases top : other = bound
  · rw [top]
    exact descends.free
  · rw [descends.listed other (by omega), List.mem_cons]
    rintro (same | member)
    · exact volumeName_ne (by omega) same
    · have := (List.pairwise_cons.mp descends.down).1 _ member _ _ rfl rfl
      omega

private theorem shifted_nil {bound : Nat} {directory : Directory}
    (descends : Descends settings bound directory []) :
    Shifted settings bound directory directory := by
  have empty (index : Nat) (within : index ≤ bound) :
      volumeName settings index ∉ directory := by
    by_cases top : index = bound
    · rw [top]
      exact descends.free
    · rw [descends.listed index (by omega)]
      exact List.not_mem_nil
  refine ⟨fun index below => ?_, empty 0 (Nat.zero_le _), fun _ _ => rfl⟩
  rw [AList.lookup_eq_none.mpr (empty (index + 1) below),
    AList.lookup_eq_none.mpr (empty index (Nat.le_of_lt below))]

/-- The loop over such a listing moves every volume below the bound up by one. The
volume that comes first leaves its place free for the ones below it. -/
private theorem renames_shift {names : List Text} {directory : Directory} {bound : Nat}
    (descends : Descends settings bound directory names) :
    Shifted settings bound directory (names.foldl (renameVolume settings) directory) := by
  induction names generalizing directory bound with
  | nil => exact shifted_nil descends
  | cons name rest ih =>
    rw [List.foldl_cons]
    rcases descends.each name List.mem_cons_self with skipped | ⟨index, below, rfl⟩
    · rw [renameVolume_skipped skipped]
      exact ih (descends.skip skipped)
    · have listed := (descends.listed index below).mpr List.mem_cons_self
      obtain ⟨file, there⟩ := Option.isSome_iff_exists.mp (AList.lookup_isSome.mpr listed)
      have absent := descends.absent_above (Nat.lt_succ_self index) below
      have room := descends.below
      rw [renameVolume_volume (by omega) there (descends.writable index below file there) absent]
      have shifted := ih (descends.move below file)
      refine ⟨fun other under => ?_, shifted.vacated, fun other outside => ?_⟩
      · rcases Nat.lt_trichotomy other index with lower | rfl | higher
        · rw [shifted.above other lower,
            lookup_moved (volumeName_ne (by omega)) (volumeName_ne (by omega))]
        · rw [shifted.others _ fun low within => volumeName_ne (by omega), AList.lookup_insert, there]
        · have gone := descends.absent_above higher (Nat.le_of_lt under)
          have above := descends.absent_above (Nat.lt_succ_of_lt higher) under
          rw [shifted.others _ fun low within => volumeName_ne (by omega),
            lookup_moved (volumeName_ne (by omega)) (volumeName_ne (by omega)),
            AList.lookup_eq_none.mpr above, AList.lookup_eq_none.mpr gone]
      · rw [shifted.others other fun low within => outside low (by omega),
          lookup_moved (outside index (by omega)) (outside (index + 1) below)]

/-! ### What is promised of the volumes -/

/-- The content of a volume, if there is one of this index. -/
def volume (settings : Settings) (appender : LogAppenderFile) (index : Nat) : Option Text :=
  (appender.directory.lookup (volumeName settings index)).map File.content

/-- There is no volume beyond the last, and the index that is kept is not below any. -/
structure Ordered (settings : Settings) (appender : LogAppenderFile) : Prop where
  bounded : ∀ index, volumeName settings index ∈ appender.directory → index < settings.volumeCount
  reached : ∀ index, volumeName settings index ∈ appender.directory →
    (index : Int) ≤ appender.volumeIndex
  nonneg : 0 ≤ appender.volumeIndex

/-- Every volume has become the next one, the last is gone and the current one is new. -/
structure Rotated (settings : Settings) (before after : LogAppenderFile) : Prop where
  shifted : ∀ index, index + 1 < settings.volumeCount →
    volume settings after (index + 1) = volume settings before index
  fresh : volume settings after 0 = some []
  bounded : ∀ index, settings.volumeCount ≤ index → volume settings after index = none
  kept : ∀ name, (∀ index, name ≠ volumeName settings index) →
    after.directory.lookup name = before.directory.lookup name

/-- Nothing has changed but the current volume, which is there now or has more in it. -/
structure Grown (settings : Settings) (more : Text) (before after : LogAppenderFile) : Prop where
  others : ∀ name, name ≠ logFileName settings →
    after.directory.lookup name = before.directory.lookup name
  current : volume settings after 0 = volume settings before 0 ∨
    volume settings after 0 = some ((volume settings before 0).getD [] ++ more)

/-- What rolling the log has to find: names that can be sorted; none that is taken for a
volume to be renamed and is not the name of one; volumes that can be renamed and deleted. -/
structure Rollable (settings : Settings) (appender : LogAppenderFile) : Prop where
  sortable : 1 < settings.volumeCount →
    Sortable settings.overflow (deleteLast settings appender).directory.keys
  proper : ∀ name ∈ (deleteLast settings appender).directory.keys, Renamed settings name →
    name = volumeName settings
      (getIndexFromVolume settings.overflow (logFileName settings) name).toNat ∨
    (appender.directory.lookup name).all (! ·.writable) = true
  writable : ∀ index < settings.volumeCount,
    (appender.directory.lookup (volumeName settings index)).all (·.writable) = true

private theorem writable_of_all {found : Option File} {file : File}
    (all : found.all (·.writable) = true) (there : found = some file) : file.writable = true := by
  rw [there] at all
  exact all

/-- A file that may be deleted is gone then, if it was there. -/
private theorem lookup_deleteFile {directory : Directory} {pathname : Text}
    (writable : (directory.lookup pathname).all (·.writable) = true) (name : Text) :
    (deleteFile directory pathname).lookup name =
      if name = pathname then none else directory.lookup name := by
  unfold deleteFile
  split
  · rename_i absent
    split
    · rename_i same
      rw [same, absent]
    · rfl
  · rename_i file there
    rw [if_pos (writable_of_all writable there)]
    split
    · rename_i same
      rw [same, AList.lookup_erase]
    · rename_i other
      rw [AList.lookup_erase_ne other]

/-- Behind `deleteLast` the place of the last volume is free and nothing else has changed. -/
private theorem deleteLast_spec {appender : LogAppenderFile} (many : 1 < settings.volumeCount)
    (ordered : Ordered settings appender)
    (writable : (appender.directory.lookup
      (volumeName settings (settings.volumeCount - 1))).all (·.writable) = true) :
    volumeName settings (settings.volumeCount - 1) ∉ (deleteLast settings appender).directory ∧
    (∀ name, name ≠ volumeName settings (settings.volumeCount - 1) →
      (deleteLast settings appender).directory.lookup name = appender.directory.lookup name) ∧
    Ordered settings (deleteLast settings appender) ∧
    (appender.volumeIndex ≤ (deleteLast settings appender).volumeIndex ∨
      (settings.volumeCount : Int) - 1 ≤ (deleteLast settings appender).volumeIndex) := by
  have last : (settings.volumeCount : Int) - 1 = ((settings.volumeCount - 1 : Nat) : Int) := by omega
  unfold deleteLast
  split
  · rename_i full
    have name : logFileName settings ++ '.' :: beeItoa (settings.volumeCount - 1) =
        volumeName settings (settings.volumeCount - 1) := by
      rw [last, volumeName, if_neg (by omega)]
    simp only [name]
    have deleted := lookup_deleteFile writable
    have there {index : Nat} (found : volumeName settings index ∈
        deleteFile appender.directory (volumeName settings (settings.volumeCount - 1))) :
        index ≠ settings.volumeCount - 1 ∧ volumeName settings index ∈ appender.directory := by
      have some_file := AList.lookup_isSome.mpr found
      rw [deleted] at some_file
      split at some_file
      · cases some_file
      · rename_i other
        exact ⟨fun same => other (by rw [same]), AList.lookup_isSome.mp some_file⟩
    refine ⟨?_, fun name other => ?_, ⟨?_, ?_, ?_⟩, .inr (Int.le_refl _)⟩
    · rw [← AList.lookup_eq_none, deleted, if_pos rfl]
    · rw [deleted, if_neg other]
    · exact fun index found => ordered.bounded index (there found).2
    · intro index found
      have := ordered.bounded index (there found).2
      show (index : Int) ≤ settings.volumeCount - 1
      omega
    · show (0 : Int) ≤ settings.volumeCount - 1
      omega
  · rename_i short
    refine ⟨fun there => ?_, fun _ _ => rfl, ordered, .inl (Int.le_refl _)⟩
    have := ordered.reached _ there
    omega

/-- The sorted listing of such a directory goes down through its volumes. -/
private theorem descends_of_rollable {appender : LogAppenderFile} {names : List Text}
    (many : 1 < settings.volumeCount) (ordered : Ordered settings appender)
    (rollable : Rollable settings appender) (listing : Listing)
    (sorted : sortReversely settings.overflow
      (listing.order (deleteLast settings appender).directory.keys) = some names) :
    Descends settings (settings.volumeCount - 1) (deleteLast settings appender).directory names := by
  obtain ⟨free, same, rest, _⟩ := deleteLast_spec many ordered (rollable.writable _ (by omega))
  obtain ⟨perm, down⟩ := sortReversely_spec sorted
  have listed (name : Text) :
      name ∈ names ↔ name ∈ (deleteLast settings appender).directory := by
    rw [perm.mem_iff, (listing.perm _).mem_iff, AList.mem_keys]
  have distinct : names.Nodup :=
    (perm.trans (listing.perm _)).nodup_iff.mpr (AList.keys_nodup _)
  refine ⟨by omega, ?_, ?_, fun index _ => (listed _).symm, ?_, free⟩
  · refine List.Pairwise.imp_of_mem ?_ (down.and distinct)
    rintro first second here there ⟨notLess, differ⟩ high low rfl rfl
    have highFits := fits_of_lt settings (rest.bounded high ((listed _).mp here))
    have lowFits := fits_of_lt settings (rest.bounded low ((listed _).mp there))
    simp only [sortNumber, lastNumber_volumeName highFits, lastNumber_volumeName lowFits,
      Option.getD_some] at notLess
    have apart : low ≠ high := fun same => differ (by rw [same])
    omega
  · intro name member
    by_cases renamed : Renamed settings name
    · have inside := (listed name).mp member
      by_cases proper : name = volumeName settings
          (getIndexFromVolume settings.overflow (logFileName settings) name).toNat
      · unfold Renamed at renamed
        exact .inr ⟨_, by omega, proper⟩
      · refine .inl (.inr ⟨fun index same => ?_, fun file there => ?_⟩)
        · have fits := fits_of_lt settings (rest.bounded index (same ▸ inside))
          rw [same, getIndexFromVolume_volumeName fits] at proper
          exact proper rfl
        · have locked := (rollable.proper name (AList.mem_keys.mp inside) renamed).resolve_left proper
          have other : name ≠ volumeName settings (settings.volumeCount - 1) := by
            intro last
            exact free (last ▸ inside)
          rw [same name other] at there
          rw [there] at locked
          simpa using locked
    · exact .inl (.inl renamed)
  · intro index below file there
    rw [same _ (volumeName_ne (by omega))] at there
    exact writable_of_all (rollable.writable index (by omega)) there

theorem sortable_of_perm {overflow : Int → Int} {names listed : List Text}
    (perm : listed.Perm names) (sortable : Sortable overflow names) : Sortable overflow listed := by
  rcases sortable with single | comparable
  · exact .inl (by rwa [perm.length_eq])
  · exact .inr fun name member => comparable name (perm.mem_iff.mp member)

/-- A closed stream is opened on a new file, unless there is one that may not be written. -/
private theorem openFile_anew {appender : LogAppenderFile} (closed : appender.stream = .closed)
    (writable : (appender.directory.lookup (logFileName settings)).all (·.writable) = true) :
    openFile settings false appender = { appender with
      directory := appender.directory.insert (logFileName settings) ⟨[], true⟩
      stream := .opened } := by
  rw [openFile, closed]
  simp only
  split
  · rfl
  · rename_i file there
    simp [writable_of_all writable there]

/-- What a new current volume in the place of the old one, or in a free place, comes to. -/
private theorem rotated_of_opened {before : LogAppenderFile} (renamed : LogAppenderFile)
    (ordered : Ordered settings before)
    (shifted : ∀ index, index + 1 < settings.volumeCount →
      renamed.directory.lookup (volumeName settings (index + 1)) =
        before.directory.lookup (volumeName settings index))
    (kept : ∀ name, (∀ index, index < settings.volumeCount → name ≠ volumeName settings index) →
      renamed.directory.lookup name = before.directory.lookup name)
    (reached : before.volumeIndex ≤ renamed.volumeIndex ∨
      (settings.volumeCount : Int) - 1 ≤ renamed.volumeIndex)
    (nonneg : 0 ≤ renamed.volumeIndex) :
    Rotated settings before { renamed with
      directory := renamed.directory.insert (logFileName settings) ⟨[], true⟩
      stream := .opened, volumeIndex := renamed.volumeIndex + 1 } ∧
    Ordered settings { renamed with
      directory := renamed.directory.insert (logFileName settings) ⟨[], true⟩
      stream := .opened, volumeIndex := renamed.volumeIndex + 1 } := by
  have numbered {index : Nat} (positive : 0 < index) :
      (renamed.directory.insert (logFileName settings) ⟨[], true⟩).lookup
        (volumeName settings index) = renamed.directory.lookup (volumeName settings index) :=
    AList.lookup_insert_ne (by rw [← volumeName_zero]; exact volumeName_ne (by omega))
  have beyond (index : Nat) (above : settings.volumeCount ≤ index) :
      volumeName settings index ∉ renamed.directory := by
    rw [← AList.lookup_eq_none, kept _ fun other below => volumeName_ne (by omega)]
    exact AList.lookup_eq_none.mpr fun there => by
      have := ordered.bounded index there
      omega
  have positive := settings.positive
  have there {index : Nat} (above : 0 < index) (found : volumeName settings index ∈
      renamed.directory.insert (logFileName settings) ⟨[], true⟩) :
      volumeName settings index ∈ renamed.directory := by
    have some_file := AList.lookup_isSome.mpr found
    rw [numbered above] at some_file
    exact AList.lookup_isSome.mp some_file
  refine ⟨⟨fun index below => ?_, ?_, fun index above => ?_, fun name foreign => ?_⟩,
    ⟨fun index found => ?_, fun index found => ?_, ?_⟩⟩
  · rw [volume, volume, numbered (Nat.succ_pos index), shifted index below]
  · rw [volume, volumeName_zero, AList.lookup_insert]
    rfl
  · rw [volume, numbered (by omega), AList.lookup_eq_none.mpr (beyond index above)]
    rfl
  · exact (AList.lookup_insert_ne (foreign 0)).trans (kept name fun index _ => foreign index)
  · by_cases zero : index = 0
    · omega
    · apply Classical.byContradiction
      intro above
      exact beyond index (by omega) (there (by omega) found)
  · show (index : Int) ≤ renamed.volumeIndex + 1
    by_cases zero : index = 0
    · omega
    · have inside := there (by omega) found
      have below : index < settings.volumeCount := by
        apply Classical.byContradiction
        intro above
        exact beyond index (by omega) inside
      have former := AList.lookup_isSome.mpr inside
      rw [show index = index - 1 + 1 by omega, shifted _ (by omega)] at former
      have := ordered.reached _ (AList.lookup_isSome.mp former)
      omega
  · show (0 : Int) ≤ renamed.volumeIndex + 1
    omega

theorem deleteLast_close (appender : LogAppenderFile) :
    deleteLast settings appender.close = (deleteLast settings appender).close := by
  by_cases full : appender.volumeIndex > 0 ∧
      appender.volumeIndex ≥ (settings.volumeCount : Int) - 1
  · rw [deleteLast, deleteLast, if_pos full, if_pos (show appender.close.volumeIndex > 0 ∧
      appender.close.volumeIndex ≥ (settings.volumeCount : Int) - 1 from full)]
    rfl
  · rw [deleteLast, deleteLast, if_neg full, if_neg (show ¬ (appender.close.volumeIndex > 0 ∧
      appender.close.volumeIndex ≥ (settings.volumeCount : Int) - 1) from full)]

/-- Rolling the log where it can be rolled rotates the volumes. -/
theorem rollingVolumes_spec {appender : LogAppenderFile} (ordered : Ordered settings appender)
    (rollable : Rollable settings appender) (listing : Listing) :
    ∃ after, rollingVolumes settings listing appender = some after ∧
      Rotated settings appender after ∧ Ordered settings after := by
  have positive := settings.positive
  by_cases many : settings.volumeCount > 1
  · obtain ⟨free, same, rest, reached⟩ :=
      deleteLast_spec many ordered (rollable.writable _ (by omega))
    obtain ⟨names, sorted⟩ := Option.isSome_iff_exists.mp
      (sortReversely_isSome (sortable_of_perm (listing.perm _) (rollable.sortable many)))
    have descends := descends_of_rollable many ordered rollable listing sorted
    have shift := renames_shift descends
    have empty : ((names.foldl (renameVolume settings)
        (deleteLast settings appender).directory).lookup (logFileName settings)).all
          (·.writable) = true := by
      rw [← volumeName_zero, AList.lookup_eq_none.mpr shift.vacated]
      rfl
    have rolled : rollingVolumes settings listing appender = some
        { (deleteLast settings appender) with
          directory := (names.foldl (renameVolume settings)
            (deleteLast settings appender).directory).insert (logFileName settings) ⟨[], true⟩
          stream := .opened, volumeIndex := (deleteLast settings appender).volumeIndex + 1 } := by
      rw [rollingVolumes, if_pos many, deleteLast_close]
      simp only [close, sorted, Option.map_some]
      rw [openFile_anew rfl empty]
    refine ⟨_, rolled, rotated_of_opened ⟨names.foldl (renameVolume settings)
      (deleteLast settings appender).directory, .closed,
      (deleteLast settings appender).currentVolumeSize,
      (deleteLast settings appender).volumeIndex⟩ ordered ?_ ?_ reached rest.nonneg⟩
    · intro index below
      rw [shift.above index (by omega), same _ (volumeName_ne (by omega))]
    · intro name foreign
      rw [shift.others name fun index within => foreign index (by omega),
        same name (foreign _ (by omega))]
  · have rolled : rollingVolumes settings listing appender = some { appender with
        directory := appender.directory.insert (logFileName settings) ⟨[], true⟩
        stream := .opened, volumeIndex := appender.volumeIndex + 1 } := by
      rw [rollingVolumes, if_neg many]
      have closed : appender.close.stream = .closed := rfl
      simp only [Option.map_some]
      rw [openFile_anew closed (rollable.writable 0 positive)]
      rfl
    refine ⟨_, rolled, rotated_of_opened appender ordered ?_ (fun _ _ => rfl) (.inl (Int.le_refl _))
      ordered.nonneg⟩
    intro index below
    omega

/-! ### Opening, closing and writing -/

private theorem foldl_max_spec (overflow : Int → Int) (name : Text) (names : List Text)
    (count : Int) :
    count ≤ names.foldl (fun count volumeName =>
        max count (getIndexFromVolume overflow name volumeName)) count ∧
      ∀ volumeName ∈ names, getIndexFromVolume overflow name volumeName ≤
        names.foldl (fun count volumeName =>
          max count (getIndexFromVolume overflow name volumeName)) count := by
  induction names generalizing count with
  | nil => exact ⟨Int.le_refl _, fun _ member => absurd member List.not_mem_nil⟩
  | cons first rest ih =>
    obtain ⟨low, high⟩ := ih (max count (getIndexFromVolume overflow name first))
    rw [List.foldl_cons]
    refine ⟨by omega, fun volumeName member => ?_⟩
    rcases List.mem_cons.mp member with rfl | member
    · omega
    · exact high volumeName member

theorem getMaxVolumeIndex_nonneg (overflow : Int → Int) (name : Text) (names : List Text) :
    0 ≤ getMaxVolumeIndex overflow name names :=
  (foldl_max_spec overflow name names 0).1

theorem le_getMaxVolumeIndex {overflow : Int → Int} {name volumeName : Text} {names : List Text}
    (member : volumeName ∈ names) :
    getIndexFromVolume overflow name volumeName ≤ getMaxVolumeIndex overflow name names :=
  (foldl_max_spec overflow name names 0).2 volumeName member

theorem getMaxVolumeIndex_le {overflow : Int → Int} {name : Text} {names : List Text} {most : Int}
    (nonneg : 0 ≤ most)
    (all : ∀ volumeName ∈ names, getIndexFromVolume overflow name volumeName ≤ most) :
    getMaxVolumeIndex overflow name names ≤ most := by
  suffices from_count : ∀ count ≤ most, names.foldl (fun count volumeName =>
      max count (getIndexFromVolume overflow name volumeName)) count ≤ most from
    from_count 0 nonneg
  induction names with
  | nil => exact fun _ below => below
  | cons first rest ih =>
    intro count below
    have here := all first List.mem_cons_self
    exact ih (fun volumeName member => all volumeName (List.mem_cons_of_mem _ member)) _
      (Int.max_le.mpr ⟨below, here⟩)

/-- A change of the current volume alone. -/
private theorem grown_insert {appender after : LogAppenderFile} {file : File} (more : Text)
    (directory : after.directory = appender.directory.insert (logFileName settings) file)
    (current : file.content = (volume settings appender 0).getD [] ++ more) :
    Grown settings more appender after := by
  refine ⟨fun name other => ?_, .inr ?_⟩
  · rw [directory, AList.lookup_insert_ne other]
  · rw [volume, directory, volumeName_zero, AList.lookup_insert, Option.map_some, current]

private theorem grown_same {appender after : LogAppenderFile} (more : Text)
    (directory : after.directory = appender.directory) : Grown settings more appender after :=
  ⟨fun _ _ => by rw [directory], .inl (by rw [volume, volume, directory])⟩

/-- Opening a file to append to it makes it where there is none and changes no content. -/
theorem openFile_grown (appender : LogAppenderFile) :
    Grown settings [] appender (openFile settings true appender) ∧
      (openFile settings true appender).volumeIndex = appender.volumeIndex := by
  unfold openFile
  split
  · split
    · rename_i absent
      refine ⟨grown_insert [] rfl ?_, rfl⟩
      rw [volume, volumeName_zero, absent]
      rfl
    · split
      · exact ⟨grown_same [] rfl, rfl⟩
      · exact ⟨grown_same [] rfl, rfl⟩
  · exact ⟨grown_same [] rfl, rfl⟩

private theorem write_grown (log : Text) (appender : LogAppenderFile) :
    Grown settings (cString log) appender (write settings log appender) ∧
      (write settings log appender).volumeIndex = appender.volumeIndex := by
  unfold write
  split
  · rename_i file _ there
    refine ⟨grown_insert (cString log) rfl ?_, rfl⟩
    rw [volume, volumeName_zero, there]
    rfl
  · exact ⟨grown_same _ rfl, rfl⟩

/-- What grows only the current volume keeps the volumes in order. -/
private theorem Grown.ordered {before after : LogAppenderFile} {more : Text}
    (grown : Grown settings more before after) (ordered : Ordered settings before)
    (index : after.volumeIndex = before.volumeIndex) : Ordered settings after := by
  have there {number : Nat} (above : number ≠ 0)
      (found : volumeName settings number ∈ after.directory) :
      volumeName settings number ∈ before.directory := by
    have some_file := AList.lookup_isSome.mpr found
    have other : volumeName settings number ≠ volumeName settings 0 := volumeName_ne above
    rw [grown.others _ other] at some_file
    exact AList.lookup_isSome.mp some_file
  have positive := settings.positive
  have nonneg := ordered.nonneg
  refine ⟨fun number found => ?_, fun number found => ?_, by rw [index]; exact nonneg⟩
  · by_cases zero : number = 0
    · omega
    · exact ordered.bounded number (there zero found)
  · rw [index]
    by_cases zero : number = 0
    · omega
    · exact ordered.reached number (there zero found)

/-- Opening finds the index of the last volume again. -/
theorem openLog_spec {appender : LogAppenderFile}
    (bounded : ∀ index, volumeName settings index ∈ appender.directory →
      index < settings.volumeCount) :
    Grown settings [] appender (openLog settings appender) ∧
      Ordered settings (openLog settings appender) := by
  let found := getMaxVolumeIndex settings.overflow (logFileName settings) appender.directory.keys
  let indexed : LogAppenderFile := { appender with
    volumeIndex := if found > settings.volumeCount then settings.volumeCount else found }
  have nonneg : 0 ≤ found := getMaxVolumeIndex_nonneg _ _ _
  have ordered : Ordered settings indexed := by
    refine ⟨bounded, fun index there => ?_, ?_⟩
    · have below := bounded index there
      have listed : getIndexFromVolume settings.overflow (logFileName settings)
          (volumeName settings index) ≤ found := le_getMaxVolumeIndex (AList.mem_keys.mp there)
      rw [getIndexFromVolume_volumeName (fits_of_lt settings below)] at listed
      show (index : Int) ≤
        if found > settings.volumeCount then (settings.volumeCount : Int) else found
      split <;> omega
    · show 0 ≤ if found > settings.volumeCount then (settings.volumeCount : Int) else found
      split <;> omega
  obtain ⟨grown, index⟩ : Grown settings [] indexed (openLog settings appender) ∧
      (openLog settings appender).volumeIndex = indexed.volumeIndex := openFile_grown indexed
  exact ⟨⟨grown.others, grown.current⟩, grown.ordered ordered index⟩

/-! ### Runs -/

/-- What is promised of each request: rolling rotates the volumes and everything else
leaves all of them as they are but the current one, which loses nothing. -/
def Kept (settings : Settings) (before : LogAppenderFile) (request : Request) (_ : Unit)
    (after : LogAppenderFile) : Prop :=
  match request with
  | .rolls _ => Rotated settings before after
  | .appends log _ =>
    if Full settings before then
      ∃ rolled, Rotated settings before rolled ∧ Grown settings (cString log) rolled after
    else Grown settings (cString log) before after
  | .starts | .opens | .closes => Grown settings [] before after

/-- The condition on a request that rolls the log. -/
def RollsClean (settings : Settings) (appender : LogAppenderFile) : Request → Prop
  | .rolls _ => Rollable settings appender
  | .appends _ _ => Full settings appender → Rollable settings appender
  | .starts | .opens | .closes => True

private theorem Ordered.with_size {appender : LogAppenderFile} (ordered : Ordered settings appender)
    (size : Int) : Ordered settings { appender with currentVolumeSize := size } :=
  ⟨ordered.bounded, ordered.reached, ordered.nonneg⟩

/-- A record goes into the current volume, whatever the size kept beside. -/
private theorem write_spec {appender : LogAppenderFile} (ordered : Ordered settings appender)
    (log : Text) (size : Int) :
    Grown settings (cString log) appender
        (write settings log { appender with currentVolumeSize := size }) ∧
      Ordered settings (write settings log { appender with currentVolumeSize := size }) := by
  obtain ⟨grown, index⟩ :=
    write_grown log { appender with currentVolumeSize := size }
  exact ⟨⟨grown.others, grown.current⟩, grown.ordered (ordered.with_size size) index⟩

/-- One request that meets the condition. -/
theorem step_kept {appender : LogAppenderFile} {request : Request}
    (ordered : Ordered settings appender) (clean : RollsClean settings appender request) :
    ∃ after, step settings appender request = some ((), after) ∧
      Kept settings appender request () after ∧ Ordered settings after := by
  cases request with
  | starts =>
    obtain ⟨grown, result⟩ : Grown settings [] ⟨appender.directory, .closed, 0, 0⟩
        (start settings appender.directory) ∧ Ordered settings (start settings appender.directory) :=
      openLog_spec ordered.bounded
    exact ⟨_, rfl, ⟨grown.others, grown.current⟩, result⟩
  | opens =>
    obtain ⟨grown, result⟩ := openLog_spec ordered.bounded
    exact ⟨_, rfl, grown, result⟩
  | closes =>
    exact ⟨_, rfl, grown_same [] rfl, ordered.bounded, ordered.reached, ordered.nonneg⟩
  | rolls listing =>
    obtain ⟨after, rolled, rotated, result⟩ := rollingVolumes_spec ordered clean listing
    exact ⟨after, by rw [step, rolled]; rfl, rotated, result⟩
  | appends log listing =>
    by_cases full : Full settings appender
    · obtain ⟨rolled, came, rotated, result⟩ := rollingVolumes_spec ordered (clean full) listing
      obtain ⟨grown, final⟩ := write_spec (result.with_size 0) log (0 + (cString log).length)
      refine ⟨_, by rw [step, append, if_pos full, came]; rfl, ?_, final⟩
      rw [Kept, if_pos full]
      exact ⟨rolled, rotated, grown.others, grown.current⟩
    · obtain ⟨grown, final⟩ :=
        write_spec ordered log (appender.currentVolumeSize + (cString log).length)
      refine ⟨_, by rw [step, append, if_neg full]; rfl, ?_, final⟩
      rw [Kept, if_neg full]
      exact grown

/-- From a directory whose volumes have indices below the number of volumes, every request
of a run keeps the promise as long as the log is rolled under the condition only. -/
theorem rotation_keeps_volumes (settings : Settings) (directory : Directory)
    (requests : List Request)
    (bounded : ∀ index, volumeName settings index ∈ directory → index < settings.volumeCount)
    (clean : Runs.AllSteps (step settings) (RollsClean settings) (start settings directory)
      requests) :
    Grown settings [] ⟨directory, .closed, 0, 0⟩ (start settings directory) ∧
      Runs.AllTaken (step settings) (Kept settings) (start settings directory) requests := by
  obtain ⟨grown, ordered⟩ : Grown settings [] ⟨directory, .closed, 0, 0⟩ (start settings directory) ∧
      Ordered settings (start settings directory) := openLog_spec bounded
  refine ⟨grown, Runs.all_taken_of_steps (Ordered settings) ?_ ordered clean⟩
  intro appender request ordered clean
  exact ⟨(), step_kept ordered clean⟩

instance (settings : Settings) (appender : LogAppenderFile) :
    Decidable (Rollable settings appender) :=
  decidable_of_iff
    ((1 < settings.volumeCount →
        Sortable settings.overflow (deleteLast settings appender).directory.keys) ∧
      (∀ name ∈ (deleteLast settings appender).directory.keys, Renamed settings name →
        name = volumeName settings
          (getIndexFromVolume settings.overflow (logFileName settings) name).toNat ∨
        (appender.directory.lookup name).all (! ·.writable) = true) ∧
      ∀ index < settings.volumeCount,
        (appender.directory.lookup (volumeName settings index)).all (·.writable) = true)
    ⟨fun ⟨sortable, proper, writable⟩ => ⟨sortable, proper, writable⟩,
      fun ⟨sortable, proper, writable⟩ => ⟨sortable, proper, writable⟩⟩

instance (settings : Settings) (appender : LogAppenderFile) :
    ∀ request, Decidable (RollsClean settings appender request)
  | .rolls _ => inferInstanceAs (Decidable (Rollable settings appender))
  | .appends _ _ => inferInstanceAs (Decidable (Full settings appender → _))
  | .starts | .opens | .closes => isTrue trivial

/-- Listed in the order the directory is kept in. -/
def asKept : Listing := ⟨id, fun names => List.Perm.refl names⟩

/-- Three volumes of `bee.log`, on a system where a new name replaces a file. -/
def threeVolumes : Settings where
  logPrefix := "bee".toList
  volumeCount := 3
  positive := by decide
  bounded := by decide
  volumeSize := 4
  replaces := true
  overflow := id

/-- A log with a gap among its volumes is rolled when it is full, opened again and rolled. -/
theorem gap_rotated :
    let directory : Directory := List.toAList
      [⟨"bee.log.2".toList, ⟨"a".toList, true⟩⟩, ⟨"bee.log".toList, ⟨"c".toList, true⟩⟩]
    Runs.AllTaken (step threeVolumes) (Kept threeVolumes) (start threeVolumes directory)
      [.rolls asKept, .appends "full".toList asKept, .appends "d".toList asKept, .starts,
        .rolls asKept] := by
  intro directory
  have keys : directory.keys = [volumeName threeVolumes 2, volumeName threeVolumes 0] := by decide +kernel
  have bounded (index : Nat) (there : volumeName threeVolumes index ∈ directory) : index < 3 := by
    rw [AList.mem_keys, keys, List.mem_cons, List.mem_singleton] at there
    rcases there with same | same <;> have := volumeName_injective same <;> omega
  exact (rotation_keeps_volumes threeVolumes directory _ bounded (by decide +kernel)).2

/-- A copy `bee.log.bak` beside the current volume is taken for a volume of index zero: it
is renamed over the volume that the current one has just become, and the copy's content
is all that is left. With a blank piece in a name there is nothing to sort by. -/
theorem copy_replaces_volume :
    (let directory : Directory := List.toAList
      [⟨"bee.log".toList, ⟨"new".toList, true⟩⟩, ⟨"bee.log.bak".toList, ⟨"saved".toList, true⟩⟩]
    ∃ after, rollingVolumes threeVolumes asKept (start threeVolumes directory) = some after ∧
      volume threeVolumes (start threeVolumes directory) 0 = some "new".toList ∧
      volume threeVolumes after 1 = some "saved".toList ∧
      after.directory.keys = ["bee.log".toList, "bee.log.1".toList] ∧
      ¬ Rotated threeVolumes (start threeVolumes directory) after) ∧
    let directory : Directory := List.toAList
      [⟨"bee.log".toList, ⟨[], true⟩⟩, ⟨"notes. ".toList, ⟨[], true⟩⟩]
    rollingVolumes threeVolumes asKept (start threeVolumes directory) = none := by
  refine ⟨⟨_, rfl, by decide +kernel, by decide +kernel, by decide +kernel, fun rotated => ?_⟩,
    by decide +kernel⟩
  have shifted := rotated.shifted 0 (by decide)
  revert shifted
  decide +kernel

end LogAppenderFile
end BeeSdk.LogVolumes
