import BeeSdk.LogVolumesProofs

/-! Files in the log directory that are none of the log's own, and when the log leaves
them alone. -/
namespace BeeSdk.LogVolumes
open HttpHeader (Text)
namespace LogAppenderFile
variable {settings : Settings}

/-- The names the log owns: its file name, alone or with a dot and a decimal number. -/
def Own (settings : Settings) (name : Text) : Prop :=
  name = logFileName settings ∨
    (logFileName settings ++ ['.'] <+: name ∧
      name.drop (logFileName settings ++ ['.']).length ≠ [] ∧
      (name.drop (logFileName settings ++ ['.']).length).all Char.isDigit = true)

instance (settings : Settings) (name : Text) : Decidable (Own settings name) :=
  inferInstanceAs (Decidable (_ ∨ _))

theorem own_numbered (number : Nat) :
    Own settings (logFileName settings ++ '.' :: Nat.toDigits 10 number) := by
  have shape : logFileName settings ++ '.' :: Nat.toDigits 10 number =
      (logFileName settings ++ ['.']) ++ Nat.toDigits 10 number := by simp
  rw [shape]
  refine .inr ⟨List.prefix_append _ _, ?_, ?_⟩
  · rw [List.drop_left]
    exact Nat.toDigits_ne_nil
  · rw [List.drop_left]
    exact List.all_eq_true.mpr fun symbol member =>
      Nat.isDigit_of_mem_toDigits (by decide) (by decide) member

theorem own_beeItoa {number : Int} (nonneg : 0 ≤ number) :
    Own settings (logFileName settings ++ '.' :: beeItoa number) := by
  cases number with
  | ofNat number => exact own_numbered number
  | negSucc number => exact absurd nonneg (by omega)

/-! ### What is promised of the others -/

/-- No file the log does not own has changed its name or its content. -/
def ForeignKept (settings : Settings) (before after : Directory) : Prop :=
  ∀ name, ¬ Own settings name → after.lookup name = before.lookup name

/-- `volume_index_` as it is found when only the log's own files are in the directory. -/
def ownIndex (settings : Settings) (directory : Directory) : Int :=
  let index := getMaxVolumeIndex settings.overflow (logFileName settings)
    (directory.keys.filter (Own settings ·))
  if index > settings.volumeCount then settings.volumeCount else index

/-- `volume_index_` behind a roll. -/
def rolledIndex (settings : Settings) (index : Int) : Int :=
  if settings.volumeCount > 1 ∧ index > 0 ∧ index ≥ (settings.volumeCount : Int) - 1 then
    settings.volumeCount
  else index + 1

/-- A request leaves the files of others alone, and they do not influence the index. -/
structure Apart (settings : Settings) (before : LogAppenderFile) (request : Request) (_ : Unit)
    (after : LogAppenderFile) : Prop where
  kept : ForeignKept settings before.directory after.directory
  index : after.volumeIndex = match request with
    | .starts | .opens => ownIndex settings before.directory
    | .closes => before.volumeIndex
    | .appends _ _ =>
      if Full settings before then rolledIndex settings before.volumeIndex else before.volumeIndex
    | .rolls _ => rolledIndex settings before.volumeIndex

/-- What rolling the log has to find: names that can be sorted, and no file of others
that is taken for a volume to be renamed. -/
structure RollsApart (settings : Settings) (appender : LogAppenderFile) : Prop where
  sortable : 1 < settings.volumeCount →
    Sortable settings.overflow (deleteLast settings appender).directory.keys
  foreign : ∀ name ∈ appender.directory.keys, ¬ Own settings name → Renamed settings name →
    (appender.directory.lookup name).all (! ·.writable) = true

/-- What opening the log has to find: no file of others with an index above those of the
log's own files that is not above the number of volumes either way. -/
def OpensApart (settings : Settings) (directory : Directory) : Prop :=
  let index := getIndexFromVolume settings.overflow (logFileName settings)
  ∀ name ∈ directory.keys, ¬ Own settings name → index name ≤ 0 ∨
    ∃ own ∈ directory.keys, Own settings own ∧ min (index name) settings.volumeCount ≤ index own

/-- The condition on a request. -/
def MeetsNoForeign (settings : Settings) (appender : LogAppenderFile) : Request → Prop
  | .rolls _ => RollsApart settings appender
  | .appends _ _ => Full settings appender → RollsApart settings appender
  | .starts | .opens => OpensApart settings appender.directory
  | .closes => True

/-! ### Each action -/

theorem ForeignKept.trans {first second third : Directory}
    (left : ForeignKept settings first second) (right : ForeignKept settings second third) :
    ForeignKept settings first third :=
  fun name foreign => (right name foreign).trans (left name foreign)

private theorem kept_insert (directory : Directory) {own : Text} (file : File)
    (mine : Own settings own) : ForeignKept settings directory (directory.insert own file) :=
  fun _ foreign => AList.lookup_insert_ne fun same => foreign (same ▸ mine)

private theorem kept_erase (directory : Directory) {own : Text} (mine : Own settings own) :
    ForeignKept settings directory (directory.erase own) :=
  fun _ foreign => AList.lookup_erase_ne fun same => foreign (same ▸ mine)

private theorem openFile_kept (append : Bool) (appender : LogAppenderFile) :
    ForeignKept settings appender.directory (openFile settings append appender).directory ∧
      (openFile settings append appender).volumeIndex = appender.volumeIndex := by
  have mine : Own settings (logFileName settings) := .inl rfl
  unfold openFile
  split
  · split
    · exact ⟨kept_insert _ _ mine, rfl⟩
    · split
      · exact ⟨fun _ _ => rfl, rfl⟩
      · split
        · exact ⟨fun _ _ => rfl, rfl⟩
        · exact ⟨kept_insert _ _ mine, rfl⟩
  · exact ⟨fun _ _ => rfl, rfl⟩

private theorem write_kept (log : Text) (appender : LogAppenderFile) :
    ForeignKept settings appender.directory (write settings log appender).directory ∧
      (write settings log appender).volumeIndex = appender.volumeIndex := by
  unfold write
  split
  · exact ⟨kept_insert _ _ (.inl rfl), rfl⟩
  · exact ⟨fun _ _ => rfl, rfl⟩

private theorem deleteLast_kept (appender : LogAppenderFile) :
    ForeignKept settings appender.directory (deleteLast settings appender).directory := by
  have positive := settings.positive
  unfold deleteLast
  split
  · intro name foreign
    simp only [deleteFile]
    split
    · rfl
    · split
      · exact kept_erase _ (own_beeItoa (by omega)) name foreign
      · rfl
  · exact fun _ _ => rfl

/-- A file of others that is renamed nowhere stays, the log's own ones may move. -/
private theorem renameVolume_kept {directory : Directory} {name : Text}
    (foreign : ¬ Own settings name → Renamed settings name →
      (directory.lookup name).all (! ·.writable) = true) :
    ForeignKept settings directory (renameVolume settings directory name) := by
  simp only [renameVolume]
  split
  · rename_i renamed
    have target : Own settings (logFileName settings ++ '.' :: beeItoa
        (getIndexFromVolume settings.overflow (logFileName settings) name + 1)) :=
      own_beeItoa (by omega)
    unfold renameFile
    split
    · exact fun _ _ => rfl
    · rename_i file there
      split
      · exact fun _ _ => rfl
      · rename_i free
        by_cases mine : Own settings name
        · exact (kept_erase directory mine).trans (kept_insert _ file target)
        · have locked := foreign mine renamed
          rw [there] at locked
          simp at locked
          simp [locked] at free
  · exact fun _ _ => rfl

private theorem renames_kept {names : List Text} {directory : Directory}
    (foreign : ∀ name ∈ names, ¬ Own settings name → Renamed settings name →
      (directory.lookup name).all (! ·.writable) = true) :
    ForeignKept settings directory (names.foldl (renameVolume settings) directory) := by
  induction names generalizing directory with
  | nil => exact fun _ _ => rfl
  | cons name rest ih =>
    have first := renameVolume_kept (foreign name List.mem_cons_self)
    refine first.trans (ih fun other member mine renamed => ?_)
    rw [first other mine]
    exact foreign other (List.mem_cons_of_mem _ member) mine renamed

private theorem rolledIndex_deleteLast (many : settings.volumeCount > 1)
    (appender : LogAppenderFile) :
    (deleteLast settings appender).volumeIndex + 1 =
      rolledIndex settings appender.volumeIndex := by
  unfold deleteLast rolledIndex
  split
  · rename_i full
    rw [if_pos ⟨many, full⟩]
    show (settings.volumeCount : Int) - 1 + 1 = settings.volumeCount
    omega
  · rename_i short
    rw [if_neg fun both => short both.2]

/-- Rolling the log where it can be rolled moves no file of others. -/
theorem rollingVolumes_kept {appender : LogAppenderFile}
    (apart : RollsApart settings appender) (listing : Listing) :
    ∃ after, rollingVolumes settings listing appender = some after ∧
      ForeignKept settings appender.directory after.directory ∧
      after.volumeIndex = rolledIndex settings appender.volumeIndex := by
  by_cases many : settings.volumeCount > 1
  · have sortable := sortable_of_perm (listing.perm _) (apart.sortable many)
    obtain ⟨names, sorted⟩ := Option.isSome_iff_exists.mp (sortReversely_isSome sortable)
    have first : ForeignKept settings appender.directory (deleteLast settings appender).directory :=
      deleteLast_kept appender
    have renamed : ForeignKept settings (deleteLast settings appender).directory
        (names.foldl (renameVolume settings) (deleteLast settings appender).directory) := by
      refine renames_kept fun name member mine inRange => ?_
      have listed : name ∈ (deleteLast settings appender).directory := by
        rw [AList.mem_keys, ← (listing.perm _).mem_iff]
        exact (sortReversely_spec sorted).1.mem_iff.mp member
      rw [← AList.lookup_isSome, first name mine, AList.lookup_isSome] at listed
      rw [first name mine]
      exact apart.foreign name (AList.mem_keys.mp listed) mine inRange
    let moved : LogAppenderFile := { (deleteLast settings appender) with
      stream := .closed
      directory := names.foldl (renameVolume settings) (deleteLast settings appender).directory }
    obtain ⟨opened, index⟩ : ForeignKept settings moved.directory
        (openFile settings false moved).directory ∧
        (openFile settings false moved).volumeIndex = moved.volumeIndex := openFile_kept false moved
    have rolled : rollingVolumes settings listing appender = some
        { openFile settings false moved with
          volumeIndex := (openFile settings false moved).volumeIndex + 1 } := by
      rw [rollingVolumes, if_pos many, deleteLast_close]
      simp only [close, sorted, Option.map_some]
      rfl
    refine ⟨_, rolled, (first.trans renamed).trans opened, ?_⟩
    rw [← rolledIndex_deleteLast many, index]
  · obtain ⟨opened, index⟩ : ForeignKept settings appender.close.directory
        (openFile settings false appender.close).directory ∧
        (openFile settings false appender.close).volumeIndex = appender.close.volumeIndex :=
      openFile_kept false appender.close
    have rolled : rollingVolumes settings listing appender = some
        { openFile settings false appender.close with
          volumeIndex := (openFile settings false appender.close).volumeIndex + 1 } := by
      rw [rollingVolumes, if_neg many]
      rfl
    refine ⟨_, rolled, opened, ?_⟩
    rw [rolledIndex, if_neg fun both => many both.1, index]
    rfl

/-- Opening the log where no file of others stands out finds the index of its own. -/
theorem openLog_kept {appender : LogAppenderFile}
    (apart : OpensApart settings appender.directory) :
    ForeignKept settings appender.directory (openLog settings appender).directory ∧
      (openLog settings appender).volumeIndex = ownIndex settings appender.directory := by
  let found := getMaxVolumeIndex settings.overflow (logFileName settings) appender.directory.keys
  let mine := getMaxVolumeIndex settings.overflow (logFileName settings)
    (appender.directory.keys.filter (Own settings ·))
  have nonneg : 0 ≤ mine := getMaxVolumeIndex_nonneg _ _ _
  have owned (name : Text) (member : name ∈ appender.directory.keys) (own : Own settings name) :
      getIndexFromVolume settings.overflow (logFileName settings) name ≤ mine :=
    le_getMaxVolumeIndex (List.mem_filter.mpr ⟨member, decide_eq_true own⟩)
  have less : mine ≤ found := getMaxVolumeIndex_le (getMaxVolumeIndex_nonneg _ _ _)
    fun name member => le_getMaxVolumeIndex (List.mem_of_mem_filter member)
  have more : mine < settings.volumeCount → found ≤ mine := by
    refine fun short => getMaxVolumeIndex_le nonneg fun name member => ?_
    by_cases own : Own settings name
    · exact owned name member own
    · rcases apart name member own with low | ⟨other, there, mineToo, covered⟩
      · exact Int.le_trans low nonneg
      · have := owned other there mineToo
        omega
  obtain ⟨opened, same⟩ := @openFile_kept settings true { appender with
    volumeIndex := if found > settings.volumeCount then settings.volumeCount else found }
  refine ⟨opened, same.trans ?_⟩
  show (if found > settings.volumeCount then (settings.volumeCount : Int) else found) =
    if mine > settings.volumeCount then (settings.volumeCount : Int) else mine
  split <;> split <;> omega

/-- One request that meets the condition, on whatever the directory holds. -/
theorem step_apart {appender : LogAppenderFile} {request : Request}
    (meets : MeetsNoForeign settings appender request) :
    ∃ after, step settings appender request = some ((), after) ∧
      Apart settings appender request () after := by
  cases request with
  | starts =>
    obtain ⟨kept, index⟩ : ForeignKept settings appender.directory
        (start settings appender.directory).directory ∧
        (start settings appender.directory).volumeIndex = ownIndex settings appender.directory :=
      openLog_kept (show OpensApart settings (⟨appender.directory, .closed, 0, 0⟩ :
        LogAppenderFile).directory from meets)
    exact ⟨_, rfl, kept, index⟩
  | opens =>
    obtain ⟨kept, index⟩ := openLog_kept meets
    exact ⟨_, rfl, kept, index⟩
  | closes => exact ⟨_, rfl, fun _ _ => rfl, rfl⟩
  | rolls listing =>
    obtain ⟨after, rolled, kept, index⟩ := rollingVolumes_kept meets listing
    exact ⟨after, by rw [step, rolled]; rfl, kept, index⟩
  | appends log listing =>
    by_cases full : Full settings appender
    · obtain ⟨rolled, came, kept, index⟩ := rollingVolumes_kept (meets full) listing
      obtain ⟨wrote, same⟩ := @write_kept settings log
        { rolled with currentVolumeSize := 0 + ((cString log).length : Int) }
      refine ⟨_, by rw [step, append, if_pos full, came]; rfl, kept.trans wrote, ?_⟩
      simp only [if_pos full]
      exact same.trans index
    · obtain ⟨wrote, same⟩ := @write_kept settings log { appender with
        currentVolumeSize := appender.currentVolumeSize + ((cString log).length : Int) }
      refine ⟨_, by rw [step, append, if_neg full]; rfl, wrote, ?_⟩
      simp only [if_neg full]
      exact same

/-- Whatever the directory holds, no request of a run touches a file of others or lets it
influence the index, as long as each finds what it has to find. -/
theorem foreign_files_kept (settings : Settings) (appender : LogAppenderFile)
    (requests : List Request)
    (meets : Runs.AllSteps (step settings) (MeetsNoForeign settings) appender requests) :
    Runs.AllTaken (step settings) (Apart settings) appender requests := by
  refine Runs.all_taken_of_steps (fun _ => True) ?_ trivial meets
  intro appender request _ meets
  obtain ⟨after, taken, apart⟩ := step_apart meets
  exact ⟨(), after, taken, apart, trivial⟩

instance (settings : Settings) (appender : LogAppenderFile) :
    Decidable (RollsApart settings appender) :=
  decidable_of_iff
    ((1 < settings.volumeCount →
        Sortable settings.overflow (deleteLast settings appender).directory.keys) ∧
      ∀ name ∈ appender.directory.keys, ¬ Own settings name → Renamed settings name →
        (appender.directory.lookup name).all (! ·.writable) = true)
    ⟨fun ⟨sortable, foreign⟩ => ⟨sortable, foreign⟩,
      fun ⟨sortable, foreign⟩ => ⟨sortable, foreign⟩⟩

instance (settings : Settings) (directory : Directory) :
    Decidable (OpensApart settings directory) :=
  inferInstanceAs (Decidable (∀ name ∈ directory.keys, ¬ Own settings name → _ ∨ _))

instance (settings : Settings) (appender : LogAppenderFile) :
    ∀ request, Decidable (MeetsNoForeign settings appender request)
  | .rolls _ => inferInstanceAs (Decidable (RollsApart settings appender))
  | .appends _ _ => inferInstanceAs (Decidable (Full settings appender → _))
  | .starts | .opens => inferInstanceAs (Decidable (OpensApart settings appender.directory))
  | .closes => isTrue trivial

/-- A log opened and rolled twice beside a file of another name, one that is named like a
volume of a negative index, and a volume beyond the last. -/
theorem others_left_alone :
    let directory : Directory := List.toAList
      [⟨"bee.log".toList, ⟨"c".toList, true⟩⟩, ⟨"bee.log.-5".toList, ⟨"x".toList, true⟩⟩,
        ⟨"bee.log.7".toList, ⟨"y".toList, true⟩⟩, ⟨"notes".toList, ⟨"z".toList, true⟩⟩]
    Runs.AllTaken (step threeVolumes) (Apart threeVolumes) ⟨directory, .closed, 0, 0⟩
      [.starts, .rolls asKept, .appends "d".toList asKept, .closes, .starts, .rolls asKept] :=
  foreign_files_kept threeVolumes _ _ (by decide +kernel)

/-- A file of others is renamed like a volume, and one with a number in front of other
letters is taken for the last volume when the log is opened. -/
theorem others_taken_for_volumes :
    (let directory : Directory := List.toAList
      [⟨"bee.log".toList, ⟨"new".toList, true⟩⟩, ⟨"bee.logger".toList, ⟨"saved".toList, true⟩⟩]
    ¬ Runs.AllTaken (step threeVolumes) (Apart threeVolumes) ⟨directory, .closed, 0, 0⟩
      [.starts, .rolls asKept]) ∧
    let directory : Directory := List.toAList [⟨"bee.log.2nd".toList, ⟨"saved".toList, true⟩⟩]
    ¬ Runs.AllTaken (step threeVolumes) (Apart threeVolumes) ⟨directory, .closed, 0, 0⟩
      [.starts] := by
  constructor
  · intro directory
    rintro ⟨_, begun, started, _, _, after, rolled, apart, _⟩
    obtain rfl := (Prod.mk.inj (Option.some.inj started)).2
    have gone := congrArg (Option.map fun taken =>
      taken.2.directory.lookup "bee.logger".toList) rolled
    have kept := apart.kept "bee.logger".toList (by decide +kernel)
    rw [Option.map_some, kept] at gone
    revert gone
    decide +kernel
  · intro directory
    rintro ⟨_, begun, started, apart, _⟩
    obtain rfl := (Prod.mk.inj (Option.some.inj started)).2
    have index := apart.index
    revert index
    decide +kernel

end LogAppenderFile
end BeeSdk.LogVolumes
