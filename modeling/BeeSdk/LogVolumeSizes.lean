import BeeSdk.LogVolumesProofs

/-! How large a volume becomes. The size a record is checked against is a counter of its own,
which begins at nothing whenever the log is started, whatever the volume it goes on with
already holds, and the kilobytes are multiplied as an `int32_t`. -/
namespace BeeSdk.LogVolumes
open HttpHeader (Text)
namespace LogAppenderFile
open Runs

/-- `SetVolumeSize`: `volume_size_` behind it, where a product beyond `int32_t` is up to the
system. -/
def setVolumeSize (overflow : Int → Int) (volumeSize before : Int) : Int :=
  if volumeSize > 0 then
    if volumeSize * 1024 ≤ 2147483647 then volumeSize * 1024 else overflow (volumeSize * 1024)
  else before

variable (settings : Settings)

/-- The names that are taken for volumes, and so may become names of volumes. -/
def Volume (name : Text) : Prop := logFileName settings <+: name

/-- What a request puts into the log. -/
def recordOf : Request → Option Text
  | .appends log _ => some (cString log)
  | .starts | .opens | .closes | .rolls _ => none

/-- A content that is within the size but for one of these records at its end. -/
def OneOver (size : Int) (records : List Text) (content : Text) : Prop :=
  (content.length : Int) ≤ size ∨
    ∃ front record, record ∈ records ∧ content = front ++ record ∧ (front.length : Int) ≤ size

/-- At every point of the run no volume exceeds the size by more than one record written so
far. -/
def SizesKept (size : Int) (appender : LogAppenderFile) (requests : List Request) : Prop :=
  ∀ made rest, made ++ rest = requests → ∀ replies reached,
    run (step settings) appender made = some (replies, reached) →
      ∀ name file, Volume settings name → reached.directory.lookup name = some file →
        OneOver size (made.filterMap recordOf) file.content

/-- The condition on a request: a log is started with at most a byte in a current volume it
can write, and a record does not take the counter beyond an `int32_t`. -/
def Counts (appender : LogAppenderFile) : Request → Prop
  | .starts => ∀ file, appender.directory.lookup (logFileName settings) = some file →
      file.writable = true → file.content.length ≤ 1
  | .appends log _ =>
    (if Full settings appender then 0 else appender.currentVolumeSize) + (cString log).length ≤ 2147483647
  | .opens | .closes | .rolls _ => True

instance (appender : LogAppenderFile) : ∀ request, Decidable (Counts settings appender request)
  | .starts => decidable_of_iff (∀ file ∈ appender.directory.lookup (logFileName settings),
      file.writable = true → file.content.length ≤ 1) Iff.rfl
  | .appends _ _ => inferInstanceAs (Decidable (_ ≤ _))
  | .opens | .closes | .rolls _ => isTrue trivial

/-- The invariant: the counter is at most one byte behind the current volume, and what is open
may be written. -/
structure Sized (size : Int) (records : List Text) (appender : LogAppenderFile) : Prop where
  volumes : ∀ name file, Volume settings name → appender.directory.lookup name = some file →
    OneOver size records file.content
  counted : ∀ file, appender.directory.lookup (logFileName settings) = some file →
    file.writable = true → (file.content.length : Int) ≤ appender.currentVolumeSize + 1
  nonneg : 0 ≤ appender.currentVolumeSize
  stream : appender.stream = .opened → ∀ file,
    appender.directory.lookup (logFileName settings) = some file → file.writable = true

variable {settings} {size : Int} {records : List Text}

theorem OneOver.mono {content : Text} (once : OneOver size records content)
    (more : ∀ record ∈ records, record ∈ others) : OneOver size others content := by
  rcases once with within | ⟨front, record, member, shape, within⟩
  · exact .inl within
  · exact .inr ⟨front, record, more record member, shape, within⟩

theorem oneOver_nil (positive : 0 ≤ size) : OneOver size records [] := .inl positive

/-! ### Opening -/

/-- A directory in which only the current volume is another one, and that is empty. -/
theorem volumes_insert_empty (positive : 0 ≤ size) {directory : Directory}
    (volumes : ∀ name file, Volume settings name → directory.lookup name = some file →
      OneOver size records file.content) {name : Text} {file : File} (volume : Volume settings name)
    (found : (directory.insert (logFileName settings) ⟨[], true⟩).lookup name = some file) :
    OneOver size records file.content := by
  by_cases current : name = logFileName settings
  · rw [current, AList.lookup_insert] at found
    cases found
    exact oneOver_nil positive
  · rw [AList.lookup_insert_ne current] at found
    exact volumes name file volume found

/-- Opening to append makes no volume larger. -/
theorem openFile_sized (positive : 0 ≤ size) {appender : LogAppenderFile}
    (sized : Sized settings size records appender) :
    Sized settings size records (openFile settings true appender) := by
  unfold openFile
  split
  · split
    · refine ⟨fun name file => volumes_insert_empty positive sized.volumes, ?_, sized.nonneg, ?_⟩
      · intro file found _
        rw [AList.lookup_insert] at found
        cases found
        exact Int.add_nonneg sized.nonneg (by decide)
      · intro _ file found
        rw [AList.lookup_insert] at found
        cases found
        rfl
    · rename_i file there
      split
      · exact sized
      · rename_i writable
        rw [if_pos rfl]
        refine ⟨sized.volumes, sized.counted, sized.nonneg, fun _ other found => ?_⟩
        rw [there] at found
        cases found
        exact Bool.of_not_eq_false writable
  · exact ⟨sized.volumes, sized.counted, sized.nonneg, fun opened => by cases opened⟩

/-- A closed log opened anew begins its current volume, whatever the counter is set to, or
leaves one it cannot write closed. -/
theorem openFile_anew_sized (positive : 0 ≤ size) {appender : LogAppenderFile}
    (volumes : ∀ name file, Volume settings name → appender.directory.lookup name = some file →
      OneOver size records file.content) (closed : appender.stream = .closed) (index counter : Int)
    (nonneg : 0 ≤ counter) :
    Sized settings size records
      { openFile settings false appender with volumeIndex := index, currentVolumeSize := counter } := by
  have emptied : Sized settings size records
      { appender with
        directory := appender.directory.insert (logFileName settings) ⟨[], true⟩
        stream := .opened, volumeIndex := index, currentVolumeSize := counter } := by
    refine ⟨fun name file => volumes_insert_empty positive volumes, ?_, nonneg, ?_⟩
    · intro file found _
      rw [AList.lookup_insert] at found
      cases found
      exact Int.add_nonneg nonneg (by decide)
    · intro _ file found
      rw [AList.lookup_insert] at found
      cases found
      rfl
  unfold openFile
  rw [closed]
  dsimp only
  split
  · exact emptied
  · rename_i file there
    split
    · rename_i locked
      refine ⟨volumes, ?_, nonneg, fun opened => ?_⟩
      · intro other found writable
        rw [there] at found
        cases found
        exact Bool.noConfusion (writable.symm.trans locked)
      · exact Stream.noConfusion (closed.symm.trans opened)
    · exact emptied

/-! ### Rolling -/

/-- A file that is renamed is a volume before and after. -/
theorem renameVolume_sized {directory : Directory}
    (volumes : ∀ name file, Volume settings name → directory.lookup name = some file →
      OneOver size records file.content) (renamed : Text) {name : Text} {file : File}
    (volume : Volume settings name)
    (found : (renameVolume settings directory renamed).lookup name = some file) :
    OneOver size records file.content := by
  simp only [renameVolume] at found
  split at found
  · rename_i taken
    have source : Volume settings renamed := by
      apply Classical.byContradiction
      intro foreign
      rw [getIndexFromVolume, if_neg (show ¬ logFileName settings <+: renamed from foreign)] at taken
      exact absurd taken.2 (by decide)
    unfold renameFile at found
    split at found
    · exact volumes name file volume found
    · rename_i moved there
      split at found
      · exact volumes name file volume found
      · by_cases target : name = logFileName settings ++ '.' ::
            beeItoa (getIndexFromVolume settings.overflow (logFileName settings) renamed + 1)
        · rw [target, AList.lookup_insert] at found
          cases found
          exact volumes renamed file source there
        · rw [AList.lookup_insert_ne target] at found
          by_cases same : name = renamed
          · rw [same, AList.lookup_erase] at found
            cases found
          · rw [AList.lookup_erase_ne same] at found
            exact volumes name file volume found
  · exact volumes name file volume found

theorem renames_sized {names : List Text} {directory : Directory}
    (volumes : ∀ name file, Volume settings name → directory.lookup name = some file →
      OneOver size records file.content) : ∀ name file, Volume settings name →
      (names.foldl (renameVolume settings) directory).lookup name = some file →
        OneOver size records file.content := by
  induction names generalizing directory with
  | nil => exact volumes
  | cons first rest ih => exact ih fun name file => renameVolume_sized volumes first

theorem deleteLast_sized {appender : LogAppenderFile}
    (volumes : ∀ name file, Volume settings name → appender.directory.lookup name = some file →
      OneOver size records file.content) {name : Text} {file : File} (volume : Volume settings name)
    (found : (deleteLast settings appender).directory.lookup name = some file) :
    OneOver size records file.content := by
  unfold deleteLast at found
  split at found
  · simp only [deleteFile] at found
    split at found
    · exact volumes name file volume found
    · split at found
      · by_cases same : name = logFileName settings ++ '.' :: beeItoa ((settings.volumeCount : Int) - 1)
        · rw [same, AList.lookup_erase] at found
          cases found
        · rw [AList.lookup_erase_ne same] at found
          exact volumes name file volume found
      · exact volumes name file volume found
  · exact volumes name file volume found

theorem deleteLast_stream (appender : LogAppenderFile) :
    (deleteLast settings appender).stream = appender.stream := by
  unfold deleteLast
  split <;> rfl

theorem rollingVolumes_counter {appender rolled : LogAppenderFile} {listing : Listing}
    (came : rollingVolumes settings listing appender = some rolled) :
    rolled.currentVolumeSize = appender.currentVolumeSize := by
  have opened : ∀ closed : LogAppenderFile,
      (openFile settings false closed).currentVolumeSize = closed.currentVolumeSize := by
    intro closed
    unfold openFile
    split
    · split
      · rfl
      · split <;> rfl
    · rfl
  simp only [rollingVolumes] at came
  obtain ⟨renamed, made, rfl⟩ := Option.map_eq_some_iff.mp came
  show (openFile settings false renamed).currentVolumeSize = _
  rw [opened]
  split at made
  · obtain ⟨names, -, rfl⟩ := Option.map_eq_some_iff.mp made
    show (deleteLast settings appender.close).currentVolumeSize = appender.currentVolumeSize
    unfold deleteLast
    split <;> rfl
  · cases made
    rfl

/-- Rolling leaves the volumes as large as they were and begins a new one. -/
theorem rollingVolumes_sized (positive : 0 ≤ size) {appender rolled : LogAppenderFile}
    (volumes : ∀ name file, Volume settings name → appender.directory.lookup name = some file →
      OneOver size records file.content) (listing : Listing)
    (came : rollingVolumes settings listing appender = some rolled) (counter : Int)
    (nonneg : 0 ≤ counter) :
    Sized settings size records { rolled with currentVolumeSize := counter } := by
  simp only [rollingVolumes] at came
  obtain ⟨renamed, made, rfl⟩ := Option.map_eq_some_iff.mp came
  split at made
  · obtain ⟨names, -, rfl⟩ := Option.map_eq_some_iff.mp made
    refine openFile_anew_sized positive ?_ ?_ _ counter nonneg
    · exact renames_sized fun name file => @deleteLast_sized _ _ _ appender.close volumes _ _
    · exact deleteLast_stream appender.close
  · cases made
    exact @openFile_anew_sized _ _ _ positive appender.close volumes rfl _ counter nonneg

/-! ### Records and runs -/

/-- A record behind a volume that is not full. -/
theorem write_sized {log : Text} {appender : LogAppenderFile}
    (sized : Sized settings size records appender) (room : appender.currentVolumeSize < size) :
    Sized settings size (records ++ [cString log]) (write settings log { appender with
      currentVolumeSize := appender.currentVolumeSize + (cString log).length }) := by
  have before : ∀ record ∈ records, record ∈ records ++ [cString log] := fun _ =>
    List.mem_append_left _
  have more : 0 ≤ ((cString log).length : Int) := Int.natCast_nonneg _
  have counter : 0 ≤ appender.currentVolumeSize + (cString log).length :=
    Int.add_nonneg sized.nonneg more
  unfold write
  split
  · rename_i file opened there
    have writable := sized.stream opened file there
    have short := sized.counted file there writable
    refine ⟨?_, ?_, counter, ?_⟩
    · intro name other volume found
      by_cases current : name = logFileName settings
      · rw [current, AList.lookup_insert] at found
        cases found
        exact .inr ⟨file.content, cString log, List.mem_append_right _ List.mem_cons_self, rfl, by omega⟩
      · rw [AList.lookup_insert_ne current] at found
        exact (sized.volumes name other volume found).mono before
    · intro other found _
      rw [AList.lookup_insert] at found
      cases found
      simp only [List.length_append, Int.natCast_add]
      omega
    · intro _ other found
      rw [AList.lookup_insert] at found
      cases found
      exact writable
  · refine ⟨fun name file volume found => (sized.volumes name file volume found).mono before, ?_, counter,
      sized.stream⟩
    intro file found writable
    have short := sized.counted file found writable
    show (file.content.length : Int) ≤ appender.currentVolumeSize + (cString log).length + 1
    omega

/-- Starting the log over a short volume. -/
theorem start_sized (positive : 0 ≤ size) {directory : Directory}
    (volumes : ∀ name file, Volume settings name → directory.lookup name = some file →
      OneOver size records file.content)
    (short : ∀ file, directory.lookup (logFileName settings) = some file → file.writable = true →
      file.content.length ≤ 1) : Sized settings size records (start settings directory) := by
  have begun (index : Int) : Sized settings size records ⟨directory, .closed, 0, index⟩ := by
    refine ⟨volumes, fun file found writable => ?_, Int.le_refl 0, fun opened => by cases opened⟩
    have few := short file found writable
    show (file.content.length : Int) ≤ 0 + 1
    omega
  exact openFile_sized positive (begun _)

/-- One request that meets the condition keeps the sizes, with its own record added. -/
theorem step_sized (volumeSize : settings.volumeSize = size) (positive : 0 < size)
    {appender next : LogAppenderFile} {request : Request} {reply : Unit}
    (sized : Sized settings size records appender) (counts : Counts settings appender request)
    (taken : step settings appender request = some (reply, next)) :
    Sized settings size (records ++ (recordOf request).toList) next := by
  have least : 0 ≤ size := Int.le_of_lt positive
  cases request with
  | starts =>
    cases taken
    rw [recordOf, Option.toList_none, List.append_nil]
    exact start_sized least sized.volumes counts
  | opens =>
    cases taken
    rw [recordOf, Option.toList_none, List.append_nil]
    exact openFile_sized least ⟨sized.volumes, sized.counted, sized.nonneg, sized.stream⟩
  | closes =>
    cases taken
    rw [recordOf, Option.toList_none, List.append_nil]
    exact ⟨sized.volumes, sized.counted, sized.nonneg, fun opened => by cases opened⟩
  | rolls listing =>
    obtain ⟨rolled, came, same⟩ := Option.map_eq_some_iff.mp taken
    cases same
    rw [recordOf, Option.toList_none, List.append_nil]
    refine rollingVolumes_sized least sized.volumes listing came _ ?_
    rw [rollingVolumes_counter came]
    exact sized.nonneg
  | appends log listing =>
    obtain ⟨after, came, same⟩ := Option.map_eq_some_iff.mp taken
    cases same
    rw [recordOf, Option.toList_some]
    simp only [append] at came
    obtain ⟨ready, rolled, rfl⟩ := Option.map_eq_some_iff.mp came
    split at rolled
    · obtain ⟨fresh, rolls, rfl⟩ := Option.map_eq_some_iff.mp rolled
      exact write_sized (rollingVolumes_sized least sized.volumes listing rolls 0 (Int.le_refl 0)) positive
    · rename_i spare
      cases rolled
      rw [Full, volumeSize, not_and] at spare
      exact write_sized sized (Int.lt_of_not_ge (spare positive))

theorem run_sized (volumeSize : settings.volumeSize = size) (positive : 0 < size)
    {appender reached : LogAppenderFile} {requests : List Request} {replies : List Unit}
    (sized : Sized settings size records appender)
    (met : AllSteps (step settings) (Counts settings) appender requests)
    (ran : run (step settings) appender requests = some (replies, reached)) :
    Sized settings size (records ++ requests.filterMap recordOf) reached := by
  induction requests generalizing appender records replies with
  | nil =>
    cases ran
    rw [List.filterMap_nil, List.append_nil]
    exact sized
  | cons request rest ih =>
    obtain ⟨reply, next, others, taken, remainder, -⟩ := run_cons_inv ran
    have kept := ih (step_sized volumeSize positive sized met.1 taken) (met.2 reply next taken) remainder
    have told : records ++ (recordOf request).toList ++ rest.filterMap recordOf =
        records ++ (request :: rest).filterMap recordOf := by
      rw [List.append_assoc, List.filterMap_cons]
      cases recordOf request <;> rfl
    rwa [told] at kept

/-- With a number of kilobytes whose bytes fit an `int32_t`, a log that begins in a directory
whose volumes are within the size, that is never started over more than a byte it could
write to and whose counter stays an `int32_t`, keeps the sizes of its volumes. -/
theorem sizes_run (settings : Settings) (volumeSize before : Int) (directory : Directory)
    (requests : List Request) (accepted : 0 < volumeSize) (fits : volumeSize * 1024 ≤ 2147483647)
    (set : settings.volumeSize = setVolumeSize settings.overflow volumeSize before)
    (within : ∀ name file, Volume settings name → directory.lookup name = some file →
      (file.content.length : Int) ≤ volumeSize * 1024)
    (met : AllSteps (step settings) (Counts settings) ⟨directory, .closed, 0, 0⟩ (.starts :: requests)) :
    SizesKept settings (volumeSize * 1024) ⟨directory, .closed, 0, 0⟩ (.starts :: requests) := by
  have size : settings.volumeSize = volumeSize * 1024 := by
    rw [set, setVolumeSize, if_pos accepted, if_pos fits]
  have positive : 0 < volumeSize * 1024 := by omega
  have volumes : ∀ name file, Volume settings name → directory.lookup name = some file →
      OneOver (volumeSize * 1024) [] file.content := fun name file volume found =>
    .inl (within name file volume found)
  intro made rest parts replies reached ran name file volume found
  cases made with
  | nil =>
    cases ran
    exact volumes name file volume found
  | cons request made =>
    cases parts
    obtain ⟨reply, next, others, taken, remainder, -⟩ := run_cons_inv ran
    cases taken
    have sized := start_sized (Int.le_of_lt positive) volumes met.1
    have later := met.2 () _ rfl
    exact (run_sized size positive sized (later.of_prefix (List.prefix_append made rest)) remainder).volumes
      name file volume found

/-- Three volumes of a kilobyte each. -/
def kilobyteVolumes : Settings :=
  { threeVolumes with volumeSize := setVolumeSize id 1 10485760 }

def longRecord : Text := List.replicate 1500 'a'

/-- Two records roll a volume each, in front of a restart and behind it. -/
theorem rolled_sized : SizesKept kilobyteVolumes (1 * 1024) ⟨∅, .closed, 0, 0⟩
    [.starts, .appends longRecord asKept, .appends longRecord asKept, .closes, .opens,
      .appends "b".toList asKept] := by
  refine sizes_run kilobyteVolumes 1 10485760 ∅ _ (by decide) (by decide) rfl ?_ (by decide +kernel)
  intro name file _ found
  cases found

/-- A record, the log started anew, and the record again: nothing is rolled, whatever its
length. -/
theorem written_twice (log : Text) :
    ∃ reached, run (step kilobyteVolumes) ⟨∅, .closed, 0, 0⟩
        [.starts, .appends log asKept, .starts, .appends log asKept] = some ([(), (), (), ()], reached) ∧
      reached.directory.lookup (logFileName kilobyteVolumes) =
        some ⟨[] ++ cString log ++ cString log, true⟩ :=
  ⟨_, rfl, rfl⟩

theorem longRecord_whole : cString longRecord = longRecord := by
  rw [cString, List.takeWhile_eq_self_iff]
  intro symbol member
  rw [List.eq_of_mem_replicate member]
  decide

/-- Two records of 1500 bytes with a restart between them: the second one begins when the
volume of a kilobyte has had 1500. -/
theorem restarted_exceeds : ¬ SizesKept kilobyteVolumes (1 * 1024) ⟨∅, .closed, 0, 0⟩
    [.starts, .appends longRecord asKept, .starts, .appends longRecord asKept] := by
  intro kept
  obtain ⟨reached, ran, content⟩ := written_twice longRecord
  rcases kept _ [] rfl _ _ ran _ _ (List.prefix_refl _) content with within | ⟨front, record, member, shape, within⟩
  · rw [longRecord_whole, longRecord, List.nil_append, List.length_append, List.length_replicate] at within
    omega
  · have same : record = longRecord := by
      rw [← longRecord_whole]
      exact (by simpa [recordOf] using member : cString longRecord = record).symm
    have length := congrArg List.length shape
    rw [same, longRecord_whole, List.nil_append, List.length_append, List.length_append, longRecord,
      List.length_replicate] at length
    omega

end LogAppenderFile
end BeeSdk.LogVolumes
