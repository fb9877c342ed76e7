import BeeSdk.ScanfFormats

/-! When the two format parsers read alike what a format describes. -/
namespace BeeSdk.ScanfFormats
open DataPromise ScanfValues

variable {heap : Heap} {pairs : List Pair}

/-! ### One entry -/

/-- A pair fails the checks whatever the field, or sets one attribute of it, the one it names. -/
theorem assign_cases (key value : Value) :
    (∀ field, assign field key value = none) ∨
      ∃ name, (luaToString key).map cString = some name ∧
        ((name = "typeid".toList ∧ ∃ type, ∀ field, assign field key value = some { field with type }) ∨
          (name = "length".toList ∧
            ∃ length, ∀ field, assign field key value = some { field with length }) ∨
          (name = "hton".toList ∧ ∃ hton, ∀ field, assign field key value = some { field with hton })) := by
  cases named : (luaToString key).map cString with
  | none =>
    left
    intro field
    simp only [assign, named]
  | some name =>
    simp only [assign, named]
    by_cases typed : name = "typeid".toList
    · simp only [if_pos typed]
      cases value with
      | integer v =>
        by_cases negative : v.toInt32 < 0
        · simp [negative]
        · simp only [if_neg negative]
          cases found : dataTypes[v.toInt32.toNatClampNeg]? with
          | none => simp
          | some type => exact Or.inr ⟨name, rfl, Or.inl ⟨typed, type, fun _ => rfl⟩⟩
      | _ => simp
    · simp only [if_neg typed]
      by_cases sized : name = "length".toList
      · simp only [if_pos sized]
        cases value with
        | integer v =>
          by_cases zero : v.toUInt64.toNat = 0
          · simp [zero]
          · simp only [if_neg zero]
            exact Or.inr ⟨name, rfl, Or.inr (Or.inl ⟨sized, _, fun _ => rfl⟩)⟩
        | _ => simp
      · simp only [if_neg sized]
        by_cases flagged : name = "hton".toList
        · simp only [if_pos flagged]
          cases value with
          | boolean hton => exact Or.inr ⟨name, rfl, Or.inr (Or.inr ⟨flagged, hton, fun _ => rfl⟩)⟩
          | _ => simp
        · exact Or.inl fun _ => if_neg flagged

/-- Where the checks stop does not depend on the field. -/
theorem readEntry_stops (table entry : List Pair) (left right : DataField) :
    (readEntry table entry left).2 = (readEntry table entry right).2 := by
  induction entry generalizing left right with
  | nil => rfl
  | cons pair behind ih =>
    obtain ⟨key, value⟩ := pair
    rw [readEntry, readEntry]
    obtain fails | ⟨_, _, ⟨_, _, sets⟩ | ⟨_, _, sets⟩ | ⟨_, _, sets⟩⟩ := assign_cases key value
    · rw [fails, fails]
    · rw [sets, sets]
      exact ih _ _
    · rw [sets, sets]
      exact ih _ _
    · rw [sets, sets]
      exact ih _ _

theorem gives_cons {name : String} {named : List Char} {key value : Value} {behind : List Pair}
    (key_named : (luaToString key).map cString = some named) :
    gives name ((key, value) :: behind) = (decide (named = name.toList) || gives name behind) := by
  rw [gives, gives, List.any_cons]
  simp only [key_named, Option.some.injEq]

/-- An entry that passes makes the same of two fields that agree in what it leaves out. -/
theorem readEntry_same_iff {table entry : List Pair} {left right : DataField}
    (passes : (readEntry table entry left).2 = none) :
    (readEntry table entry left).1 = (readEntry table entry right).1 ↔
      (gives "typeid" entry = false → left.type = right.type) ∧
        (gives "length" entry = false → left.length = right.length) ∧
        (gives "hton" entry = false → left.hton = right.hton) := by
  induction entry generalizing left right with
  | nil =>
    cases left
    cases right
    simp [readEntry, gives]
  | cons pair behind ih =>
    obtain ⟨key, value⟩ := pair
    rw [readEntry] at passes
    rw [readEntry, readEntry]
    obtain fails | ⟨name, named, ⟨rfl, _, sets⟩ | ⟨rfl, _, sets⟩ | ⟨rfl, _, sets⟩⟩ :=
      assign_cases key value
    · rw [fails] at passes
      cases passes
    all_goals
      rw [sets] at passes
      rw [sets, sets]
      simp only [gives_cons named]
      refine (ih passes).trans ?_
      simp

/-- What an entry that passes describes is what the parser reads into the defaults. -/
theorem ownField_eq {table entry : List Pair} {field : DataField}
    (passes : (readEntry table entry field).2 = none) :
    entry.foldl (fun field pair => (assign field pair.1 pair.2).getD field) field =
      (readEntry table entry field).1 := by
  induction entry generalizing field with
  | nil => rfl
  | cons pair behind ih =>
    obtain ⟨key, value⟩ := pair
    rw [readEntry] at passes ⊢
    rw [List.foldl_cons]
    cases sets : assign field key value with
    | none =>
      rw [sets] at passes
      cases passes
    | some next =>
      rw [sets] at passes
      exact ih passes

/-- A proper pair passes the checks. -/
theorem assign_proper {key value : Value} (field : DataField) (is_proper : proper key value = true) :
    assign field key value ≠ none := by
  cases named : (luaToString key).map cString with
  | none =>
    simp only [proper, named] at is_proper
    cases is_proper
  | some name =>
    simp only [proper, named] at is_proper
    simp only [assign, named]
    cases value with
    | boolean hton =>
      have flag : name = "hton".toList := of_decide_eq_true is_proper
      rw [flag]
      simp
    | integer v =>
      simp only [decide_eq_true_eq] at is_proper
      obtain ⟨typed, least, below⟩ | ⟨sized, positive⟩ := is_proper
      · have narrow : v.toInt32.toInt = v.toInt := by
          rw [Int64.toInt_toInt32]
          simp only [dataTypes, List.length_cons, List.length_nil] at below
          exact Int.bmod_eq_of_le (by omega) (by omega)
        have least' : ¬ v.toInt32 < 0 := by
          rw [Int32.lt_iff_toInt_lt, narrow]
          simpa using least
        simp only [if_pos typed, if_neg least']
        have inside : v.toInt32.toNatClampNeg < dataTypes.length := by
          rw [Int32.toNatClampNeg, narrow]
          omega
        rw [List.getElem?_eq_getElem inside]
        simp
      · have real : ¬ v.toUInt64.toNat = 0 := by
          intro zero
          obtain ⟨word⟩ := v
          obtain rfl : word = 0 := UInt64.toNat_inj.mp zero
          exact absurd positive (by decide)
        have other : name ≠ "typeid".toList := by
          rw [sized]
          decide
        simp only [if_neg other, if_pos sized, if_neg real]
        simp
    | _ => cases is_proper

theorem stopped_proper {entry : List Pair}
    (all_proper : (entry.all fun pair => proper pair.1 pair.2) = true) : stopped entry = none := by
  suffices ∀ table field, (readEntry table entry field).2 = none from this entry {}
  intro table field
  induction entry generalizing field with
  | nil => rfl
  | cons pair behind ih =>
    obtain ⟨key, value⟩ := pair
    rw [List.all_cons, Bool.and_eq_true] at all_proper
    rw [readEntry]
    cases sets : assign field key value with
    | none => exact absurd sets (assign_proper field all_proper.1)
    | some next => exact ih all_proper.2 next

/-! ### The fields of a format -/

/-- The fields as the one variable of the walk comes to hold them. -/
def carried (heap : Heap) : DataField → List Pair → List DataField
  | _, [] => []
  | field, (_, value) :: rest =>
    match value with
    | .table address =>
      let field := (readEntry (heap address) (heap address) field).1
      field :: carried heap field rest
    | _ => []

theorem described_cons {address : Nat} {key : Value} {rest : List Pair} {format : List DataField}
    (describes : described heap ((key, .table address) :: rest) = some format) :
    stopped (heap address) = none ∧ ∃ behind, described heap rest = some behind ∧
      format = ownField (heap address) :: behind := by
  rw [described] at describes
  split at describes
  · next all_proper =>
    obtain ⟨behind, rest, rfl⟩ := Option.map_eq_some_iff.mp describes
    exact ⟨stopped_proper all_proper, behind, rest, rfl⟩
  · cases describes

/-- A format that is valid passes the checks of the source. -/
theorem described_passes {format : List DataField} (describes : described heap pairs = some format) :
    Passes heap pairs := by
  induction pairs generalizing format with
  | nil => exact fun _ member => by cases member
  | cons pair rest ih =>
    obtain ⟨key, value⟩ := pair
    cases value with
    | table address =>
      obtain ⟨passes, behind, describes, _⟩ := described_cons describes
      intro pair member
      obtain rfl | member := List.mem_cons.mp member
      · exact ⟨address, rfl, passes⟩
      · exact ih describes pair member
    | _ => cases describes

/-- The fields read are those described exactly where nothing is carried over. -/
theorem carried_eq_iff {format : List DataField} (describes : described heap pairs = some format)
    (field : DataField) : carried heap field pairs = format ↔ NothingCarried heap field pairs := by
  induction pairs generalizing format field with
  | nil =>
    cases describes
    exact iff_of_true rfl trivial
  | cons pair rest ih =>
    obtain ⟨key, value⟩ := pair
    cases value with
    | table address =>
      obtain ⟨passes, behind, describes_rest, rfl⟩ := described_cons describes
      have own : ownField (heap address) = (readEntry (heap address) (heap address) {}).1 :=
        ownField_eq passes
      have passes' : (readEntry (heap address) (heap address) field).2 = none := by
        rw [readEntry_stops _ _ _ {}]
        exact passes
      have same := @readEntry_same_iff (heap address) (heap address) field {} passes'
      rw [← own] at same
      rw [carried, NothingCarried, List.cons.injEq]
      constructor
      · rintro ⟨head, tail⟩
        rw [head] at tail
        exact ⟨same.mp head, (ih describes_rest _).mp tail⟩
      · rintro ⟨head, tail⟩
        rw [same.mpr head]
        exact ⟨rfl, (ih describes_rest _).mpr tail⟩
    | _ => cases describes

/-! ### The walk -/

section
variable {Total : Type} {add : Total → Nat → Total}

/-- The call comes back without a format. -/
def Turned (verdict : Option (Verdict Total)) : Prop :=
  verdict = some .rejected ∨ verdict = some .raised

/-- Where every entry passes the walk ends where it began. -/
theorem walkAt_passes {deeper : List Pair → Scan Total → Option (Verdict Total)}
    (passes : Passes heap pairs) (scan : Scan Total) :
    walkAt add heap deeper pairs scan = some (if scan.valid then
      .accepted (scan.format ++ carried heap scan.field pairs)
        ((carried heap scan.field pairs).foldl (fun total field => add total (fieldSize field)) scan.total)
      else .rejected) := by
  induction pairs generalizing scan with
  | nil => simp [walkAt, carried]
  | cons pair rest ih =>
    obtain ⟨key, value⟩ := pair
    obtain ⟨address, rfl, goes⟩ := passes _ (List.mem_cons_self ..)
    rw [stopped, readEntry_stops _ _ _ scan.field] at goes
    rw [walkAt]
    simp only [goes]
    rw [ih (fun pair member => passes pair (List.mem_cons_of_mem _ member))]
    simp only [carried, List.foldl_cons, List.append_assoc, List.singleton_append]

/-- One level of the walk: it is left without a format where it ends and an entry fails
or has failed before, and goes deeper than it may where it does not end. -/
theorem walkAt_fails {deeper : List Pair → Scan Total → Option (Verdict Total)}
    {below : List Pair → Prop}
    (turns : ∀ pairs scan, scan.valid = false → below pairs → Turned (deeper pairs scan))
    (undefined : ∀ pairs scan, ¬ below pairs → deeper pairs scan = none) (scan : Scan Total) :
    (EndsAt heap below pairs → (scan.valid = false ∨ ¬ Passes heap pairs) →
        Turned (walkAt add heap deeper pairs scan)) ∧
      (¬ EndsAt heap below pairs → walkAt add heap deeper pairs scan = none) := by
  induction pairs generalizing scan with
  | nil =>
    refine ⟨fun _ fails => ?_, fun endless => absurd trivial endless⟩
    obtain invalid | fails := fails
    · exact Or.inl (by simp [walkAt, invalid])
    · exact absurd (fun _ member => by cases member) fails
  | cons pair rest ih =>
    obtain ⟨key, value⟩ := pair
    cases value with
    | table address =>
      have same : (readEntry (heap address) (heap address) scan.field).2 = stopped (heap address) :=
        readEntry_stops _ _ _ _
      rw [EndsAt, walkAt]
      simp only [same]
      cases stops : stopped (heap address) with
      | none =>
        simp only
        refine ⟨fun ends fails => (ih _).1 ends ?_, (ih _).2⟩
        refine fails.imp id fun fails passes => fails fun pair member => ?_
        obtain rfl | member := List.mem_cons.mp member
        · exact ⟨address, rfl, stops⟩
        · exact passes pair member
      | some next =>
        cases next with
        | none => exact ⟨fun _ _ => Or.inr rfl, fun endless => absurd trivial endless⟩
        | some behind => exact ⟨fun ends _ => turns _ _ rfl ends, fun endless => undefined _ _ endless⟩
    | _ => exact ⟨fun _ _ => Or.inl rfl, fun endless => absurd trivial endless⟩

theorem walk_fails (room : Nat) (scan : Scan Total) :
    (Ends heap room pairs → (scan.valid = false ∨ ¬ Passes heap pairs) →
        Turned (walk add heap room pairs scan)) ∧
      (¬ Ends heap room pairs → walk add heap room pairs scan = none) := by
  induction room generalizing pairs scan with
  | zero =>
    refine walkAt_fails (fun behind _ _ plain => Or.inl ?_) (fun behind _ looks => ?_) scan
    · simp [plain]
    · simpa using looks
  | succ room ih =>
    exact @walkAt_fails heap pairs Total add (walk add heap room) (Ends heap room)
      (fun _ scan invalid ends => (ih scan).1 ends (Or.inl invalid))
      (fun _ scan endless => (ih scan).2 endless) scan

theorem walk_passes (passes : Passes heap pairs) (room : Nat) (scan : Scan Total) :
    walk add heap room pairs scan = some (if scan.valid then
      .accepted (scan.format ++ carried heap scan.field pairs)
        ((carried heap scan.field pairs).foldl (fun total field => add total (fieldSize field)) scan.total)
      else .rejected) := by
  cases room with
  | zero => exact walkAt_passes passes scan
  | succ room => exact walkAt_passes passes scan

/-- A walk from the start is turned down exactly where a check fails and it ends. -/
theorem walk_turned_iff (room : Nat) (total : Total) :
    Turned (walk add heap room pairs { total }) ↔ ¬ Passes heap pairs ∧ Ends heap room pairs := by
  by_cases passes : Passes heap pairs
  · rw [walk_passes passes]
    exact iff_of_false (by simp [Turned]) (fun met => met.1 passes)
  · by_cases ends : Ends heap room pairs
    · exact iff_of_true ((walk_fails room _).1 ends (Or.inr passes)) ⟨passes, ends⟩
    · rw [(walk_fails room _).2 ends]
      exact iff_of_false (by simp [Turned]) (fun met => ends met.2)

end

/-! ### The sizes -/

theorem int32_total (format : List DataField) (total : Nat) :
    format.foldl (fun total field => total + Int32.ofNat (fieldSize field)) (Int32.ofNat total) =
      Int32.ofNat (total + formatSize format) := by
  induction format generalizing total with
  | nil => rfl
  | cons field rest ih => rw [List.foldl_cons, ← Int32.ofNat_add, ih, formatSize, Nat.add_assoc]

theorem uint64_total (format : List DataField) (total : Nat) :
    format.foldl (fun total field => total + UInt64.ofNat (fieldSize field)) (UInt64.ofNat total) =
      UInt64.ofNat (total + formatSize format) := by
  induction format generalizing total with
  | nil => rfl
  | cons field rest ih => rw [List.foldl_cons, ← UInt64.ofNat_add, ih, formatSize, Nat.add_assoc]

theorem int32_exact_iff (size : Nat) : (Int32.ofNat size).toInt = size ↔ size < 2 ^ 31 := by
  constructor
  · intro same
    have bound := (Int32.ofNat size).toInt_lt
    omega
  · intro small
    exact Int32.toInt_ofNat_of_lt small

/-! ### Both parsers -/

theorem alike_described {table : Nat} {format : List DataField} (alike : ReadsAlike heap table)
    (describes : described heap (heap table) = some format) : ∃ total,
      LuaVideoCache.luaScanf heap table = some (.accepted format total) ∧
      total.toInt = formatSize format := by
  rw [ReadsAlike, describes] at alike
  obtain ⟨total, _, read, _, sized, _⟩ := alike
  exact ⟨total, read, sized⟩

theorem alike_undescribed {table : Nat} (alike : ReadsAlike heap table)
    (invalid : described heap (heap table) = none) : Turned (LuaVideoCache.luaScanf heap table) := by
  rw [ReadsAlike, invalid] at alike
  exact alike.1

/-- For every heap and every format table in it the two parsers read alike what the format
describes, and nothing else, exactly where a valid format leaves nothing to be carried
over and is counted in an `int32_t`, and an invalid one fails a check and the walk ends. -/
theorem reads_alike_iff (heap : Heap) (table : Nat) : ReadsAlike heap table ↔ Met heap table := by
  rw [ReadsAlike, Met]
  cases describes : described heap (heap table) with
  | none =>
    have cache := @walk_turned_iff heap (heap table) Int32 (fun total size => total + Int32.ofNat size)
      kRoom 0
    have http := @walk_turned_iff heap (heap table) UInt64
      (fun total size => total + UInt64.ofNat size) kRoom 0
    exact ⟨fun both => cache.mp both.1, fun met => ⟨cache.mpr met, http.mpr met⟩⟩
  | some format =>
    have passes := described_passes describes
    have exact_fields := carried_eq_iff describes {}
    have cache := @walk_passes heap (heap table) Int32 (fun total size => total + Int32.ofNat size)
      passes kRoom { total := 0 }
    have http := @walk_passes heap (heap table) UInt64 (fun total size => total + UInt64.ofNat size)
      passes kRoom { total := 0 }
    simp only [if_true, List.nil_append] at cache http
    rw [show (0 : Int32) = Int32.ofNat 0 from rfl, int32_total, Nat.zero_add] at cache
    rw [show (0 : UInt64) = UInt64.ofNat 0 from rfl, uint64_total, Nat.zero_add] at http
    simp only
    constructor
    · rintro ⟨total, total', read, _, sized, _⟩
      have walked : LuaVideoCache.luaScanf heap table = _ := cache
      rw [walked] at read
      obtain ⟨same, counted⟩ := Verdict.accepted.inj (Option.some.inj read)
      rw [same] at counted
      rw [← counted] at sized
      exact ⟨exact_fields.mp same, (int32_exact_iff _).mp sized⟩
    · rintro ⟨nothing, small⟩
      have same := exact_fields.mpr nothing
      rw [same] at cache http
      refine ⟨_, _, cache, http, (int32_exact_iff _).mpr small, ?_⟩
      rw [UInt64.toNat_ofNat_of_lt' (Nat.lt_trans small (by decide))]

/-- A format of the given entries, at address 0. -/
def formatOf (entries : List (List (String × Value))) : Heap
  | 0 => (List.range entries.length).map fun i => (.integer (Int64.ofNat (i + 1)), .table (i + 1))
  | i + 1 => ((entries[i]?).getD []).map fun pair => (.string pair.1.toList, pair.2)

/-- Two bytes and then a number: the second entry takes over the length and the type of the
first. A length of 2^31 bytes comes out negative. A type far beyond the last is one. -/
theorem entries_misread :
    ¬ ReadsAlike (formatOf [[("typeid", .integer 1), ("length", .integer 2)], []]) 0 ∧
    ¬ ReadsAlike (formatOf [[("typeid", .integer 1), ("length", .integer 2147483648)]]) 0 ∧
    ¬ ReadsAlike (formatOf [[("typeid", .integer 4294967296)]]) 0 := by
  refine ⟨?_, ?_, ?_⟩
  · intro alike
    obtain ⟨total, read, _⟩ :=
      @alike_described _ _ [⟨.uint8, 2, false⟩, ⟨.int32, 1, false⟩] alike (by decide +kernel)
    have carries : LuaVideoCache.luaScanf
        (formatOf [[("typeid", .integer 1), ("length", .integer 2)], []]) 0 =
      some (.accepted [⟨.uint8, 2, false⟩, ⟨.uint8, 2, false⟩] 4) := by decide +kernel
    rw [carries] at read
    cases read
  · intro alike
    obtain ⟨total, read, sized⟩ := @alike_described _ _ [⟨.uint8, 2147483648, false⟩] alike (by decide +kernel)
    have wraps : LuaVideoCache.luaScanf
        (formatOf [[("typeid", .integer 1), ("length", .integer 2147483648)]]) 0 =
      some (.accepted [⟨.uint8, 2147483648, false⟩] (-2147483648)) := by decide +kernel
    rw [wraps] at read
    cases read
    exact absurd sized (by decide)
  · intro alike
    have accepts : LuaVideoCache.luaScanf (formatOf [[("typeid", .integer 4294967296)]]) 0 =
      some (.accepted [⟨.int8, 1, false⟩] 1) := by decide +kernel
    have turned := alike_undescribed alike (by decide +kernel)
    rw [accepts] at turned
    obtain rejected | raised := turned
    · cases rejected
    · cases raised

end BeeSdk.ScanfFormats
