import BeeSdk.TextSearch
import Mathlib.Data.List.AList

/-! The headers of a message: a list in the order in which they are sent, and a map
that is asked for values. Both message classes keep the two side by side and change
them in the same way; they differ in which names their map takes to be equal, and
that is the parameter here. -/
namespace BeeSdk.HttpHeader
open TextSearch

abbrev Text := List Char

structure Header where
  name : Text
  val : Text
  deriving DecidableEq

def headerEqualTo (name : Text) (header : Header) : Bool := name = header.name

/-- `HeaderAppender`: the format `%1%: %2%\r\n`. -/
def headerAppender (headers : Text) (header : Header) : Text :=
  headers ++ (header.name ++ ": ".toList ++ header.val ++ "\r\n".toList)

/-- `isspace`, which `boost::algorithm::trim` goes by. -/
def isSpace (symbol : Char) : Bool :=
  symbol.toNat = 32 ∨ (9 ≤ symbol.toNat ∧ symbol.toNat ≤ 13)

/-- What `parse_body` reads off a line: nothing off an empty one or one without a colon. -/
def fieldOf (line : Text) : Option Header :=
  let line := trim isSpace line
  if line = [] then none
  else match findFirstOf ':' line with
    | none => none
    | some colonPos => some
      { name := trim isSpace (line.take colonPos)
        val := trim isSpace (line.drop (colonPos + 1)) }

/-- `m_header_fields_map`, by the names as its comparison sees them, and `m_headers`. -/
structure HeaderTable where
  headerFieldsMap : AList fun _ : Text => Text := ∅
  headers : List Header := []

namespace HeaderTable
variable (fold : Text → Text)

/-- `m_header_fields_map.find`. -/
def lookup (table : HeaderTable) (name : Text) : Option Text :=
  table.headerFieldsMap.lookup (fold name)

def getHeader (table : HeaderTable) (name : Text) : Text :=
  (table.lookup fold name).getD []

/-- One header line read: the list grows, the map binds the name anew. -/
def addField (table : HeaderTable) (header : Header) : HeaderTable where
  headerFieldsMap := table.headerFieldsMap.insert (fold header.name) header.val
  headers := table.headers ++ [header]

/-- The header lines of a text, read in order. -/
def ofFields (fields : List Header) : HeaderTable :=
  fields.foldl (addField fold) {}

/-- Undefined where the list is searched in vain for a name the map binds. -/
def setHeader (table : HeaderTable) (name val : Text) : Option HeaderTable :=
  match table.lookup fold name with
  | some _ =>
    if table.headers.any (headerEqualTo name) then some
      { headerFieldsMap := table.headerFieldsMap.insert (fold name) val
        headers := table.headers.replaceF fun header =>
          if headerEqualTo name header then some { header with val } else none }
    else none
  | none => some
    { headerFieldsMap := table.headerFieldsMap.insert (fold name) val
      headers := table.headers ++ [⟨name, val⟩] }

/-- Undefined where the list is searched in vain for a name the map binds. -/
def removeHeader (table : HeaderTable) (name : Text) : Option HeaderTable :=
  match table.lookup fold name with
  | some _ =>
    if table.headers.any (headerEqualTo name) then some
      { headerFieldsMap := table.headerFieldsMap.erase (fold name)
        headers := table.headers.eraseP (headerEqualTo name) }
    else none
  | none => some table

/-- Undefined where the list is searched in vain for a name the map binds. -/
def hasHeader (table : HeaderTable) (name : Text) : Option Bool :=
  match table.lookup fold name with
  | some _ => if table.headers.any (headerEqualTo name) then some true else none
  | none => some false

/-! ### List and map -/

/-- The values the list sends under the name. -/
def sent (headers : List Header) (name : Text) : List Text :=
  (headers.filter (fun header => fold header.name = fold name)).map Header.val

/-- Under every name the list sends the value the map binds to it, once, and nothing
where the map binds none. -/
def Agrees (table : HeaderTable) : Prop :=
  ∀ name, sent fold table.headers name = (table.lookup fold name).toList

/-- No entry of the list has the name in another spelling. -/
def Spelled (table : HeaderTable) (name : Text) : Prop :=
  ∀ header ∈ table.headers, fold header.name = fold name → header.name = name

variable {fold} {table next : HeaderTable} {name val : Text}

theorem sent_append (before after : List Header) (name : Text) :
    sent fold (before ++ after) name = sent fold before name ++ sent fold after name := by
  simp [sent]

theorem sent_cons_same {header : Header} {rest : List Header}
    (same : fold header.name = fold name) :
    sent fold (header :: rest) name = header.val :: sent fold rest name := by
  simp [sent, same]

theorem sent_cons_other {header : Header} {rest : List Header}
    (other : fold header.name ≠ fold name) :
    sent fold (header :: rest) name = sent fold rest name := by
  simp [sent, other]

theorem sent_eq_nil_iff {headers : List Header} :
    sent fold headers name = [] ↔ ∀ header ∈ headers, fold header.name ≠ fold name := by
  simp [sent]

theorem sent_congr {headers : List Header} {other : Text} (same : fold name = fold other) :
    sent fold headers name = sent fold headers other := by
  simp [sent, same]

theorem lookup_congr {other : Text} (same : fold name = fold other) :
    table.lookup fold name = table.lookup fold other := by
  rw [lookup, lookup, same]

/-! ### Header lines -/

private theorem ofFields_concat (fields : List Header) (header : Header) :
    ofFields fold (fields ++ [header]) = (ofFields fold fields).addField fold header := by
  simp [ofFields, List.foldl_append]

@[simp] theorem ofFields_headers (fields : List Header) : (ofFields fold fields).headers = fields := by
  induction fields using List.reverseRecOn with
  | nil => rfl
  | append_singleton fields header ih => rw [ofFields_concat, addField, ih]

/-- The map binds a name to the last value read under it. -/
theorem ofFields_lookup (fields : List Header) (name : Text) :
    (ofFields fold fields).lookup fold name = (sent fold fields name).getLast? := by
  induction fields using List.reverseRecOn with
  | nil => rfl
  | append_singleton fields header ih =>
    rw [ofFields_concat, sent_append, lookup, addField]
    by_cases same : fold header.name = fold name
    · rw [sent_cons_same same, same, AList.lookup_insert]
      simp [sent]
    · rw [sent_cons_other same, AList.lookup_insert_ne (Ne.symm same)]
      rw [show sent fold [] name = [] from rfl, List.append_nil]
      exact ih

private theorem count_names (headers : List Header) (name : Text) :
    (headers.map (fold ·.name)).count (fold name) = (sent fold headers name).length := by
  rw [List.count_eq_countP, List.countP_map, List.countP_eq_length_filter, sent, List.length_map]
  congr 2
  funext header
  rw [Bool.eq_iff_iff]
  simp

/-- List and map agree after reading exactly when no name is read twice. -/
theorem ofFields_agrees_iff {fields : List Header} :
    (ofFields fold fields).Agrees fold ↔ (fields.map (fold ·.name)).Nodup := by
  rw [List.nodup_iff_count_le_one]
  constructor
  · intro agrees key
    by_cases member : key ∈ fields.map (fold ·.name)
    · obtain ⟨header, _, rfl⟩ := List.mem_map.mp member
      have once := agrees header.name
      rw [ofFields_headers] at once
      rw [count_names, once]
      exact Option.length_toList_le
    · simp [List.count_eq_zero_of_not_mem member]
  · intro once name
    rw [ofFields_headers, ofFields_lookup]
    have most := once (fold name)
    rw [count_names] at most
    cases values : sent fold fields name with
    | nil => rfl
    | cons value rest =>
      rw [values, List.length_cons] at most
      rw [List.eq_nil_of_length_eq_zero (by omega : rest.length = 0)]
      rfl

/-! ### Changing a header -/

/-- A bound name has one entry, in whatever spelling. -/
theorem Agrees.entry (agrees : table.Agrees fold) (bound : table.lookup fold name = some val) :
    ∃ before header after, table.headers = before ++ header :: after ∧
      fold header.name = fold name ∧ header.val = val ∧
      (∀ other ∈ before, fold other.name ≠ fold name) ∧
      ∀ other ∈ after, fold other.name ≠ fold name := by
  have once := agrees name
  rw [bound, sent, Option.toList_some, List.map_eq_singleton_iff] at once
  obtain ⟨header, once, value⟩ := once
  obtain ⟨before, after, shape, free, same, rest⟩ := List.filter_eq_cons_iff.mp once
  refine ⟨before, header, after, shape, of_decide_eq_true same, value, ?_, ?_⟩
  · intro other member
    exact of_decide_eq_false (by simpa using free other member)
  · intro other member
    rw [List.filter_eq_nil_iff] at rest
    simpa using rest other member

theorem Agrees.absent (agrees : table.Agrees fold) (unbound : table.lookup fold name = none) :
    ∀ header ∈ table.headers, fold header.name ≠ fold name := by
  apply sent_eq_nil_iff.mp
  rw [agrees name, unbound]
  rfl

private theorem any_exact {before after : List Header} {header : Header}
    (left : ∀ other ∈ before, fold other.name ≠ fold name)
    (right : ∀ other ∈ after, fold other.name ≠ fold name) :
    (before ++ header :: after).any (headerEqualTo name) = headerEqualTo name header := by
  have elsewhere : ∀ {others : List Header}, (∀ other ∈ others, fold other.name ≠ fold name) →
      others.any (headerEqualTo name) = false := by
    intro others free
    rw [List.any_eq_false]
    intro other member same
    exact free other member (by rw [of_decide_eq_true same])
  rw [List.any_append, List.any_cons, elsewhere left, elsewhere right]
  simp

private theorem replace_entry {before after : List Header} {header : Header}
    (left : ∀ other ∈ before, fold other.name ≠ fold name) (exact_name : header.name = name) :
    (before ++ header :: after).replaceF (fun header =>
      if headerEqualTo name header then some { header with val } else none) =
      before ++ { header with val } :: after := by
  induction before with
  | nil =>
    rw [List.nil_append, List.nil_append]
    apply List.replaceF_cons_of_some
    simp [headerEqualTo, exact_name]
  | cons other rest ih =>
    have differs : ¬ headerEqualTo name other = true := by
      intro same
      exact left other (by simp) (by rw [of_decide_eq_true same])
    rw [List.cons_append, List.replaceF_cons_of_none _ (by simp [differs]),
      ih fun other member => left other (by simp [member])]
    rfl

/-- What assigning does where the name is bound: its one entry takes the value, if it
is spelled that way. -/
theorem setHeader_entry {before after : List Header} {header : Header} {old : Text}
    (bound : table.lookup fold name = some old)
    (shape : table.headers = before ++ header :: after)
    (left : ∀ other ∈ before, fold other.name ≠ fold name)
    (right : ∀ other ∈ after, fold other.name ≠ fold name) :
    table.setHeader fold name val = if header.name = name then some
      { headerFieldsMap := table.headerFieldsMap.insert (fold name) val
        headers := before ++ { header with val } :: after } else none := by
  rw [setHeader, bound, shape]
  simp only [any_exact left right]
  by_cases exact_name : header.name = name
  · rw [if_pos (by simp [headerEqualTo, exact_name]), if_pos exact_name,
      replace_entry left exact_name]
  · rw [if_neg (by simp [headerEqualTo, Ne.symm exact_name]), if_neg exact_name]

/-- What removing does where the name is bound: its one entry goes, if it is spelled
that way. -/
theorem removeHeader_entry {before after : List Header} {header : Header} {old : Text}
    (bound : table.lookup fold name = some old)
    (shape : table.headers = before ++ header :: after)
    (left : ∀ other ∈ before, fold other.name ≠ fold name)
    (right : ∀ other ∈ after, fold other.name ≠ fold name) :
    table.removeHeader fold name = if header.name = name then some
      { headerFieldsMap := table.headerFieldsMap.erase (fold name)
        headers := before ++ after } else none := by
  rw [removeHeader, bound, shape]
  simp only [any_exact left right]
  by_cases exact_name : header.name = name
  · have differ : ∀ other ∈ before, ¬ headerEqualTo name other = true := by
      intro other member same
      exact left other member (by rw [of_decide_eq_true same])
    rw [if_pos (by simp [headerEqualTo, exact_name]), if_pos exact_name,
      List.eraseP_append_right _ differ,
      List.eraseP_cons_of_pos (by simp [headerEqualTo, exact_name])]
  · rw [if_neg (by simp [headerEqualTo, Ne.symm exact_name]), if_neg exact_name]

/-- The entry of a bound name is the only one that could be spelled otherwise. -/
private theorem spelled_entry {before after : List Header} {header : Header}
    (shape : table.headers = before ++ header :: after) (same : fold header.name = fold name)
    (left : ∀ other ∈ before, fold other.name ≠ fold name)
    (right : ∀ other ∈ after, fold other.name ≠ fold name) :
    table.Spelled fold name ↔ header.name = name := by
  rw [Spelled, shape]
  constructor
  · intro spelled
    exact spelled header (by simp) same
  · intro exact_name other member equal
    rw [List.mem_append, List.mem_cons] at member
    rcases member with before | rfl | after
    · exact absurd equal (left other before)
    · exact exact_name
    · exact absurd equal (right other after)

private theorem sent_entry {before after : List Header} {header : Header} {other : Text}
    (same : fold header.name = fold name)
    (left : ∀ other ∈ before, fold other.name ≠ fold name)
    (right : ∀ other ∈ after, fold other.name ≠ fold name) :
    sent fold (before ++ header :: after) other =
      if fold name = fold other then [header.val] else sent fold (before ++ after) other := by
  by_cases equal : fold name = fold other
  · rw [if_pos equal, sent_append, sent_cons_same (same.trans equal), ← sent_congr equal,
      sent_eq_nil_iff.mpr left, ← sent_congr equal, sent_eq_nil_iff.mpr right]
    rfl
  · rw [if_neg equal, sent_append, sent_append, sent_cons_other fun met => equal (same.symm.trans met)]

private theorem lookup_insert (map : AList fun _ : Text => Text) (headers : List Header)
    (name other val : Text) :
    lookup fold ⟨map.insert (fold name) val, headers⟩ other =
      if fold name = fold other then some val else lookup fold ⟨map, headers⟩ other := by
  by_cases equal : fold name = fold other
  · rw [if_pos equal, lookup, equal, AList.lookup_insert]
  · rw [if_neg equal, lookup, AList.lookup_insert_ne (Ne.symm equal), lookup]

private theorem lookup_erase (map : AList fun _ : Text => Text) (headers : List Header)
    (name other : Text) :
    lookup fold ⟨map.erase (fold name), headers⟩ other =
      if fold name = fold other then none else lookup fold ⟨map, headers⟩ other := by
  by_cases equal : fold name = fold other
  · rw [if_pos equal, lookup, equal, AList.lookup_erase]
  · rw [if_neg equal, lookup, AList.lookup_erase_ne (Ne.symm equal), lookup]

private theorem Agrees.spelled_unbound (agrees : table.Agrees fold)
    (unbound : table.lookup fold name = none) : table.Spelled fold name := by
  intro header member same
  exact absurd same (agrees.absent unbound header member)

/-- Where list and map agree, assigning is defined exactly for a name in the spelling of
its entry. -/
theorem Agrees.setHeader_defined_iff (agrees : table.Agrees fold) (name val : Text) :
    (table.setHeader fold name val).isSome ↔ table.Spelled fold name := by
  cases bound : table.lookup fold name with
  | none =>
    rw [setHeader, bound]
    exact ⟨fun _ => agrees.spelled_unbound bound, fun _ => rfl⟩
  | some old =>
    obtain ⟨before, header, after, shape, same, _, left, right⟩ := agrees.entry bound
    rw [setHeader_entry bound shape left right, spelled_entry shape same left right]
    split <;> simp_all

theorem Agrees.removeHeader_defined_iff (agrees : table.Agrees fold) (name : Text) :
    (table.removeHeader fold name).isSome ↔ table.Spelled fold name := by
  cases bound : table.lookup fold name with
  | none =>
    rw [removeHeader, bound]
    exact ⟨fun _ => agrees.spelled_unbound bound, fun _ => rfl⟩
  | some old =>
    obtain ⟨before, header, after, shape, same, _, left, right⟩ := agrees.entry bound
    rw [removeHeader_entry bound shape left right, spelled_entry shape same left right]
    split <;> simp_all

theorem Agrees.hasHeader_defined_iff (agrees : table.Agrees fold) (name : Text) :
    (table.hasHeader fold name).isSome ↔ table.Spelled fold name := by
  cases bound : table.lookup fold name with
  | none =>
    rw [hasHeader, bound]
    exact ⟨fun _ => agrees.spelled_unbound bound, fun _ => rfl⟩
  | some old =>
    obtain ⟨before, header, after, shape, same, _, left, right⟩ := agrees.entry bound
    rw [hasHeader, bound, shape, spelled_entry shape same left right]
    simp only [any_exact left right]
    split <;> simp_all [headerEqualTo, eq_comm]

/-- Assigning keeps list and map in agreement. -/
theorem Agrees.set (agrees : table.Agrees fold)
    (assigned : table.setHeader fold name val = some next) : next.Agrees fold := by
  intro other
  have before_it := agrees other
  cases bound : table.lookup fold name with
  | none =>
    rw [setHeader, bound] at assigned
    cases assigned
    rw [lookup_insert, sent_append]
    by_cases equal : fold name = fold other
    · rw [if_pos equal, before_it, lookup_congr equal.symm, bound, sent_cons_same equal]
      rfl
    · rw [if_neg equal, sent_cons_other equal, before_it]
      exact List.append_nil _
  | some old =>
    obtain ⟨before, header, after, shape, same, _, left, right⟩ := agrees.entry bound
    rw [setHeader_entry bound shape left right, Option.ite_none_right_eq_some] at assigned
    obtain ⟨exact_name, assigned⟩ := assigned
    cases assigned
    rw [shape, sent_entry same left right] at before_it
    have assigned_same : fold ({ header with val } : Header).name = fold name := same
    rw [lookup_insert, sent_entry assigned_same left right]
    by_cases equal : fold name = fold other
    · rw [if_pos equal, if_pos equal]
      rfl
    · rw [if_neg equal] at before_it
      rw [if_neg equal, if_neg equal, before_it]
      rfl

/-- Removing keeps list and map in agreement. -/
theorem Agrees.remove (agrees : table.Agrees fold)
    (removed : table.removeHeader fold name = some next) : next.Agrees fold := by
  intro other
  have before_it := agrees other
  cases bound : table.lookup fold name with
  | none =>
    rw [removeHeader, bound] at removed
    cases removed
    exact before_it
  | some old =>
    obtain ⟨before, header, after, shape, same, _, left, right⟩ := agrees.entry bound
    rw [removeHeader_entry bound shape left right, Option.ite_none_right_eq_some] at removed
    obtain ⟨_, removed⟩ := removed
    cases removed
    rw [shape, sent_entry same left right] at before_it
    rw [lookup_erase]
    by_cases equal : fold name = fold other
    · rw [if_pos equal, sent_append, ← sent_congr equal, sent_eq_nil_iff.mpr left,
        ← sent_congr equal, sent_eq_nil_iff.mpr right]
      rfl
    · rw [if_neg equal] at before_it
      rw [if_neg equal, before_it]
      rfl

/-- Assigning binds the name to the value and leaves every other name. -/
theorem lookup_assigned (assigned : table.setHeader fold name val = some next) (other : Text) :
    next.lookup fold other = if fold name = fold other then some val else table.lookup fold other := by
  cases bound : table.lookup fold name with
  | none =>
    rw [setHeader, bound] at assigned
    cases assigned
    exact lookup_insert _ _ _ _ _
  | some old =>
    rw [setHeader, bound] at assigned
    simp only [Option.ite_none_right_eq_some] at assigned
    obtain ⟨_, assigned⟩ := assigned
    cases assigned
    exact lookup_insert _ _ _ _ _

/-- A removed name is bound no more. -/
theorem lookup_removed (removed : table.removeHeader fold name = some next) :
    next.lookup fold name = none := by
  cases bound : table.lookup fold name with
  | none =>
    rw [removeHeader, bound] at removed
    cases removed
    exact bound
  | some old =>
    rw [removeHeader, bound] at removed
    simp only [Option.ite_none_right_eq_some] at removed
    obtain ⟨_, removed⟩ := removed
    cases removed
    exact AList.lookup_erase _ _

end HeaderTable
end BeeSdk.HttpHeader
