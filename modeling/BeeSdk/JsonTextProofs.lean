import BeeSdk.JsonText
import Mathlib.Algebra.Order.BigOperators.Group.List
import Mathlib.Algebra.Order.Ring.Nat

/-! A text is read as a value if and only if its tokens spell it, and what was read carries no
more than the text holds. So a value written down with its characters as they are is read
back if, and but for texts put in from elsewhere only if, each of them may stand for itself. -/
namespace BeeSdk.JsonText
open Json

variable {dialect : Dialect} {close : Token}

/-! ### Parsing inverts spelling -/

section
variable {α : Type} {item : List Token → Option (α × List Token)} {piece : α → List Token}

theorem parse_behind_spelled
    (inverts : ∀ {found first rest}, item found = some (first, rest) → found = piece first ++ rest)
    (parsed : parseBehind close item fuel found = some (items, rest)) :
    found = behindComma close (items.map piece) ++ rest := by
  induction fuel generalizing found items with
  | zero => cases parsed
  | succ fuel ih =>
    cases found with
    | nil => cases parsed
    | cons token behind =>
      by_cases closes : token = close
      · simp only [parseBehind, closes, ↓reduceIte, Option.some.injEq, Prod.mk.injEq] at parsed
        obtain ⟨rfl, rfl⟩ := parsed
        rw [closes]
        rfl
      by_cases comma : token = .comma
      · rw [parseBehind, if_neg closes, if_pos comma] at parsed
        simp only [Option.bind_eq_bind, Option.bind_eq_some_iff, Option.some.injEq,
          Prod.mk.injEq] at parsed
        obtain ⟨⟨first, behind'⟩, one, ⟨others, last⟩, more, rfl, rfl⟩ := parsed
        have later : behind' = _ := ih more
        rw [comma, inverts one, later]
        simp [behindComma]
      · simp [parseBehind, closes, comma] at parsed

theorem parse_enclosed_spelled (piece : α → List Token)
    (inverts : ∀ {found first rest}, item found = some (first, rest) → found = piece first ++ rest)
    (parsed : parseEnclosed close item fuel found = some (items, rest)) :
    found = enclosed close (items.map piece) ++ rest := by
  cases found with
  | nil => cases parsed
  | cons token behind =>
    by_cases closes : token = close
    · simp only [parseEnclosed, closes, ↓reduceIte, Option.some.injEq, Prod.mk.injEq] at parsed
      obtain ⟨rfl, rfl⟩ := parsed
      rw [closes]
      rfl
    · simp only [parseEnclosed, closes, ↓reduceIte, Option.bind_eq_bind, Option.bind_eq_some_iff,
        Option.some.injEq, Prod.mk.injEq] at parsed
      obtain ⟨⟨first, behind'⟩, one, ⟨others, last⟩, more, rfl, rfl⟩ := parsed
      have later : behind' = _ := parse_behind_spelled inverts more
      rw [inverts one, later]
      simp [enclosed]

theorem parse_behind_inverts (noComma : close ≠ .comma)
    (parses : ∀ first ∈ items, ∀ rest, item (piece first ++ rest) = some (first, rest))
    (enough : items.length < fuel) (rest : List Token) :
    parseBehind close item fuel (behindComma close (items.map piece) ++ rest) = some (items, rest) := by
  induction items generalizing fuel with
  | nil =>
    obtain ⟨fuel, rfl⟩ := Nat.exists_eq_add_one_of_ne_zero (by omega : fuel ≠ 0)
    simp [behindComma, parseBehind]
  | cons first items ih =>
    obtain ⟨fuel, rfl⟩ := Nat.exists_eq_add_one_of_ne_zero (by omega : fuel ≠ 0)
    have others : parseBehind close item fuel (behindComma close (items.map piece) ++ rest) =
        some (items, rest) :=
      ih (fun other mem => parses other (List.mem_cons_of_mem _ mem)) (by simpa using enough)
    have one := parses first List.mem_cons_self (behindComma close (items.map piece) ++ rest)
    simp [behindComma, parseBehind, noComma.symm, one, others]

theorem parse_enclosed_inverts (noComma : close ≠ .comma)
    (parses : ∀ first ∈ items, ∀ rest, item (piece first ++ rest) = some (first, rest))
    (opens : ∀ first ∈ items, ∃ token behind, piece first = token :: behind ∧ token ≠ close)
    (enough : items.length < fuel) (rest : List Token) :
    parseEnclosed close item fuel (enclosed close (items.map piece) ++ rest) = some (items, rest) := by
  cases items with
  | nil => simp [enclosed, parseEnclosed]
  | cons first items =>
    obtain ⟨token, behind, headed, other⟩ := opens first List.mem_cons_self
    have one := parses first List.mem_cons_self (behindComma close (items.map piece) ++ rest)
    have others : parseBehind close item fuel (behindComma close (items.map piece) ++ rest) =
        some (items, rest) := parse_behind_inverts noComma
      (fun other mem => parses other (List.mem_cons_of_mem _ mem))
      (by simp only [List.length_cons] at enough; omega) rest
    rw [headed, List.cons_append] at one
    simp [enclosed, parseEnclosed, headed, other, one, others]

end

theorem parse_member_spelled {value : List Token → Option (Json × List Token)}
    (inverts : ∀ {found read rest}, value found = some (read, rest) → found = read.spell ++ rest)
    (parsed : parseMember value found = some (member, rest)) :
    found = spellMember member ++ rest := by
  unfold parseMember at parsed
  split at parsed
  case h_1 key behind =>
    obtain ⟨⟨read, behind'⟩, one, same⟩ := Option.map_eq_some_iff.mp parsed
    cases same
    simp [spellMember, inverts one]
  case h_2 => cases parsed

theorem parse_value_spelled (fuel : Nat) :
    ∀ {found value rest}, parseValue fuel found = some (value, rest) → found = value.spell ++ rest := by
  induction fuel with
  | zero =>
    intro found value rest parsed
    cases found <;> cases parsed
  | succ fuel ih =>
    intro found value rest parsed
    unfold parseValue at parsed
    split at parsed
    case h_1 same =>
      cases same
      obtain ⟨⟨items, behind⟩, read, same⟩ := Option.map_eq_some_iff.mp parsed
      cases same
      rw [parse_enclosed_spelled spell ih read]
      simp [spell, spell_items]
    case h_2 same =>
      cases same
      obtain ⟨⟨members, behind⟩, read, same⟩ := Option.map_eq_some_iff.mp parsed
      cases same
      rw [parse_enclosed_spelled spellMember (parse_member_spelled ih) read]
      simp [spell, spell_members]
    case h_3 => cases parsed; rfl
    case h_4 => cases parsed; rfl
    case h_5 => cases parsed

/-- The token a value is spelled with first closes nothing. -/
theorem spell_opens (value : Json) :
    ∃ token behind, value.spell = token :: behind ∧ token ≠ .closeArray ∧ token ≠ .closeObject := by
  cases value <;> exact ⟨_, _, rfl, by simp, by simp⟩

theorem length_behind (close : Token) (pieces : List (List Token)) :
    pieces.length < (behindComma close pieces).length ∧
      ∀ piece ∈ pieces, piece.length < (behindComma close pieces).length := by
  induction pieces with
  | nil => simp [behindComma]
  | cons piece pieces ih =>
    obtain ⟨many, each⟩ := ih
    simp only [behindComma, List.length_cons, List.length_append, List.forall_mem_cons]
    exact ⟨by omega, by omega, fun other mem => by have := each other mem; omega⟩

theorem length_enclosed (close : Token) (solid : ∀ piece ∈ pieces, piece ≠ []) :
    pieces.length < (enclosed close pieces).length ∧
      ∀ piece ∈ pieces, piece.length < (enclosed close pieces).length := by
  cases pieces with
  | nil => simp [enclosed]
  | cons piece pieces =>
    obtain ⟨many, each⟩ := length_behind close pieces
    have first := List.length_pos_iff.mpr (solid piece List.mem_cons_self)
    simp only [enclosed, List.length_cons, List.length_append, List.forall_mem_cons]
    exact ⟨by omega, by omega, fun other mem => by have := each other mem; omega⟩

theorem solid_items (items : List Json) : ∀ piece ∈ items.map spell, piece ≠ [] := by
  rintro piece mem rfl
  obtain ⟨item, -, same⟩ := List.mem_map.mp mem
  obtain ⟨token, behind, headed, -⟩ := spell_opens item
  rw [headed] at same
  cases same

theorem solid_members (members : List (Text × Json)) :
    ∀ piece ∈ members.map spellMember, piece ≠ [] := by
  rintro piece mem rfl
  obtain ⟨member, -, same⟩ := List.mem_map.mp mem
  cases same

theorem parse_value_inverts (fuel : Nat) :
    ∀ (value : Json) (rest : List Token), value.spell.length ≤ fuel →
      parseValue fuel (value.spell ++ rest) = some (value, rest) := by
  induction fuel with
  | zero =>
    intro value rest enough
    obtain ⟨token, behind, headed, -⟩ := spell_opens value
    simp [headed] at enough
  | succ fuel ih =>
    intro value rest enough
    cases value with
    | literal text => rfl
    | string text => rfl
    | array items =>
      simp only [spell, spell_items, List.length_cons] at enough
      obtain ⟨many, each⟩ := length_enclosed .closeArray (solid_items items)
      have parsed : parseEnclosed .closeArray (parseValue fuel) fuel
          (enclosed .closeArray (items.map spell) ++ rest) = some (items, rest) :=
        parse_enclosed_inverts (by simp)
        (fun item mem rest => ih item rest (by have := each _ (List.mem_map_of_mem mem); omega))
        (fun item _ => by
          obtain ⟨token, behind, headed, other, -⟩ := spell_opens item
          exact ⟨token, behind, headed, other⟩)
        (by simp only [List.length_map] at many; omega) rest
      simp [spell, spell_items, parseValue, parsed]
    | object members =>
      simp only [spell, spell_members, List.length_cons] at enough
      obtain ⟨many, each⟩ := length_enclosed .closeObject (solid_members members)
      have parsed : parseEnclosed .closeObject (parseMember (parseValue fuel)) fuel
          (enclosed .closeObject (members.map spellMember) ++ rest) = some (members, rest) :=
        parse_enclosed_inverts (by simp)
        (fun member mem rest => by
          have less := each _ (List.mem_map_of_mem mem)
          simp only [spellMember, List.length_cons] at less
          have one := ih member.2 rest (by omega)
          simp [parseMember, one])
        (fun member _ => ⟨_, _, rfl, by simp⟩)
        (by simp only [List.length_map] at many; omega) rest
      simp [spell, spell_members, parseValue, parsed]

/-- The parser takes what spells a value, and nothing else. -/
theorem parse_iff : parse found = some value ↔ found = value.spell := by
  constructor
  · intro parsed
    unfold parse at parsed
    split at parsed
    case h_1 read =>
      cases parsed
      simpa using parse_value_spelled _ read
    case h_2 => cases parsed
  · rintro rfl
    have parsed := parse_value_inverts (value.spell.length + 1) value [] (by omega)
    rw [List.append_nil] at parsed
    simp [parse, parsed]

theorem decode_iff : decode dialect text = some value ↔ Reads dialect text value.spell := by
  unfold decode
  rw [Option.bind_eq_some_iff]
  constructor
  · rintro ⟨found, read, parsed⟩
    rw [← parse_iff.mp parsed]
    exact tokens_iff.mp read
  · intro read
    exact ⟨_, tokens_iff.mpr read, parse_iff.mpr rfl⟩

/-! ### Literals never touch -/

theorem apart_cons (other : token.isLiteral = false) : Apart (token :: found) ↔ Apart found := by
  unfold Apart
  cases found with
  | nil => simp
  | cons second found => simp [List.isChain_cons_cons, other]

/-- A literal may end what stands in front of a token that is none. -/
theorem apart_join (front : Apart found) (back : Apart (token :: others))
    (other : token.isLiteral = false) : Apart (found ++ token :: others) := by
  refine List.isChain_append.mpr ⟨front, back, fun last _ first head _ => ?_⟩
  cases head
  exact other

theorem apart_behind (other : close.isLiteral = false) (each : ∀ piece ∈ pieces, Apart piece) :
    Apart (behindComma close pieces) := by
  induction pieces with
  | nil => exact List.isChain_singleton _
  | cons piece pieces ih =>
    have later := ih fun other mem => each other (List.mem_cons_of_mem _ mem)
    have first := each piece List.mem_cons_self
    refine (apart_cons rfl).mpr ?_
    cases pieces with
    | nil => exact apart_join first later other
    | cons second pieces => exact apart_join first later rfl

theorem apart_enclosed (other : close.isLiteral = false) (each : ∀ piece ∈ pieces, Apart piece) :
    Apart (enclosed close pieces) := by
  cases pieces with
  | nil => exact List.isChain_singleton _
  | cons piece pieces =>
    have later := apart_behind other fun other mem => each other (List.mem_cons_of_mem _ mem)
    have first := each piece List.mem_cons_self
    cases pieces with
    | nil => exact apart_join first later other
    | cons second pieces => exact apart_join first later rfl

theorem spell_apart (size : Nat) : ∀ value : Json, value.spell.length ≤ size → Apart value.spell := by
  induction size with
  | zero =>
    intro value least
    obtain ⟨token, behind, headed, -⟩ := spell_opens value
    simp [headed] at least
  | succ size ih =>
    intro value least
    cases value with
    | literal text => exact List.isChain_singleton _
    | string text => exact List.isChain_singleton _
    | array items =>
      simp only [spell, spell_items, List.length_cons] at least ⊢
      obtain ⟨-, each⟩ := length_enclosed .closeArray (solid_items items)
      refine (apart_cons rfl).mpr (apart_enclosed rfl fun piece mem => ?_)
      obtain ⟨item, -, rfl⟩ := List.mem_map.mp mem
      exact ih item (by have := each _ mem; omega)
    | object members =>
      simp only [spell, spell_members, List.length_cons] at least ⊢
      obtain ⟨-, each⟩ := length_enclosed .closeObject (solid_members members)
      refine (apart_cons rfl).mpr (apart_enclosed rfl fun piece mem => ?_)
      obtain ⟨member, -, rfl⟩ := List.mem_map.mp mem
      have less := each _ mem
      simp only [spellMember, List.length_cons] at less
      exact (apart_cons rfl).mpr ((apart_cons rfl).mpr (ih member.2 (by omega)))

/-! ### What is carried costs no more than what carries it -/

/-- What a list of pieces costs, without what stands between them. -/
def piecesCost (dialect : Dialect) (pieces : List (List Token)) : Nat :=
  (pieces.map (cost dialect)).sum

theorem cost_append (found others : List Token) :
    cost dialect (found ++ others) = cost dialect found + cost dialect others := by
  simp [cost]

theorem cost_cons (token : Token) (found : List Token) :
    cost dialect (token :: found) = token.cost dialect + cost dialect found := by
  simp [cost]

theorem cost_behind (one : close.cost dialect = 1) (pieces : List (List Token)) :
    cost dialect (behindComma close pieces) = piecesCost dialect pieces + pieces.length + 1 := by
  induction pieces with
  | nil => simp [behindComma, cost, piecesCost, one]
  | cons piece pieces ih =>
    simp only [behindComma, cost_cons, cost_append, ih, piecesCost, List.map_cons, List.sum_cons,
      List.length_cons, Token.cost]
    omega

theorem cost_enclosed (close : Token) (one : close.cost dialect = 1) (pieces : List (List Token)) :
    cost dialect (enclosed close pieces) = piecesCost dialect pieces + max 1 pieces.length := by
  cases pieces with
  | nil => simp [enclosed, cost, piecesCost, one]
  | cons piece pieces =>
    simp only [enclosed, cost_append, cost_behind one, piecesCost, List.map_cons, List.sum_cons,
      List.length_cons]
    omega

theorem items_carried_cost (dialect : Dialect)
    (each : ∀ item ∈ items, ∀ read, item.keyed = true → item.carriedBy read = true →
      cost dialect item.spell ≤ cost dialect read.spell)
    (keys : itemsKeyed items = true) (carried : itemsCarried items values = true) :
    items.length = values.length ∧
      piecesCost dialect (items.map spell) ≤ piecesCost dialect (values.map spell) := by
  induction items generalizing values with
  | nil => cases values <;> simp_all [itemsCarried, piecesCost]
  | cons item items ih =>
    cases values with
    | nil => cases carried
    | cons value values =>
      simp only [itemsCarried, Bool.and_eq_true] at carried
      simp only [itemsKeyed, Bool.and_eq_true] at keys
      obtain ⟨same, less⟩ :=
        ih (fun other mem => each other (List.mem_cons_of_mem _ mem)) keys.2 carried.2
      have first := each item List.mem_cons_self value keys.1 carried.1
      simp only [piecesCost, List.map_cons, List.sum_cons, List.length_cons] at less ⊢
      omega

def without (key : Text) (members : List (Text × Json)) : List (Text × Json) :=
  members.filter fun member => member.1 ≠ key

theorem last_of_mem (last : lastOf key members = some value) : (key, value) ∈ members := by
  obtain ⟨front, back, split, -⟩ := List.lookup_eq_some_iff.mp last
  exact List.mem_reverse.mp (split ▸ List.mem_append_cons_self)

theorem last_of_without (other : key' ≠ key) (members : List (Text × Json)) :
    lastOf key' (without key members) = lastOf key' members := by
  unfold lastOf without
  rw [← List.filter_reverse]
  induction members.reverse with
  | nil => rfl
  | cons member members ih =>
    obtain ⟨name, value⟩ := member
    by_cases kept : name = key
    · have passed : (key' == name) = false := by simp [kept, other]
      simp only [kept, ne_eq, not_true_eq_false, decide_false, Bool.false_eq_true,
        not_false_eq_true, List.filter_cons_of_neg, ih]
      rw [List.lookup_cons, ← kept, passed]
    · simp only [ne_eq, kept, not_false_eq_true, decide_true, List.filter_cons_of_pos,
        List.lookup_cons, ih]

theorem members_carried_without (unnamed : key ∉ members.map (·.1))
    (carried : membersCarried members found = true) :
    membersCarried members (without key found) = true := by
  induction members with
  | nil => rfl
  | cons member members ih =>
    simp only [List.map_cons, List.mem_cons, not_or] at unnamed
    simp only [membersCarried, Bool.and_eq_true] at carried ⊢
    rw [last_of_without (Ne.symm unnamed.1)]
    exact ⟨carried.1, ih unnamed.2 carried.2⟩

/-- Taking a key out takes at least one member with it. -/
theorem without_cost (dialect : Dialect) (mem : (key, value) ∈ members) :
    (without key members).length < members.length ∧
      cost dialect (spellMember (key, value)) +
        piecesCost dialect ((without key members).map spellMember) ≤
        piecesCost dialect (members.map spellMember) := by
  induction members with
  | nil => cases mem
  | cons member members ih =>
    have shorter : (without key members).length ≤ members.length := List.length_filter_le _ _
    have cheaper : piecesCost dialect ((without key members).map spellMember) ≤
        piecesCost dialect (members.map spellMember) :=
      ((List.filter_sublist.map _).map _).sum_le_sum (by simp)
    simp only [piecesCost, List.map_cons, List.sum_cons, List.length_cons] at cheaper ih ⊢
    rcases List.mem_cons.mp mem with rfl | later
    · have dropped : without key ((key, value) :: members) = without key members := by simp [without]
      rw [dropped]
      omega
    · obtain ⟨less, least⟩ := ih later
      by_cases kept : member.1 = key
      · have dropped : without key (member :: members) = without key members := by
          simp [without, kept]
        rw [dropped]
        omega
      · have stays : without key (member :: members) = member :: without key members := by
          simp [without, kept]
        rw [stays]
        simp only [List.map_cons, List.sum_cons, List.length_cons]
        omega

theorem members_carried_cost (dialect : Dialect)
    (each : ∀ member ∈ members, ∀ read, member.2.keyed = true → member.2.carriedBy read = true →
      cost dialect member.2.spell ≤ cost dialect read.spell)
    (distinct : (members.map (·.1)).Nodup) (keys : membersKeyed members = true)
    (carried : membersCarried members found = true) :
    members.length ≤ found.length ∧
      piecesCost dialect (members.map spellMember) ≤ piecesCost dialect (found.map spellMember) := by
  induction members generalizing found with
  | nil => simp [piecesCost]
  | cons member members ih =>
    obtain ⟨key, value⟩ := member
    simp only [membersCarried, Bool.and_eq_true] at carried
    simp only [membersKeyed, Bool.and_eq_true] at keys
    simp only [List.map_cons, List.nodup_cons] at distinct
    obtain ⟨carriedOne, carriedOthers⟩ := carried
    have once : (members.map (·.1)).contains key = false := by
      simpa using distinct.1
    rw [once, Bool.false_or] at carriedOne
    cases last : lastOf key found with
    | none => simp [last] at carriedOne
    | some read =>
      rw [last] at carriedOne
      have others := members_carried_without distinct.1 carriedOthers
      obtain ⟨fewer, less⟩ := ih (fun other mem => each other (List.mem_cons_of_mem _ mem))
        distinct.2 keys.2 others
      obtain ⟨shorter, least⟩ := without_cost dialect (last_of_mem last)
      have first : cost dialect value.spell ≤ cost dialect read.spell :=
        each _ List.mem_cons_self read keys.1 carriedOne
      simp only [piecesCost, List.map_cons, List.sum_cons, List.length_cons, spellMember, cost_cons]
        at less least ⊢
      omega

theorem carried_cost (dialect : Dialect) (size : Nat) : ∀ value read : Json, value.spell.length ≤ size →
    value.keyed = true → value.carriedBy read = true →
      cost dialect value.spell ≤ cost dialect read.spell := by
  induction size with
  | zero =>
    intro value read least
    obtain ⟨token, behind, headed, -⟩ := spell_opens value
    simp [headed] at least
  | succ size ih =>
    intro value read least keys carried
    cases value with
    | literal text =>
      cases read <;> simp only [carriedBy, decide_eq_true_eq, Bool.false_eq_true] at carried
      rw [carried]
    | string text =>
      cases read <;> simp only [carriedBy, decide_eq_true_eq, Bool.false_eq_true] at carried
      rw [carried]
    | array items =>
      cases read with
      | array values =>
        simp only [spell, spell_items, List.length_cons] at least
        obtain ⟨-, each⟩ := length_enclosed .closeArray (solid_items items)
        obtain ⟨same, less⟩ := items_carried_cost dialect
          (fun item mem read => ih item read (by have := each _ (List.mem_map_of_mem mem); omega))
          keys carried
        simp only [spell, spell_items, cost_cons, cost_enclosed .closeArray rfl,
          List.length_map]
        omega
      | literal text => cases carried
      | string text => cases carried
      | object members => cases carried
    | object members =>
      cases read with
      | object found =>
        simp only [spell, spell_members, List.length_cons] at least
        obtain ⟨-, each⟩ := length_enclosed .closeObject (solid_members members)
        simp only [keyed, Bool.and_eq_true, decide_eq_true_eq] at keys
        obtain ⟨fewer, less⟩ := members_carried_cost dialect
          (fun member mem read => ih member.2 read (by
            have shorter := each _ (List.mem_map_of_mem mem)
            simp only [spellMember, List.length_cons] at shorter
            omega))
          keys.1 keys.2 carried
        simp only [spell, spell_members, cost_cons, cost_enclosed .closeObject rfl,
          List.length_map]
        omega
      | literal text => cases carried
      | string text => cases carried
      | array items => cases carried

/-! ### A value carries itself -/

theorem items_carried_self (each : ∀ item ∈ items, item.carriedBy item = true) :
    itemsCarried items items = true := by
  induction items with
  | nil => rfl
  | cons item items ih =>
    simp only [itemsCarried, Bool.and_eq_true]
    exact ⟨each item List.mem_cons_self, ih fun other mem => each other (List.mem_cons_of_mem _ mem)⟩

theorem last_of_append (front : List (Text × Json)) (unnamed : key ∉ members.map (·.1)) :
    lastOf key (front ++ (key, value) :: members) = some value := by
  have none : members.reverse.lookup key = none := by
    rw [List.lookup_eq_none_iff]
    intro other found
    have there := List.mem_map_of_mem (f := (·.1)) (List.mem_reverse.mp found)
    simpa using fun same : key = other.1 => unnamed (same ▸ there)
  simp [lastOf, List.lookup_append, none]

theorem members_carried_self (each : ∀ member ∈ members, member.2.carriedBy member.2 = true)
    (front : List (Text × Json)) : membersCarried members (front ++ members) = true := by
  induction members generalizing front with
  | nil => rfl
  | cons member members ih =>
    obtain ⟨key, value⟩ := member
    have others := ih (fun other mem => each other (List.mem_cons_of_mem _ mem))
      (front ++ [(key, value)])
    rw [List.append_assoc, List.singleton_append] at others
    simp only [membersCarried, Bool.and_eq_true, others, and_true]
    by_cases again : key ∈ members.map (·.1)
    · rw [List.contains_iff_mem.mpr again, Bool.true_or]
    · have first : value.carriedBy value = true := each _ List.mem_cons_self
      simp only [last_of_append front again, first, Bool.or_true]

theorem carried_self (size : Nat) : ∀ value : Json, value.spell.length ≤ size →
    value.carriedBy value = true := by
  induction size with
  | zero =>
    intro value least
    obtain ⟨token, behind, headed, -⟩ := spell_opens value
    simp [headed] at least
  | succ size ih =>
    intro value least
    cases value with
    | literal text => simp [carriedBy]
    | string text => simp [carriedBy]
    | array items =>
      simp only [spell, spell_items, List.length_cons] at least
      obtain ⟨-, each⟩ := length_enclosed .closeArray (solid_items items)
      exact items_carried_self fun item mem =>
        ih item (by have := each _ (List.mem_map_of_mem mem); omega)
    | object members =>
      simp only [spell, spell_members, List.length_cons] at least
      obtain ⟨-, each⟩ := length_enclosed .closeObject (solid_members members)
      refine members_carried_self (fun member mem => ?_) []
      have shorter := each _ (List.mem_map_of_mem mem)
      simp only [spellMember, List.length_cons] at shorter
      exact ih member.2 (by omega)

/-! ### What is written as it is -/

variable {value read : Json} {front inner back : List Token} {gaps gaps' : List Nat} {data : Text}

/-- Tokens that are written as they are around a text are read with it as the value they spell
together. -/
theorem decode_among (spelled : value.spell = front ++ (inner ++ back))
    (known : Plain dialect front ∧ Plain dialect back) (sound : Sound dialect front ∧ Sound dialect back)
    (ends : ∀ token ∈ front.getLast?, token.isLiteral = false)
    (follows : ∀ token ∈ back.head?, token.isLiteral = false) (read : Reads dialect data inner) :
    decode dialect (write gaps front (data ++ write gaps' back [])) = some value := by
  have apart := spell_apart _ value (Nat.le_refl _)
  rw [spelled] at apart
  have apartBack : Apart back := (apart.right_of_append).right_of_append
  have last : Reads dialect (write gaps' back []) (back ++ []) := reads_written known.2 sound.2
    apartBack (by rintro _ _ _ ⟨_, _, headed, _⟩; cases headed) ⟨1, rfl⟩
  rw [List.append_nil] at last
  have separate : ¬BareHead (write gaps' back []) := by
    cases back with
    | nil =>
      rintro ⟨_, _, headed, _⟩
      cases gaps' <;> cases headed
    | cons token back =>
      intro bared
      have other := follows token rfl
      rw [bare_head_written bared] at other
      cases other
  have middle := reads_append read last separate
  rw [decode_iff, spelled]
  refine reads_written known.1 sound.1 apart.left_of_append
    (fun token mem literal => ?_) middle
  rw [ends token mem] at literal
  cases literal

/-- Written as they are around a text that has no ink to spare, the tokens of a value are carried by
what is read only if each of their strings may stand as it is. -/
theorem carried_among (spelled : value.spell = front ++ (inner ++ back)) (keys : value.keyed = true)
    (sound : Sound dialect front ∧ Sound dialect back) (terse : ink data ≤ cost dialect inner)
    (decoded : decode dialect (write gaps front (data ++ write gaps' back [])) = some read)
    (carried : value.carriedBy read = true) : Plain dialect front ∧ Plain dialect back := by
  have held := reads_cost (decode_iff.mp decoded)
  have less := carried_cost dialect _ value read (Nat.le_refl _) keys carried
  rw [spelled, cost_append, cost_append] at less
  have most := ink_written sound.1 gaps (data ++ write gaps' back [])
  have lastMost := ink_written sound.2 gaps' []
  rw [ink_append] at most
  rw [ink_nil] at lastMost
  refine ⟨plain_written sound.1 gaps (data ++ write gaps' back []) ?_,
    plain_written sound.2 gaps' [] ?_⟩
  · rw [ink_append]
    omega
  · rw [ink_nil]
    omega

end BeeSdk.JsonText
