import BeeSdk.JsonTextProofs
import Mathlib.Data.List.TakeWhile

/-! The standard dialect, its numbers, and which strings, keys and literals a value is made of. -/
namespace BeeSdk.JsonText

/-! ### Numerals -/

def digits (text : Text) : Bool := text ≠ [] && text.all Char.isDigit

def isExponent : Text → Bool
  | [] => true
  | symbol :: rest =>
    (symbol = 'e' || symbol = 'E') &&
      match rest with
      | sign :: exponent =>
        if sign = '+' || sign = '-' then digits exponent else digits (sign :: exponent)
      | [] => false

/-- What may stand behind the whole part of a number. -/
def isFraction : Text → Bool
  | [] => true
  | symbol :: rest =>
    if symbol = '.' then digits (rest.takeWhile Char.isDigit) && isExponent (rest.dropWhile Char.isDigit)
    else isExponent (symbol :: rest)

def isUnsigned (text : Text) : Bool :=
  let whole := text.takeWhile Char.isDigit
  whole ≠ [] && (whole = ['0'] || whole.head? ≠ some '0') && isFraction (text.dropWhile Char.isDigit)

def isNumeral : Text → Bool
  | [] => false
  | symbol :: rest => if symbol = '-' then isUnsigned rest else isUnsigned (symbol :: rest)

/-- No character below the space may stand in a string as it is. -/
def strict : Dialect where
  raw symbol := 32 ≤ symbol.toNat
  known literal :=
    isNumeral literal || literal = "true".toList || literal = "false".toList || literal = "null".toList
  printable _ least := by simpa using least

/-- `%d`. -/
def decimal : Int → Text
  | .ofNat number => Nat.toDigits 10 number
  | .negSucc number => '-' :: Nat.toDigits 10 (number + 1)

def boolean (flag : Bool) : Text := if flag then "true".toList else "false".toList

theorem digits_of_number (number : Nat) : digits (Nat.toDigits 10 number) = true := by
  simp only [digits, ne_eq, Nat.toDigits_ne_nil, not_false_eq_true, decide_true, Bool.true_and,
    List.all_eq_true]
  exact fun symbol mem => Nat.isDigit_of_mem_toDigits (by decide) (by decide) mem

theorem no_leading_zero (number : Nat) (more : number ≠ 0) :
    (Nat.toDigits 10 number).head? ≠ some '0' := by
  induction number using Nat.strongRecOn with
  | ind number ih =>
    by_cases single : number < 10
    · rw [Nat.toDigits_of_lt_base single]
      simpa using more
    · have front := ih (number / 10) (by omega) (by omega)
      rw [Nat.toDigits_of_base_le (by decide) (by omega), List.head?_append]
      cases shape : Nat.toDigits 10 (number / 10) with
      | nil => exact absurd shape Nat.toDigits_ne_nil
      | cons digit others => simpa [shape] using front

theorem unsigned_number (number : Nat) : isUnsigned (Nat.toDigits 10 number) = true := by
  have known := digits_of_number number
  simp only [digits, Bool.and_eq_true, decide_eq_true_eq] at known
  have all := List.all_eq_true.mp known.2
  have taken : (Nat.toDigits 10 number).takeWhile Char.isDigit = Nat.toDigits 10 number :=
    List.takeWhile_eq_self_iff.mpr all
  have dropped : (Nat.toDigits 10 number).dropWhile Char.isDigit = [] :=
    List.dropWhile_eq_nil_iff.mpr all
  simp only [isUnsigned, taken, dropped, isFraction, Bool.and_true]
  by_cases zero : number = 0
  · subst zero
    rfl
  · simp [no_leading_zero number zero]

theorem numeral_decimal (number : Int) : isNumeral (decimal number) = true := by
  cases number with
  | ofNat number =>
    have known := unsigned_number number
    have all := digits_of_number number
    simp only [decimal]
    cases shape : Nat.toDigits 10 number with
    | nil => exact absurd shape Nat.toDigits_ne_nil
    | cons digit others =>
      rw [shape] at known all
      have plus : digit ≠ '-' := by
        rintro rfl
        simp [digits] at all
      simp [isNumeral, plus, known]
  | negSucc number => simp [decimal, isNumeral, unsigned_number]

theorem digit_bare (digit : symbol.isDigit = true) : bare symbol = true := by
  simp [bare, Char.isAlphanum, digit]

theorem bare_decimal (number : Int) : (decimal number).all bare = true := by
  have bares : ∀ number, (Nat.toDigits 10 number).all bare = true := fun number =>
    List.all_eq_true.mpr fun symbol mem =>
      digit_bare (Nat.isDigit_of_mem_toDigits (by decide) (by decide) mem)
  cases number with
  | ofNat number => exact bares number
  | negSucc number =>
    have minus : bare '-' = true := by decide
    simp only [decimal, List.all_cons, minus, bares, Bool.and_self]

theorem sound_decimal (number : Int) : (Token.literal (decimal number)).sound strict = true := by
  have known := numeral_decimal number
  have solid : decimal number ≠ [] := by
    cases number with
    | ofNat number => exact Nat.toDigits_ne_nil
    | negSucc number => simp [decimal]
  simp [Token.sound, solid, bare_decimal, strict, known]

theorem sound_boolean (flag : Bool) : (Token.literal (boolean flag)).sound strict = true := by
  cases flag <;> decide

/-! ### What a value is made of -/

namespace Json

mutual

/-- The strings among the values. -/
def texts : Json → List Text
  | .literal _ => []
  | .string text => [text]
  | .array items => itemsTexts items
  | .object members => membersTexts members

def itemsTexts : List Json → List Text
  | [] => []
  | item :: items => item.texts ++ itemsTexts items

def membersTexts : List (Text × Json) → List Text
  | [] => []
  | (_, value) :: members => value.texts ++ membersTexts members

end

mutual

def names : Json → List Text
  | .array items => itemsNames items
  | .object members => membersNames members
  | _ => []

def itemsNames : List Json → List Text
  | [] => []
  | item :: items => item.names ++ itemsNames items

def membersNames : List (Text × Json) → List Text
  | [] => []
  | (key, value) :: members => key :: (value.names ++ membersNames members)

end

mutual

def literals : Json → List Text
  | .literal text => [text]
  | .string _ => []
  | .array items => itemsLiterals items
  | .object members => membersLiterals members

def itemsLiterals : List Json → List Text
  | [] => []
  | item :: items => item.literals ++ itemsLiterals items

def membersLiterals : List (Text × Json) → List Text
  | [] => []
  | (_, value) :: members => value.literals ++ membersLiterals members

end

end Json

variable {holds : Token → Prop}

theorem behind_holds (closes : holds close) (comma : holds .comma) :
    (∀ token ∈ behindComma close pieces, holds token) ↔
      ∀ piece ∈ pieces, ∀ token ∈ piece, holds token := by
  induction pieces with
  | nil => simp [behindComma, closes]
  | cons piece pieces ih =>
    simp only [behindComma, List.forall_mem_cons, List.forall_mem_append, comma, ih, true_and]

theorem enclosed_holds (holds : Token → Prop) (closes : holds close) (comma : holds .comma) :
    (∀ token ∈ enclosed close pieces, holds token) ↔
      ∀ piece ∈ pieces, ∀ token ∈ piece, holds token := by
  cases pieces with
  | nil => simp [enclosed, closes]
  | cons piece pieces =>
    simp only [enclosed, List.forall_mem_cons, List.forall_mem_append, behind_holds closes comma]

/-- The texts, the names and the literals of a value have a property. -/
def Held (holds : Token → Prop) (texts names literals : List Text) : Prop :=
  (∀ text ∈ texts, holds (.string text)) ∧ (∀ name ∈ names, holds (.string name)) ∧
    ∀ literal ∈ literals, holds (.literal literal)

theorem held_append (texts names literals texts' names' literals' : List Text) :
    Held holds (texts ++ texts') (names ++ names') (literals ++ literals') ↔
      Held holds texts names literals ∧ Held holds texts' names' literals' := by
  simp only [Held, List.forall_mem_append]
  grind

theorem held_name (key : Text) (texts names literals : List Text) :
    Held holds texts (key :: names) literals ↔
      holds (.string key) ∧ Held holds texts names literals := by
  simp only [Held, List.forall_mem_cons]
  grind

theorem items_held (each : ∀ item ∈ items, (∀ token ∈ item.spell, holds token) ↔
      Held holds item.texts item.names item.literals) :
    (∀ piece ∈ items.map Json.spell, ∀ token ∈ piece, holds token) ↔
      Held holds (Json.itemsTexts items) (Json.itemsNames items) (Json.itemsLiterals items) := by
  induction items with
  | nil => simp [Held, Json.itemsTexts, Json.itemsNames, Json.itemsLiterals]
  | cons item items ih =>
    simp only [List.map_cons, List.forall_mem_cons, Json.itemsTexts, Json.itemsNames,
      Json.itemsLiterals, held_append, each item List.mem_cons_self,
      ih fun other mem => each other (List.mem_cons_of_mem _ mem)]

theorem members_held (colon : holds .colon)
    (each : ∀ member ∈ members, (∀ token ∈ member.2.spell, holds token) ↔
      Held holds member.2.texts member.2.names member.2.literals) :
    (∀ piece ∈ members.map Json.spellMember, ∀ token ∈ piece, holds token) ↔
      Held holds (Json.membersTexts members) (Json.membersNames members)
        (Json.membersLiterals members) := by
  induction members with
  | nil => simp [Held, Json.membersTexts, Json.membersNames, Json.membersLiterals]
  | cons member members ih =>
    simp only [List.map_cons, List.forall_mem_cons, Json.spellMember, Json.membersTexts,
      Json.membersNames, Json.membersLiterals, held_name, held_append, colon, true_and,
      each member List.mem_cons_self, ih fun other mem => each other (List.mem_cons_of_mem _ mem),
      and_assoc]

/-- What holds of every mark holds of a whole value if it holds of what the value is made of. -/
theorem spell_holds (holds : Token → Prop)
    (marks : ∀ token, (∀ text, token ≠ .string text ∧ token ≠ .literal text) → holds token)
    (size : Nat) : ∀ value : Json, value.spell.length ≤ size →
      ((∀ token ∈ value.spell, holds token) ↔ Held holds value.texts value.names value.literals) := by
  induction size with
  | zero =>
    intro value least
    obtain ⟨token, behind, headed, -⟩ := spell_opens value
    simp [headed] at least
  | succ size ih =>
    intro value least
    have comma : holds .comma := marks _ fun text => ⟨by simp, by simp⟩
    have colon : holds .colon := marks _ fun text => ⟨by simp, by simp⟩
    cases value with
    | literal text => simp [Json.spell, Json.texts, Json.names, Json.literals, Held]
    | string text => simp [Json.spell, Json.texts, Json.names, Json.literals, Held]
    | array items =>
      have opens : holds .openArray := marks _ fun text => ⟨by simp, by simp⟩
      have closes : holds .closeArray := marks _ fun text => ⟨by simp, by simp⟩
      simp only [Json.spell, Json.spell_items, List.length_cons] at least ⊢
      obtain ⟨-, each⟩ := length_enclosed .closeArray (solid_items items)
      rw [List.forall_mem_cons, enclosed_holds holds closes comma, items_held fun item mem =>
        ih item (by have := each _ (List.mem_map_of_mem mem); omega)]
      simp [opens, Json.texts, Json.names, Json.literals]
    | object members =>
      have opens : holds .openObject := marks _ fun text => ⟨by simp, by simp⟩
      have closes : holds .closeObject := marks _ fun text => ⟨by simp, by simp⟩
      simp only [Json.spell, Json.spell_members, List.length_cons] at least ⊢
      obtain ⟨-, each⟩ := length_enclosed .closeObject (solid_members members)
      rw [List.forall_mem_cons, enclosed_holds holds closes comma, members_held colon fun member mem =>
        ih member.2 (by
          have shorter := each _ (List.mem_map_of_mem mem)
          simp only [Json.spellMember, List.length_cons] at shorter
          omega)]
      simp [opens, Json.texts, Json.names, Json.literals]

theorem sound_iff {value : Json} : Sound dialect value.spell ↔
    ∀ literal ∈ value.literals, (Token.literal literal).sound dialect = true := by
  have parts := spell_holds (fun token => token.sound dialect = true)
    (fun token other => by cases token <;> simp_all [Token.sound]) _ value (Nat.le_refl _)
  refine parts.trans ?_
  simp [Held, Token.sound]

end BeeSdk.JsonText
