import BeeSdk.JsonTokensProofs

/-! JSON values: how one is spelled in tokens, how a reader gets one back out of a text, and
when a value that was read carries another: the fields of the other are all there. -/
namespace BeeSdk.JsonText

/-- The members of an object stand in the order of the text. -/
inductive Json where
  | literal (text : Text)
  | string (text : Text)
  | array (items : List Json)
  | object (members : List (Text × Json))

/-! ### Spelling -/

def behindComma (close : Token) : List (List Token) → List Token
  | [] => [close]
  | piece :: pieces => .comma :: (piece ++ behindComma close pieces)

/-- Pieces with commas between them, and what closes them. -/
def enclosed (close : Token) : List (List Token) → List Token
  | [] => [close]
  | piece :: pieces => piece ++ behindComma close pieces

namespace Json

mutual

def spell : Json → List Token
  | .literal text => [.literal text]
  | .string text => [.string text]
  | .array items => .openArray :: enclosed .closeArray (spellItems items)
  | .object members => .openObject :: enclosed .closeObject (spellMembers members)

def spellItems : List Json → List (List Token)
  | [] => []
  | item :: items => item.spell :: spellItems items

def spellMembers : List (Text × Json) → List (List Token)
  | [] => []
  | (key, value) :: members => (.string key :: .colon :: value.spell) :: spellMembers members

end

def spellMember (member : Text × Json) : List Token :=
  .string member.1 :: .colon :: member.2.spell

theorem spell_items (items : List Json) : spellItems items = items.map spell := by
  induction items with
  | nil => rfl
  | cons item items ih => simp only [spellItems, List.map_cons, ih]

theorem spell_members (members : List (Text × Json)) :
    spellMembers members = members.map spellMember := by
  induction members with
  | nil => rfl
  | cons member members ih => simp only [spellMembers, List.map_cons, ih, spellMember]

end Json

/-! ### Parsing -/

section
variable {α : Type} (close : Token) (item : List Token → Option (α × List Token))

def parseBehind : Nat → List Token → Option (List α × List Token)
  | 0, _ => none
  | _ + 1, [] => none
  | fuel + 1, token :: rest =>
    if token = close then some ([], rest)
    else if token = .comma then do
      let (first, rest) ← item rest
      let (others, rest) ← parseBehind fuel rest
      some (first :: others, rest)
    else none

def parseEnclosed (fuel : Nat) : List Token → Option (List α × List Token)
  | [] => none
  | token :: rest =>
    if token = close then some ([], rest)
    else do
      let (first, rest) ← item (token :: rest)
      let (others, rest) ← parseBehind close item fuel rest
      some (first :: others, rest)

end

def parseMember (value : List Token → Option (Json × List Token)) :
    List Token → Option ((Text × Json) × List Token)
  | .string key :: .colon :: rest => (value rest).map fun read => ((key, read.1), read.2)
  | _ => none

def parseValue : Nat → List Token → Option (Json × List Token)
  | fuel + 1, .openArray :: rest =>
    (parseEnclosed .closeArray (parseValue fuel) fuel rest).map fun read => (.array read.1, read.2)
  | fuel + 1, .openObject :: rest =>
    (parseEnclosed .closeObject (parseMember (parseValue fuel)) fuel rest).map
      fun read => (.object read.1, read.2)
  | _ + 1, .string text :: rest => some (.string text, rest)
  | _ + 1, .literal text :: rest => some (.literal text, rest)
  | _, _ => none

/-- The one value that all of the tokens spell. -/
def parse (found : List Token) : Option Json :=
  match parseValue (found.length + 1) found with
  | some (value, []) => some value
  | _ => none

/-- What a reader gets out of a text. -/
def decode (dialect : Dialect) (text : Text) : Option Json := (tokens dialect text).bind parse

/-! ### Carrying -/

/-- A reader that finds a key twice goes by the last. -/
def lastOf (key : Text) (members : List (Text × Json)) : Option Json := members.reverse.lookup key

namespace Json

mutual

/-- Is the first value all found in the second? Of a key that it names twice only the last value
has to be, and members that it does not name may be there. -/
def carriedBy : Json → Json → Bool
  | .literal text, .literal read => text = read
  | .string text, .string read => text = read
  | .array items, .array values => itemsCarried items values
  | .object members, .object found => membersCarried members found
  | _, _ => false

def itemsCarried : List Json → List Json → Bool
  | [], [] => true
  | item :: items, value :: values => item.carriedBy value && itemsCarried items values
  | _, _ => false

def membersCarried : List (Text × Json) → List (Text × Json) → Bool
  | [], _ => true
  | (key, value) :: members, found =>
    ((members.map (·.1)).contains key || match lastOf key found with
      | some read => value.carriedBy read
      | none => false) && membersCarried members found

end

mutual

/-- No object names a key twice. -/
def keyed : Json → Bool
  | .array items => itemsKeyed items
  | .object members => decide (members.map (·.1)).Nodup && membersKeyed members
  | _ => true

def itemsKeyed : List Json → Bool
  | [] => true
  | item :: items => item.keyed && itemsKeyed items

def membersKeyed : List (Text × Json) → Bool
  | [] => true
  | (_, value) :: members => value.keyed && membersKeyed members

end

end Json
end BeeSdk.JsonText
