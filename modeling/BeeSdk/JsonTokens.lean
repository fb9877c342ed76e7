import Mathlib.Algebra.GroupWithZero.Nat
import Mathlib.Data.List.Chain
import Mathlib.Tactic.Common

/-! The tokens of a JSON text: how one is written down with its characters as they are, how a
reader takes a text apart, and what a token costs: the fewest characters other than the space
that can spell it. -/
namespace BeeSdk.JsonText

abbrev Text := List Char

/-- Numbers and the three words are one kind: a run of letters, digits, signs and points. -/
inductive Token where
  | openObject
  | closeObject
  | openArray
  | closeArray
  | comma
  | colon
  | string (text : Text)
  | literal (text : Text)
  deriving DecidableEq

/-- A reader goes by which characters it takes as they are inside a string, the quote and the
backslash apart, and by which literals it knows. -/
structure Dialect where
  raw : Char → Bool
  known : Text → Bool
  printable : ∀ symbol, 32 ≤ symbol.toNat → raw symbol = true

def bare (symbol : Char) : Bool :=
  symbol.isAlphanum || symbol = '+' || symbol = '-' || symbol = '.'

def blank (symbol : Char) : Bool :=
  symbol = ' ' || symbol = '\t' || symbol = '\n' || symbol = '\r'

namespace Token

def isLiteral : Token → Bool
  | .literal _ => true
  | _ => false

/-- A token with its characters as they are, in front of a text. -/
def write : Token → Text → Text
  | .openObject, rest => '{' :: rest
  | .closeObject, rest => '}' :: rest
  | .openArray, rest => '[' :: rest
  | .closeArray, rest => ']' :: rest
  | .comma, rest => ',' :: rest
  | .colon, rest => ':' :: rest
  | .string text, rest => '"' :: (text ++ '"' :: rest)
  | .literal text, rest => text ++ rest

end Token

/-- Tokens in front of a text, each after its number of spaces. -/
def write : List Nat → List Token → Text → Text
  | _, [], rest => rest
  | [], token :: tokens, rest => token.write (write [] tokens rest)
  | gap :: gaps, token :: tokens, rest =>
    List.replicate gap ' ' ++ token.write (write gaps tokens rest)

/-! ### Reading -/

def hexDigit (symbol : Char) : Option Nat :=
  if symbol.isDigit then some (symbol.toNat - '0'.toNat)
  else if 'a' ≤ symbol ∧ symbol ≤ 'f' then some (symbol.toNat - 'a'.toNat + 10)
  else if 'A' ≤ symbol ∧ symbol ≤ 'F' then some (symbol.toNat - 'A'.toNat + 10)
  else none

/-- Four hexadecimal digits. -/
def codeUnit : Text → Option (Nat × Text)
  | first :: second :: third :: fourth :: rest => do
    let high := (← hexDigit first) * 16 + (← hexDigit second)
    let low := (← hexDigit third) * 16 + (← hexDigit fourth)
    some (high * 256 + low, rest)
  | _ => none

/-- The second half of a character that takes two code units. -/
def trailUnit : Text → Option (Nat × Text)
  | '\\' :: 'u' :: rest => do
    let (unit, rest) ← codeUnit rest
    if 0xDC00 ≤ unit ∧ unit < 0xE000 then some (unit - 0xDC00, rest) else none
  | _ => none

/-- The characters that stand for one another behind a backslash. -/
def shorthand (symbol : Char) : Option Char :=
  if symbol = '"' ∨ symbol = '\\' ∨ symbol = '/' then some symbol
  else if symbol = 'b' then some '\x08'
  else if symbol = 'f' then some '\x0c'
  else if symbol = 'n' then some '\n'
  else if symbol = 'r' then some '\r'
  else if symbol = 't' then some '\t'
  else none

/-- What stands behind a backslash. -/
def escaped : Text → Option (Char × Text)
  | [] => none
  | symbol :: rest =>
    if symbol = 'u' then do
      let (unit, rest) ← codeUnit rest
      if 0xD800 ≤ unit ∧ unit < 0xDC00 then do
        let (trail, rest) ← trailUnit rest
        some (Char.ofNat (0x10000 + (unit - 0xD800) * 1024 + trail), rest)
      else if 0xDC00 ≤ unit ∧ unit < 0xE000 then none
      else some (Char.ofNat unit, rest)
    else (shorthand symbol).map fun meant => (meant, rest)

section
variable (dialect : Dialect)

/-- A string behind its opening quote, to its closing one. -/
def readString : Nat → Text → Option (Text × Text)
  | 0, _ => none
  | _ + 1, [] => none
  | fuel + 1, symbol :: rest =>
    if symbol = '"' then some ([], rest)
    else if symbol = '\\' then do
      let (meant, rest) ← escaped rest
      let (text, rest) ← readString fuel rest
      some (meant :: text, rest)
    else if dialect.raw symbol then do
      let (text, rest) ← readString fuel rest
      some (symbol :: text, rest)
    else none

def mark (symbol : Char) : Option Token :=
  if symbol = '{' then some .openObject
  else if symbol = '}' then some .closeObject
  else if symbol = '[' then some .openArray
  else if symbol = ']' then some .closeArray
  else if symbol = ',' then some .comma
  else if symbol = ':' then some .colon
  else none

def readLiteral (text : Text) : Option (Token × Text) :=
  let literal := text.takeWhile bare
  if literal ≠ [] ∧ dialect.known literal then some (.literal literal, text.dropWhile bare)
  else none

/-- The token a text begins with, and what follows it. -/
def nextToken : Text → Option (Token × Text)
  | [] => none
  | symbol :: rest =>
    match mark symbol with
    | some token => some (token, rest)
    | none =>
      if symbol = '"' then
        (readString dialect (rest.length + 1) rest).map fun read => (.string read.1, read.2)
      else readLiteral dialect (symbol :: rest)

/-- All tokens of a text. -/
def readTokens : Nat → Text → Option (List Token)
  | 0, _ => none
  | fuel + 1, text =>
    match text.dropWhile blank with
    | [] => some []
    | symbol :: rest => do
      let (token, rest) ← nextToken dialect (symbol :: rest)
      let tokens ← readTokens fuel rest
      some (token :: tokens)

def tokens (text : Text) : Option (List Token) := readTokens dialect (text.length + 1) text

/-! ### Costs -/

/-- The characters of a text, its spaces apart. -/
def ink (text : Text) : Nat := text.countP (· ≠ ' ')

/-- May the character stand for itself in a string? -/
def plain (symbol : Char) : Bool := symbol ≠ '"' && symbol ≠ '\\' && dialect.raw symbol

/-- A character that cannot stand for itself takes two others at the least. -/
def symbolCost (symbol : Char) : Nat :=
  if plain dialect symbol then (if symbol = ' ' then 0 else 1) else 2

def textCost (text : Text) : Nat := (text.map (symbolCost dialect)).sum

namespace Token

def plain : Token → Bool
  | .string text => text.all (JsonText.plain dialect)
  | _ => true

/-- A literal that its reader takes for one token. -/
def sound : Token → Bool
  | .literal text => text ≠ [] && text.all bare && dialect.known text
  | _ => true

def cost : Token → Nat
  | .string text => textCost dialect text + 2
  | .literal text => text.length
  | _ => 1

end Token

def cost (tokens : List Token) : Nat := (tokens.map (Token.cost dialect)).sum

/-- No two literals stand side by side. -/
def Apart (tokens : List Token) : Prop :=
  tokens.IsChain fun front back => front.isLiteral = true → back.isLiteral = false

end
end BeeSdk.JsonText
