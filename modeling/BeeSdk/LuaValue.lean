import BeeSdk.HttpHeader
import BeeSdk.Script
import BeeSdk.TextSearch
import Mathlib.Algebra.Group.Int.Defs
import Mathlib.Algebra.Group.Nat.Defs

/-! The values a script gets out of JSON text, and what it can do with them. -/
namespace BeeSdk
open HttpHeader (Text)

namespace LuaNumber

/-! ### Doubles -/

/-- The double that is nearest to a fraction, in units of the smallest one; of two the even one. -/
def nearestDouble (num den : Nat) : Nat :=
  let scaled := num * 2 ^ 1074
  let unit := 2 ^ (Nat.log2 (scaled / den) - 52)
  let down := scaled / (den * unit)
  let rest := scaled % (den * unit)
  if 2 * rest > den * unit ∨ (2 * rest = den * unit ∧ down % 2 = 1) then (down + 1) * unit
  else down * unit

/-- The double of a fraction, where it is a whole number. From 2^1024 on it is infinite. -/
def wholeDouble (num den : Nat) : Option Nat :=
  let units := nearestDouble num den
  if units % 2 ^ 1074 = 0 then some (min (units / 2 ^ 1074) (2 ^ 1024)) else none

/-- The double of a whole number; the first ones all have one of their own. -/
def doubleOf (value : Int) : Int :=
  if value.natAbs < 2 ^ 53 then value
  else value.sign * (wholeDouble value.natAbs 1).getD 0

/-- `lua_numbertointeger`. -/
def numberToInteger (value : Int) : Option Int :=
  if -2 ^ 63 ≤ value ∧ value < 2 ^ 63 then some value else none

/-! ### Numerals -/

def isSpace (symbol : Char) : Bool := symbol = ' ' || (9 ≤ symbol.toNat && symbol.toNat ≤ 13)

def isHexDigit (symbol : Char) : Bool :=
  symbol.isDigit || ('a' ≤ symbol.toLower && symbol.toLower ≤ 'f')

def digits (base : Nat) (text : Text) : Nat :=
  text.foldl (fun number digit => number * base +
    if digit.isDigit then digit.toNat - '0'.toNat else digit.toLower.toNat - 'a'.toNat + 10) 0

/-- Whether a minus sign stands in front, and what stands behind a sign. -/
def unsigned : Text → Bool × Text
  | '-' :: rest => (true, rest)
  | '+' :: rest => (false, rest)
  | text => (false, text)

/-- What stands behind the mark of a hexadecimal numeral. -/
def hexadecimal : Text → Option Text
  | '0' :: 'x' :: rest | '0' :: 'X' :: rest => some rest
  | _ => none

/-- `l_str2int`. Hexadecimal ones wrap around, decimal ones have to fit. -/
def strToInt (text : Text) : Option Int :=
  let (negative, numeral) := unsigned (TextSearch.trim isSpace text)
  match hexadecimal numeral with
  | some symbols =>
    if symbols = [] ∨ ¬ symbols.all isHexDigit then none
    else some ((if negative then -(digits 16 symbols : Int) else digits 16 symbols).bmod (2 ^ 64))
  | none =>
    if numeral = [] ∨ ¬ numeral.all Char.isDigit then none
    else numberToInteger (if negative then -(digits 10 numeral : Int) else digits 10 numeral)

/-- The exponent behind its mark. -/
def exponentOf (mark : Char) : Text → Option Int
  | [] => some 0
  | symbol :: rest =>
    let (negative, symbols) := unsigned rest
    if symbol.toLower ≠ mark ∨ symbols = [] ∨ ¬ symbols.all Char.isDigit then none
    else some (if negative then -(digits 10 symbols : Int) else digits 10 symbols)

/-- A numeral with a point and an exponent, as a fraction. -/
def fractionOf (isDigit : Char → Bool) (base power point : Nat) (mark : Char) (numeral : Text) :
    Option (Nat × Nat) :=
  let front := numeral.takeWhile isDigit
  let behind := numeral.dropWhile isDigit
  let fraction := if behind.head? = some '.' then behind.tail.takeWhile isDigit else []
  let rest := if behind.head? = some '.' then behind.tail.dropWhile isDigit else behind
  if front ++ fraction = [] then none
  else (exponentOf mark rest).map fun written =>
    let exponent : Int := written - (point * fraction.length : Nat)
    (digits base (front ++ fraction) * power ^ exponent.toNat, power ^ (-exponent).toNat)

/-- `l_str2d`: the sign and the fraction. -/
def strToNumber (text : Text) : Option (Bool × Nat × Nat) :=
  let (negative, numeral) := unsigned (TextSearch.trim isSpace text)
  (match hexadecimal numeral with
    | some numeral => fractionOf isHexDigit 16 2 4 'p' numeral
    | none => fractionOf Char.isDigit 10 10 1 'e' numeral).map (negative, ·)

end LuaNumber

/-! ### Values -/

/-- A JSON `null` is a value of its own, which is neither nil nor false. A number is the double
nearest to what is written: `integer` has the whole number that is written, `fraction` one numeral
for each double that is not whole. -/
inductive LuaValue where
  | nil
  | null
  | boolean (value : Bool)
  | integer (value : Int)
  | fraction (numeral : Text)
  | string (text : Text)
  | array (items : List LuaValue)
  | object (fields : List (Text × LuaValue))

namespace LuaValue
open LuaNumber

instance : Inhabited LuaValue := ⟨.nil⟩

def isNil : LuaValue → Bool
  | .nil => true
  | _ => false

def truthy : LuaValue → Bool
  | .nil => false
  | .boolean value => value
  | _ => true

/-- `value.key`, which raises an error for anything that cannot be indexed. The string
library has none of the names the scripts ask for. -/
def field (value : LuaValue) (key : String) : Option LuaValue :=
  match value with
  | .object fields => some ((fields.lookup key.toList).getD .nil)
  | .array _ => some .nil
  | .string _ => some .nil
  | _ => none

/-- Asking for a key raises no error. -/
def indexable : LuaValue → Bool
  | .object _ | .array _ | .string _ => true
  | _ => false

/-- What is found under a key, where one can be asked for. -/
def get (value : LuaValue) (key : String) : LuaValue := (value.field key).getD .nil

theorem field_of_indexable {value : LuaValue} (indexable : value.indexable) (key : String) :
    value.field key = some (value.get key) := by
  cases value <;> simp_all [LuaValue.indexable, field, get]

theorem field_of_not_indexable {value : LuaValue} (closed : value.indexable = false)
    (key : String) : value.field key = none := by
  cases value <;> simp_all [LuaValue.indexable, field]

/-- `value[i]`, counted from one. -/
def item (value : LuaValue) (i : Nat) : Option LuaValue :=
  match value with
  | .array items => some ((items[i - 1]?).getD .nil)
  | .object _ => some .nil
  | .string _ => some .nil
  | _ => none

/-- `#value`. The keys of a JSON object are texts and do not count. -/
def length : LuaValue → Option Nat
  | .array items => some items.length
  | .object _ => some 0
  | .string text => some text.length
  | _ => none

/-- What `%d` prints, and whether it prints at all. -/
def toInteger : LuaValue → Option Int
  | .integer value => numberToInteger (doubleOf value)
  | .string text =>
    match strToInt text with
    | some value => some value
    | none => (strToNumber text).bind fun (negative, num, den) =>
      (wholeDouble num den).bind fun value => numberToInteger (if negative then -value else value)
  | _ => none

/-- What `%d` has to print so that it is what was written. -/
def written : LuaValue → Option Int
  | .integer value => some value
  | value => value.toInteger

/-- A number that its double is kept in. -/
def kept (value : LuaValue) : Bool := value.toInteger = value.written

theorem written_of_kept {value : LuaValue} (kept : value.kept = true)
    (printed : value.toInteger = some number) : value.written = some number := by
  rw [← of_decide_eq_true kept, printed]

theorem truthy_of_toInteger {value : LuaValue} (printed : value.toInteger = some number) :
    value.truthy = true := by
  cases value <;> simp_all [toInteger, truthy]

/-- `lua_isnumber`. -/
def isNumber : LuaValue → Bool
  | .integer _ | .fraction _ => true
  | .string text => (strToInt text).isSome || (strToNumber text).isSome
  | _ => false

/-- `lua_isstring`. -/
def isString : LuaValue → Bool
  | .integer _ | .fraction _ | .string _ => true
  | _ => false

theorem truthy_of_isString {value : LuaValue} (string : value.isString = true) :
    value.truthy = true := by
  cases value <;> simp_all [isString, truthy]

/-- `==` between values of different origin: no two tables are the same. -/
def rawEqual : LuaValue → LuaValue → Bool
  | .nil, .nil | .null, .null => true
  | .boolean left, .boolean right => left = right
  | .integer left, .integer right => doubleOf left = doubleOf right
  | .fraction left, .fraction right => left = right
  | .string left, .string right => left = right
  | _, _ => false

/-- The text under which a table keyed by texts is asked for the value. -/
def text : LuaValue → Option Text
  | .string text => some text
  | _ => none

end LuaValue
end BeeSdk
