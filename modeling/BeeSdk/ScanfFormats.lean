import BeeSdk.HttpHeader
import BeeSdk.ScanfValues

/-! How `LuaVideoCache::LuaScanf` and `LuaHttpModule::lua_scanf` read a format table off
the Lua stack. Tables are known by their address, so that a table may hold itself, and
list their pairs in the order `lua_next` goes through them. `none` stands for undefined:
a push beyond the `LUA_MINSTACK` slots a C function may use. -/
namespace BeeSdk.ScanfFormats
open DataPromise ScanfValues
open HttpHeader (Text)

/-- A Lua value as far as the parsers tell values apart; a float is known by the text
`lua_tostring` makes of it. -/
inductive Value where
  | boolean (b : Bool)
  | integer (v : Int64)
  | float (numeral : Text)
  | string (text : Text)
  | table (address : Nat)
  | other (address : Nat)
  deriving DecidableEq

abbrev Pair := Value × Value
abbrev Heap := Nat → List Pair

/-- `lua_tostring`, null for what is neither a string nor a number. -/
def luaToString : Value → Option Text
  | .string text => some text
  | .integer v => some (toString v.toInt).toList
  | .float numeral => some numeral
  | _ => none

/-- The C string `strcmp` compares, up to the first zero. -/
def cString (text : Text) : Text := text.takeWhile (· ≠ Char.ofNat 0)

/-- The types by their number. -/
def dataTypes : List DataTypeId :=
  [.int8, .uint8, .int16, .uint16, .int32, .uint32, .int64, .uint64, .double, .byteArray, .string]

/-- What one pair of an entry makes of the field, `none` where a check fails. -/
def assign (field : DataField) (key value : Value) : Option DataField :=
  match (luaToString key).map cString with
  | none => none
  | some key =>
    if key = "typeid".toList then
      match value with
      | .integer v =>
        let type := v.toInt32
        if type < 0 then none else (dataTypes[type.toNatClampNeg]?).map fun type => { field with type }
      | _ => none
    else if key = "length".toList then
      match value with
      | .integer v =>
        let length := v.toUInt64.toNat
        if length = 0 then none else some { field with length }
      | _ => none
    else if key = "hton".toList then
      match value with
      | .boolean hton => some { field with hton }
      | _ => none
    else none

/-- The pairs behind the key, `none` where `lua_next` finds no such key. -/
def behindKey (key : Value) : List Pair → Option (List Pair)
  | [] => none
  | (other, _) :: rest => if other = key then some rest else behindKey key rest

/-- Where `lua_next` goes on from a key that was left on the stack: `lua_tostring` has
made a string of a number. -/
def goesOn (table : List Pair) (key : Value) (behind : List Pair) : Option (List Pair) :=
  match key with
  | .integer v => behindKey (.string (toString v.toInt).toList) table
  | .float numeral => behindKey (.string numeral) table
  | _ => some behind

/-- The inner loop. With a failed check it leaves the key of the pair on the stack. -/
def readEntry (table : List Pair) : List Pair → DataField → DataField × Option (Option (List Pair))
  | [], field => (field, none)
  | (key, value) :: behind, field =>
    match assign field key value with
    | some field => readEntry table behind field
    | none => (field, some (goesOn table key behind))

/-- The variables of the walk. -/
structure Scan (Total : Type) where
  field : DataField := {}
  format : List DataField := []
  total : Total
  valid : Bool := true

inductive Verdict (Total : Type) where
  | accepted (format : List DataField) (total : Total)
  | rejected
  /-- `lua_next` raised an error. -/
  | raised
  deriving DecidableEq

section
variable {Total : Type} (add : Total → Nat → Total) (heap : Heap)

/-- The outer loop. A failed check in an entry leaves the entry where the loop takes the
format for, two slots higher up: what follows is `deeper`. -/
def walkAt (deeper : List Pair → Scan Total → Option (Verdict Total)) :
    List Pair → Scan Total → Option (Verdict Total)
  | [], scan => some (if scan.valid then .accepted scan.format scan.total else .rejected)
  | (_, value) :: rest, scan =>
    match value with
    | .table address =>
      let (field, stopped) := readEntry (heap address) (heap address) scan.field
      let scan := { scan with
        field, total := add scan.total (fieldSize field), format := scan.format ++ [field] }
      match stopped with
      | none => walkAt deeper rest scan
      | some none => some .raised
      | some (some behind) => deeper behind { scan with valid := false }
    | _ => some .rejected

/-- Whether the value that `lua_next` puts on the stack is a table. -/
def tableNext : List Pair → Bool
  | (_, .table _) :: _ => true
  | _ => false

/-- The walk with room to go so many tables deeper. Below them the last slot is the value's:
a `nil` to look into a table with has none. -/
def walk : Nat → List Pair → Scan Total → Option (Verdict Total)
  | 0 => walkAt add heap fun behind _ => if tableNext behind then none else some .rejected
  | room + 1 => walkAt add heap (walk room)

end

/-- The two loops take four of the twenty slots, and each table deeper two more. -/
def kRoom : Nat := 8

/-- `LuaVideoCache::LuaScanf` as far as the format, `total_size` being an `int32_t`. -/
def LuaVideoCache.luaScanf (heap : Heap) (format : Nat) : Option (Verdict Int32) :=
  walk (fun total size => total + Int32.ofNat size) heap kRoom (heap format) { total := 0 }

/-- `LuaHttpModule::lua_scanf` as far as the format, `total_size` being a `size_t`. -/
def LuaHttpModule.luaScanf (heap : Heap) (format : Nat) : Option (Verdict UInt64) :=
  walk (fun total size => total + UInt64.ofNat size) heap kRoom (heap format) { total := 0 }

/-! ### What the parsers are for -/

/-- The pair says what it names: a type there is, a length there can be, or a flag. -/
def proper (key value : Value) : Bool :=
  match (luaToString key).map cString, value with
  | some key, .integer v =>
    (key = "typeid".toList ∧ 0 ≤ v.toInt ∧ v.toInt < dataTypes.length) ∨
      (key = "length".toList ∧ 0 < v.toInt)
  | some key, .boolean _ => key = "hton".toList
  | _, _ => false

/-- The field an entry describes, from the defaults of `DataField`. -/
def ownField (entry : List Pair) : DataField :=
  entry.foldl (fun field pair => (assign field pair.1 pair.2).getD field) {}

/-- The fields a format describes, `none` where an entry is invalid. -/
def described (heap : Heap) : List Pair → Option (List DataField)
  | [] => some []
  | (_, value) :: rest =>
    match value with
    | .table address =>
      if (heap address).all fun pair => proper pair.1 pair.2 then
        (described heap rest).map (ownField (heap address) :: ·)
      else none
    | _ => none

/-- Both parsers accept what is described, with the sizes added up, and nothing else. -/
def ReadsAlike (heap : Heap) (table : Nat) : Prop :=
  match described heap (heap table) with
  | some format => ∃ total total',
    LuaVideoCache.luaScanf heap table = some (.accepted format total) ∧
    LuaHttpModule.luaScanf heap table = some (.accepted format total') ∧
    total.toInt = formatSize format ∧ total'.toNat = formatSize format
  | none =>
    (LuaVideoCache.luaScanf heap table = some .rejected ∨
      LuaVideoCache.luaScanf heap table = some .raised) ∧
    (LuaHttpModule.luaScanf heap table = some .rejected ∨
      LuaHttpModule.luaScanf heap table = some .raised)

/-! ### When they do it -/

/-- Whether and where the checks of the source stop in an entry. -/
def stopped (entry : List Pair) : Option (Option (List Pair)) := (readEntry entry entry {}).2

/-- Every entry is a table whose pairs pass the checks of the source. -/
def Passes (heap : Heap) (pairs : List Pair) : Prop :=
  ∀ pair ∈ pairs, ∃ address, pair.2 = .table address ∧ stopped (heap address) = none

/-- What the outer loop takes for the format, from the first table that fails on, is left
without looking into a table for which there is no room. -/
def EndsAt (heap : Heap) (deeper : List Pair → Prop) : List Pair → Prop
  | [] => True
  | (_, value) :: rest =>
    match value with
    | .table address => match stopped (heap address) with
      | none => EndsAt heap deeper rest
      | some none => True
      | some (some behind) => deeper behind
    | _ => True

def Ends (heap : Heap) : Nat → List Pair → Prop
  | 0 => EndsAt heap fun behind => tableNext behind = false
  | room + 1 => EndsAt heap (Ends heap room)

/-- The entry gives a value under the name. -/
def gives (name : String) (entry : List Pair) : Bool :=
  entry.any fun pair => (luaToString pair.1).map cString = some name.toList

/-- What an entry leaves out has the default value in the field before it. -/
def LeavesDefault (before : DataField) (entry : List Pair) : Prop :=
  (gives "typeid" entry = false → before.type = ({} : DataField).type) ∧
    (gives "length" entry = false → before.length = ({} : DataField).length) ∧
    (gives "hton" entry = false → before.hton = ({} : DataField).hton)

/-- No entry of the format leaves out what the entry before it sets to something else. -/
def NothingCarried (heap : Heap) : DataField → List Pair → Prop
  | _, [] => True
  | before, (_, value) :: rest =>
    match value with
    | .table address =>
      LeavesDefault before (heap address) ∧ NothingCarried heap (ownField (heap address)) rest
    | _ => True

/-- A format that is valid is carried through, and one that is not fails a check and is
then left in time. -/
def Met (heap : Heap) (table : Nat) : Prop :=
  match described heap (heap table) with
  | some format => NothingCarried heap {} (heap table) ∧ formatSize format < 2 ^ 31
  | none => ¬ Passes heap (heap table) ∧ Ends heap kRoom (heap table)

end BeeSdk.ScanfFormats
