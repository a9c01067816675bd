import Faceted.Decimal.Numeral
import Faceted.Settings.Reading
import Faceted.Text.LowerCase

/-!
# Configuration values

Configuration comes from files, which tell numbers from strings, and from environment variables,
which do not. What is read as one kind of scalar may therefore have been given as another.

## Main definitions

* `Config.Value` — a value in a configuration
* `Config.Value.flag?`, `natural?`, `double?`, `text?` — scalars, however they were given
* the instance of `Source` for configuration values
-/

namespace Faceted.Config

/-- A value in a configuration. -/
inductive Value where
  | null
  | bool (value : Bool)
  | integer (value : Int)
  | double (value : Float)
  | text (value : String)
  | list (items : List Value)
  | table (entries : List (String × Value))
deriving Inhabited

namespace Value

/-- The words for yes. -/
def yesWords : List String := ["true", "on", "yes"]

/-- The words for no. -/
def noWords : List String := ["false", "off", "no"]

/-- A flag: a boolean, a number that is zero or not, or a word for yes or no. -/
def flag? : Value → Option Bool
  | .bool b => some b
  | .integer n => some (n != 0)
  | .double x => some !(x == 0.0)
  | .text s =>
    let word := Text.lower s
    if word = "1" || yesWords.contains word then some true
    else if word = "0" || noWords.contains word then some false
    else none
  | _ => none

/-- The whole number nearest to a double, halves away from zero; negative numbers count as zero, and
numbers from `2 ^ 64` on as the greatest below it. -/
def roundedNat (x : Float) : Nat :=
  x.round.toUInt64.toNat

/-- A natural number below a bound. -/
def natural? (bound : Nat) (value : Value) : Option Nat :=
  let n :=
    match value with
    | .bool b => some b.toNat
    | .integer n => if 0 ≤ n then some n.toNat else none
    | .double x => some (roundedNat x)
    | .text s =>
      let word := Text.lower s
      if yesWords.contains word then some 1
      else if noWords.contains word then some 0
      else Decimal.Numeral.below? (1 <<< 64) s
    | _ => none
  n.bind fun n => if n < bound then some n else none

/-- A double. -/
def double? : Value → Option Float
  | .bool b => some (if b then 1.0 else 0.0)
  | .integer n => some (Number.toDouble (.integer n))
  | .double x => some x
  | .text s =>
    let word := Text.lower s
    if yesWords.contains word then some 1.0
    else if noWords.contains word then some 0.0
    else Decimal.Numeral.double? s.toList
  | _ => none

/-- A string: one that is given, or a scalar as it is written. -/
def text? : Value → Option String
  | .bool b => some (toString b)
  | .integer n => some (toString n)
  | .double x => some (Decimal.Layout.weight.text x)
  | .text s => some s
  | _ => none

/-- A number as it is given. -/
def number? : Value → Option Number
  | .integer n => some (.integer n)
  | .double x => Number.ofDouble? x
  | _ => none

mutual

/-- A value as JSON; numbers that JSON lacks become null. -/
def toJson : Value → Json
  | .null => .null
  | .bool b => .bool b
  | .integer n => .number (.integer n)
  | .double x =>
    match Number.ofDouble? x with
    | some number => .number number
    | none => .null
  | .text s => .text s
  | .list items => .array (toJsonItems items)
  | .table entries => .object (toJsonEntries entries)

/-- The items of a list as JSON. -/
def toJsonItems : List Value → List Json
  | [] => []
  | item :: rest => item.toJson :: toJsonItems rest

/-- The entries of a table as JSON. -/
def toJsonEntries : List (String × Value) → List (String × Json)
  | [] => []
  | (name, value) :: rest => (name, value.toJson) :: toJsonEntries rest

end

/-- The items of a list. -/
def items? : Value → Option (List Value)
  | .list items => some items
  | _ => none

/-- The entries of a table. -/
def entries? : Value → Option (List (String × Value))
  | .table entries => some entries
  | _ => none

/-- The fields of a record: a table, or a list in the order of the names, which may be longer. -/
def fields? (names : List String) : Value → Option (String → Option Value)
  | .table entries => some (Entries.get? entries)
  | .list items => some (fieldsOfList names items)
  | _ => none

end Value

instance : Source Value where
  isNull
    | .null => true
    | _ => false
  text? := Value.text?
  bool? := Value.flag?
  natural? := Value.natural?
  double? := Value.double?
  number? := Value.number?
  json? value := some value.toJson
  list? := Value.items?
  table? := Value.entries?
  record? := Value.fields?

end Faceted.Config
