import Faceted.Decimal.Layout
import Faceted.Decimal.Reading
import Faceted.Entries

/-!
# JSON values

Search requests, responses and settings are JSON. An object keeps its members in order, since
that order is sent, and a number remembers whether it is an integer or a double, since the two
are written differently.

## Main definitions

* `Number` — an integer, or a double that is finite
* `Json` — a value
* `Json.member?` — the value of an object's member
* `Json.Distinct` — no object in the value repeats a member's name
-/

namespace Faceted

/-- A number: an integer, or a finite double. -/
inductive Number where
  | integer (value : Int)
  | double (value : Float) (finite : value.isFinite = true)
deriving DecidableEq

namespace Number

/-- A double as a number; infinities and not-a-number are none. -/
def ofDouble? (x : Float) : Option Number :=
  if h : x.isFinite = true then some (.double x h) else none

/-- The nearest double. -/
def toDouble : Number → Float
  | .integer n =>
    if n < 0 then -(Decimal.doubleOfNat n.natAbs) else Decimal.doubleOfNat n.natAbs
  | .double x _ => x

/-- The integer, if it is a natural number below `bound`. A double is never one. -/
def natBelow? (bound : Nat) : Number → Option Nat
  | .integer n => if 0 ≤ n ∧ n < bound then some n.toNat else none
  | .double _ _ => none

/-- How the number is written in JSON. -/
def text : Number → String
  | .integer n => toString n
  | .double x _ => Decimal.Layout.json.text x

end Number

/-- A JSON value. -/
inductive Json where
  | null
  | bool (value : Bool)
  | number (value : Number)
  | text (value : String)
  | array (items : List Json)
  | object (members : List (String × Json))
deriving BEq, Inhabited

namespace Json

/-- A natural number as a value. -/
def nat (n : Nat) : Json :=
  .number (.integer n)

/-- A list of strings as a value. -/
def texts (strings : List String) : Json :=
  .array (strings.map .text)

/-- The value of an object's member; other values have no members. -/
def member? : Json → String → Option Json
  | .object members, name => Entries.get? members name
  | _, _ => none

/-- The members of an object; other values have none. -/
def members? : Json → Option (Entries Json)
  | .object members => some members
  | _ => none

/-- The string, if the value is one. -/
def text? : Json → Option String
  | .text s => some s
  | _ => none

/-- The strings of an array of strings. -/
def texts? : Json → Option (List String)
  | .array items => items.mapM text?
  | _ => none

mutual

/-- No object in the value repeats the name of a member. -/
def Distinct : Json → Prop
  | .array items => DistinctItems items
  | .object members => (Entries.keys members).Nodup ∧ DistinctMembers members
  | _ => True

/-- `Distinct`, for every item of an array. -/
def DistinctItems : List Json → Prop
  | [] => True
  | item :: rest => item.Distinct ∧ DistinctItems rest

/-- `Distinct`, for the value of every member of an object. -/
def DistinctMembers : List (String × Json) → Prop
  | [] => True
  | (_, value) :: rest => value.Distinct ∧ DistinctMembers rest

end

end Json

end Faceted
