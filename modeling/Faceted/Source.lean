import Faceted.Json.Node

/-!
# Where records are read from

Settings and responses are records: named fields, some of which may be missing. They are read from
JSON values, from JSON text, and from layered configuration, which differ in what they accept as a
number or a flag. A reader is written once, against what all of them offer.

## Main definitions

* `Source` — structured data that records are read from
* `Source.required`, `Source.optional`, `Source.defaulted` — the three kinds of field
* `Written` — a part of a JSON text, with the levels that may still open below it
-/

namespace Faceted

/-- Structured data that records are read from. -/
class Source (σ : Type) where
  isNull : σ → Bool
  text? : σ → Option String
  bool? : σ → Option Bool
  /-- A natural number below a bound. -/
  natural? : Nat → σ → Option Nat
  double? : σ → Option Float
  number? : σ → Option Number
  json? : σ → Option Json
  list? : σ → Option (List σ)
  /-- The entries of a table, repeated names included. -/
  table? : σ → Option (List (String × σ))
  /-- The fields of a record with these names in this order. -/
  record? : List String → σ → Option (String → Option σ)

namespace Source

variable {σ α : Type} [Source σ]

/-- A field that must be there. -/
def required (field : Option σ) (read : σ → Option α) : Option α :=
  field.bind read

/-- A field that may be missing or null. -/
def optional (field : Option σ) (read : σ → Option α) : Option (Option α) :=
  match field with
  | none => some none
  | some s => if isNull s then some none else (read s).map some

/-- A field that may be missing, and then has a default. -/
def defaulted (field : Option σ) (default : α) (read : σ → Option α) : Option α :=
  match field with
  | none => some default
  | some s => read s

/-- A list of things that are read alike. -/
def listOf (read : σ → Option α) (s : σ) : Option (List α) :=
  (list? s).bind fun items => items.mapM read

/-- A list of strings. -/
def texts? (s : σ) : Option (List String) :=
  listOf text? s

/-- The entries of a table that are read alike. Of a repeated name the last value counts, but
all must be readable. -/
def tableOf (read : σ → Option α) (s : σ) : Option (Entries α) :=
  (table? s).bind fun entries =>
    (entries.mapM fun (entry : String × σ) => (read entry.2).map (entry.1, ·)).map Entries.ofPairs

end Source

/-- The fields of a record that is written as a list: the items in the order of the names. Items may
be missing at the end, and what goes beyond the names is left alone. -/
def fieldsOfList {σ : Type} (names : List String) (items : List σ) (name : String) : Option σ :=
  ((names.zip items).find? fun field => field.1 == name).map Prod.snd

/-- The same for sources in which there must not be more items than names. -/
def fieldsOfList? {σ : Type} (names : List String) (items : List σ) : Option (String → Option σ) :=
  if names.length < items.length then none else some (fieldsOfList names items)

instance : Source Json where
  isNull
    | .null => true
    | _ => false
  text? := Json.text?
  bool?
    | .bool b => some b
    | _ => none
  natural? bound
    | .number n => n.natBelow? bound
    | _ => none
  double?
    | .number n => some n.toDouble
    | _ => none
  number?
    | .number n => some n
    | _ => none
  json? := some
  list?
    | .array items => some items
    | _ => none
  table? := Json.members?
  record? names
    | .object members => some (Entries.get? members)
    | .array items => fieldsOfList? names items
    | _ => none

/-- A part of a JSON text, with the number of levels that may still open in it. -/
structure Written where
  levels : Nat
  node : Json.Node

namespace Written

/-- A whole text given by its bytes. -/
def ofBytes? (bytes : List UInt8) : Option Written :=
  (Json.Node.ofBytes? bytes).map fun node => ⟨Json.greatestDepth, node⟩

/-- A whole text. -/
def ofText? (text : String) : Option Written :=
  ofBytes? text.toUTF8.toList

/-- The items of an array. -/
def items? : Written → Option (List Written)
  | ⟨inner + 1, .array items⟩ => some (items.map (Written.mk inner))
  | _ => none

/-- The members of an object, repeated ones included. -/
def members? : Written → Option (List (String × Written))
  | ⟨inner + 1, .object members⟩ =>
    members.mapM fun (member : Option String × Json.Node) => member.1.map (·, ⟨inner, member.2⟩)
  | _ => none

/-- The fields of a record: an object that repeats none of them, or an array. -/
def fields? (names : List String) (written : Written) : Option (String → Option Written) :=
  match written.items? with
  | some items => fieldsOfList? names items
  | none =>
    written.members?.bind fun members =>
      if names.any fun name => 1 < members.countP fun member => member.1 == name then none
      else some fun name => Entries.get? members name

end Written

instance : Source Written where
  isNull written :=
    match written.node with
    | .null => true
    | _ => false
  text? written :=
    match written.node with
    | .text s => s
    | _ => none
  bool? written :=
    match written.node with
    | .bool b => some b
    | _ => none
  natural? bound written :=
    match written.node with
    | .number n => n.bind (Number.natBelow? bound)
    | _ => none
  double? written :=
    match written.node with
    | .number n => n.map Number.toDouble
    | _ => none
  number? written :=
    match written.node with
    | .number n => n
    | _ => none
  json? written := written.node.value? written.levels
  list? := Written.items?
  table? := Written.members?
  record? := Written.fields?

end Faceted
