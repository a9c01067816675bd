import Faceted.Config.Value

/-!
# Layers of configuration

A configuration is laid together from layers, later ones over earlier ones. Tables are joined entry
by entry, under names in small letters; anything else replaces what was there. A layer's entries
stand at paths, such as `catalog.fields[0]`, and what is missing on the way to a place is made.

## Main definitions

* `Config.Value.layOver` — lays one value over another
* `Config.Path` — a place in a configuration
* `Config.Path.parse?` — reads the name of a place
* `Config.Value.setAt` — puts a value at a place
* `Config.addLayer` — lays the entries of a layer over a configuration
-/

namespace Faceted.Config

namespace Value

mutual

/-- Lays a value over the one that is there, if any. A table goes entry by entry; without entries it
changes nothing, and an entry for something that is no table makes it one. -/
def layOver (old : Option Value) : Value → Value
  | .table entries => layEntries (old.getD (.table [])) entries
  | value => value

/-- Lays entries over a value, under their names in small letters. -/
def layEntries (target : Value) : List (String × Value) → Value
  | [] => target
  | (name, value) :: rest =>
    let entries := (target.entries?).getD []
    let name := Text.lower name
    layEntries (.table (Entries.put entries name (layOver (Entries.get? entries name) value))) rest

end

end Value

/-! ### Places -/

/-- A step towards a place. -/
inductive Step where
  | entry (name : String)
  /-- An item of a list; negative positions count from its end. -/
  | item (position : Int)
deriving DecidableEq, Repr

/-- A place in a configuration: an entry of its outermost table, and steps from there. -/
structure Path where
  root : String
  steps : List Step
deriving DecidableEq, Repr

namespace Path

/-- Whether a character may stand in a name on a path. -/
def isNameChar (c : Char) : Bool :=
  c.isAlphanum || c == '_' || c == '-' || c == ' '

/-- A name at the front, of at least one character. -/
def name? (chars : List Char) : Option (String × List Char) :=
  match chars.takeWhile isNameChar with
  | [] => none
  | name => some (String.ofList name, chars.dropWhile isNameChar)

/-- Whether a character is a blank beside a position. -/
def isPositionBlank (c : Char) : Bool := c == ' ' || c == '\t'

/-- The position that a text spells: digits, perhaps after a minus sign and between blanks. It
fits 64 bits with sign. -/
def positionOf? (chars : List Char) : Option Int :=
  let chars := chars.dropWhile isPositionBlank
  let chars := (chars.reverse.dropWhile isPositionBlank).reverse
  if chars.head? == some '+' then none
  else (Decimal.Numeral.integer? chars).filter Decimal.Numeral.fitsWord

/-- A position at the front, up to its closing bracket. -/
def position? (chars : List Char) : Option (Int × List Char) :=
  match chars.dropWhile fun c => c != ']' with
  | ']' :: rest => (positionOf? (chars.takeWhile fun c => c != ']')).map (·, rest)
  | _ => none

/-- The steps that a text spells, at most `fuel` of them. -/
def steps? : Nat → List Char → Option (List Step)
  | _, [] => some []
  | 0, _ => none
  | fuel + 1, '.' :: rest => do
    let (name, rest) ← name? rest
    let steps ← steps? fuel rest
    return .entry name :: steps
  | fuel + 1, '[' :: rest => do
    let (position, rest) ← position? rest
    let steps ← steps? fuel rest
    return .item position :: steps
  | _ + 1, _ => none

/-- Reads the name of a place. -/
def parse? (text : String) : Option Path := do
  let (root, rest) ← name? text.toList
  let steps ← steps? rest.length rest
  return ⟨root, steps⟩

/-- The place that a text names; a text that names none is the name of an entry as it stands. -/
def ofText (text : String) : Path :=
  (parse? text).getD ⟨text, []⟩

end Path

/-- The place of a position in a list of this length. -/
def indexOf (position : Int) (length : Nat) : Nat :=
  if 0 ≤ position then position.toNat else length - position.natAbs

/-- Changes an item of a list, which is filled up with nulls as far as needed. -/
def modifyItem (change : Value → Value) (items : List Value) (index : Nat) : List Value :=
  (items ++ List.replicate (index + 1 - items.length) Value.null).modify index change

namespace Value

/-- Puts `value` at a place below a value; what stands in the way is replaced. Entries are found and
made under their names in small letters; an item becomes the value as it is. -/
def setAt (value : Value) : List Step → Value → Value
  | [], target => layOver (some target) value
  | [.entry name], target =>
    let entries := (target.entries?).getD []
    let name := Text.lower name
    .table (Entries.put entries name (layOver (Entries.get? entries name) value))
  | .entry name :: steps, target =>
    let entries := (target.entries?).getD []
    let name := Text.lower name
    .table (Entries.put entries name (setAt value steps ((Entries.get? entries name).getD .null)))
  | [.item position], target =>
    let items := (target.items?).getD []
    .list (modifyItem (fun _ => value) items (indexOf position items.length))
  | .item position :: steps, target =>
    let items := (target.items?).getD []
    .list (modifyItem (setAt value steps) items (indexOf position items.length))

end Value

/-- Lays the entries of a layer over a configuration, each at the place that its name names. -/
def addLayer (config : Value) (entries : List (String × Value)) : Value :=
  entries.foldl
    (fun config entry =>
      let path := Path.ofText entry.1
      Value.setAt entry.2 (.entry path.root :: path.steps) config)
    config

end Faceted.Config
