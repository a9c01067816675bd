import Faceted.Json.Token

/-!
# JSON text as it was written

Whether a text is acceptable depends on who reads it: a repeated member is harmless in a map but not
in a record, and a part that nobody reads may be nested without bound and hold anything that looks
like JSON. `Node` therefore keeps all that the text says, and judging it is left to the reader.

## Main definitions

* `Node` — a value as it was written, repeated members included
* `Node.ofTokens?`, `Node.ofBytes?` — reads a text
* `Node.value?` — the value, if it is sound and not nested too deeply
* `Json.parse?` — reads a text that is sound throughout
-/

namespace Faceted.Json

/-- A value as it was written. Numbers, strings and names without a value are those of `Token`. -/
inductive Node where
  | null
  | bool (value : Bool)
  | number (value : Option Number)
  | text (value : Option String)
  | array (items : List Node)
  | object (members : List (Option String × Node))
deriving Inhabited

/-! ### Reading tokens -/

/-- An array or object that is still open, its parts last first. -/
inductive Opened where
  | array (items : List Node)
  /-- The members so far and the name whose value is being read. -/
  | object (members : List (Option String × Node)) (name : Option String)

/-- What may come next. -/
inductive Awaited where
  | value
  | valueOrClose
  | name
  | nameOrClose
  | colon
  | commaOrClose
  | nothing
deriving DecidableEq

/-- The open arrays and objects, innermost first, what may come next, and the value that was read
when nothing is open any more. -/
structure Builder where
  opened : List Opened
  awaited : Awaited
  root : Option Node

namespace Builder

/-- Nothing read yet. -/
def empty : Builder :=
  ⟨[], .value, none⟩

/-- Takes in a whole value. -/
def complete (opened : List Opened) (node : Node) : Builder :=
  match opened with
  | [] => ⟨[], .nothing, some node⟩
  | .array items :: outer => ⟨.array (node :: items) :: outer, .commaOrClose, none⟩
  | .object members name :: outer =>
    ⟨.object ((name, node) :: members) none :: outer, .commaOrClose, none⟩

/-- Reads a token where a value is awaited. -/
def beginValue (opened : List Opened) : Token → Option Builder
  | .openBrace => some ⟨.object [] none :: opened, .nameOrClose, none⟩
  | .openBracket => some ⟨.array [] :: opened, .valueOrClose, none⟩
  | .null => some (complete opened .null)
  | .bool b => some (complete opened (.bool b))
  | .number n => some (complete opened (.number n))
  | .text s => some (complete opened (.text s))
  | _ => none

/-- Reads a token where a name is awaited. -/
def beginName (opened : List Opened) : Token → Option Builder
  | .text name =>
    match opened with
    | .object members _ :: outer => some ⟨.object members name :: outer, .colon, none⟩
    | _ => none
  | _ => none

/-- Closes the innermost array or object. -/
def close (opened : List Opened) (token : Token) : Option Builder :=
  match opened, token with
  | .array items :: outer, .closeBracket => some (complete outer (.array items.reverse))
  | .object members _ :: outer, .closeBrace => some (complete outer (.object members.reverse))
  | _, _ => none

/-- Reads one token. -/
def feed (builder : Builder) (token : Token) : Option Builder :=
  match builder.awaited with
  | .value => beginValue builder.opened token
  | .valueOrClose =>
    if token = .closeBracket then close builder.opened token else beginValue builder.opened token
  | .name => beginName builder.opened token
  | .nameOrClose =>
    if token = .closeBrace then close builder.opened token else beginName builder.opened token
  | .colon => if token = .colon then some ⟨builder.opened, .value, none⟩ else none
  | .commaOrClose =>
    if token = .comma then
      match builder.opened with
      | .array _ :: _ => some ⟨builder.opened, .value, none⟩
      | .object _ _ :: _ => some ⟨builder.opened, .name, none⟩
      | [] => none
    else close builder.opened token
  | .nothing => none

end Builder

namespace Node

/-- The value that tokens spell. -/
def ofTokens? (tokens : List Token) : Option Node :=
  (tokens.foldlM Builder.feed Builder.empty).bind Builder.root

/-- The value that a text given by its bytes spells. -/
def ofBytes? (bytes : List UInt8) : Option Node :=
  (Token.read bytes).bind ofTokens?

/-- The value that a text spells. -/
def ofText? (text : String) : Option Node :=
  ofBytes? text.toUTF8.toList

/-! ### Judging what was written -/

mutual

/-- The value, if all its numbers, strings and names have one and it has at most `levels` levels of
arrays and objects. A repeated member keeps its first place and takes its last value. -/
def value? (levels : Nat) : Node → Option Json
  | .null => some .null
  | .bool b => some (.bool b)
  | .number n => n.map .number
  | .text s => s.map .text
  | .array items =>
    match levels with
    | 0 => none
    | inner + 1 => (items? inner items).map .array
  | .object members =>
    match levels with
    | 0 => none
    | inner + 1 => (members? inner members).map fun pairs => .object (Entries.ofPairs pairs)

/-- The values of items. -/
def items? (levels : Nat) : List Node → Option (List Json)
  | [] => some []
  | item :: rest => do
    let value ← item.value? levels
    let others ← items? levels rest
    some (value :: others)

/-- The names and values of members, repeated ones included. -/
def members? (levels : Nat) : List (Option String × Node) → Option (List (String × Json))
  | [] => some []
  | (name, node) :: rest => do
    let name ← name
    let value ← node.value? levels
    let others ← members? levels rest
    some ((name, value) :: others)

end

/-- How often an object has a member of this name. -/
def occurrences (name : String) : Node → Nat
  | .object members => members.countP fun member => member.1 == some name
  | _ => 0

end Node

/-- How many levels of arrays and objects a text may have in the parts that are read. -/
def greatestDepth : Nat := 127

/-- The value that a text spells, if it is sound throughout. -/
def parse? (text : String) : Option Json :=
  (Node.ofText? text).bind (Node.value? greatestDepth)

end Faceted.Json
