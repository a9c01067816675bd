import Faceted.Config.Yaml.Layout

/-!
# Nodes of YAML text

A document is one node: a scalar, a list or a table, perhaps with an anchor and a tag before it. A
node that is missing where one belongs is null. In a table each name stands once.

## Main definitions

* `Yaml.Name` — the name of an entry
* `Yaml.Supply` — the tokens ahead, and the nodes that have anchors
* `Yaml.node?` — the node that tokens begin with
* `Yaml.document?` — the one document of a text
-/

namespace Faceted.Config.Yaml

/-! ### Names of entries -/

/-- The name of an entry. An integer and the string that it is written as are two names. -/
inductive Name where
  | text (name : String)
  | integer (n : Int)
deriving DecidableEq, Repr

namespace Name

/-- The name that a value can be; only strings and integers are names. -/
def ofValue? : Value → Option Name
  | .text name => some (.text name)
  | .integer n => some (.integer n)
  | _ => none

/-- The name as a string. -/
def toString : Name → String
  | .text name => name
  | .integer n => ToString.toString n

end Name

/-- A table with these entries, of which no two have one name. -/
def table? (entries : List (Name × Value)) : Option Value :=
  if (entries.map Prod.fst).Nodup then
    some (.table (Entries.ofPairs (entries.map fun entry => (entry.1.toString, entry.2))))
  else none

/-! ### Anchors and tags -/

/-- What the tags of YAML begin with. -/
def coreTags : String := "tag:yaml.org,2002:"

/-- The tokens ahead, and what is known of names at this point of a document. -/
structure Supply where
  tokens : List Token
  /-- The number of the node that an anchor names, latest anchors first. -/
  anchors : List (String × Nat)
  /-- The nodes with anchors that are complete, by their numbers. -/
  nodes : List (Nat × Value)
  /-- The handle that a directive declares, and what it stands for. -/
  declared : Option (String × String)

namespace Supply

/-- Goes on with these tokens. -/
def goOn (tokens : List Token) (s : Supply) : Supply := { s with tokens }

/-- Names the node that follows; answers its number. -/
def name (anchor : String) (s : Supply) : Nat × Supply :=
  (s.anchors.length, { s with anchors := (anchor, s.anchors.length) :: s.anchors })

/-- Keeps a node that is complete, if it has a number. -/
def keep (number : Option Nat) (value : Value) (s : Supply) : Supply :=
  match number with
  | some number => { s with nodes := (number, value) :: s.nodes }
  | none => s

/-- The node that an anchor names. A node that is not complete is null. -/
def find? (anchor : String) (s : Supply) : Option Value :=
  (s.anchors.lookup anchor).map fun number => (s.nodes.lookup number).getD .null

/-- What a handle stands for. If it is not declared, two exclamation marks stand for the tags of
YAML, and at most one for itself; handles with letters must be declared. -/
def meaning? (handle : String) (s : Supply) : Option String :=
  match s.declared.filter fun declared => declared.1 = handle with
  | some declared => some declared.2
  | none =>
    if handle = "!!" then some coreTags
    else if handle.length < 2 then some handle
    else none

end Supply

/-- What stands before a node: its number if it has an anchor, and its tag if it has one. -/
structure Properties where
  number : Option Nat
  tag : Option (String × String)
deriving DecidableEq, Repr

/-- The anchor and the tag at the front, in either order. -/
def properties? (s : Supply) : Option (Properties × Supply) :=
  match s.tokens with
  | .anchor anchor :: .tag handle suffix :: rest =>
    (s.meaning? handle).map fun meaning =>
      let (number, s) := s.name anchor
      (⟨some number, some (meaning, suffix)⟩, s.goOn rest)
  | .tag handle suffix :: .anchor anchor :: rest =>
    (s.meaning? handle).map fun meaning =>
      let (number, s) := s.name anchor
      (⟨some number, some (meaning, suffix)⟩, s.goOn rest)
  | .anchor anchor :: rest =>
    let (number, s) := s.name anchor
    some (⟨some number, none⟩, s.goOn rest)
  | .tag handle suffix :: rest =>
    (s.meaning? handle).map fun meaning => (⟨none, some (meaning, suffix)⟩, s.goOn rest)
  | _ => some (⟨none, none⟩, s)

/-- What a plain scalar stands for under a tag: under a tag of YAML for a scalar, what the tag says,
or null if it does not fit; under any other tag, a string. -/
def tagged? (tag : String × String) (chars : List Char) : Option Value :=
  let text := String.ofList chars
  if tag.1 != coreTags then some (.text text)
  else if tag.2 = "bool" then
    some (if text = "true" then .bool true else if text = "false" then .bool false else .null)
  else if tag.2 = "int" then
    some (match (Decimal.Numeral.integer? chars).filter Decimal.Numeral.fitsWord with
      | some n => .integer n
      | none => .null)
  else if tag.2 = "float" then
    if doubleWords.contains text then none
    else some (match double? chars with
      | some x => .double x
      | none => .null)
  else if tag.2 = "null" then some .null
  else some (.text text)

/-- What a scalar stands for. -/
def scalar? (properties : Properties) (plain : Bool) (chars : List Char) : Option Value :=
  match plain, properties.tag with
  | false, _ => some (.text (String.ofList chars))
  | true, none => resolve? chars
  | true, some tag => tagged? tag chars

/-! ### Nodes -/

/-- Where a node stands. -/
inductive Place where
  /-- In a block. -/
  | block
  /-- In an entry of a block, where a list needs no greater indentation. -/
  | entry
  /-- In brackets. -/
  | flow
deriving DecidableEq, Repr

/-- Whether the next token is one of these. -/
def nextAmong (tokens : List Token) (s : Supply) : Bool :=
  s.tokens.head?.any tokens.contains

mutual

/-- The node at the front. -/
def node? : Nat → Place → Supply → Option (Value × Supply)
  | 0, _, _ => none
  | fuel + 1, place, s =>
    match s.tokens with
    | .reference anchor :: rest => (s.find? anchor).map (·, s.goOn rest)
    | _ => do
      let (properties, s) ← properties? s
      let (value, s) ← content? fuel place properties s
      return (value, s.keep properties.number value)

/-- The node at the front without what stands before it. -/
def content? : Nat → Place → Properties → Supply → Option (Value × Supply)
  | 0, _, _, _ => none
  | fuel + 1, place, properties, s =>
    match s.tokens with
    | .scalar plain chars :: rest => (scalar? properties plain chars).map (·, s.goOn rest)
    | .listStart :: rest =>
      (flowItems? fuel true (s.goOn rest)).map fun found => (.list found.1, found.2)
    | .tableStart :: rest => do
      let (entries, s) ← flowEntries? fuel true (s.goOn rest)
      return (← table? entries, s)
    | tokens =>
      match place, tokens with
      | .entry, .item :: _ => (looseItems? fuel s).map fun found => (.list found.1, found.2)
      | .entry, .blockList :: rest | .block, .blockList :: rest =>
        (blockItems? fuel (s.goOn rest)).map fun found => (.list found.1, found.2)
      | .entry, .blockTable :: rest | .block, .blockTable :: rest => do
        let (entries, s) ← blockEntries? fuel (s.goOn rest)
        return (← table? entries, s)
      | _, _ =>
        if properties.number.isNone && properties.tag.isNone then none
        else (scalar? properties true []).map (·, s)

/-- The node at the front, or null if one of `ends` is there. -/
def nodeOrNull? : Nat → Place → List Token → Supply → Option (Value × Supply)
  | 0, _, _, _ => none
  | fuel + 1, place, ends, s => if nextAmong ends s then some (.null, s) else node? fuel place s

/-- The items of a block, up to its end. -/
def blockItems? : Nat → Supply → Option (List Value × Supply)
  | 0, _ => none
  | fuel + 1, s =>
    match s.tokens with
    | .blockEnd :: rest => some ([], s.goOn rest)
    | .item :: rest => do
      let (item, s) ← nodeOrNull? fuel .block [.item, .blockEnd] (s.goOn rest)
      let (items, s) ← blockItems? fuel s
      return (item :: items, s)
    | _ => none

/-- The items of a list that is indented like the entry around it, up to the first
token that is no item. -/
def looseItems? : Nat → Supply → Option (List Value × Supply)
  | 0, _ => none
  | fuel + 1, s =>
    match s.tokens with
    | .item :: rest => do
      let (item, s) ← nodeOrNull? fuel .block [.item, .key, .value, .blockEnd] (s.goOn rest)
      let (items, s) ← looseItems? fuel s
      return (item :: items, s)
    | _ => some ([], s)

/-- The entries of a block, up to its end. -/
def blockEntries? : Nat → Supply → Option (List (Name × Value) × Supply)
  | 0, _ => none
  | fuel + 1, s =>
    match s.tokens with
    | .blockEnd :: rest => some ([], s.goOn rest)
    | .key :: rest => do
      let (key, s) ← node? fuel .entry (s.goOn rest)
      let name ← Name.ofValue? key
      let (value, s) ←
        match s.tokens with
        | .value :: rest => nodeOrNull? fuel .entry [.key, .value, .blockEnd] (s.goOn rest)
        | _ => some (.null, s)
      let (entries, s) ← blockEntries? fuel s
      return ((name, value) :: entries, s)
    | _ => none

/-- The items of a list in brackets, up to its end; all but the first stand after commas. -/
def flowItems? : Nat → Bool → Supply → Option (List Value × Supply)
  | 0, _, _ => none
  | fuel + 1, isFirst, s =>
    match s.tokens with
    | .listEnd :: rest => some ([], s.goOn rest)
    | tokens => do
      let tokens ←
        match isFirst, tokens with
        | true, tokens => some tokens
        | false, .comma :: rest => some rest
        | false, _ => none
      match tokens with
      | .listEnd :: rest => return ([], s.goOn rest)
      | .key :: rest =>
        let (entry, s) ← flowEntry? fuel (s.goOn rest)
        let item ← table? [entry]
        let (items, s) ← flowItems? fuel false s
        return (item :: items, s)
      | tokens =>
        let (item, s) ← node? fuel .flow (s.goOn tokens)
        let (items, s) ← flowItems? fuel false s
        return (item :: items, s)

/-- The entries of a table in brackets, up to its end; all but the first stand after commas. -/
def flowEntries? : Nat → Bool → Supply → Option (List (Name × Value) × Supply)
  | 0, _, _ => none
  | fuel + 1, isFirst, s =>
    match s.tokens with
    | .tableEnd :: rest => some ([], s.goOn rest)
    | tokens => do
      let tokens ←
        match isFirst, tokens with
        | true, tokens => some tokens
        | false, .comma :: rest => some rest
        | false, _ => none
      match tokens with
      | .tableEnd :: rest => return ([], s.goOn rest)
      | .key :: rest =>
        let (entry, s) ← flowEntry? fuel (s.goOn rest)
        let (entries, s) ← flowEntries? fuel false s
        return (entry :: entries, s)
      | tokens =>
        let (key, s) ← node? fuel .flow (s.goOn tokens)
        let name ← Name.ofValue? key
        let (entries, s) ← flowEntries? fuel false s
        return ((name, .null) :: entries, s)

/-- The name and the value of an entry in brackets. -/
def flowEntry? : Nat → Supply → Option ((Name × Value) × Supply)
  | 0, _ => none
  | fuel + 1, s => do
    let (key, s) ← node? fuel .flow s
    let name ← Name.ofValue? key
    let (value, s) ←
      match s.tokens with
      | .value :: rest => nodeOrNull? fuel .flow [.comma, .listEnd, .tableEnd] (s.goOn rest)
      | _ => some (.null, s)
    return ((name, value), s)

end

/-! ### Documents -/

/-- What the directives at the front declare; of the handles the last one counts, and a version
drops those before it. There is one version at most. -/
def directives? (versioned : Bool) (declared : Option (String × String)) :
    List Token → Option (Option (String × String) × List Token)
  | .version :: rest => if versioned then none else directives? true none rest
  | .tagHandle handle start :: rest => directives? versioned (some (handle, start)) rest
  | rest => some (declared, rest)

/-- Whether tokens say nothing more: only ends of documents may follow. -/
def isOver (tokens : List Token) : Bool :=
  tokens.all (· == .documentEnd)

/-- The node of a document and the tokens after it. -/
def documentNode? (s : Supply) : Option (Value × List Token) :=
  (node? (4 * s.tokens.length + 4) .block s).map fun found => (found.1, found.2.tokens)

/-- The document that tokens begin with, and the tokens after it. If it is
marked, it may be empty. -/
def documentAt? (tokens : List Token) : Option (Value × List Token) := do
  let (declared, rest) ← directives? false none tokens
  match rest with
  | .documentStart :: rest =>
    if rest.head?.all [Token.documentStart, .documentEnd].contains then some (.null, rest)
    else documentNode? ⟨rest, [], [], declared⟩
  | _ =>
    if rest.length = tokens.length then documentNode? ⟨rest, [], [], none⟩ else none

/-- The one document of a text; nothing if the text says nothing. -/
def document? (text : String) : Option (Option Value) := do
  let tokens ← tokens? text
  match tokens.dropWhile (· == .documentEnd) with
  | [] => return none
  | tokens =>
    let (value, rest) ← documentAt? tokens
    if isOver rest then return some value else none

end Faceted.Config.Yaml
