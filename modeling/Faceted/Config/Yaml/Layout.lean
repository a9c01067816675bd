import Faceted.Config.Yaml.Literal
import Faceted.Config.Yaml.Plain
import Faceted.Config.Yaml.Token

/-!
# Layout of YAML text

Blocks open and close by indentation, and that a scalar is a key shows only at the colon after it.
While a text is read into tokens, its layout keeps the blocks and brackets that are open, and the
token that would begin a key if a colon came next.

## Main definitions

* `Yaml.Candidate` — a token that may turn out to begin a key
* `Yaml.Layout` — what is open, and the tokens so far
* `Layout.openBlock`, `Layout.closeBlocks` — blocks by indentation
* `Layout.step?` — reads the next token
* `Yaml.tokens?` — the tokens of a text
-/

namespace Faceted.Config.Yaml

/-- A token that may turn out to begin a key. -/
structure Candidate where
  /-- How many tokens stand before it. -/
  position : Nat
  line : Nat
  column : Nat
  /-- Whether nothing but a key may stand at its place. -/
  required : Bool
deriving DecidableEq, Repr

/-- A bracket that is open. -/
structure Bracket where
  /-- Whether it is that of a list. -/
  isList : Bool
  /-- The candidate outside of it. -/
  outside : Option Candidate
deriving DecidableEq, Repr

/-- An indentation that was left for a greater one. -/
structure Margin where
  indent : Int
  /-- Whether the greater one belongs to a block; else only the lines of one
  value are indented by it. -/
  isBlock : Bool
deriving DecidableEq, Repr

/-- What is open in a text, and its tokens so far. -/
structure Layout where
  rest : List Spot
  tokens : Array Token
  /-- Whether a key may begin here. -/
  keyAllowed : Bool
  candidate : Option Candidate
  /-- The column that the lines of the innermost block begin at; −1 outside of blocks. -/
  indent : Int
  /-- The indentations around the innermost one, innermost first. -/
  margins : List Margin
  /-- The open brackets, innermost first. -/
  brackets : List Bracket
  /-- The line and column at which a colon follows a quoted or bracketed key directly. -/
  valueAt : Option (Nat × Nat)

namespace Layout

/-- How many brackets may be open at once. -/
def greatestDepth : Nat := 255

/-- How far from its beginning a key may end. -/
def greatestKey : Nat := 1024

/-- The layout at the start of a text. -/
def initial (rest : List Spot) : Layout :=
  ⟨rest, #[], true, none, -1, [], [], none⟩

/-- Whether a bracket is open. -/
def inFlow (l : Layout) : Bool := !l.brackets.isEmpty

/-- Adds a token. -/
def push (token : Token) (l : Layout) : Layout := { l with tokens := l.tokens.push token }

/-- Goes on with the rest of the text. -/
def goOn (rest : List Spot) (l : Layout) : Layout := { l with rest }

/-- Says whether a key may begin here. -/
def allowKey (allowed : Bool) (l : Layout) : Layout := { l with keyAllowed := allowed }

/-! ### Candidates -/

/-- Makes the token that begins here a candidate, if a key may begin here. -/
def offer (s : Spot) (l : Layout) : Layout :=
  if l.keyAllowed then
    let required := !l.inFlow && l.indent == s.column && l.margins.head?.any Margin.isBlock
    { l with candidate := some ⟨l.tokens.size, s.line, s.column, required⟩ }
  else l

/-- Drops the candidate, as no colon can follow it any more. -/
def withdraw? (l : Layout) : Option Layout :=
  if l.candidate.any Candidate.required then none else some { l with candidate := none }

/-- Whether a candidate lies too far back for a colon here. -/
def isStale (candidate : Candidate) (s : Spot) : Bool :=
  candidate.line < s.line || candidate.column + greatestKey < s.column

/-- Drops the candidate if it lies too far back; in brackets it may lie anywhere. -/
def refresh? (s : Spot) (l : Layout) : Option Layout :=
  if !l.inFlow && l.candidate.any (isStale · s) then l.withdraw? else some l

/-! ### Blocks -/

/-- The indentation after all that is greater than `column` was left, what is around it, and how
many blocks end there. -/
def unroll (column : Int) : Int → List Margin → Int × List Margin × Nat
  | indent, [] => (indent, [], 0)
  | indent, margin :: margins =>
    if column < indent then
      let (outer, margins, ended) := unroll column margin.indent margins
      (outer, margins, ended + margin.isBlock.toNat)
    else (indent, margin :: margins, 0)

/-- Ends the blocks that are indented more than `column`. Brackets are not laid out in blocks. -/
def closeBlocks (column : Int) (l : Layout) : Layout :=
  if l.inFlow then l
  else
    let (indent, margins, ended) := unroll column l.indent l.margins
    { l with indent, margins, tokens := l.tokens ++ Array.replicate ended .blockEnd }

/-- Leaves the indentation of the lines of one value. -/
def leaveValue : Int → List Margin → Int × List Margin
  | indent, [] => (indent, [])
  | indent, margin :: margins =>
    if margin.isBlock then (indent, margin :: margins) else leaveValue margin.indent margins

/-- Begins a block at `column`, unless one has begun there: its token goes before the token at
`position`. -/
def openBlock (column position : Nat) (token : Token) (l : Layout) : Layout :=
  if l.inFlow then l
  else
    let (indent, margins) :=
      match l.margins with
      | margin :: margins =>
        if l.indent ≤ column && !margin.isBlock then (margin.indent, margins)
        else (l.indent, l.margins)
      | [] => (l.indent, [])
    if indent < column then
      { l with
        indent := column
        margins := ⟨indent, true⟩ :: margins
        tokens := l.tokens.insertIdxIfInBounds position token }
    else { l with indent, margins }

/-- Asks the lines of a value to be indented by one more column than the block around it. -/
def indentValue (l : Layout) : Layout :=
  if !l.inFlow && l.margins.head?.any Margin.isBlock then
    { l with indent := l.indent + 1, margins := ⟨l.indent, false⟩ :: l.margins }
  else l

/-! ### Brackets -/

/-- Opens a bracket. -/
def openBracket? (s : Spot) (isList : Bool) (rest : List Spot) (l : Layout) : Option Layout := do
  let l := (l.offer s).indentValue
  if l.brackets.length = greatestDepth then none
  else
    let rest ← pastLine? rest
    return push (if isList then .listStart else .tableStart)
      { l with
        rest
        brackets := ⟨isList, l.candidate⟩ :: l.brackets
        candidate := none
        keyAllowed := true }

/-- The place of the next character. -/
def place (rest : List Spot) : Option (Nat × Nat) :=
  rest.head?.map fun s => (s.line, s.column)

/-- Closes a bracket. -/
def closeBracket? (isList : Bool) (rest : List Spot) (l : Layout) : Option Layout := do
  let l ← l.withdraw?
  let l :=
    match l.brackets with
    | bracket :: brackets => { l with brackets, candidate := bracket.outside }
    | [] => l
  let rest ← pastLine? rest
  let l := if l.inFlow then { l with valueAt := place rest } else l
  return push (if isList then .listEnd else .tableEnd) { l with rest, keyAllowed := false }

/-- Passes a comma. -/
def comma? (rest : List Spot) (l : Layout) : Option Layout := do
  let l ← l.withdraw?
  let rest ← pastLine? rest
  return push .comma { l with rest, keyAllowed := true }

/-! ### Items, keys and values of blocks -/

/-- Begins an item at its dash. -/
def item? (s : Spot) (rest : List Spot) (l : Layout) : Option Layout := do
  if l.inFlow || !l.keyAllowed then none
  else
    let l := l.openBlock s.column l.tokens.size .blockList
    let after := rest.dropWhile Spot.isBlank
    if (rest.takeWhile Spot.isBlank).any (fun s => s.char == '\t') && dashFollows after then none
    else
      let rest ← pastLine? rest
      let l := if rest.head?.any (fun s => s.isBreak || s.isFlowMark) then l.indentValue else l
      let l ← l.withdraw?
      return push .item { l with rest, keyAllowed := true }
where
  /-- Whether another item begins here. -/
  dashFollows : List Spot → Bool
    | s :: rest => s.char == '-' && nextIs Spot.isGap rest
    | [] => false

/-- Begins a key at its question mark. -/
def key? (s : Spot) (rest : List Spot) (l : Layout) : Option Layout := do
  if !l.inFlow && !l.keyAllowed then none
  else
    let l := l.openBlock s.column l.tokens.size .blockTable
    let l ← l.withdraw?
    let after := pastSpaces false rest
    if rest.head?.any (fun s => s.char == ' ' || s.isBreak) &&
        !after.head?.any (fun s => s.char == '\t') then
      return push .key { l with rest := after, keyAllowed := !l.inFlow }
    else none

/-- Begins a value at its colon. The candidate, if there is one, is its key. -/
def value? (s : Spot) (rest : List Spot) (l : Layout) : Option Layout :=
  let blanks := rest.takeWhile Spot.isBlank
  let after := rest.dropWhile Spot.isBlank
  let tabbed := blanks.head?.any (fun s => s.char == '\t') && !blanks.any (fun s => s.char == ' ')
  if tabbed && after.head?.any (fun s => isHandleChar s.char) then none
  else
    match l.candidate with
    | some key =>
      if l.brackets.head?.any Bracket.isList && key.line < s.line then none
      else
        let l := { l with tokens := l.tokens.insertIdxIfInBounds key.position .key }
        let l := (l.openBlock key.column key.position .blockTable).indentValue
        some (push .value { l with rest, candidate := none, keyAllowed := false })
    | none =>
      if l.inFlow then some (push .value { l with rest, keyAllowed := false })
      else if !l.keyAllowed then none
      else
        let l := (l.openBlock s.column l.tokens.size .blockTable).indentValue
        some (push .value { l with rest, keyAllowed := true })

/-! ### Scalars, names and tags -/

/-- Whether a quoted scalar that began on this line may stand before the rest. -/
def closesWell (line : Nat) (l : Layout) (rest : List Spot) : Bool :=
  nextIs (fun s =>
    s.isLineEnd || (l.inFlow && [',', ']', '\x7d'].contains s.char)
      || (s.char == ':' && (l.inFlow || s.line == line))) rest

/-- Reads a quoted scalar. -/
def quoted? (s : Spot) (rest : List Spot) (l : Layout) : Option Layout := do
  let l := (l.offer s).allowKey false
  let (text, rest) ← Yaml.quoted? s.char l.indent rest
  let rest ← pastLine? rest
  if closesWell s.line l rest then
    let (rest, broken) ← pastSpace? l.indent false rest
    return push (.scalar false text)
      { l with rest, valueAt := place rest, keyAllowed := broken && !l.inFlow }
  else none

/-- Reads a plain scalar. -/
def plain? (s : Spot) (l : Layout) : Option Layout := do
  let l := (l.offer s).allowKey false
  let (indent, margins) := leaveValue l.indent l.margins
  let l := { l with indent, margins }
  let (text, rest) ← Yaml.plain? l.inFlow (indent + 1) l.rest
  return push (.scalar true text) { l with rest, keyAllowed := rest.head?.any Spot.leading }

/-- Reads a block scalar. -/
def block? (s : Spot) (rest : List Spot) (l : Layout) : Option Layout := do
  let l := (l.offer s).allowKey true
  let (indent, margins) := leaveValue l.indent l.margins
  let (text, rest) ← Yaml.block? (s.char == '>') indent rest
  return push (.scalar false text) { l with rest, indent, margins }

/-- Reads the name of a node, after its mark. -/
def name? (s : Spot) (token : String → Token) (rest : List Spot) (l : Layout) : Option Layout := do
  let l := (l.offer s).allowKey false
  let (name, rest) ← anchor? rest
  return push (token name) { l with rest }

/-- Reads a tag. -/
def tag? (s : Spot) (rest : List Spot) (l : Layout) : Option Layout := do
  let l := (l.offer s).allowKey false
  let (token, rest) ← Yaml.tag? rest
  if nextIs (fun s => s.isGap || (l.inFlow && s.isFlowMark)) rest then
    return push token { l with rest }
  else none

/-! ### Documents -/

/-- Reads a directive or a mark of a document, which ends all blocks. -/
def documentMark? (read : List Spot → Option (Token × List Spot)) (l : Layout) : Option Layout := do
  let l ← (l.closeBlocks (-1)).withdraw?
  let (token, rest) ← read l.rest
  return push token { l with rest, keyAllowed := false }

/-- The mark of a document's start. -/
def documentStart? (rest : List Spot) : Option (Token × List Spot) :=
  some (.documentStart, rest.drop 3)

/-- The mark of a document's end, after which its line says nothing. -/
def documentEnd? (rest : List Spot) : Option (Token × List Spot) := do
  let rest ← pastLine? (rest.drop 3)
  if nextIs Spot.isLineEnd rest then return (.documentEnd, rest) else none

/-! ### One token after the other -/

/-- Reads the token that begins with the character `s`. -/
def token? (s : Spot) (rest : List Spot) (l : Layout) : Option Layout :=
  let alone := nextIs Spot.isGap rest
  if s.column == 0 && s.char == '%' then l.documentMark? fun _ => directive? rest
  else if beginsMark '-' (s :: rest) then l.documentMark? documentStart?
  else if beginsMark '.' (s :: rest) then l.documentMark? documentEnd?
  else if s.column < l.indent then none
  else
    match s.char with
    | '[' => l.openBracket? s true rest
    | '\x7b' => l.openBracket? s false rest
    | ']' => l.closeBracket? true rest
    | '\x7d' => l.closeBracket? false rest
    | ',' => l.comma? rest
    | '*' => l.name? s .reference rest
    | '&' => l.name? s .anchor rest
    | '!' => l.tag? s rest
    | '\'' => l.quoted? s rest
    | '"' => l.quoted? s rest
    | '%' => none
    | '@' => none
    | '\x60' => none
    | '-' => if alone then l.item? s rest else l.plain? s
    | '?' => if alone then l.key? s rest else l.plain? s
    | ':' =>
      if alone ||
          (l.inFlow && (nextIs Spot.isFlowMark rest || l.valueAt == some (s.line, s.column))) then
        l.value? s rest
      else l.plain? s
    | '|' => if l.inFlow then l.plain? s else l.block? s rest
    | '>' => if l.inFlow then l.plain? s else l.block? s rest
    | _ => l.plain? s

/-- Reads the next token, or at the end of the text the ends of all blocks. -/
def step? (l : Layout) : Option Layout := do
  let (rest, broken) ← pastSpace? l.indent false l.rest
  match rest with
  | [] => return { l with rest := [] }
  | s :: after =>
    let l := { l with rest, keyAllowed := l.keyAllowed || (broken && !l.inFlow) }
    let l ← l.refresh? s
    if s.isEnd then
      let l ← l.withdraw?
      return { l.closeBlocks (-1) with rest := [] }
    else (l.closeBlocks s.column).token? s after

/-- Reads tokens up to the end of the text, at most `fuel` of them. -/
def run? : Nat → Layout → Option Layout
  | 0, l => if l.rest.isEmpty then some l else none
  | fuel + 1, l => if l.rest.isEmpty then some l else l.step?.bind (run? fuel)

end Layout

/-- The tokens of a text. Every step passes a character or the end of the text. -/
def tokens? (text : String) : Option (List Token) :=
  let spots := spotsOf text
  (Layout.run? (spots.length + 1) (Layout.initial spots)).map fun l => l.tokens.toList

end Faceted.Config.Yaml
