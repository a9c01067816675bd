import Faceted.Config.Yaml.Quoted

/-!
# Tokens of YAML text

A text is a sequence of tokens: marks of blocks, which its indentation gives, marks of brackets,
scalars, and the names and tags that stand before nodes. This file names the tokens and reads those
that consist of a name: anchors, tags and directives.

## Main definitions

* `Yaml.Token` — one token
* `Yaml.anchor?`, `Yaml.tag?`, `Yaml.directive?` — the tokens that are read by their letters
-/

namespace Faceted.Config.Yaml

/-- A token of YAML text. -/
inductive Token where
  | documentStart
  | documentEnd
  /-- A directive that names the version of YAML. -/
  | version
  /-- A directive that says what a handle at the start of tags stands for. -/
  | tagHandle (handle start : String)
  | blockList
  | blockTable
  | blockEnd
  | listStart
  | listEnd
  | tableStart
  | tableEnd
  | item
  | comma
  | key
  | value
  /-- A node that was given elsewhere. -/
  | reference (name : String)
  /-- The name of the node that follows. -/
  | anchor (name : String)
  | tag (handle suffix : String)
  | scalar (plain : Bool) (text : List Char)
deriving DecidableEq, Repr

/-! ### Names -/

/-- Takes characters of a class at the front. -/
def spanOf (p : Char → Bool) (rest : List Spot) : List Char × List Spot :=
  ((rest.takeWhile fun s => p s.char).map Spot.char, rest.dropWhile fun s => p s.char)

/-- Whether a character may stand in the name of an anchor. -/
def isAnchorSpot (s : Spot) : Bool :=
  !(s.isGap || s.isFlowMark || s.char == '\ufeff')

/-- The name of an anchor, which is not empty, and what follows. -/
def anchor? (rest : List Spot) : Option (String × List Spot) :=
  match rest.takeWhile isAnchorSpot with
  | [] => none
  | name => some (String.ofList (name.map Spot.char), rest.dropWhile isAnchorSpot)

/-- Whether a character may stand in a handle or in the name of a directive. -/
def isHandleChar (c : Char) : Bool := c.isAlphanum || c == '_' || c == '-'

/-- Whether a character may stand in an address. -/
def isAddressChar (c : Char) : Bool :=
  (isHandleChar c && c != '_') || "#;/?:@&=+$,_.!~*'()[]%".toList.contains c

/-- Whether a character may stand in a tag after its handle. -/
def isTagChar (c : Char) : Bool :=
  isAddressChar c && c != '!' && !flowMarks.contains c

/-- Resolves the escapes in an address: a percent sign and the code of an ASCII character. -/
def unescape? : List Char → Option (List Char)
  | [] => some []
  | '%' :: a :: b :: rest => do
    let high ← digit? 16 a
    let low ← digit? 16 b
    if high < 8 then (unescape? rest).map (Char.ofNat (16 * high + low) :: ·) else none
  | c :: rest => if c = '%' then none else (unescape? rest).map (c :: ·)

/-- An address at the front, and what follows. -/
def address? (p : Char → Bool) (rest : List Spot) : Option (List Char × List Spot) :=
  let (chars, rest) := spanOf p rest
  (unescape? chars).map (·, rest)

/-- A handle after its exclamation mark, which it includes, and what follows. -/
def handle (rest : List Spot) : List Char × List Spot :=
  let (name, rest) := spanOf isHandleChar rest
  match rest with
  | s :: after => if s.char == '!' then ('!' :: name ++ ['!'], after) else ('!' :: name, rest)
  | [] => ('!' :: name, [])

/-- A tag after its exclamation mark, and what follows: an address in angle brackets, a handle and a
name, or a name by itself. -/
def tag? (rest : List Spot) : Option (Token × List Spot) :=
  match rest with
  | s :: after =>
    if s.char == '<' then do
      let (address, rest) ← address? isAddressChar after
      match rest with
      | s :: rest => if s.char == '>' then some (.tag "" (String.ofList address), rest) else none
      | [] => none
    else do
      let (found, after) := handle rest
      let (name, after) ← address? isTagChar after
      if 2 ≤ found.length && found.getLast? == some '!' then
        if name.isEmpty then none else some (.tag (String.ofList found) (String.ofList name), after)
      else if (found.drop 1 ++ name).isEmpty then some (.tag "" "!", after)
      else some (.tag "!" (String.ofList (found.drop 1 ++ name)), after)
  | [] => none

/-! ### Directives -/

/-- The digits of a number in a version, of which there are one to nine, and what follows. -/
def versionNumber? (rest : List Spot) : Option (List Spot) :=
  let digits := rest.takeWhile fun s => s.char.isDigit
  if digits.isEmpty || 9 < digits.length then none else some (rest.drop digits.length)

/-- A version after the name of its directive. -/
def version? (rest : List Spot) : Option (Token × List Spot) := do
  let rest ← versionNumber? (rest.dropWhile Spot.isBlank)
  match rest with
  | s :: rest => if s.char == '.' then (versionNumber? rest).map (Token.version, ·) else none
  | [] => none

/-- What a handle stands for, after the name of its directive. -/
def tagHandle? (rest : List Spot) : Option (Token × List Spot) := do
  match rest.dropWhile Spot.isBlank with
  | s :: rest =>
    if s.char != '!' then none
    else
      let (found, rest) := handle rest
      if found.getLast? != some '!' then none
      else
        let rest := rest.dropWhile Spot.isBlank
        if rest.head?.any fun s => isTagChar s.char || s.char == '!' then
          let (start, rest) ← address? isAddressChar rest
          if nextIs Spot.isGap rest then
            some (.tagHandle (String.ofList found) (String.ofList start), rest)
          else none
        else none
  | [] => none

/-- A directive after its percent sign, and what follows its line. One of
another name says nothing. -/
def directive? (rest : List Spot) : Option (Token × List Spot) := do
  let (name, rest) := spanOf isHandleChar rest
  if name.isEmpty || !nextIs Spot.isGap rest then none
  else
    let (token, rest) ←
      if name = "YAML".toList then version? rest
      else if name = "TAG".toList then tagHandle? rest
      else some (.tagHandle "" "", rest.dropWhile fun s => !s.isLineEnd)
    match ← pastLine? rest with
    | s :: after =>
      if s.isBreak then some (token, after) else if s.isEnd then some (token, s :: after) else none
    | [] => some (token, [])

end Faceted.Config.Yaml
