import Faceted.Config.Yaml.Spot

/-!
# Quoted scalars

A quoted scalar may go on over several lines. The white space around a line break then counts as one
blank, and empty lines count as the line breaks they end with. In single quotes only the quote
itself is written twice; in double quotes a backslash begins an escape.

## Main definitions

* `Yaml.Gap` — white space between two words of a scalar, and `Gap.text`, what it stands for
* `Yaml.digit?` — the value of a digit in a base
* `Yaml.escaped?` — the character that a letter after a backslash stands for
* `Yaml.quoted?` — the text of a quoted scalar
-/

namespace Faceted.Config.Yaml

/-! ### White space between words -/

/-- White space between two words of a scalar, as far as it has been read. -/
inductive Gap where
  /-- Blanks within a line, the last one first. -/
  | blanks (chars : List Char)
  /-- A line break and `more` further ones, with blanks around them that do not count. -/
  | breaks (more : Nat)
  /-- A line break that does not count, as a backslash stands before it, and `more` further ones. -/
  | joined (more : Nat)
deriving DecidableEq, Repr

namespace Gap

/-- No white space. -/
def none : Gap := .blanks []

/-- Whether there is a line break in it. -/
def isBroken : Gap → Bool
  | .blanks _ => false
  | _ => true

/-- The gap with one more blank. -/
def addBlank (c : Char) : Gap → Gap
  | .blanks chars => .blanks (c :: chars)
  | gap => gap

/-- The gap with one more line break. -/
def addBreak : Gap → Gap
  | .blanks _ => .breaks 0
  | .breaks more => .breaks (more + 1)
  | .joined more => .joined (more + 1)

/-- What the gap stands for in the text of a scalar. -/
def text : Gap → List Char
  | .blanks chars => chars.reverse
  | .breaks 0 => [' ']
  | .breaks more => List.replicate more '\n'
  | .joined more => List.replicate more '\n'

end Gap

/-! ### Escapes -/

/-- The value of a digit in a base up to sixteen. -/
def digit? (base : Nat) (c : Char) : Option Nat :=
  let value :=
    if c.isDigit then some (c.toNat - 48)
    else if 'a' ≤ c && c ≤ 'f' then some (c.toNat - 87)
    else if 'A' ≤ c && c ≤ 'F' then some (c.toNat - 55)
    else none
  value.filter (· < base)

/-- The character that a letter after a backslash stands for. -/
def escaped? (c : Char) : Option Char :=
  [('0', '\x00'), ('a', '\x07'), ('b', '\x08'), ('t', '\x09'), ('\t', '\x09'), ('n', '\x0a'),
    ('v', '\x0b'), ('f', '\x0c'), ('r', '\x0d'), ('e', '\x1b'), (' ', ' '), ('"', '"'), ('/', '/'),
    ('\\', '\\'), ('N', '\x85'), ('_', '\xa0'), ('L', '\u2028'), ('P', '\u2029')].lookup c

/-- How many hexadecimal digits a letter after a backslash asks for. -/
def codeLength? (c : Char) : Option Nat :=
  [('x', 2), ('u', 4), ('U', 8)].lookup c

/-- The character with a code point. -/
def charOf? (code : Nat) : Option Char :=
  if code.isValidChar then some (Char.ofNat code) else none

/-! ### The text in quotes -/

/-- What has just been read of a quoted scalar. -/
inductive Quoting where
  /-- White space after the words so far. -/
  | words (gap : Gap)
  /-- A single quote: either the first of two or the closing one. -/
  | quote
  /-- A backslash. -/
  | escape
  /-- Digits of a code point, with `owed + 1` still to come. -/
  | code (value owed : Nat)
deriving DecidableEq, Repr

/-- The rest of the text in quotes, and what follows the closing quote. Lines must not be
indented less than `indent`, nor begin like a document; only a closing quote may follow a joined
line break everywhere. -/
def quotedFrom (quote : Char) (indent : Int) : Quoting → List Spot → Option (List Char × List Spot)
  | _, [] => none
  | .words gap, s :: rest =>
    let add (chars : List Char) (found : Option (List Char × List Spot)) :=
      found.map fun found => (gap.text ++ chars ++ found.1, found.2)
    if s.isBreak then quotedFrom quote indent (.words gap.addBreak) rest
    else if s.isBlank then
      if gap.isBroken && s.char == '\t' && s.column < indent then none
      else quotedFrom quote indent (.words (gap.addBlank s.char)) rest
    else if s.isEnd then none
    else if gap == .joined 0 && s.column == 0 && s.char == quote && quote == '"' then
      some ([], rest)
    else if gap.isBroken && (s.column < indent || beginsDocumentMark (s :: rest)) then none
    else if s.char == quote then
      if quote == '"' then some (gap.text, rest) else add [] (quotedFrom quote indent .quote rest)
    else if s.char == '\\' && quote == '"' then add [] (quotedFrom quote indent .escape rest)
    else add [s.char] (quotedFrom quote indent (.words .none) rest)
  | .quote, s :: rest =>
    if s.char == '\'' then
      (quotedFrom quote indent (.words .none) rest).map fun found => ('\'' :: found.1, found.2)
    else some ([], s :: rest)
  | .escape, s :: rest =>
    if s.isBreak then quotedFrom quote indent (.words (.joined 0)) rest
    else
      match codeLength? s.char with
      | some length => quotedFrom quote indent (.code 0 (length - 1)) rest
      | none => do
        let c ← escaped? s.char
        let (text, rest) ← quotedFrom quote indent (.words .none) rest
        return (c :: text, rest)
  | .code value owed, s :: rest => do
    let digit ← digit? 16 s.char
    let value := 16 * value + digit
    if owed = 0 then
      let c ← charOf? value
      let (text, rest) ← quotedFrom quote indent (.words .none) rest
      return (c :: text, rest)
    else quotedFrom quote indent (.code value (owed - 1)) rest

/-- The text of a scalar after its opening quote, and what follows the closing one. -/
def quoted? (quote : Char) (indent : Int) (rest : List Spot) : Option (List Char × List Spot) :=
  quotedFrom quote indent (.words .none) rest

end Faceted.Config.Yaml
