/-!
# Characters in their places

What a character of a YAML text means depends on its place: on its column, and on whether only
blanks stand before it on its line. A text is therefore read as a list of characters that know their
places. It ends with a mark at the place where a next character would stand, and a line break is one
character, however it was written.

## Main definitions

* `Yaml.Spot` — a character in its place
* `Yaml.spotsOf` — the characters of a text
* `Yaml.pastLine?` — passes what a line may say after a token
* `Yaml.pastSpace?` — passes blanks, comments and line breaks up to the next token
-/

namespace Faceted.Config.Yaml

/-- The character that stands for the end of a text, and ends it wherever it stands. -/
def endMark : Char := '\x00'

/-- A character in its place. Lines and columns count from zero. -/
structure Spot where
  char : Char
  line : Nat
  column : Nat
  /-- Whether only blanks stand before it on its line. -/
  leading : Bool
deriving DecidableEq, Repr

/-- The characters of a text that begins at a place, and the mark at its end. -/
def spotsFrom (line column : Nat) (leading : Bool) : List Char → List Spot
  | [] => [⟨endMark, line, column, leading⟩]
  | '\r' :: '\n' :: rest => ⟨'\n', line, column, leading⟩ :: spotsFrom (line + 1) 0 true rest
  | c :: rest =>
    if c = endMark then [⟨endMark, line, column, leading⟩]
    else if c = '\n' || c = '\r' then
      ⟨'\n', line, column, leading⟩ :: spotsFrom (line + 1) 0 true rest
    else
      ⟨c, line, column, leading⟩ ::
        spotsFrom line (column + 1) (leading && (c == ' ' || c == '\t')) rest

/-- The characters of a text. -/
def spotsOf (text : String) : List Spot :=
  spotsFrom 0 0 true text.toList

/-! ### Classes -/

/-- The marks of values in brackets. -/
def flowMarks : List Char := [',', '[', ']', '{', '}']

namespace Spot

/-- Whether it is a blank within a line. -/
def isBlank (s : Spot) : Bool := s.char == ' ' || s.char == '\t'

/-- Whether it ends a line. -/
def isBreak (s : Spot) : Bool := s.char == '\n'

/-- Whether it is the end of the text. -/
def isEnd (s : Spot) : Bool := s.char == endMark

/-- Whether it ends a line or the text. -/
def isLineEnd (s : Spot) : Bool := s.isBreak || s.isEnd

/-- Whether it ends a word: a blank, the end of a line or the end of the text. -/
def isGap (s : Spot) : Bool := s.isBlank || s.isLineEnd

/-- Whether it is a mark of values in brackets. -/
def isFlowMark (s : Spot) : Bool := flowMarks.contains s.char

end Spot

/-- Whether the first character, if there is one, lies in a class. -/
def nextIs (p : Spot → Bool) (rest : List Spot) : Bool := rest.head?.all p

/-- Whether three times `c` stands alone at the start of a line. -/
def beginsMark (c : Char) : List Spot → Bool
  | x :: y :: z :: rest =>
    x.column == 0 && x.char == c && y.char == c && z.char == c && nextIs Spot.isGap rest
  | _ => false

/-- Whether a document begins or ends here. -/
def beginsDocumentMark (rest : List Spot) : Bool :=
  beginsMark '-' rest || beginsMark '.' rest

/-! ### Space between tokens -/

/-- Whether the rest of a line says nothing: blanks, and perhaps a comment. -/
def saysNothing (rest : List Spot) : Bool :=
  nextIs (fun s => s.isLineEnd || s.char == '#') (rest.dropWhile Spot.isBlank)

/-- Passes blanks, and a comment up to the end of its line. A comment needs a blank before it. -/
def pastLine? (rest : List Spot) : Option (List Spot) :=
  let after := rest.dropWhile Spot.isBlank
  match after with
  | s :: _ =>
    if s.char == '#' then
      if nextIs Spot.isBlank rest then some (after.dropWhile fun s => !s.isLineEnd) else none
    else some after
  | [] => some []

/-- Passes blanks, comments and line breaks; answers the rest, and whether there was a line break.
`tabsFrom` is the column from which on tabs may indent a line that says something, and `inComment`
says whether a comment is open. -/
def pastSpace? (tabsFrom : Int) (inComment : Bool) : List Spot → Option (List Spot × Bool)
  | [] => some ([], false)
  | s :: rest =>
    if s.isBreak then (pastSpace? tabsFrom false rest).map fun found => (found.1, true)
    else if inComment && !s.isEnd then pastSpace? tabsFrom true rest
    else if s.isBlank then
      if s.char == '\t' && s.leading && s.column < tabsFrom && !saysNothing rest then none
      else pastSpace? tabsFrom false rest
    else if s.char == '#' then pastSpace? tabsFrom true rest
    else some (s :: rest, false)

/-- Passes spaces, comments and line breaks, but no tabs. -/
def pastSpaces (inComment : Bool) : List Spot → List Spot
  | [] => []
  | s :: rest =>
    if s.isBreak then pastSpaces false rest
    else if inComment && !s.isEnd then pastSpaces true rest
    else if s.char == ' ' then pastSpaces false rest
    else if s.char == '#' then pastSpaces true rest
    else s :: rest

end Faceted.Config.Yaml
