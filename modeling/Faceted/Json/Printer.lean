import Faceted.Json.Basic

/-!
# Writing JSON

Values are written on one line without blanks, as they are sent, or over several lines with two
blanks per level, as they are shown. Both forms keep the order of members.

## Main definitions

* `Json.quote` — a string in quotes, with escapes
* `Json.compact` — a value on one line
* `Json.pretty` — a value over several lines
-/

namespace Faceted.Json

/-- A hexadecimal digit in lower case. -/
def hexDigit (n : Nat) : Char :=
  Nat.digitChar n

/-- A character inside quotes. Quote, backslash and the control characters below the blank are
escaped, the common ones by a letter and the others by their code; all else stands for itself. -/
def escape (c : Char) : List Char :=
  if c = '"' then ['\\', '"']
  else if c = '\\' then ['\\', '\\']
  else if c = '\x08' then ['\\', 'b']
  else if c = '\x09' then ['\\', 't']
  else if c = '\x0a' then ['\\', 'n']
  else if c = '\x0c' then ['\\', 'f']
  else if c = '\x0d' then ['\\', 'r']
  else if c.toNat < 32 then ['\\', 'u', '0', '0', hexDigit (c.toNat / 16), hexDigit (c.toNat % 16)]
  else [c]

/-- A string in quotes. -/
def quote (s : String) : String :=
  String.ofList ('"' :: (s.toList.flatMap escape ++ ['"']))

/-- Pieces with `separator` between them. -/
def joined (separator : String) (pieces : List String) : String :=
  separator.intercalate pieces

mutual

/-- A value on one line, without blanks. -/
def compact : Json → String
  | .null => "null"
  | .bool true => "true"
  | .bool false => "false"
  | .number n => n.text
  | .text s => quote s
  | .array items => "[" ++ joined "," (compactItems items) ++ "]"
  | .object members => "\x7b" ++ joined "," (compactMembers members) ++ "\x7d"

/-- The items of an array, each on one line. -/
def compactItems : List Json → List String
  | [] => []
  | item :: rest => item.compact :: compactItems rest

/-- The members of an object, each on one line. -/
def compactMembers : List (String × Json) → List String
  | [] => []
  | (name, value) :: rest => (quote name ++ ":" ++ value.compact) :: compactMembers rest

end

/-- The start of a line at a level of indentation. -/
def lineStart (level : Nat) : String :=
  String.ofList ('\n' :: List.replicate (2 * level) ' ')

/-- Lines between brackets; nothing but the brackets if there are none. -/
def bracketed (opening closing : String) (level : Nat) (lines : List String) : String :=
  if lines.isEmpty then opening ++ closing
  else
    opening ++ lineStart (level + 1) ++ joined ("," ++ lineStart (level + 1)) lines
      ++ lineStart level ++ closing

mutual

/-- A value over several lines, its brackets closing at `level`. -/
def prettyAt (level : Nat) : Json → String
  | .array items => bracketed "[" "]" level (prettyItems (level + 1) items)
  | .object members => bracketed "\x7b" "\x7d" level (prettyMembers (level + 1) members)
  | value => value.compact

/-- The items of an array over several lines. -/
def prettyItems (level : Nat) : List Json → List String
  | [] => []
  | item :: rest => item.prettyAt level :: prettyItems level rest

/-- The members of an object over several lines. -/
def prettyMembers (level : Nat) : List (String × Json) → List String
  | [] => []
  | (name, value) :: rest =>
    (quote name ++ ": " ++ value.prettyAt level) :: prettyMembers level rest

end

/-- A value over several lines. -/
def pretty (value : Json) : String :=
  value.prettyAt 0

end Faceted.Json
