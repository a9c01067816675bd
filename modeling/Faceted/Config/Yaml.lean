import Faceted.Config.Yaml.Node

/-!
# Configuration files

Configuration files are written in YAML, of which JSON is a part. A text is read into
characters in their places, these into tokens, whose layout shows which blocks open and
close, and tokens into nodes.

## Main definitions

* `Yaml.read?` — the table of a file
-/

namespace Faceted.Config.Yaml

/-- The mark of byte order that may stand at the start of a file. -/
def byteOrderMark : Char := '\ufeff'

/-- The text without a mark of byte order. -/
def unmarked (text : String) : String :=
  match text.toList with
  | c :: rest => if c = byteOrderMark then String.ofList rest else text
  | [] => text

/-- The table of a file. A file that says nothing is an empty table; any other value is refused. -/
def read? (text : String) : Option (List (String × Value)) :=
  match document? (unmarked text) with
  | some none => some []
  | some (some (.table entries)) => some entries
  | _ => none

end Faceted.Config.Yaml
