import Faceted.Text.Blank

/-!
# The address of the search engine

A search is posted to a path below the address of the search engine. However many slashes are given
at a seam, exactly one is written.

## Main definitions

* `Address.append` — a path below an address
* `Address.search` — where the searches of an index are posted to
-/

namespace Faceted.Address

/-- Whether a character is a slash. -/
def isSlash (c : Char) : Bool := c == '/'

/-- Puts a path below an address, with one slash between them. -/
def append (base path : String) : String :=
  String.ofList (Text.dropBack isSlash base.toList ++ '/' :: Text.dropFront isSlash path.toList)

/-- Where the searches of an index are posted to. -/
def search (base index : String) : String :=
  append (append base index) "_search"

end Faceted.Address
