/-!
# Blanks around a text

The text of a search is trimmed of white space, where white space is what Unicode calls so.

## Main definitions

* `Text.isBlank` — the characters with the property White_Space
* `Text.trim` — drops the blanks at both ends
-/

namespace Faceted.Text

/-- Whether a character has the Unicode property White_Space. -/
def isBlank (c : Char) : Bool :=
  let n := c.toNat
  (9 ≤ n && n ≤ 13) || n == 0x20 || n == 0x85 || n == 0xA0 || n == 0x1680
    || (0x2000 ≤ n && n ≤ 0x200A) || n == 0x2028 || n == 0x2029 || n == 0x202F || n == 0x205F
    || n == 0x3000

/-- Drops the characters in a class at the front. -/
def dropFront (p : Char → Bool) (chars : List Char) : List Char :=
  chars.dropWhile p

/-- Drops the characters in a class at the end. -/
def dropBack (p : Char → Bool) (chars : List Char) : List Char :=
  (chars.reverse.dropWhile p).reverse

/-- Drops the blanks at both ends. -/
def trim (s : String) : String :=
  String.ofList (dropBack isBlank (dropFront isBlank s.toList))

end Faceted.Text
