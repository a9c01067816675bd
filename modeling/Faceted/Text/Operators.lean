/-!
# Boolean operators in a search text

The search engine knows `AND` and `OR` in capitals only. Between blanks, `and` and `or` in any case
are put in capitals; everything else is left to the engine's analyzer. A blank that ends one
operator is used up and does not begin the next.

## Main definitions

* `Text.standsAt` — an operator with its two blanks begins here, in any case
* `Text.raise` — puts one operator in capitals
* `Text.raiseOperators` — `and` first, then `or`
* `Text.isFuzzy` — the text asks for fuzzy matching
-/

namespace Faceted.Text

/-- Whether `text` begins with a blank, `word` in any case, and a blank. -/
def standsAt (word text : List Char) : Bool :=
  (text.take (word.length + 2)).map Char.toLower == ' ' :: (word ++ [' '])

/-- Puts `word` in capitals wherever it stands between blanks, from left to right; `inside` counts
the characters of an operator that are still to be copied. -/
def raise (word : List Char) : Nat → List Char → List Char
  | _, [] => []
  | inside + 1, c :: rest => c.toUpper :: raise word inside rest
  | 0, c :: rest =>
    if standsAt word (c :: rest) then c :: raise word (word.length + 1) rest
    else c :: raise word 0 rest

/-- Puts the operators `and` and `or` in capitals. -/
def raiseOperators (text : String) : String :=
  String.ofList (raise ['o', 'r'] 0 (raise ['a', 'n', 'd'] 0 text.toList))

/-- Marks a word that is to be matched fuzzily, as in `shoe~`. -/
def fuzzyMark : Char := '~'

/-- Whether a text asks for fuzzy matching. -/
def isFuzzy (text : String) : Bool :=
  text.toList.contains fuzzyMark

end Faceted.Text
