import Faceted.Decimal.Shortest

/-!
# Numerals

Configuration gives numbers as text. A numeral is read to the nearest double: digits with an
optional point and exponent, or a word for infinity or for not-a-number.

## Main definitions

* `Numeral.double?` — the double that a text spells
* `Numeral.integer?` — the integer that a text spells
* `Numeral.fitsWord` — whether an integer fits 64 bits with sign
* `Numeral.below?` — the natural number below a bound that a text spells
-/

namespace Faceted.Decimal.Numeral

/-- A sign at the front: whether it is negative, and the rest. -/
def signed : List Char → Bool × List Char
  | '-' :: rest => (true, rest)
  | '+' :: rest => (false, rest)
  | rest => (false, rest)

/-- The number that digits form. -/
def digitsValue (digits : List Char) : Nat :=
  digits.foldl (fun n c => 10 * n + (c.toNat - 48)) 0

/-- The integer that a text spells: digits after an optional sign. -/
def integer? (chars : List Char) : Option Int :=
  let (negative, digits) := signed chars
  if digits.isEmpty || !digits.all Char.isDigit then none
  else
    let n : Int := digitsValue digits
    some (if negative then -n else n)

/-- Whether an integer fits 64 bits with sign. -/
def fitsWord (n : Int) : Bool :=
  -((1 <<< 63 : Nat) : Int) ≤ n && n < (1 <<< 63 : Nat)

/-- The natural number below a bound that a text spells: digits after an optional plus sign. -/
def below? (bound : Nat) (text : String) : Option Nat :=
  let digits :=
    match text.toList with
    | '+' :: rest => rest
    | rest => rest
  if digits.isEmpty || !digits.all Char.isDigit then none
  else
    let n := digitsValue digits
    if n < bound then some n else none

/-- The double nearest to `coefficient · 10 ^ scale`. -/
def nearest (coefficient : Nat) (scale : Int) : Float :=
  let power := (digitCount coefficient : Int) + scale
  if coefficient = 0 then 0.0
  else if 310 < power then 1.0 / 0.0
  else if power < -330 then 0.0
  else Float.ofScientific coefficient (scale < 0) scale.natAbs

/-- The exponent after a letter `e`; zero if there is none. -/
def exponent? : List Char → Option Int
  | [] => some 0
  | letter :: rest => if letter = 'e' || letter = 'E' then integer? rest else none

/-- The double that digits without a sign spell. -/
def unsigned? (chars : List Char) : Option Float :=
  let word := chars.map Char.toLower
  if word = "inf".toList || word = "infinity".toList then some (1.0 / 0.0)
  else if word = "nan".toList then some (0.0 / 0.0)
  else
    let whole := chars.takeWhile Char.isDigit
    let (fraction, rest) :=
      match chars.dropWhile Char.isDigit with
      | '.' :: rest => (rest.takeWhile Char.isDigit, rest.dropWhile Char.isDigit)
      | rest => ([], rest)
    if whole.isEmpty && fraction.isEmpty then none
    else (exponent? rest).map fun exponent =>
      nearest (digitsValue (whole ++ fraction)) (exponent - fraction.length)

/-- The double that a text spells. -/
def double? (chars : List Char) : Option Float :=
  let (negative, rest) := signed chars
  (unsigned? rest).map fun x => if negative then -x else x

end Faceted.Decimal.Numeral
