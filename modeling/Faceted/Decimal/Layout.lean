import Faceted.Decimal.Shortest

/-!
# Laying out the digits of a number

The digits that `Shortest` chooses are written positionally or with an exponent. Two layouts are in
use: numbers inside JSON always show that they are doubles, and weights in a field list are written
plainly, without exponent and without an empty fraction.

## Main definitions

* `Layout` — the choices that are left once the digits are known
* `Layout.text` — a double, written out
* `Layout.json`, `Layout.weight` — the two layouts in use
-/

namespace Faceted.Decimal

/-- How the digits of a double are set out. -/
structure Layout where
  /-- Numbers whose leading digit stands at a power of ten in this range are written positionally,
  all others with an exponent; without a range every number is positional. -/
  positional : Option (Int × Int)
  /-- What follows the digits of a positional whole number. -/
  wholeEnd : String
  /-- Which of two equally near shortest decimals is written. -/
  tie : Tie

namespace Layout

/-- Numbers in JSON: positional from `0.00001` up to, and without, `10 ^ 16`, and always with a
fraction, so that a double is never taken for an integer. -/
def json : Layout :=
  { positional := some (-5, 15), wholeEnd := ".0", tie := .even }

/-- Weights of fields: always positional, whole numbers without a fraction. -/
def weight : Layout :=
  { positional := none, wholeEnd := "", tie := .up }

/-- Whether a number whose leading digit stands at `10 ^ power` is written positionally. -/
def isPositional (layout : Layout) (power : Int) : Bool :=
  match layout.positional with
  | none => true
  | some (least, greatest) => decide (least ≤ power) && decide (power ≤ greatest)

/-- Digits around a decimal point, of which `digits` is the part before and after it without a
leading or closing zero; `power` is that of the first digit. -/
def positionalText (layout : Layout) (digits : List Char) (power : Int) : String :=
  if power < 0 then
    String.ofList ('0' :: '.' :: (List.replicate (-power - 1).toNat '0' ++ digits))
  else
    let width := power.toNat + 1
    let whole := digits.take width ++ List.replicate (width - digits.length) '0'
    match digits.drop width with
    | [] => String.ofList whole ++ layout.wholeEnd
    | fraction => String.ofList (whole ++ '.' :: fraction)

/-- One digit, the others after a point, then the exponent with its sign. -/
def scientificText (digits : List Char) (power : Int) : String :=
  let exponent := if power < 0 then toString power else "+" ++ toString power
  match digits with
  | [] => "0"
  | [digit] => String.ofList [digit] ++ "e" ++ exponent
  | digit :: fraction => String.ofList (digit :: '.' :: fraction) ++ "e" ++ exponent

/-- Digits without a sign. -/
def digitsText (layout : Layout) (d : Digits) : String :=
  let d := d.trimmed
  let digits := Nat.toDigits 10 d.coefficient
  let power := d.scale + digits.length - 1
  if layout.isPositional power then layout.positionalText digits power
  else scientificText digits power

/-- A double, written out. Not-a-number has no sign. -/
def text (layout : Layout) (x : Float) : String :=
  let sign := if isNegative x then "-" else ""
  match Magnitude.ofDouble x with
  | .notANumber => "NaN"
  | .infinite => sign ++ "inf"
  | .zero => sign ++ "0" ++ layout.wholeEnd
  | .finite significand exponent atBoundary =>
    sign ++
      layout.digitsText ((Interval.around significand exponent atBoundary).shortest layout.tie)

end Layout

end Faceted.Decimal
