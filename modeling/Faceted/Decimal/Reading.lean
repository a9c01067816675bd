/-!
# Reading decimals as doubles

A decimal literal is a whole number scaled by a power of ten. Its leading digits are kept as long as
they fit 64 bits, that number is rounded to a double, and the double is multiplied or divided by the
power of ten. Literals of up to fifteen digits with small exponents are therefore read exactly.

## Main definitions

* `Literal` — sign, digits before and after the point, and exponent of a decimal literal
* `Literal.toDouble` — its double, or nothing if it lies beyond the doubles
-/

namespace Faceted.Decimal

/-- A decimal literal, its digits as numbers from 0 to 9. -/
structure Literal where
  negative : Bool
  whole : List Nat
  fraction : List Nat
  exponent : Int
deriving DecidableEq, Repr

/-- The greatest number that the kept digits may form. -/
def greatestSignificand : Nat := (1 <<< 64) - 1

/-- Appends digits to `acc` as long as the number they form fits 64 bits; answers that number and
how many digits were taken. -/
def takeDigits (acc : Nat) : List Nat → Nat × Nat
  | [] => (acc, 0)
  | digit :: rest =>
    if 10 * acc + digit ≤ greatestSignificand then
      let (total, count) := takeDigits (10 * acc + digit) rest
      (total, count + 1)
    else (acc, 0)

/-- The double nearest to a natural number below `2 ^ 64`. -/
def doubleOfNat (n : Nat) : Float :=
  (UInt64.ofNat n).toFloat

/-- The double nearest to `10 ^ power`. -/
def tenTo (power : Nat) : Float :=
  Float.ofScientific 1 false power

/-- Scales `x` by `10 ^ exponent`: exponents beyond 308 either overflow or are divided out in steps
of 308, at most `fuel` of them. -/
def scaled (x : Float) (exponent : Int) : Nat → Option Float
  | 0 => some 0.0
  | fuel + 1 =>
    if exponent.natAbs ≤ 308 then
      if 0 ≤ exponent then
        let y := x * tenTo exponent.toNat
        if y.isFinite then some y else none
      else some (x / tenTo exponent.natAbs)
    else if x == 0.0 then some x
    else if 0 ≤ exponent then none
    else scaled (x / tenTo 308) (exponent + 308) fuel

namespace Literal

/-- The kept digits as a number, and the power of ten that they are short of. Where digits before
the point had to be left out, those after it are still appended as long as they fit. -/
def significand (l : Literal) : Nat × Int :=
  let (whole, taken) := takeDigits 0 l.whole
  let (total, count) := takeDigits whole l.fraction
  (total, ((l.whole.length - taken : Nat) : Int) - (count : Int))

/-- The double of a literal, if it does not overflow. An exponent that does not fit 32 bits
overflows unless the digits are all zero, and underflows to zero if it is negative. -/
def toDouble (l : Literal) : Option Float :=
  let (digits, shift) := l.significand
  let magnitude :=
    if ((1 <<< 31 : Nat) : Int) ≤ l.exponent then if digits = 0 then some 0.0 else none
    else if l.exponent ≤ -((1 <<< 31 : Nat) : Int) then some 0.0
    else scaled (doubleOfNat digits) (shift + l.exponent) 5
  magnitude.map fun x => if l.negative then -x else x

end Literal

end Faceted.Decimal
