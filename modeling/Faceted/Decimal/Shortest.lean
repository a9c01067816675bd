/-!
# The fewest digits that read back

A binary floating-point number is written with as few decimal digits as still single it out: of all
decimals that round to the number, one with the fewest digits, and among those the nearest.
Everything here is exact arithmetic on natural numbers.

## Main definitions

* `Magnitude` — what the bits of a double say, apart from its sign
* `Magnitude.ofDouble` — reads the bits
* `Interval` — the decimals that round to a number, as fractions over one denominator
* `Digits` — a decimal `coefficient · 10 ^ scale`
* `Interval.shortest` — the fewest digits inside the interval
-/

namespace Faceted.Decimal

/-- What the bits of a double say, apart from its sign. -/
inductive Magnitude where
  | zero
  /-- The number `significand · 2 ^ exponent`. `atBoundary` marks the least significand of its
  binade, below which the neighbours lie twice as close. -/
  | finite (significand : Nat) (exponent : Int) (atBoundary : Bool)
  | infinite
  | notANumber
deriving DecidableEq, Repr

/-- The magnitude of a double: eleven bits of exponent, then fifty-two of fraction. -/
def Magnitude.ofDouble (x : Float) : Magnitude :=
  let bits := x.toBits.toNat
  let exponent : Nat := bits / (1 <<< 52) % (1 <<< 11)
  let fraction := bits % (1 <<< 52)
  if exponent = 2047 then
    if fraction = 0 then .infinite else .notANumber
  else if exponent = 0 then
    if fraction = 0 then .zero else .finite fraction (-1074) false
  else
    .finite ((1 <<< 52) + fraction) (exponent - 1075) (fraction == 0 && exponent != 1)

/-- Whether the sign bit of a double is set. -/
def isNegative (x : Float) : Bool :=
  1 <<< 63 ≤ x.toBits.toNat

/-- The decimals that round to a number: `low / unit` to `high / unit`, with `value / unit` the
number itself. The ends belong to it when `closed`. -/
structure Interval where
  low : Nat
  value : Nat
  high : Nat
  unit : Nat
  closed : Bool
deriving DecidableEq, Repr

/-- The interval of `significand · 2 ^ exponent`: half way to each neighbour, ends included exactly
when the significand is even, as a tie goes to the even neighbour. -/
def Interval.around (significand : Nat) (exponent : Int) (atBoundary : Bool) : Interval :=
  let scale := 1 <<< (exponent - 2).toNat
  { low := (4 * significand - if atBoundary then 1 else 2) * scale
    value := 4 * significand * scale
    high := (4 * significand + 2) * scale
    unit := 1 <<< (2 - exponent).toNat
    closed := significand % 2 == 0 }

/-- The decimal `coefficient · 10 ^ scale`. -/
structure Digits where
  coefficient : Nat
  scale : Int
deriving DecidableEq, Repr

/-- Which of two equally near decimals is taken. -/
inductive Tie where
  | even
  | up
deriving DecidableEq, Repr

/-- How many decimal digits `n` has; zero has one. -/
def digitCount (n : Nat) : Nat :=
  (Nat.toDigits 10 n).length

namespace Interval

/-- The power of ten of the leading digit of `value / unit`. -/
def leadingPower (i : Interval) : Int :=
  if i.unit ≤ i.value then
    (digitCount (i.value / i.unit) : Int) - 1
  else
    -(digitCount ((i.unit + i.value - 1) / i.value - 1) : Int)

/-- Whether `point / (up * unit)` is in the interval. -/
def covers (i : Interval) (up point : Nat) : Bool :=
  if i.closed then decide (i.low * up ≤ point) && decide (point ≤ i.high * up)
  else decide (i.low * up < point) && decide (point < i.high * up)

/-- The decimal in the interval on the grid of multiples of `10 ^ scale` that lies nearest to the
value, if one of the value's two neighbours on that grid is in the interval. -/
def onGrid (i : Interval) (tie : Tie) (scale : Int) : Option Digits :=
  let up := Nat.pow 10 (-scale).toNat
  let down := i.unit * Nat.pow 10 scale.toNat
  let below := i.value * up / down
  let rest := i.value * up % down
  let upperIsNearer : Bool :=
    match tie with
    | .up => decide (down ≤ 2 * rest)
    | .even => decide (down < 2 * rest) || (decide (down = 2 * rest) && below % 2 == 1)
  match i.covers up (below * down), i.covers up ((below + 1) * down) with
  | true, true => some ⟨if upperIsNearer then below + 1 else below, scale⟩
  | true, false => some ⟨below, scale⟩
  | false, true => some ⟨below + 1, scale⟩
  | false, false => none

/-- Tries ever finer grids, at most `fuel` of them. -/
def search (i : Interval) (tie : Tie) (scale : Int) : Nat → Digits
  | 0 => ⟨i.value / i.unit, 0⟩
  | fuel + 1 =>
    match i.onGrid tie scale with
    | some digits => digits
    | none => i.search tie (scale - 1) fuel

/-- The fewest digits in the interval; seventeen always suffice for a double. -/
def shortest (i : Interval) (tie : Tie) : Digits :=
  i.search tie i.leadingPower 17

end Interval

namespace Digits

/-- Drops the zeros at the end of the coefficient, at most `fuel` of them. -/
def dropZeros (d : Digits) : Nat → Digits
  | 0 => d
  | fuel + 1 =>
    if d.coefficient % 10 = 0 ∧ d.coefficient ≠ 0 then
      dropZeros ⟨d.coefficient / 10, d.scale + 1⟩ fuel
    else d

/-- The same decimal with no zero at the end of its coefficient. -/
def trimmed (d : Digits) : Digits :=
  d.dropZeros (digitCount d.coefficient)

end Digits

end Faceted.Decimal
