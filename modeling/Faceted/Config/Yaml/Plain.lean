import Faceted.Config.Value
import Faceted.Config.Yaml.Quoted

/-!
# Plain scalars

A scalar without quotes ends before a comment, before a colon that a gap follows, and in brackets
before a mark. It goes on over lines that are indented enough. What it stands for shows in its
letters: null, a boolean, a number, or else a string.

## Main definitions

* `Yaml.plain?` — the text of a plain scalar
* `Yaml.integer?`, `Yaml.double?` — the number that a plain scalar spells
* `Yaml.resolve?` — what a plain scalar stands for
-/

namespace Faceted.Config.Yaml

/-! ### The text -/

/-- Whether a character that is no gap belongs to a plain scalar, in brackets or not. -/
def isPlain (inFlow : Bool) (s : Spot) (rest : List Spot) : Bool :=
  if s.char == ':' then !(nextIs Spot.isGap rest || (inFlow && nextIs Spot.isFlowMark rest))
  else !(inFlow && s.isFlowMark)

/-- Whether a dash stands directly before a mark of brackets. -/
def isDashed (rest : List Spot) : Bool :=
  match rest with
  | s :: rest => s.char == '-' && nextIs Spot.isFlowMark rest
  | [] => false

/-- The rest of a plain scalar after a gap, and what follows the scalar. Outside of brackets its
lines are indented by `indent` at least. -/
def plainFrom (inFlow : Bool) (indent : Int) (gap : Gap) :
    List Spot → Option (List Char × List Spot)
  | [] => some ([], [])
  | s :: rest =>
    let goOn (_ : Unit) :=
      if isPlain inFlow s rest then
        (plainFrom inFlow indent .none rest).map fun found =>
          (gap.text ++ s.char :: found.1, found.2)
      else some ([], s :: rest)
    if s.isEnd then some ([], s :: rest)
    else if s.isBreak then plainFrom inFlow indent gap.addBreak rest
    else if s.isBlank then
      if gap.isBroken && s.char == '\t' && s.column < indent
          && !nextIs Spot.isLineEnd (rest.dropWhile Spot.isBlank) then none
      else plainFrom inFlow indent (gap.addBlank s.char) rest
    else if gap == .none then goOn ()
    else if (!inFlow && s.column < indent) || beginsDocumentMark (s :: rest) || s.char == '#' then
      some ([], s :: rest)
    else if inFlow && isDashed (s :: rest) then none
    else goOn ()

/-- The text of a plain scalar, which is not empty, and what follows it. -/
def plain? (inFlow : Bool) (indent : Int) (rest : List Spot) : Option (List Char × List Spot) :=
  if inFlow && (isDashed rest || rest.head?.any fun s => s.column < indent) then none
  else (plainFrom inFlow indent .none rest).filter fun found => !found.1.isEmpty

/-! ### What it stands for -/

/-- The number that digits in a base spell. -/
def basedDigits? (base : Nat) (digits : List Char) : Option Nat :=
  if digits.isEmpty then none
  else digits.foldlM (fun n c => (digit? base c).map (base * n + ·)) 0

/-- The integer that digits in a base spell, perhaps after a sign. -/
def basedInteger? (base : Nat) (chars : List Char) : Option Int :=
  let (negative, digits) := Decimal.Numeral.signed chars
  (basedDigits? base digits).map fun n => if negative then -(n : Int) else n

/-- An integer that fits 64 bits, in base sixteen or eight after `0x` or `0o`, or else in base ten,
where a plus sign may stand before any sign. -/
def integer? (chars : List Char) : Option Int :=
  let n :=
    match chars with
    | '0' :: 'x' :: digits => basedInteger? 16 digits
    | '0' :: 'o' :: digits => basedInteger? 8 digits
    | '+' :: digits => basedInteger? 10 digits
    | _ => basedInteger? 10 chars
  n.filter Decimal.Numeral.fitsWord

/-- Words for doubles that have no digits. -/
def doubleWords : List String :=
  [".inf", ".Inf", ".INF", "+.inf", "+.Inf", "+.INF", "-.inf", "-.Inf", "-.INF", ".nan",
    ".NaN", ".NAN"]

/-- The double that digits, a point and an exponent spell. -/
def double? (chars : List Char) : Option Float :=
  if chars.any Char.isDigit then Decimal.Numeral.double? chars else none

/-- What a plain scalar stands for; a word for a double is refused, as nothing can be configured by
it. Nothing at all is null. -/
def resolve? (chars : List Char) : Option Value :=
  let text := String.ofList chars
  match integer? chars with
  | some n => some (.integer n)
  | none =>
    if text = "" || text = "~" || text = "null" then some .null
    else if text = "true" then some (.bool true)
    else if text = "false" then some (.bool false)
    else if doubleWords.contains text then none
    else
      match double? chars with
      | some x => some (.double x)
      | none => some (.text text)

end Faceted.Config.Yaml
