import Mathlib
import Faceted.Decimal.Reading
import Faceted.Decimal.Shortest

/-!
# Natural numbers and their halves as doubles

A natural number below `2 ^ 53` has at most as many binary digits as a double keeps, so the double
nearest to it is the number itself. Half of such a double has the same digits one place lower, and
the division finds it without rounding.

## Main definitions

* `value` — what a double is worth, as a rational number
* `IsNormal` — the bits of a positive double that has a leading digit

## Main results

* `isNormal_doubleOfNat` — the digits and the exponent of a natural number
* `IsNormal.half` — halving keeps the digits
* `value_half` — the double that is half of a natural number is worth half of it
-/

namespace Faceted.Decimal

open Float.Model (UnpackedFloat Format totalExponent)
open Float.Model.UnpackedFloat (ExtendedMantissa)

/-- What a magnitude is worth. Infinities and what is not a number are worth nothing. -/
def Magnitude.value : Magnitude → ℚ
  | .finite significand exponent _ => significand * 2 ^ exponent
  | _ => 0

/-- What a double is worth. -/
def value (x : Float) : ℚ :=
  if isNegative x then -(Magnitude.ofDouble x).value else (Magnitude.ofDouble x).value

/-! ### Normal doubles -/

/-- A positive double with all of its bits in use: `significand · 2 ^ exponent`. -/
structure IsNormal (x : Float) (significand : Nat) (exponent : Int) : Prop where
  le_significand : 2 ^ 52 ≤ significand
  significand_lt : significand < 2 ^ 53
  le_exponent : -1074 ≤ exponent
  exponent_le : exponent ≤ 971
  bits : x.toBits.toNat = (exponent + 1075).toNat * 2 ^ 52 + (significand - 2 ^ 52)

theorem log2_eq_of_normal {significand : Nat} (hle : 2 ^ 52 ≤ significand)
    (hlt : significand < 2 ^ 53) : significand.log2 = 52 :=
  (Nat.log2_eq_iff (by omega)).2 ⟨hle, hlt⟩

section Bits

variable (bits : BitVec Format.binary64.numBits)

theorem toNat_unpackMantissa :
    (UnpackedFloat.unpackMantissa bits).toNat = bits.toNat % 2 ^ 52 := by
  simp [UnpackedFloat.unpackMantissa]

theorem toNat_unpackExponent :
    (UnpackedFloat.unpackExponent bits).toNat = bits.toNat / 2 ^ 52 % 2 ^ 11 := by
  simp [UnpackedFloat.unpackExponent, Nat.shiftRight_eq_div_pow]

theorem toNat_unpackSign :
    (UnpackedFloat.unpackSign bits).toNat = bits.toNat / 2 ^ 63 % 2 := by
  simp [UnpackedFloat.unpackSign, Nat.shiftRight_eq_div_pow]

theorem toNat_append_eq_add {width other : Nat} (high : BitVec other) (low : BitVec width) :
    (high ++ low).toNat = high.toNat * 2 ^ width + low.toNat := by
  rw [BitVec.toNat_append, ← Nat.shiftLeft_add_eq_or_of_lt low.isLt, Nat.shiftLeft_eq]

end Bits

variable {x : Float} {significand : Nat} {exponent : Int}

theorem isNormal_pack (hle : 2 ^ 52 ≤ significand) (hlt : significand < 2 ^ 53)
    (hleast : -1074 ≤ exponent) (hgreatest : exponent ≤ 971) (hpos : 0 < significand) :
    IsNormal (.ofModel (.pack (.finite .positive significand exponent hpos))) significand
      exponent := by
  refine ⟨hle, hlt, hleast, hgreatest, ?_⟩
  change (UnpackedFloat.pack Format.binary64
    (.finite .positive significand exponent hpos)).toNat = _
  have hbias : (exponent + Format.binary64.exponentBias
      + Format.binary64.mantissaBitsWithoutImplicit).toNat = (exponent + 1075).toNat := by
    change (exponent + 1023 + 52).toNat = _
    omega
  have hbiased : (exponent + 1075).toNat < 2047 := by omega
  have hlog : significand.log2 + 1 = Format.binary64.mantissaBits := by
    rw [log2_eq_of_normal hle hlt]
    rfl
  rw [UnpackedFloat.pack]
  simp only [hbias, hlog, if_true]
  rw [if_neg (by change ¬ 2048 ≤ _; omega)]
  -- Sign, exponent and fraction lie side by side in the word.
  rw [UnpackedFloat.packComponents, toNat_append_eq_add, toNat_append_eq_add]
  simp only [BitVec.toNat_ofNat, UnpackedFloat.Sign.toBitVec]
  omega

/-- A word with the bits of a normal double stands for it. -/
theorem unpack_of_toNat (hle : 2 ^ 52 ≤ significand) (hlt : significand < 2 ^ 53)
    (hleast : -1074 ≤ exponent) (hgreatest : exponent ≤ 971) (hpos : 0 < significand)
    (word : BitVec Format.binary64.numBits)
    (hword : word.toNat = (exponent + 1075).toNat * 2 ^ 52 + (significand - 2 ^ 52)) :
    UnpackedFloat.unpack Format.binary64 word = .finite .positive significand exponent hpos := by
  have hexponent : (UnpackedFloat.unpackExponent word).toNat = (exponent + 1075).toNat := by
    rw [toNat_unpackExponent, hword]
    omega
  have hsign : UnpackedFloat.unpackSign word = 0#1 := by
    rw [← BitVec.toNat_inj, toNat_unpackSign, hword, BitVec.toNat_zero]
    omega
  have hsignificand : (1#1 ++ UnpackedFloat.unpackMantissa word).toNat = significand := by
    rw [toNat_append_eq_add, toNat_unpackMantissa, hword]
    change 1 * 2 ^ 52 + _ = _
    omega
  have hunbiased : ((UnpackedFloat.unpackExponent word).toNat : Int)
      - (Format.binary64.exponentBias + Format.binary64.mantissaBitsWithoutImplicit) =
        exponent := by
    rw [hexponent]
    change ((exponent + 1075).toNat : Int) - (1023 + 52) = exponent
    omega
  -- Neither is it an infinity or no number, nor zero or without a leading digit.
  have hones : UnpackedFloat.unpackExponent word ≠ -1#_ := by
    rw [Ne, ← BitVec.toNat_inj, hexponent]
    change ¬ (exponent + 1075).toNat = 2047
    omega
  have hzeros : UnpackedFloat.unpackExponent word ≠ 0#_ := by
    rw [Ne, ← BitVec.toNat_inj, hexponent, BitVec.toNat_zero]
    omega
  rw [UnpackedFloat.unpack]
  simp only [if_neg hones, if_neg hzeros, hsign, hsignificand, hunbiased]
  rfl

namespace IsNormal

theorem pos (h : IsNormal x significand exponent) : 0 < significand :=
  Nat.lt_of_lt_of_le (by decide) h.le_significand

theorem unpack (h : IsNormal x significand exponent) :
    x.toModel.unpack = .finite .positive significand exponent h.pos :=
  unpack_of_toNat h.le_significand h.significand_lt h.le_exponent h.exponent_le h.pos _ h.bits

theorem magnitude (h : IsNormal x significand exponent) :
    Magnitude.ofDouble x =
      .finite significand exponent (significand == 2 ^ 52 && exponent != -1074) := by
  obtain ⟨hle, hlt, hleast, hgreatest, hbits⟩ := h
  have h52 : (1 <<< 52 : Nat) = 2 ^ 52 := rfl
  have h11 : (1 <<< 11 : Nat) = 2 ^ 11 := rfl
  have hexponent : x.toBits.toNat / 2 ^ 52 % 2 ^ 11 = (exponent + 1075).toNat := by
    rw [hbits]
    omega
  have hfraction : x.toBits.toNat % 2 ^ 52 = significand - 2 ^ 52 := by
    rw [hbits]
    omega
  have hsignificand : 2 ^ 52 + (significand - 2 ^ 52) = significand := by omega
  have hunbiased : ((exponent + 1075).toNat : Int) - 1075 = exponent := by omega
  have hboundary : (significand - 2 ^ 52 == 0 && (exponent + 1075).toNat != 1) =
      (significand == 2 ^ 52 && exponent != -1074) := by
    rw [Bool.eq_iff_iff, Bool.and_eq_true, Bool.and_eq_true, beq_iff_eq, beq_iff_eq, bne_iff_ne,
      bne_iff_ne]
    omega
  simp only [Magnitude.ofDouble, h52, h11, hexponent, hfraction]
  rw [if_neg (by omega), if_neg (by omega), hsignificand, hunbiased, hboundary]

theorem isNegative_eq_false (h : IsNormal x significand exponent) : isNegative x = false := by
  obtain ⟨hle, hlt, hleast, hgreatest, hbits⟩ := h
  rw [isNegative, hbits, decide_eq_false_iff_not]
  omega

theorem value_eq (h : IsNormal x significand exponent) : value x = significand * 2 ^ exponent := by
  rw [value, h.isNegative_eq_false, h.magnitude]
  rfl

end IsNormal

/-! ### Rounding what need not be rounded -/

/-- Shifting out zeros loses nothing. -/
theorem shiftRight_exact (significand shift : Nat) :
    (ExtendedMantissa.ofMantissaAndAccuracy (significand * 2 ^ shift) .exact >>> shift) =
      .ofMantissaAndAccuracy significand .exact := by
  change shift.repeat ExtendedMantissa.shiftRightOne _ = _
  induction shift generalizing significand with
  | zero => simp [Nat.repeat]
  | succ shift ih =>
    have hshift : significand * 2 ^ (shift + 1) = (significand * 2) * 2 ^ shift := by ring
    rw [Nat.repeat, hshift, ih]
    simp [ExtendedMantissa.shiftRightOne, ExtendedMantissa.ofMantissaAndAccuracy]

theorem targetExponent_eq (hle : 2 ^ 52 ≤ significand) (hlt : significand < 2 ^ 53)
    (hleast : -1074 ≤ exponent) (shift : Nat) :
    Format.binary64.targetExponent (totalExponent (significand * 2 ^ shift) (exponent - shift)) =
      exponent := by
  have hlog : (significand * 2 ^ shift).log2 = 52 + shift := by
    rw [Nat.log2_eq_iff (by positivity), Nat.add_right_comm, pow_add, pow_add 2 53]
    exact ⟨Nat.mul_le_mul_right _ hle, Nat.mul_lt_mul_of_pos_right hlt (by positivity)⟩
  rw [totalExponent, hlog, Format.targetExponent]
  change max (((52 + shift : Nat) : Int) + 1 + (exponent - shift) - 53) (-1074) = exponent
  omega

theorem shiftToTargetExponent_exact (hle : 2 ^ 52 ≤ significand) (hlt : significand < 2 ^ 53)
    (hleast : -1074 ≤ exponent) (shift : Nat) :
    UnpackedFloat.shiftToTargetExponent Format.binary64 (significand * 2 ^ shift) (exponent - shift)
      .exact = (.ofMantissaAndAccuracy significand .exact, exponent) := by
  have hshift : (exponent - (exponent - shift)).toNat = shift := by omega
  rw [UnpackedFloat.shiftToTargetExponent, targetExponent_eq hle hlt hleast,
    UnpackedFloat.shiftToExponent, hshift, shiftRight_exact, Int.sub_add_cancel]

theorem shiftToTargetExponent_self (hle : 2 ^ 52 ≤ significand) (hlt : significand < 2 ^ 53)
    (hleast : -1074 ≤ exponent) :
    UnpackedFloat.shiftToTargetExponent Format.binary64 significand exponent .exact =
      (.ofMantissaAndAccuracy significand .exact, exponent) := by
  simpa using shiftToTargetExponent_exact hle hlt hleast 0

/-- A significand with zeros at its end is rounded to the one without them. -/
theorem roundWithAccuracy_exact (hle : 2 ^ 52 ≤ significand) (hlt : significand < 2 ^ 53)
    (hleast : -1074 ≤ exponent) (hpos : 0 < significand) (shift : Nat) :
    UnpackedFloat.roundWithAccuracy Format.binary64 .positive (significand * 2 ^ shift)
        (exponent - shift) .exact =
      .finite .positive significand exponent hpos := by
  have hrounded : (ExtendedMantissa.ofMantissaAndAccuracy significand .exact).roundedMantissa =
      significand := rfl
  have hne : (ExtendedMantissa.ofMantissaAndAccuracy significand .exact).mantissa ≠ 0 := hpos.ne'
  -- The second shift is for significands that were rounded up, which this one was not.
  rw [UnpackedFloat.roundWithAccuracy, shiftToTargetExponent_exact hle hlt hleast]
  simp only [hrounded, shiftToTargetExponent_self hle hlt hleast, dif_neg hne]
  rfl

/-! ### Natural numbers and their halves -/

/-- A natural number below `2 ^ 53` is a double: its digits are moved up
until all bits are in use. -/
theorem isNormal_doubleOfNat {n : Nat} (hpos : 0 < n) (hlt : n < 2 ^ 53) :
    IsNormal (doubleOfNat n) (n * 2 ^ (52 - n.log2)) (n.log2 - 52) := by
  have hlog : n.log2 < 53 := (Nat.log2_lt hpos.ne').2 hlt
  obtain ⟨hle, hbelow⟩ := (Nat.log2_eq_iff hpos.ne').1 rfl
  have hsignificand : 2 ^ 52 ≤ n * 2 ^ (52 - n.log2) := by
    calc 2 ^ 52 = 2 ^ n.log2 * 2 ^ (52 - n.log2) := by rw [← pow_add]; congr 1; omega
      _ ≤ n * 2 ^ (52 - n.log2) := Nat.mul_le_mul_right _ hle
  have hsignificandLt : n * 2 ^ (52 - n.log2) < 2 ^ 53 := by
    calc n * 2 ^ (52 - n.log2) < 2 ^ (n.log2 + 1) * 2 ^ (52 - n.log2) :=
          Nat.mul_lt_mul_of_pos_right hbelow (by positivity)
      _ = 2 ^ 53 := by rw [← pow_add]; congr 1; omega
  have hleast : -1074 ≤ (n.log2 : Int) - 52 := by omega
  have hsignificandPos : 0 < n * 2 ^ (52 - n.log2) := by positivity
  have hword : (UInt64.ofNat n).toNat = n := by
    rw [UInt64.toNat_ofNat']
    exact Nat.mod_eq_of_lt (by omega)
  have hpositive : compare (n : Int) 0 = .gt := Int.compare_eq_gt.2 (by omega)
  -- Rounding asks for the exponent at which all bits are in use.
  have htarget : Format.binary64.targetExponent (totalExponent n 0) = n.log2 - 52 := by
    change max ((n.log2 : Int) + 1 + 0 - 53) (-1074) = _
    omega
  have hshift : (0 - ((n.log2 : Int) - 52)).toNat = 52 - n.log2 := by omega
  have hexponent : (0 : Int) - (52 - n.log2 : Nat) = n.log2 - 52 := by omega
  have hround := roundWithAccuracy_exact hsignificand hsignificandLt hleast hsignificandPos 0
  rw [pow_zero, Nat.mul_one, Nat.cast_zero, Int.sub_zero] at hround
  have hunpacked : UnpackedFloat.ofUInt64 Format.binary64 (UInt64.ofNat n) =
      .finite .positive (n * 2 ^ (52 - n.log2)) (n.log2 - 52) hsignificandPos := by
    rw [UnpackedFloat.ofUInt64, hword, UnpackedFloat.ofNat, UnpackedFloat.ofInt,
      UnpackedFloat.normalize, hpositive]
    simp only [Int.toNat_natCast, UnpackedFloat.round, htarget, UnpackedFloat.decreaseExponent,
      hshift, hexponent, Nat.shiftLeft_eq, hround]
  change IsNormal (.ofModel (.pack (UnpackedFloat.ofUInt64 Format.binary64 (UInt64.ofNat n)))) _ _
  rw [hunpacked]
  exact isNormal_pack hsignificand hsignificandLt hleast (by omega) hsignificandPos

/-- The quotient of a normal double and two has one more digit, a zero, and is exact. -/
theorem divCore_two (hle : 2 ^ 52 ≤ significand) (hlt : significand < 2 ^ 53)
    (hleast : -1072 ≤ exponent) :
    UnpackedFloat.divCore Format.binary64 significand exponent (2 ^ 52) (-51) =
      (significand * 2 ^ 1, exponent - 1 - (1 : Nat), .exact) := by
  have htarget : min (exponent - -51) (Format.binary64.targetExponent
      (totalExponent significand exponent - totalExponent (2 ^ 52) (-51))) = exponent - 2 := by
    rw [totalExponent, log2_eq_of_normal hle hlt, totalExponent, Nat.log2_two_pow,
      Format.targetExponent]
    change min (exponent - -51)
      (max (((52 : Nat) : Int) + 1 + exponent - (((52 : Nat) : Int) + 1 + -51) - 53) (-1074)) = _
    omega
  have hshift : (exponent - -51 - (exponent - 2)).toNat = 53 := by omega
  have hdigits : significand <<< 53 = significand * 2 ^ 1 * 2 ^ 52 := by
    rw [Nat.shiftLeft_eq]
    omega
  rw [UnpackedFloat.divCore]
  simp only [htarget, hshift, hdigits, Nat.mul_div_cancel _ (Nat.two_pow_pos 52), Nat.mul_mod_left]
  refine Prod.ext rfl (Prod.ext ?_ rfl)
  change exponent - 2 = exponent - 1 - 1
  omega

/-- Halving a double lowers its exponent by one and keeps its digits. -/
theorem IsNormal.half (h : IsNormal x significand exponent) (hleast : -1072 ≤ exponent) :
    IsNormal (x / 2.0) significand (exponent - 1) := by
  have hle := h.le_significand
  have hlt := h.significand_lt
  have hgreatest := h.exponent_le
  have htwo : (2.0 : Float).toModel.unpack = .finite .positive (2 ^ 52) (-51) (by decide) := rfl
  have hquotient : UnpackedFloat.div Format.binary64 x.toModel.unpack (2.0 : Float).toModel.unpack =
      .finite .positive significand (exponent - 1) h.pos := by
    rw [h.unpack, htwo, UnpackedFloat.div, divCore_two hle hlt hleast]
    exact roundWithAccuracy_exact hle hlt (by omega) h.pos 1
  change IsNormal (.ofModel (.pack (UnpackedFloat.div Format.binary64 x.toModel.unpack
    (2.0 : Float).toModel.unpack))) _ _
  rw [hquotient]
  exact isNormal_pack hle hlt (by omega) (by omega) h.pos

/-- The double that is half of a natural number is worth half of it. -/
theorem value_half {n : Nat} (hlt : n < 2 ^ 53) : value (doubleOfNat n / 2.0) = n / 2 := by
  rcases Nat.eq_zero_or_pos n with rfl | hpos
  · decide +kernel
  · have hhalf := (isNormal_doubleOfNat hpos hlt).half (by omega)
    have hlog : n.log2 < 53 := (Nat.log2_lt hpos.ne').2 hlt
    have hexponent : ((52 - n.log2 : Nat) : Int) + (n.log2 - 52 - 1) = -1 := by omega
    calc value (doubleOfNat n / 2.0)
      _ = ((n * 2 ^ (52 - n.log2) : Nat) : ℚ) * 2 ^ ((n.log2 : Int) - 52 - 1) := hhalf.value_eq
      _ = n * (2 ^ ((52 - n.log2 : Nat) : Int) * 2 ^ ((n.log2 : Int) - 52 - 1)) := by
        push_cast
        rw [zpow_natCast, mul_assoc]
      _ = n / 2 := by
        rw [← zpow_add₀ two_ne_zero, hexponent, zpow_neg_one, div_eq_mul_inv]

end Faceted.Decimal
