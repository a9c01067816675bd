import Mathlib

/-!
# Comparing doubles with zero

A double is below zero, equal to it or above it, or it is not a number. For what is not a number
every comparison fails. So to be above zero and not to be at most zero are different tests, which
differ there and nowhere else.

## Main definitions

* `sign?` — how a double compares with zero, if it is a number

## Main results

* `not_nonpos_iff` — the doubles that are not at most zero
* `beq_zero_of_pos` — a double above zero is not equal to it
-/

namespace Faceted.Decimal

open Float.Model (UnpackedFloat)

/-- How a double compares with zero; none if it is not a number. Both zeros are equal to zero. -/
def sign? (x : Float) : Option Ordering :=
  x.toModel.unpack.compare (.zero .positive)

theorem unpack_zero : (0.0 : Float).toModel.unpack = .zero .positive := rfl

/-- Zero compares with a double the other way round. -/
theorem compare_zero_left (u : UnpackedFloat) :
    UnpackedFloat.compare (.zero .positive) u =
      (UnpackedFloat.compare u (.zero .positive)).map Ordering.swap := by
  cases u with
  | notANumber => rfl
  | zero sign => rfl
  | infinity sign => cases sign <;> rfl
  | finite sign mantissa exponent hpos => cases sign <;> rfl

variable {x : Float}

theorem isNaN_iff_sign? : x.isNaN = true ↔ sign? x = none := by
  refine UnpackedFloat.isNaN_iff.trans ?_
  rw [sign?]
  cases x.toModel.unpack with
  | notANumber => exact iff_of_true rfl rfl
  | zero sign => exact iff_of_false nofun nofun
  | infinity sign => cases sign <;> exact iff_of_false nofun nofun
  | finite sign mantissa exponent hpos => cases sign <;> exact iff_of_false nofun nofun

theorem pos_iff_sign? : 0.0 < x ↔ sign? x = some .gt := by
  have hcompare :
      0.0 < x ↔ UnpackedFloat.compare (.zero .positive) x.toModel.unpack = some .lt := by
    rw [← unpack_zero]
    exact decide_eq_true_iff.trans beq_iff_eq
  rw [hcompare, compare_zero_left, Option.map_eq_some_iff, sign?]
  constructor
  · rintro ⟨order, horder, hswap⟩
    cases order <;> simp_all
  · intro horder
    exact ⟨.gt, horder, rfl⟩

theorem nonpos_iff_sign? : x ≤ 0.0 ↔ sign? x = some .lt ∨ sign? x = some .eq := by
  have hcompare : x ≤ 0.0 ↔ (sign? x).any Ordering.isLE = true := by
    rw [sign?, ← unpack_zero]
    exact decide_eq_true_iff
  rw [hcompare]
  cases sign? x with
  | none => simp
  | some order => cases order <;> simp

theorem beq_zero_iff_sign? : (x == 0.0) = true ↔ sign? x = some .eq := by
  have hcompare : (x == 0.0) = (sign? x == some .eq) := rfl
  rw [hcompare, beq_iff_eq]

/-- A double is not at most zero if it is above zero, or if it is not a number. -/
theorem not_nonpos_iff : ¬ x ≤ 0.0 ↔ 0.0 < x ∨ x.isNaN = true := by
  rw [nonpos_iff_sign?, pos_iff_sign?, isNaN_iff_sign?]
  cases sign? x with
  | none => simp
  | some order => cases order <;> simp

/-- What is not a number is not above zero. -/
theorem isNaN_eq_false_of_pos (h : 0.0 < x) : x.isNaN = false := by
  rw [← Bool.not_eq_true, isNaN_iff_sign?, pos_iff_sign?.1 h]
  nofun

theorem beq_zero_of_pos (h : 0.0 < x) : (x == 0.0) = false := by
  rw [← Bool.not_eq_true, beq_zero_iff_sign?, pos_iff_sign?.1 h]
  nofun

end Faceted.Decimal
