import Mathlib
import Faceted.Decimal.Layout
import Faceted.Proofs.Decimal.Halving

/-!
# Halves, written out

Half of a natural number is a whole number of tenths. Around a double that is not too large there is
no other number of tenths that rounds to it, so whichever grid of decimals is searched first, the
digits found are those of the number of tenths without the zeros at its end. The plain layout
therefore writes such a half as it is written by hand: the whole part, and `.5` where something is
left over.

## Main definitions

* `Interval.Singles` — an interval around a number of tenths, too narrow for another one
* `Layout.tenthsText`, `halfText` — a number of tenths and a half, written by hand

## Main results

* `Interval.Singles.shortest_eq` — the fewest digits in such an interval
* `Layout.digitsText_weight` — how they are laid out
* `text_half` — half of a natural number, written out
-/

namespace Faceted.Decimal

/-! ### Digits in base ten -/

theorem toDigits_mul_pow {n : Nat} (hpos : 0 < n) (zeros : Nat) :
    Nat.toDigits 10 (n * 10 ^ zeros) = Nat.toDigits 10 n ++ List.replicate zeros '0' := by
  induction zeros with
  | zero => simp
  | succ zeros ih =>
    have hdigits :=
      Nat.toDigits_append_toDigits (b := 10) (n := n * 10 ^ zeros) (d := 0) (by decide)
        (by positivity) (by decide)
    rw [pow_succ, ← mul_assoc, Nat.mul_comm _ 10, ← Nat.add_zero (10 * _), ← hdigits, ih,
      List.append_assoc, List.replicate_succ', Nat.toDigits_zero]

theorem lt_pow_digitCount (n : Nat) : n < 10 ^ digitCount n :=
  (Nat.length_toDigits_le_iff (by decide) Nat.length_toDigits_pos).1 le_rfl

namespace Digits

theorem dropZeros_eq {d : Digits} {fuel : Nat} (hne : d.coefficient ≠ 0)
    (hfuel : d.coefficient < 10 ^ fuel) :
    ∃ zeros : Nat, (d.dropZeros fuel).coefficient * 10 ^ zeros = d.coefficient ∧
      (d.dropZeros fuel).scale = d.scale + zeros ∧ (d.dropZeros fuel).coefficient % 10 ≠ 0 := by
  induction fuel generalizing d with
  | zero =>
    rw [pow_zero, Nat.lt_one_iff] at hfuel
    exact absurd hfuel hne
  | succ fuel ih =>
    rw [dropZeros]
    by_cases hzero : d.coefficient % 10 = 0
    · rw [if_pos ⟨hzero, hne⟩]
      obtain ⟨zeros, hcoefficient, hscale, hlast⟩ := ih (d := ⟨d.coefficient / 10, d.scale + 1⟩)
        (by simp only; omega) (by simp only; rw [pow_succ] at hfuel; omega)
      refine ⟨zeros + 1, ?_, ?_, hlast⟩
      · rw [pow_succ, ← mul_assoc, hcoefficient]
        exact Nat.div_mul_cancel (Nat.dvd_of_mod_eq_zero hzero)
      · rw [hscale]
        push_cast
        ring
    · rw [if_neg fun h => hzero h.1]
      exact ⟨0, by simp, by simp, hzero⟩

/-- Zeros at the end of the coefficient go into the scale, all of them. -/
theorem trimmed_eq {d : Digits} (hne : d.coefficient ≠ 0) :
    ∃ zeros : Nat, d.trimmed.coefficient * 10 ^ zeros = d.coefficient ∧
      d.trimmed.scale = d.scale + zeros ∧ d.trimmed.coefficient % 10 ≠ 0 :=
  dropZeros_eq hne (lt_pow_digitCount _)

end Digits

namespace Interval

/-- An interval around a number of tenths, too narrow for another one. -/
structure Singles (i : Interval) (tenths : Nat) : Prop where
  low_lt : i.low < i.value
  lt_high : i.value < i.high
  le_low : i.value ≤ i.low + 2
  high_le : i.high ≤ i.value + 2
  lt_unit : 20 < i.unit
  exact : 10 * i.value = tenths * i.unit

variable {i : Interval} {tenths : Nat}

/-- Only one number of tenths is between the ends. -/
theorem Singles.eq_of_between (h : i.Singles tenths) {count : Nat}
    (hlow : 10 * i.low ≤ count * i.unit) (hhigh : count * i.unit ≤ 10 * i.high) :
    count = tenths := by
  have hexact := h.exact
  have hle := h.le_low
  have hge := h.high_le
  have hunit := h.lt_unit
  -- The next number of tenths on either side is a whole unit away, and the ends are not.
  rcases Nat.lt_trichotomy count tenths with hlt | heq | hgt
  · have hnext := Nat.mul_le_mul_right i.unit (Nat.succ_le_of_lt hlt)
    rw [Nat.succ_mul] at hnext
    omega
  · exact heq
  · have hnext := Nat.mul_le_mul_right i.unit (Nat.succ_le_of_lt hgt)
    rw [Nat.succ_mul] at hnext
    omega

/-- The grid of the tenths that `10 ^ power` divides, as it is computed. On the grid of tenths
themselves the interval is scaled up by ten, and on the others the step is scaled up; a factor of
one or of ten makes the same of both. -/
theorem exists_factor (i : Interval) (power : Nat) :
    ∃ factor, 0 < factor ∧ factor * Nat.pow 10 (-((power : Int) - 1)).toNat = 10 ∧
      factor * (i.unit * Nat.pow 10 ((power : Int) - 1).toNat) = 10 ^ power * i.unit := by
  cases power with
  | zero => exact ⟨1, Nat.one_pos, rfl, by simp⟩
  | succ power =>
    have hdown : (((power + 1 : Nat) : Int) - 1).toNat = power := by omega
    have hup : (-(((power + 1 : Nat) : Int) - 1)).toNat = 0 := by omega
    refine ⟨10, by decide, ?_, ?_⟩
    · rw [hup]
    · rw [hdown]
      change 10 * (i.unit * 10 ^ power) = 10 ^ (power + 1) * i.unit
      ring

section Grid

variable {factor up down power : Nat}

/-- The only point of a grid in the interval is the value. -/
theorem Singles.covers_iff (h : i.Singles tenths) (hpos : 0 < factor) (hup : factor * up = 10)
    (hdown : factor * down = 10 ^ power * i.unit) (count : Nat) :
    i.covers up (count * down) = true ↔ count * 10 ^ power = tenths := by
  have hscaled (part : Nat) : factor * (part * up) = 10 * part := by
    rw [mul_left_comm, hup, mul_comm]
  have hpoint : factor * (count * down) = count * 10 ^ power * i.unit := by
    rw [mul_left_comm, hdown, mul_assoc]
  have hupPos : 0 < up := Nat.pos_of_ne_zero fun hzero => by simp [hzero] at hup
  constructor
  · intro hcovers
    -- With its ends or without them, the interval has no more than what is between them.
    have hbetween : i.low * up ≤ count * down ∧ count * down ≤ i.high * up := by
      rw [covers] at hcovers
      split at hcovers
      · simpa using hcovers
      · have hstrict : i.low * up < count * down ∧ count * down < i.high * up := by
          simpa using hcovers
        exact ⟨hstrict.1.le, hstrict.2.le⟩
    refine h.eq_of_between ?_ ?_
    · rw [← hscaled, ← hpoint]
      exact Nat.mul_le_mul_left factor hbetween.1
    · rw [← hscaled, ← hpoint]
      exact Nat.mul_le_mul_left factor hbetween.2
  · intro hcount
    -- The point is the value itself, which lies strictly between the ends.
    have hvalue : count * down = i.value * up := by
      apply Nat.eq_of_mul_eq_mul_left hpos
      rw [hpoint, hcount, hscaled, h.exact]
    have hlow := Nat.mul_lt_mul_of_pos_right h.low_lt hupPos
    have hhigh := Nat.mul_lt_mul_of_pos_right h.lt_high hupPos
    rw [covers, hvalue]
    split
    · simp [hlow.le, hhigh.le]
    · simp [hlow, hhigh]

theorem Singles.below_eq (h : i.Singles tenths) (hpos : 0 < factor) (hup : factor * up = 10)
    (hdown : factor * down = 10 ^ power * i.unit) : i.value * up / down = tenths / 10 ^ power := by
  have hvalue : factor * (i.value * up) = tenths * i.unit := by
    rw [mul_left_comm, hup, mul_comm, h.exact]
  rw [← Nat.mul_div_mul_left _ _ hpos, hvalue, hdown]
  exact Nat.mul_div_mul_right _ _ (Nat.lt_of_le_of_lt (Nat.zero_le _) h.lt_unit)

end Grid

/-- On a grid that has the value, the value is found. On any other there is
nothing in the interval. -/
theorem Singles.onGrid_eq (h : i.Singles tenths) (tie : Tie) (power : Nat) :
    i.onGrid tie (power - 1) =
      if 10 ^ power ∣ tenths then some ⟨tenths / 10 ^ power, power - 1⟩ else none := by
  obtain ⟨factor, hpos, hup, hdown⟩ := exists_factor i power
  have hcovers := h.covers_iff hpos hup hdown
  -- The point above the value is never it, so there are no two candidates to choose from.
  have hnext : (tenths / 10 ^ power + 1) * 10 ^ power ≠ tenths := by
    rw [mul_comm]
    exact (Nat.lt_mul_div_succ tenths (by positivity)).ne'
  have hcoversNext := mt (hcovers (tenths / 10 ^ power + 1)).1 hnext
  rw [Bool.not_eq_true] at hcoversNext
  simp only [onGrid, h.below_eq hpos hup hdown, hcoversNext]
  by_cases hdvd : 10 ^ power ∣ tenths
  · rw [if_pos hdvd, (hcovers _).2 (Nat.div_mul_cancel hdvd)]
  · have hmiss := mt (hcovers (tenths / 10 ^ power)).1 fun heq => hdvd (Dvd.intro_left _ heq)
    rw [Bool.not_eq_true] at hmiss
    rw [if_neg hdvd, hmiss]

/-- The search ends on a grid that has the value: at the latest on that of tenths. -/
theorem Singles.search_eq (h : i.Singles tenths) (tie : Tie) {power fuel : Nat}
    (hfuel : power < fuel) :
    ∃ zeros : Nat, 10 ^ zeros ∣ tenths ∧
      i.search tie (power - 1) fuel = ⟨tenths / 10 ^ zeros, zeros - 1⟩ := by
  -- By induction on the grid: the search goes from a grid to the next finer one.
  induction power generalizing fuel with
  | zero =>
    obtain ⟨fuel, rfl⟩ := Nat.exists_eq_add_one_of_ne_zero (Nat.ne_of_gt hfuel)
    have hdvd : 10 ^ 0 ∣ tenths := one_dvd tenths
    refine ⟨0, hdvd, ?_⟩
    rw [search, h.onGrid_eq, if_pos hdvd]
  | succ power ih =>
    obtain ⟨fuel, rfl⟩ := Nat.exists_eq_add_one_of_ne_zero (Nat.ne_of_gt (Nat.zero_lt_of_lt hfuel))
    rw [search, h.onGrid_eq]
    by_cases hdvd : 10 ^ (power + 1) ∣ tenths
    · rw [if_pos hdvd]
      exact ⟨power + 1, hdvd, rfl⟩
    · rw [if_neg hdvd]
      have hfiner : ((power + 1 : Nat) : Int) - 1 - 1 = power - 1 := by omega
      rw [hfiner]
      exact ih (Nat.lt_of_succ_lt_succ hfuel)

theorem digitCount_le {n count : Nat} (hpos : 0 < count) (hlt : n < 10 ^ count) :
    digitCount n ≤ count :=
  (Nat.length_toDigits_le_iff (by decide) hpos).2 hlt

/-- The search begins on the grid of tenths or on a coarser one. -/
theorem Singles.exists_leadingPower_eq (h : i.Singles tenths) (hpos : 0 < tenths)
    (hlt : tenths < 10 ^ 17) :
    ∃ power : Nat, power ≤ 16 ∧ i.leadingPower = power - 1 := by
  have hunit := h.lt_unit
  have hexact := h.exact
  rw [leadingPower]
  split
  next hle =>
    refine ⟨digitCount (i.value / i.unit), digitCount_le (by decide) ?_, rfl⟩
    rw [Nat.div_lt_iff_lt_mul (by omega)]
    have hmul := Nat.mul_lt_mul_of_pos_right hlt (Nat.zero_lt_of_lt hunit)
    omega
  next hlt' =>
    -- Below one there is at least one tenth, and so that is where the first digit stands.
    refine ⟨0, by decide, ?_⟩
    have hvalue : 0 < i.value := Nat.zero_lt_of_lt h.low_lt
    have hle := Nat.le_mul_of_pos_left i.unit hpos
    have hquotient : (i.unit + i.value - 1) / i.value < 11 := by
      rw [Nat.div_lt_iff_lt_mul hvalue]
      omega
    have hone : digitCount ((i.unit + i.value - 1) / i.value - 1) = 1 := by
      rw [digitCount, Nat.toDigits_of_lt_base (by omega)]
      rfl
    rw [hone]
    rfl

/-- Of the decimals in the interval, the shortest is the number of tenths
without zeros at its end. -/
theorem Singles.shortest_eq (h : i.Singles tenths) (tie : Tie) (hpos : 0 < tenths)
    (hlt : tenths < 10 ^ 17) :
    ∃ zeros : Nat, 10 ^ zeros ∣ tenths ∧ i.shortest tie = ⟨tenths / 10 ^ zeros, zeros - 1⟩ := by
  obtain ⟨power, hpower, hleading⟩ := h.exists_leadingPower_eq hpos hlt
  rw [shortest, hleading]
  exact h.search_eq tie (Nat.lt_succ_of_le hpower)

end Interval

namespace Layout

/-- A number of tenths, written with one digit after the point unless that is zero. -/
def tenthsText (tenths : Nat) : String :=
  toString (tenths / 10) ++ if tenths % 10 = 0 then "" else "." ++ toString (tenths % 10)

theorem positionalText_whole {digits : List Char} (hne : digits ≠ []) (zeros : Nat) :
    weight.positionalText digits (zeros + digits.length - 1) =
      String.ofList (digits ++ List.replicate zeros '0') := by
  have hlength := List.length_pos_iff.2 hne
  have hwidth : ((zeros : Int) + digits.length - 1).toNat + 1 = digits.length + zeros := by omega
  rw [positionalText, if_neg (by omega)]
  simp only [hwidth, List.take_of_length_le (Nat.le_add_right _ _),
    List.drop_of_length_le (Nat.le_add_right digits.length zeros), Nat.add_sub_cancel_left]
  exact String.append_empty

theorem positionalText_fraction {whole : List Char} (hne : whole ≠ []) (digit : Char) :
    weight.positionalText (whole ++ [digit]) (whole.length - 1) =
      String.ofList (whole ++ ['.', digit]) := by
  have hlength := List.length_pos_iff.2 hne
  have hwidth : ((whole.length : Int) - 1).toNat + 1 = whole.length := by omega
  have hnone : whole.length - (whole ++ [digit]).length = 0 := by
    rw [List.length_append]
    omega
  rw [positionalText, if_neg (by omega)]
  simp only [hwidth, hnone, List.take_left, List.drop_left, List.replicate_zero, List.append_nil]

theorem positionalText_below_one (digit : Char) :
    weight.positionalText [digit] (-1) = String.ofList ['0', '.', digit] := rfl

theorem toString_digit {n : Nat} (h : n < 10) : toString n = String.ofList [n.digitChar] := by
  rw [Nat.toString_eq_ofList_toDigits, Nat.toDigits_of_lt_base h]

theorem point_append (digit : Char) : "." ++ String.ofList [digit] = String.ofList ['.', digit] :=
  String.toList_injective (by simp)

/-- Tenths that are whole have no point. -/
theorem positionalText_whole_tenths {coefficient : Nat} (hpos : 0 < coefficient) (zeros : Nat) :
    weight.positionalText (Nat.toDigits 10 coefficient)
        (zeros + (Nat.toDigits 10 coefficient).length - 1) =
      tenthsText (10 * (coefficient * 10 ^ zeros)) := by
  rw [positionalText_whole Nat.toDigits_ne_nil, ← toDigits_mul_pow hpos, tenthsText,
    Nat.mul_div_cancel_left _ (by decide), if_pos (Nat.mul_mod_right 10 _), String.append_empty,
    Nat.toString_eq_ofList_toDigits]

/-- Tenths that are not whole have their last digit behind the point. -/
theorem positionalText_tenths {coefficient : Nat} (hlast : coefficient % 10 ≠ 0) :
    weight.positionalText (Nat.toDigits 10 coefficient) ((Nat.toDigits 10 coefficient).length - 2) =
      tenthsText coefficient := by
  rw [tenthsText, if_neg hlast, toString_digit (Nat.mod_lt _ (by decide)), point_append,
    Nat.toString_eq_ofList_toDigits, ← String.ofList_append]
  by_cases hlt : coefficient < 10
  · rw [Nat.toDigits_of_lt_base hlt, Nat.div_eq_of_lt hlt, Nat.mod_eq_of_lt hlt, Nat.toDigits_zero]
    exact positionalText_below_one _
  · have hdigits : Nat.toDigits 10 coefficient =
        Nat.toDigits 10 (coefficient / 10) ++ [(coefficient % 10).digitChar] := by
      rw [← Nat.toDigits_of_lt_base (Nat.mod_lt coefficient (by decide)),
        Nat.toDigits_append_toDigits (by decide) (by omega) (Nat.mod_lt _ (by decide)),
        Nat.div_add_mod]
    have hlength (whole : List Char) (digit : Char) :
        ((whole ++ [digit]).length : Int) - 2 = whole.length - 1 := by
      rw [List.length_append, List.length_singleton]
      omega
    rw [hdigits, hlength, positionalText_fraction Nat.toDigits_ne_nil]

/-- Digits whose last one stands for tenths are written as the number of tenths that they are. -/
theorem digitsText_weight {d : Digits} {tenths zeros : Nat} (hne : tenths ≠ 0)
    (hcoefficient : d.coefficient * 10 ^ zeros = tenths) (hscale : d.scale = zeros - 1) :
    weight.digitsText d = tenthsText tenths := by
  have hd : d.coefficient ≠ 0 := by
    rintro hzero
    rw [hzero, Nat.zero_mul] at hcoefficient
    exact hne hcoefficient.symm
  obtain ⟨more, hmore, hscaleMore, hlast⟩ := Digits.trimmed_eq hd
  have htenths : d.trimmed.coefficient * 10 ^ (more + zeros) = tenths := by
    rw [pow_add, ← mul_assoc, hmore, hcoefficient]
  have hexponent : d.trimmed.scale = ((more + zeros : Nat) : Int) - 1 := by
    rw [hscaleMore, hscale]
    push_cast
    ring
  have hpositional (power : Int) : weight.isPositional power = true := rfl
  simp only [digitsText, hpositional, if_true, hexponent]
  generalize more + zeros = places at htenths
  generalize d.trimmed.coefficient = coefficient at htenths hlast ⊢
  cases places with
  | zero =>
    have hpower (digits : List Char) :
        ((0 : Nat) : Int) - 1 + digits.length - 1 = digits.length - 2 := by
      omega
    rw [pow_zero, Nat.mul_one] at htenths
    rw [hpower, positionalText_tenths hlast, htenths]
  | succ places =>
    have hpos : 0 < coefficient := Nat.pos_of_ne_zero fun hzero => hlast (by rw [hzero])
    have hwhole : 10 * (coefficient * 10 ^ places) = tenths := by
      rw [← htenths]
      ring
    have hpower (digits : List Char) :
        ((places + 1 : Nat) : Int) - 1 + digits.length - 1 = places + digits.length - 1 := by
      omega
    rw [hpower, positionalText_whole_tenths hpos, hwhole]

/-- A double in an interval that is narrow enough is written as the number of tenths that it is. -/
theorem digitsText_weight_shortest {i : Interval} {tenths : Nat} (h : i.Singles tenths)
    (hpos : 0 < tenths) (hlt : tenths < 10 ^ 17) :
    weight.digitsText (i.shortest weight.tie) = tenthsText tenths := by
  obtain ⟨zeros, hdvd, hshortest⟩ := h.shortest_eq weight.tie hpos hlt
  rw [hshortest]
  exact digitsText_weight hpos.ne' (Nat.div_mul_cancel hdvd) rfl

end Layout

/-! ### Halves -/

/-- Half of a natural number, written by hand. -/
def halfText (n : Nat) : String :=
  toString (n / 2) ++ if n % 2 = 0 then "" else ".5"

theorem tenthsText_five_mul (n : Nat) : Layout.tenthsText (5 * n) = halfText n := by
  have hwhole : 5 * n / 10 = n / 2 := by omega
  rw [Layout.tenthsText, halfText, hwhole]
  rcases Nat.mod_two_eq_zero_or_one n with heven | hodd
  · have htenths : 5 * n % 10 = 0 := by omega
    rw [if_pos htenths, if_pos heven]
  · have htenths : 5 * n % 10 = 5 := by omega
    rw [htenths, hodd]
    rfl

/-- Around the double that is half of a natural number there is no other number of tenths. -/
theorem singles_half {n : Nat} (hpos : 0 < n) (hlt : n < 2 ^ 51) (atBoundary : Bool) :
    (Interval.around (n * 2 ^ (52 - n.log2)) (n.log2 - 52 - 1) atBoundary).Singles (5 * n) := by
  have hlog : n.log2 < 51 := (Nat.log2_lt hpos.ne').2 hlt
  -- The exponent is far below zero: all is scaled up by the unit.
  have hscale : (1 <<< ((n.log2 : Int) - 52 - 1 - 2).toNat : Nat) = 1 := by
    have hnone : ((n.log2 : Int) - 52 - 1 - 2).toNat = 0 := by omega
    rw [hnone]
    rfl
  have hunit : (1 <<< (2 - ((n.log2 : Int) - 52 - 1)).toNat : Nat) = 8 * 2 ^ (52 - n.log2) := by
    have hplaces : (2 - ((n.log2 : Int) - 52 - 1)).toNat = (52 - n.log2) + 3 := by omega
    rw [hplaces, Nat.one_shiftLeft, pow_add, mul_comm]
    rfl
  have hpow : 2 ^ 2 ≤ 2 ^ (52 - n.log2) := Nat.pow_le_pow_right (by decide) (by omega)
  have hdigits : 4 ≤ n * 2 ^ (52 - n.log2) := Nat.le_trans hpow (Nat.le_mul_of_pos_left _ hpos)
  have hgap : (if atBoundary then 1 else 2 : Nat) ∈ Set.Icc 1 2 := by cases atBoundary <;> decide
  obtain ⟨hgapPos, hgapLe⟩ := hgap
  constructor <;> simp only [Interval.around, hscale, hunit, Nat.mul_one]
  case exact => ring
  all_goals omega

/-- Half of a natural number is written as by hand. -/
theorem text_half {n : Nat} (hlt : n < 2 ^ 51) :
    Layout.weight.text (doubleOfNat n / 2.0) = halfText n := by
  rcases Nat.eq_zero_or_pos n with rfl | hpos
  · decide +kernel
  · have hhalf := (isNormal_doubleOfNat hpos (by omega)).half (by omega)
    rw [Layout.text, hhalf.isNegative_eq_false, hhalf.magnitude]
    simp only [Bool.false_eq_true, if_false, String.empty_append]
    rw [Layout.digitsText_weight_shortest (singles_half hpos hlt _) (by omega) (by omega),
      tenthsText_five_mul]

end Faceted.Decimal
