/-
This file shows that sums of powers of two are rounded to the nearest double.
-/
import Mathlib

namespace HostBridge.Double

open Float.Model Float.Model.UnpackedFloat

section Mantissas

/-- A natural number is nearest to a number, and even if another one is as near. -/
structure IsNearest (value : ℚ) (count : ℕ) : Prop where
  near : |value - count| ≤ 1 / 2
  even : |value - count| = 1 / 2 → count % 2 = 0

/-- Two nearest natural numbers are not apart, because one of them would have to be odd. -/
theorem IsNearest.le_of_le {value : ℚ} {first second : ℕ} (one : IsNearest value first)
    (two : IsNearest value second) : first ≤ second := by
  by_contra less
  obtain ⟨lower, -⟩ := abs_le.mp one.near
  obtain ⟨-, upper⟩ := abs_le.mp two.near
  have gap : (second : ℚ) + 1 ≤ first := by exact_mod_cast not_le.mp less
  have middle : value = second + 1 / 2 := by linarith
  have next : first = second + 1 := by
    have bound : (first : ℚ) ≤ second + 1 := by linarith
    exact le_antisymm (by exact_mod_cast bound) (not_le.mp less)
  have odd := one.even (by rw [middle, next]; push_cast; rw [abs_eq (by norm_num)]; right; ring)
  have even := two.even (by rw [middle, add_sub_cancel_left]; norm_num)
  omega

/-- A number has one nearest natural number. -/
theorem IsNearest.unique {value : ℚ} {first second : ℕ} (one : IsNearest value first)
    (two : IsNearest value second) : first = second :=
  le_antisymm (one.le_of_le two) (two.le_of_le one)

/-- The mantissa and the round bit, read as one binary number. -/
def halves (digits : ExtendedMantissa) : ℕ := 2 * digits.mantissa + digits.roundBit.toNat

/-- The binary digits of a number up to halves, and whether any come after them. -/
structure CutsOff (digits : ExtendedMantissa) (value : ℚ) : Prop where
  below : halves digits ≤ 2 * value
  above : 2 * value < halves digits + 1
  exact_iff : digits.stickyBit = false ↔ 2 * value = halves digits

/-- A natural number is not cut off. -/
theorem cutsOff_exact (count : ℕ) :
    CutsOff (.ofMantissaAndAccuracy count .exact) count := by
  constructor <;> simp [halves, ExtendedMantissa.ofMantissaAndAccuracy]

/-- A quotient is cut off where its integer part ends. -/
theorem cutsOff_fraction (count numerator : ℕ) {denominator : ℕ} (proper : numerator < denominator) :
    CutsOff (.ofMantissaAndAccuracy count (accuracyOfFraction numerator denominator))
      (count + numerator / denominator) := by
  have positive : (0 : ℚ) < denominator := Nat.cast_pos.mpr (by omega)
  have small : (numerator : ℚ) / denominator < 1 := by
    rw [div_lt_one positive]
    exact_mod_cast proper
  by_cases none : numerator = 0
  · have exact := cutsOff_exact count
    simpa [accuracyOfFraction, none] using exact
  have some : (0 : ℚ) < numerator / denominator := div_pos (by positivity) positive
  have half : (numerator : ℚ) / denominator * 2 * denominator = 2 * numerator := by
    field_simp
  generalize (numerator : ℚ) / denominator = part at small some half
  have order : compare (2 * numerator) denominator = compare part (1 / 2) := by
    rcases lt_trichotomy (2 * numerator) denominator with less | equal | more
    · have known : (2 : ℚ) * numerator < denominator := by exact_mod_cast less
      rw [Nat.compare_eq_lt.mpr less, eq_comm, compare_lt_iff_lt]
      nlinarith
    · have known : (2 : ℚ) * numerator = denominator := by exact_mod_cast equal
      rw [Nat.compare_eq_eq.mpr equal, eq_comm, compare_eq_iff_eq]
      nlinarith
    · have known : (denominator : ℚ) < 2 * numerator := by exact_mod_cast more
      rw [Nat.compare_eq_gt.mpr more, eq_comm, compare_gt_iff_gt]
      nlinarith
  rw [accuracyOfFraction, if_neg none, order]
  rcases lt_trichotomy part (1 / 2) with less | rfl | more
  · rw [compare_lt_iff_lt.mpr less]
    constructor <;> simp [halves, ExtendedMantissa.ofMantissaAndAccuracy] <;> linarith
  · rw [compare_eq_iff_eq.mpr rfl]
    constructor <;> simp [halves, ExtendedMantissa.ofMantissaAndAccuracy] <;> linarith
  · rw [compare_gt_iff_gt.mpr more]
    constructor <;> simp [halves, ExtendedMantissa.ofMantissaAndAccuracy] <;> linarith

/-- Shifting by one digit halves the number. -/
theorem CutsOff.shiftRightOne {digits : ExtendedMantissa} {value : ℚ}
    (cuts : CutsOff digits value) : CutsOff digits.shiftRightOne (value / 2) := by
  obtain ⟨below, above, exact_iff⟩ := cuts
  obtain ⟨mantissa, roundBit, stickyBit⟩ := digits
  have shifted : halves (ExtendedMantissa.shiftRightOne ⟨mantissa, roundBit, stickyBit⟩) =
      mantissa := by
    have split := Nat.div_add_mod mantissa 2
    rcases Nat.mod_two_eq_zero_or_one mantissa with even | odd
    · simp [halves, ExtendedMantissa.shiftRightOne, even]
      omega
    · simp [halves, ExtendedMantissa.shiftRightOne, odd]
      omega
  cases roundBit <;> simp only [halves, Bool.toNat_true, Bool.toNat_false] at below above exact_iff <;>
    push_cast at below above exact_iff
  · refine ⟨by rw [shifted]; linarith, by rw [shifted]; linarith, ?_⟩
    rw [shifted]
    simp only [ExtendedMantissa.shiftRightOne, Bool.false_or, exact_iff]
    constructor <;> intro same <;> linarith
  · refine ⟨by rw [shifted]; linarith, by rw [shifted]; linarith, ?_⟩
    rw [shifted]
    simp only [ExtendedMantissa.shiftRightOne, Bool.true_or, Bool.true_eq_false, false_iff]
    intro same
    linarith

/-- Shifting by some digits divides the number by their power of two. -/
theorem CutsOff.shiftRight {digits : ExtendedMantissa} {value : ℚ} (cuts : CutsOff digits value)
    (count : ℕ) : CutsOff (digits >>> count) (value / 2 ^ count) := by
  change CutsOff (count.repeat ExtendedMantissa.shiftRightOne digits) _
  induction count with
  | zero => simpa [Nat.repeat] using cuts
  | succ count ih =>
      have next := ih.shiftRightOne
      rwa [div_div, ← pow_succ] at next

/-- The rounded mantissa is the nearest natural number. -/
theorem CutsOff.isNearest {digits : ExtendedMantissa} {value : ℚ} (cuts : CutsOff digits value) :
    IsNearest value digits.roundedMantissa := by
  obtain ⟨below, above, exact_iff⟩ := cuts
  obtain ⟨mantissa, roundBit, stickyBit⟩ := digits
  cases roundBit <;> cases stickyBit <;>
    simp only [halves, Bool.toNat_true, Bool.toNat_false, true_iff, Bool.true_eq_false,
      false_iff] at below above exact_iff <;>
    push_cast at below above exact_iff <;>
    simp only [ExtendedMantissa.roundedMantissa, ExtendedMantissa.accuracy,
      Accuracy.roundToNearestEven]
  · have same : value = mantissa := by linarith
    constructor <;> simp [same]
  · have strict : (2 : ℚ) * mantissa < 2 * value := lt_of_le_of_ne (by linarith) fun same =>
      exact_iff (by linarith)
    have distance : |value - mantissa| = value - mantissa := abs_of_pos (by linarith)
    constructor
    · rw [distance]; linarith
    · rw [distance]; intro half; linarith
  · have same : value = mantissa + 1 / 2 := by linarith
    rcases Nat.mod_two_eq_zero_or_one mantissa with even | odd
    · constructor <;> simp [same, even]
    · constructor
      · rw [same, odd, abs_le]
        push_cast
        constructor <;> linarith
      · intro
        omega
  · have strict : (2 : ℚ) * mantissa + 1 < 2 * value := lt_of_le_of_ne below fun same =>
      exact_iff same.symm
    have distance : |value - (mantissa + 1 : ℕ)| = mantissa + 1 - value := by
      push_cast
      rw [abs_of_neg (by linarith)]
      ring
    constructor
    · rw [distance]; linarith
    · rw [distance]; intro half; linarith

end Mantissas

section Rounding

/-- A power of two that leaves a number 53 binary digits, or the least one of a double, which may
leave it fewer. -/
structure IsUnit (value : ℚ) (power : ℤ) : Prop where
  least : -1074 ≤ power
  below : value < 2 ^ (power + 53)
  above : power = -1074 ∨ 2 ^ (power + 52) ≤ value

theorem IsUnit.le_of_isUnit {value : ℚ} {first second : ℤ} (one : IsUnit value first)
    (two : IsUnit value second) : second ≤ first := by
  by_contra less
  rcases two.above with least | above
  · have := one.least
    omega
  · have grows : (2 : ℚ) ^ (first + 53) ≤ 2 ^ (second + 52) :=
      zpow_le_zpow_right₀ (by norm_num) (by omega)
    linarith [one.below]

/-- A number is rounded to so many units. -/
structure Rounds (value : ℚ) (count : ℕ) (power : ℤ) : Prop extends IsUnit value power where
  nearest : IsNearest (value / 2 ^ power) count

/-- A number is rounded in one way. -/
theorem Rounds.unique {value : ℚ} {count other : ℕ} {power unit : ℤ}
    (one : Rounds value count power) (two : Rounds value other unit) :
    count = other ∧ power = unit := by
  obtain rfl : power = unit :=
    le_antisymm (two.le_of_isUnit one.toIsUnit) (one.le_of_isUnit two.toIsUnit)
  exact ⟨one.nearest.unique two.nearest, rfl⟩

theorem IsNearest.le_of_lt {value : ℚ} {count bound : ℕ} (nearest : IsNearest value count)
    (below : value < bound) : count ≤ bound := by
  have near := (abs_le.mp nearest.near).1
  have less : (count : ℚ) < (bound + 1 : ℕ) := by
    push_cast
    linarith
  exact Nat.le_of_lt_succ (by exact_mod_cast less)

theorem IsNearest.ge_of_le {value : ℚ} {count bound : ℕ} (nearest : IsNearest value count)
    (above : bound ≤ value) : bound ≤ count := by
  have near := (abs_le.mp nearest.near).2
  have less : (bound : ℚ) < (count + 1 : ℕ) := by
    push_cast
    linarith
  exact Nat.le_of_lt_succ (by exact_mod_cast less)

/-- A rounded mantissa has 53 bits, or it is the next power of two. -/
theorem Rounds.count_le {value : ℚ} {count : ℕ} {power : ℤ} (rounds : Rounds value count power) :
    count ≤ 2 ^ 53 := by
  apply rounds.nearest.le_of_lt
  rw [div_lt_iff₀ (by positivity), Nat.cast_pow, Nat.cast_ofNat, ← zpow_natCast,
    ← zpow_add₀ (by norm_num), add_comm]
  exact rounds.below

/-- A rounded mantissa fills its bits unless its place is the least one. -/
theorem Rounds.le_count {value : ℚ} {count : ℕ} {power : ℤ} (rounds : Rounds value count power) :
    power = -1074 ∨ 2 ^ 52 ≤ count := by
  refine rounds.above.imp_right fun above => rounds.nearest.ge_of_le ?_
  rw [le_div_iff₀ (by positivity), Nat.cast_pow, Nat.cast_ofNat, ← zpow_natCast,
    ← zpow_add₀ (by norm_num), add_comm]
  exact above

/-- So many units as a number of at most 53 digits. A count of 2^53 goes to the next power. -/
def ofUnits (sign : Sign) (count : ℕ) (power : ℤ) : UnpackedFloat :=
  if positive : 0 < count then
    if count < 2 ^ 53 then .finite sign count power positive
    else .finite sign (2 ^ 52) (power + 1) (by decide)
  else .zero sign

/-- The last place is that of 53 digits, but not below the least one. -/
theorem targetExponent_eq (mantissa : ℕ) (exponent : ℤ) :
    Format.binary64.targetExponent (totalExponent mantissa exponent) =
      max (mantissa.log2 + exponent - 52) (-1074) := by
  simp only [Format.targetExponent, totalExponent, Format.mantissaBits, Format.minExponent]
  norm_num
  omega

/-- A count of units loses no digits unless it is 2^53. -/
theorem shiftToTargetExponent_units {count : ℕ} {power : ℤ} (small : count ≤ 2 ^ 53)
    (least : -1074 ≤ power) :
    shiftToTargetExponent Format.binary64 count power .exact =
      if count < 2 ^ 53 then (⟨count, false, false⟩, power)
      else (⟨2 ^ 52, false, false⟩, power + 1) := by
  unfold shiftToTargetExponent
  simp only [targetExponent_eq]
  split
  · next less =>
      have digits : count.log2 ≤ 52 := by
        by_cases none : count = 0
        · simp [none]
        · exact Nat.le_of_lt_succ ((Nat.log2_lt none).mpr less)
      have shift : (max (count.log2 + power - 52) (-1074) - power).toNat = 0 := by omega
      simp [shiftToExponent, shift, HShiftRight.hShiftRight, Nat.repeat,
        ExtendedMantissa.ofMantissaAndAccuracy]
  · next more =>
      obtain rfl : count = 2 ^ 53 := by omega
      have digits : (2 ^ 53 : ℕ).log2 = 53 := Nat.log2_two_pow
      have shift : (max (((2 ^ 53 : ℕ).log2 : ℤ) + power - 52) (-1074) - power).toNat = 1 := by
        rw [digits]
        omega
      simp only [shiftToExponent, shift]
      rfl

/-- The mantissa of what is cut off is the integer part. -/
theorem CutsOff.floor {mantissa : ℕ} {accuracy : Accuracy} {value : ℚ}
    (cuts : CutsOff (.ofMantissaAndAccuracy mantissa accuracy) value) :
    mantissa ≤ value ∧ value < mantissa + 1 := by
  obtain ⟨below, above, -⟩ := cuts
  have bit : ∃ roundBit : Bool, halves (.ofMantissaAndAccuracy mantissa accuracy) =
      2 * mantissa + roundBit.toNat := by
    unfold ExtendedMantissa.ofMantissaAndAccuracy
    split <;> exact ⟨_, rfl⟩
  obtain ⟨roundBit, same⟩ := bit
  rw [same] at below above
  cases roundBit <;> simp only [Bool.toNat_true, Bool.toNat_false] at below above <;>
    push_cast at below above <;> constructor <;> linarith

/-- The binary digits of the integer part tell the power by which a number is rounded. -/
theorem isUnit_targetExponent {value : ℚ} {mantissa : ℕ} {exponent : ℤ}
    (floor : mantissa ≤ value / 2 ^ exponent ∧ value / 2 ^ exponent < mantissa + 1)
    (fine : exponent ≤ -1074 ∨ 2 ^ 52 ≤ mantissa) :
    IsUnit value (max (mantissa.log2 + exponent - 52) (-1074)) := by
  obtain ⟨below, above⟩ := floor
  rw [le_div_iff₀ (by positivity)] at below
  rw [div_lt_iff₀ (by positivity)] at above
  refine ⟨le_max_right .., ?_, ?_⟩
  · have digits : (mantissa : ℚ) + 1 ≤ 2 ^ ((mantissa.log2 : ℤ) + 1) := by
      have bound : mantissa + 1 ≤ 2 ^ (mantissa.log2 + 1) := Nat.lt_log2_self
      exact_mod_cast bound
    calc value < (mantissa + 1) * 2 ^ exponent := above
      _ ≤ 2 ^ ((mantissa.log2 : ℤ) + 1) * 2 ^ exponent := by gcongr
      _ = 2 ^ ((mantissa.log2 : ℤ) + 1 + exponent) := (zpow_add₀ (by norm_num) ..).symm
      _ ≤ 2 ^ (max ((mantissa.log2 : ℤ) + exponent - 52) (-1074) + 53) :=
        zpow_le_zpow_right₀ (by norm_num) (by omega)
  · by_cases least : max ((mantissa.log2 : ℤ) + exponent - 52) (-1074) = -1074
    · exact .inl least
    · right
      have filled : mantissa ≠ 0 := by
        rintro rfl
        rw [Nat.log2_zero] at least
        omega
      have digits : (2 : ℚ) ^ (mantissa.log2 : ℤ) ≤ mantissa := by
        exact_mod_cast Nat.log2_self_le filled
      calc (2 : ℚ) ^ (max ((mantissa.log2 : ℤ) + exponent - 52) (-1074) + 52)
          = 2 ^ (mantissa.log2 : ℤ) * 2 ^ exponent := by
            rw [← zpow_add₀ (by norm_num)]
            congr 1
            omega
        _ ≤ mantissa * 2 ^ exponent := by gcongr
        _ ≤ value := below

/-- A number whose first digits are known with the accuracy of the rest is rounded. -/
theorem exists_roundWithAccuracy (sign : Sign) {value : ℚ} {mantissa : ℕ} {exponent : ℤ}
    {accuracy : Accuracy}
    (cuts : CutsOff (.ofMantissaAndAccuracy mantissa accuracy) (value / 2 ^ exponent))
    (fine : exponent ≤ -1074 ∨ 2 ^ 52 ≤ mantissa) :
    ∃ count power, Rounds value count power ∧
      roundWithAccuracy Format.binary64 sign mantissa exponent accuracy =
        ofUnits sign count power := by
  have target := targetExponent_eq mantissa exponent
  have isUnit := isUnit_targetExponent cuts.floor fine
  have digits : 2 ^ 52 ≤ mantissa → 52 ≤ mantissa.log2 := fun large =>
    (Nat.le_log2 (by omega)).mpr large
  have coarser : exponent ≤ max ((mantissa.log2 : ℤ) + exponent - 52) (-1074) := by omega
  generalize max ((mantissa.log2 : ℤ) + exponent - 52) (-1074) = power at target isUnit coarser
  obtain ⟨places, rfl⟩ := Int.exists_add_of_le coarser
  have nearest := (cuts.shiftRight places).isNearest
  rw [div_div, ← zpow_natCast, ← zpow_add₀ (by norm_num)] at nearest
  generalize counted : (ExtendedMantissa.ofMantissaAndAccuracy mantissa accuracy >>>
    places).roundedMantissa = count at nearest
  have rounds : Rounds value count (exponent + places) := ⟨isUnit, nearest⟩
  refine ⟨count, exponent + places, rounds, ?_⟩
  have first : shiftToTargetExponent Format.binary64 mantissa exponent accuracy =
      (ExtendedMantissa.ofMantissaAndAccuracy mantissa accuracy >>> places, exponent + places) := by
    simp only [shiftToTargetExponent, target, shiftToExponent, add_sub_cancel_left,
      Int.toNat_natCast]
  have second := shiftToTargetExponent_units rounds.count_le rounds.least
  rw [roundWithAccuracy, first]
  simp only [counted, second, ofUnits]
  by_cases small : count < 2 ^ 53
  · simp only [if_pos small]
    by_cases positive : 0 < count
    · rw [dif_neg positive.ne', dif_pos positive]
    · rw [dif_pos (by omega), dif_neg positive]
  · have positive : 0 < count := by omega
    simp only [if_neg small, dif_pos positive]
    rw [dif_neg (by decide)]

end Rounding

section Operations

variable {first second : ℕ} (known : 0 < first) (divides : 0 < second) (power unit : ℤ)

/-- The product of two doubles is rounded to the nearest. -/
theorem exists_mul (fine : power + unit ≤ -1074 ∨ 2 ^ 52 ≤ first * second) :
    ∃ count exponent, Rounds (first * 2 ^ power * (second * 2 ^ unit)) count exponent ∧
      UnpackedFloat.mul Format.binary64 (.finite .positive first power known)
        (.finite .positive second unit divides) = ofUnits .positive count exponent := by
  refine exists_roundWithAccuracy .positive ?_ fine
  have scaled : (first * 2 ^ power * (second * 2 ^ unit) : ℚ) / 2 ^ (power + unit) =
      (first * second : ℕ) := by
    rw [zpow_add₀ (by norm_num), div_eq_iff (by positivity)]
    push_cast
    ring
  rw [scaled]
  exact cutsOff_exact _

include known divides in
/-- A quotient has enough digits before it is rounded. -/
theorem fine_quotient {places : ℕ} (enough : 53 + second.log2 ≤ first.log2 + places) :
    2 ^ 52 ≤ (first <<< places) / second := by
  rw [Nat.le_div_iff_mul_le divides, Nat.shiftLeft_eq]
  have below : second ≤ 2 ^ (second.log2 + 1) := Nat.lt_log2_self.le
  have above : 2 ^ first.log2 ≤ first := Nat.log2_self_le known.ne'
  calc 2 ^ 52 * second ≤ 2 ^ 52 * 2 ^ (second.log2 + 1) := Nat.mul_le_mul_left _ below
    _ = 2 ^ (53 + second.log2) := by rw [← pow_add]; congr 1; omega
    _ ≤ 2 ^ (first.log2 + places) := Nat.pow_le_pow_right (by decide) enough
    _ = 2 ^ first.log2 * 2 ^ places := pow_add ..
    _ ≤ first * 2 ^ places := Nat.mul_le_mul_right _ above

/-- The quotient of two doubles is rounded to the nearest. -/
theorem exists_div :
    ∃ count exponent, Rounds (first * 2 ^ power / (second * 2 ^ unit)) count exponent ∧
      UnpackedFloat.div Format.binary64 (.finite .positive first power known)
        (.finite .positive second unit divides) = ofUnits .positive count exponent := by
  have target : Format.binary64.targetExponent
      (totalExponent first power - totalExponent second unit) =
        max (first.log2 + power - (second.log2 + unit) - 53) (-1074) := by
    simp only [Format.targetExponent, totalExponent, Format.mantissaBits, Format.minExponent]
    norm_num
    omega
  have coarser : min (power - unit) (max (first.log2 + power - (second.log2 + unit) - 53)
      (-1074)) ≤ power - unit := min_le_left ..
  have enough : min (power - unit) (max (first.log2 + power - (second.log2 + unit) - 53)
      (-1074)) ≤ -1074 ∨ 53 + (second.log2 : ℤ) ≤ first.log2 + (power - unit - min (power - unit)
        (max (first.log2 + power - (second.log2 + unit) - 53) (-1074))) := by
    omega
  generalize same : min (power - unit) (max (first.log2 + power - (second.log2 + unit) - 53)
    (-1074)) = exponent at coarser enough
  obtain ⟨places, split⟩ := Int.exists_add_of_le coarser
  have shift : (power - unit - exponent).toNat = places := by omega
  have core : divCore Format.binary64 first power second unit =
      (first <<< places / second, exponent,
        accuracyOfFraction (first <<< places % second) second) := by
    simp only [divCore, target, same, shift]
  have quotient : (first * 2 ^ power : ℚ) / (second * 2 ^ unit) / 2 ^ exponent =
      (first <<< places / second : ℕ) + (first <<< places % second : ℕ) / second := by
    have whole : ((first <<< places : ℕ) : ℚ) = second * (first <<< places / second : ℕ) +
        (first <<< places % second : ℕ) := by
      exact_mod_cast (Nat.div_add_mod (first <<< places) second).symm
    have cast : (0 : ℚ) < second := Nat.cast_pos.mpr divides
    have powers : (2 : ℚ) ^ power = 2 ^ unit * 2 ^ exponent * 2 ^ places := by
      rw [← zpow_natCast, ← zpow_add₀ (by norm_num), ← zpow_add₀ (by norm_num)]
      congr 1
      omega
    have shifted : (first * 2 ^ places : ℚ) = second * (first <<< places / second : ℕ) +
        (first <<< places % second : ℕ) := by
      rw [← whole, Nat.shiftLeft_eq]
      push_cast
      rfl
    rw [powers]
    field_simp
    exact shifted
  simp only [UnpackedFloat.div, core]
  refine exists_roundWithAccuracy .positive ?_ ?_
  · rw [quotient]
    exact cutsOff_fraction _ _ (Nat.mod_lt _ divides)
  · refine enough.imp_right fun enough => fine_quotient known divides ?_
    omega

end Operations

end HostBridge.Double
