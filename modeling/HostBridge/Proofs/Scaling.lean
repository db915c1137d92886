/-
This file shows how near the digits of a double are read to it.
-/
import HostBridge.Proofs.Counting
import HostBridge.Proofs.Double

namespace HostBridge.Json

open Double Decimal

section Powers

/-- A power of ten is the double of its number. -/
theorem powerOfTen_eq {power : ℕ} (small : power ≤ 308) :
    powerOfTen power = Float.ofNat (10 ^ power) := by
  have one : (Nat.toDigits 10 1).length = 1 := rfl
  unfold powerOfTen nearest
  simp only [one, Bool.or_eq_true, decide_eq_true_eq]
  rw [if_neg (by omega), if_neg (by omega), if_pos (by omega)]
  simp only [Int.toNat_natCast, Nat.one_mul]
  rfl

/-- A power of ten is rounded once. -/
theorem isRounded_powerOfTen {power : ℕ} (small : power ≤ 308) :
    IsRounded (powerOfTen power) (10 ^ power : ℕ) := by
  rw [powerOfTen_eq small]
  exact isRounded_ofNat (Nat.pow_pos (by decide))

/-- These powers of ten are doubles. -/
theorem denotes_powerOfTen {power : ℕ} (small : power ≤ 22) :
    Denotes (powerOfTen power) (10 ^ power : ℕ) := by
  have factors : 10 ^ power = 5 ^ power * 2 ^ power := Nat.mul_pow 5 2 power
  have rounded := isRounded_powerOfTen (small.trans (by decide))
  have short : 5 ^ power < 2 ^ 53 :=
    lt_of_le_of_lt (Nat.pow_le_pow_right (by decide) small) (by decide)
  rw [factors] at rounded ⊢
  exact rounded.denotes_natural short (small.trans (by decide)) (Nat.pow_pos (by decide))

/-- All powers of ten up to this one are below the greatest double. -/
theorem pow_ten_lt_limit {power : ℕ} (small : power ≤ 308) : ((10 ^ power : ℕ) : ℚ) < limit := by
  have known : 2 * 10 ^ 308 + 2 ^ 971 < 2 ^ 54 * 2 ^ 971 := by decide +kernel
  have cast : (2 * 10 ^ 308 + 2 ^ (971 : ℤ) : ℚ) < 2 ^ 54 * 2 ^ (971 : ℤ) := by
    exact_mod_cast known
  have grows : (10 : ℚ) ^ power ≤ 10 ^ 308 := pow_le_pow_right₀ (by norm_num) small
  rw [Nat.cast_pow, Nat.cast_ofNat, limit]
  generalize (2 : ℚ) ^ (971 : ℤ) = unit at cast
  generalize (10 : ℚ) ^ 308 = top at cast grows
  linarith

/-- Numbers of twenty digits are below the limit. -/
theorem lt_limit_of_lt {value : ℕ} (small : value < 10 ^ 20) : (value : ℚ) < limit :=
  (Nat.cast_lt.mpr small).trans (pow_ten_lt_limit (by decide))

end Powers

section Cells

/-- A number in the cell of a double is nearest to its mantissa. -/
theorem bounds_of_contains {value : Decimal.Dyadic} (positive : 0 < value.mantissa) {number : ℚ}
    (contains : (Cell.ofDyadic value).Contains number) :
    (value.mantissa - if value.narrow then 1 / 4 else 1 / 2 : ℚ) ≤ number / 2 ^ value.exponent ∧
      IsNearest (number / 2 ^ value.exponent) value.mantissa := by
  have place : (0 : ℚ) < 2 ^ value.exponent := by positivity
  have closed : (Cell.ofDyadic value).closed = decide (value.mantissa % 2 = 0) := rfl
  have half : (if value.narrow then 1 / 4 else 1 / 2 : ℚ) ≤ 1 / 2 := by split <;> norm_num
  unfold Cell.Contains at contains
  rw [Cell.lowest_ofDyadic positive, Cell.highest_ofDyadic, closed, ← le_div_iff₀ place,
    ← lt_div_iff₀ place, ← div_le_iff₀ place, ← div_lt_iff₀ place] at contains
  split at contains
  · next even =>
      obtain ⟨low, high⟩ := contains
      exact ⟨low, abs_le.mpr ⟨by linarith, by linarith⟩, fun _ => of_decide_eq_true even⟩
  · obtain ⟨low, high⟩ := contains
    have near : |number / 2 ^ value.exponent - value.mantissa| < 1 / 2 :=
      abs_lt.mpr ⟨by linarith, by linarith⟩
    exact ⟨low.le, near.le, fun same => absurd same near.ne⟩

/-- The numbers in the cell of a double are rounded to it. -/
theorem isRounded_of_contains {value : Decimal.Dyadic} (proper : value.Proper)
    (double : IsDouble value.mantissa value.exponent) {number : ℚ}
    (contains : (Cell.ofDyadic value).Contains number) :
    IsRounded (ofParts .positive double) number := by
  obtain ⟨positive, small, edge⟩ := proper
  obtain ⟨low, nearest⟩ := bounds_of_contains positive contains
  have place : (0 : ℚ) < 2 ^ value.exponent := by positivity
  have high := (abs_le.mp nearest.near).2
  have top : (value.mantissa : ℚ) + 1 ≤ 2 ^ 53 := by exact_mod_cast small
  by_cases above : value.exponent = -1074 ∨ (2 : ℚ) ^ 52 ≤ number / 2 ^ value.exponent
  · refine ⟨value.mantissa, value.exponent, ⟨⟨double.least, ?_, ?_⟩, nearest⟩, ?_⟩
    · rw [add_comm, zpow_add₀ (by norm_num), ← div_lt_iff₀ place]
      exact lt_of_lt_of_le (by linarith) top
    · refine above.imp_right fun more => ?_
      rw [add_comm, zpow_add₀ (by norm_num), ← le_div_iff₀ place]
      exact_mod_cast more
    · rw [ofUnits, dif_pos positive, if_pos small]
      rfl
  · -- Only a power of two has numbers in its cell that are counted in smaller units.
    obtain ⟨notLeast, less⟩ := not_or.mp above
    have least := lt_of_le_of_ne double.least (Ne.symm notLeast)
    have normal := double.normal.resolve_left notLeast
    rw [not_le] at less
    have whole : value.mantissa = 2 ^ 52 := by
      have half : (if value.narrow then 1 / 4 else 1 / 2 : ℚ) ≤ 1 / 2 := by split <;> norm_num
      have bound : (value.mantissa : ℚ) < (2 ^ 52 + 1 : ℕ) := by
        push_cast
        linarith
      have below : value.mantissa < 2 ^ 52 + 1 := by exact_mod_cast bound
      omega
    rw [if_pos (edge.mpr ⟨whole, least⟩), whole] at low
    push_cast at low
    have finer : number / 2 ^ (value.exponent - 1) = number / 2 ^ value.exponent * 2 := by
      rw [zpow_sub_one₀ (by norm_num)]
      field_simp
    have place : (0 : ℚ) < 2 ^ (value.exponent - 1) := by positivity
    refine ⟨2 ^ 53, value.exponent - 1, ⟨⟨by omega, ?_, .inr ?_⟩, ?_, fun _ => rfl⟩, ?_⟩
    · rw [add_comm, zpow_add₀ (by norm_num), ← div_lt_iff₀ place, finer]
      norm_num
      linarith
    · rw [add_comm, zpow_add₀ (by norm_num), ← le_div_iff₀ place, finer]
      norm_num
      linarith
    · rw [finer, abs_le]
      push_cast
      constructor <;> linarith
    · rw [ofUnits, dif_pos (by decide), if_neg (by decide)]
      simp only [whole, sub_add_cancel, ofParts]

end Cells

/-- The double that digits are scaled to. -/
def scaledTo? (value : Scientific) : Option Float :=
  scaled (value.exponent.natAbs + 1) (Float.ofNat value.digits) value.exponent

section Steps

variable (steps : ℕ) (value : Float) {power : ℕ}

/-- Scaling up is one product. -/
theorem scaled_mul (small : power ≤ 308) (finite : (value * powerOfTen power).isInf = false) :
    scaled (steps + 1) value power = some (value * powerOfTen power) := by
  rw [scaled, if_pos (by omega), if_pos (by omega)]
  simp only [Int.natAbs_natCast, finite]
  rfl

/-- Scaling down is one quotient by a power of ten that is a double. -/
theorem scaled_div (small : power ≤ 308) (positive : 0 < power) :
    scaled (steps + 1) value (-power) = some (value / powerOfTen power) := by
  rw [scaled, if_pos (by omega), if_neg (by omega), Int.natAbs_neg, Int.natAbs_natCast]

/-- Scaling down further begins with the greatest power of ten that is a double. -/
theorem scaled_far {exponent : ℤ} (low : exponent < -308) (filled : (value == 0.0) = false) :
    scaled (steps + 1) value exponent = scaled steps (value / powerOfTen 308) (exponent + 308) := by
  rw [scaled, if_neg (by omega), filled, if_neg (by decide), if_neg (by omega)]

/-- Digits and a power of ten that are doubles are rounded once. -/
theorem scaled_denoted {digits : ℕ} (denotes : Denotes (Float.ofNat digits) digits) {exponent : ℤ}
    (few : exponent.natAbs ≤ 22) (below : (digits * 10 ^ exponent : ℚ) < limit) :
    ∃ y, scaled (exponent.natAbs + 1) (Float.ofNat digits) exponent = some y ∧
      IsRounded y (digits * 10 ^ exponent) := by
  rcases le_or_gt 0 exponent with whole | fraction
  · obtain ⟨power, rfl⟩ := Int.eq_ofNat_of_zero_le whole
    rw [Int.natAbs_natCast] at few ⊢
    have positive : 0 < digits := by exact_mod_cast denotes.pos
    have least : (1 : ℚ) ≤ digits := by exact_mod_cast positive
    have product := denotes.mul (denotes_powerOfTen few)
      ((zpow_le_one_of_nonpos₀ (by norm_num) (by norm_num)).trans least)
    rw [Nat.cast_pow, Nat.cast_ofNat, ← zpow_natCast] at product
    obtain ⟨_, sized, -⟩ := product.exists_sized (by positivity) below
    exact ⟨_, scaled_mul _ _ (few.trans (by decide)) sized.isInf, product⟩
  · obtain ⟨power, rfl⟩ := Int.exists_eq_neg_ofNat fraction.le
    rw [Int.natAbs_neg, Int.natAbs_natCast] at few ⊢
    have quotient := denotes.div (denotes_powerOfTen few)
    rw [Nat.cast_pow, Nat.cast_ofNat, ← zpow_natCast, div_eq_mul_inv, ← zpow_neg] at quotient
    exact ⟨_, scaled_div _ _ (few.trans (by decide)) (by omega), quotient⟩

/-- A double is read exactly when its digits and their power of ten are doubles too. -/
theorem scaled_exact {value : Decimal.Dyadic} (proper : value.Proper)
    (double : IsDouble value.mantissa value.exponent) {digits zeros : ℕ}
    (digits_eq : (counted value).digits = digits * 2 ^ zeros) (short : digits < 2 ^ 53)
    (few : (counted value).exponent.natAbs ≤ 22) :
    scaledTo? (counted value) = some (ofParts .positive double) := by
  obtain ⟨⟨positive, bound⟩, -, contains⟩ := counted_spec proper double.least double.greatest
  have rounded := isRounded_of_contains proper double contains
  have below := rounded.lt_limit (denotes_ofParts double).isInf
  rw [Scientific.toRat] at rounded below
  unfold scaledTo?
  generalize counted value = written at *
  obtain ⟨all, exponent⟩ := written
  simp only at *
  subst digits_eq
  have filled : 0 < digits := Nat.pos_of_mul_pos_right positive
  have places : zeros ≤ 971 := by
    have power : 2 ^ zeros < 2 ^ 58 := by
      have least := Nat.le_mul_of_pos_left (2 ^ zeros) filled
      omega
    have less := (Nat.pow_lt_pow_iff_right (by decide)).mp power
    omega
  have denotes := (isRounded_ofNat positive).denotes_natural short places filled
  obtain ⟨_, known, same⟩ := scaled_denoted denotes few below
  rw [known, same.unique rounded]

end Steps

section Errors

/-- A number is off by a factor of so many units of 53 binary digits. -/
def Near (units : ℚ) (number value : ℚ) : Prop :=
  ∃ error : ℚ, |error| ≤ units / 2 ^ 53 ∧ number = value * (1 + error)

variable {first second : ℚ} {x y v w : ℚ}

theorem near_of_le (positive : 0 < v) (le : |x - v| ≤ first * (v / 2 ^ 53)) : Near first x v := by
  refine ⟨(x - v) / v, ?_, by field_simp; ring⟩
  rw [abs_div, abs_of_pos positive, div_le_iff₀ positive]
  linarith

/-- A number that is near is off by so many units at most. -/
theorem Near.le (near : Near first x v) (positive : 0 ≤ v) : |x - v| ≤ first * (v / 2 ^ 53) := by
  obtain ⟨error, small, rfl⟩ := near
  have shift : v * (1 + error) - v = v * error := by ring
  rw [shift, abs_mul, abs_of_nonneg positive]
  have bound := mul_le_mul_of_nonneg_left small positive
  linarith

theorem Near.mono (near : Near first x v) (le : first ≤ second) : Near second x v := by
  obtain ⟨error, small, same⟩ := near
  exact ⟨error, small.trans (by gcongr), same⟩

/-- A number that is near is more than half of the other one and less than twice. -/
theorem Near.lt (near : Near 11 x v) (positive : 0 < v) : v / 2 < x ∧ x < 2 * v := by
  obtain ⟨low, high⟩ := abs_le.mp (near.le positive.le)
  constructor <;> linarith

/-- Two errors add up to a little more than their sum. -/
theorem exists_error_mul {error other : ℚ} (few : first ≤ 16) (less : second ≤ 16)
    (one : |error| ≤ first / 2 ^ 53) (two : |other| ≤ second / 2 ^ 53) :
    |error + other + error * other| ≤ (first + second + 1) / 2 ^ 53 := by
  have product : |error * other| ≤ 1 / 2 ^ 53 := by
    rw [abs_mul]
    calc |error| * |other| ≤ 16 / 2 ^ 53 * (16 / 2 ^ 53) :=
          mul_le_mul (one.trans (by gcongr)) (two.trans (by gcongr)) (abs_nonneg _) (by norm_num)
      _ ≤ 1 / 2 ^ 53 := by norm_num
  have sum := (abs_add_le (error + other) (error * other)).trans
    (add_le_add_left (abs_add_le error other) _)
  linarith

/-- The errors of factors add up in their product. -/
theorem Near.mul (few : first ≤ 16) (less : second ≤ 16) (one : Near first x v)
    (two : Near second y w) : Near (first + second + 1) (x * y) (v * w) := by
  obtain ⟨error, small, rfl⟩ := one
  obtain ⟨other, little, rfl⟩ := two
  exact ⟨error + other + error * other, exists_error_mul few less small little, by ring⟩

/-- The errors of two roundings add up. -/
theorem Near.trans (few : first ≤ 16) (less : second ≤ 16) (one : Near first x v)
    (two : Near second v w) : Near (first + second + 1) x w := by
  obtain ⟨error, small, rfl⟩ := one
  obtain ⟨other, little, rfl⟩ := two
  exact ⟨error + other + error * other, exists_error_mul few less small little, by ring⟩

/-- The errors of a quotient add up too. -/
theorem Near.div (few : first ≤ 16) (less : second ≤ 16) (one : Near first x v)
    (two : Near second y w) : Near (first + second + 1) (x / y) (v / w) := by
  obtain ⟨error, small, rfl⟩ := one
  obtain ⟨other, little, rfl⟩ := two
  have tiny : |other| ≤ 1 / 2 ^ 49 := little.trans (by linarith)
  have positive : 0 < 1 + other := by linarith [(abs_le.mp tiny).1]
  refine ⟨(error - other) / (1 + other), ?_, ?_⟩
  · rw [abs_div, abs_of_pos positive, div_le_iff₀ positive]
    have sum := (abs_sub error other).trans (add_le_add small little)
    have grows : -(1 : ℚ) ≤ (first + second + 1) * other := by
      have shrinks : -(1 / 2 ^ 49 : ℚ) ≤ other := (abs_le.mp tiny).1
      have filled : 0 ≤ first + second + 1 := by linarith [abs_nonneg error, abs_nonneg other]
      nlinarith
    linarith
  · field_simp
    ring

end Errors

section Accuracy

/-- A normal double is off by one unit at most. -/
theorem near_rounded {x : Float} {value : ℚ} (rounded : IsRounded x value)
    (normal : 2 ^ (-1022 : ℤ) ≤ value) (below : value < limit) :
    ∃ size, Denotes x size ∧ Near 1 size value := by
  have least : (2 : ℚ) ^ (-1074 : ℤ) ≤ 2 ^ (-1022 : ℤ) :=
    zpow_le_zpow_right₀ (by norm_num) (by norm_num)
  have positive : (0 : ℚ) < 2 ^ (-1022 : ℤ) := by positivity
  obtain ⟨size, denotes, -, near⟩ := rounded.exists_denotes (least.trans normal) below
  exact ⟨size, denotes, near_of_le (by linarith) (by rw [one_mul]; exact near normal)⟩

theorem least_le_half : (2 : ℚ) ^ (-1022 : ℤ) ≤ 1 / 2 :=
  calc (2 : ℚ) ^ (-1022 : ℤ) ≤ 2 ^ (-1 : ℤ) := zpow_le_zpow_right₀ (by norm_num) (by norm_num)
    _ = 1 / 2 := by norm_num

/-- Below the least normal double a few more units are lost. -/
theorem near_subnormal {x : Float} {value : ℚ} (rounded : IsRounded x value)
    (above : 2 ^ (-1024 : ℤ) ≤ value) (below : value < limit) :
    ∃ size, Denotes x size ∧ Near 5 size value := by
  have least : (2 : ℚ) ^ (-1074 : ℤ) ≤ 2 ^ (-1024 : ℤ) :=
    zpow_le_zpow_right₀ (by norm_num) (by norm_num)
  have positive : (0 : ℚ) < 2 ^ (-1024 : ℤ) := by positivity
  have tiny : (2 : ℚ) ^ (-1075 : ℤ) = 2 ^ (-1024 : ℤ) / 2 ^ 51 := by
    rw [← zpow_natCast, ← zpow_sub₀ (by norm_num)]
    rfl
  obtain ⟨size, denotes, near, -⟩ := rounded.exists_denotes (least.trans above) below
  rw [tiny] at near
  generalize (2 : ℚ) ^ (-1024 : ℤ) = unit at above positive near
  exact ⟨size, denotes, near_of_le (by linarith) (near.trans (by linarith))⟩

theorem least_le_quotient : (2 : ℚ) ^ (-1024 : ℤ) ≤ 2 / 3 * (1 / 10 ^ 308) := by
  have known : 3 * 10 ^ 308 ≤ 2 * 2 ^ 1024 := by decide +kernel
  have cast : (3 * 10 ^ 308 : ℚ) ≤ 2 * 2 ^ (1024 : ℤ) := by exact_mod_cast known
  have unit : (0 : ℚ) < 2 ^ (1024 : ℤ) := by positivity
  have top : (0 : ℚ) < 10 ^ 308 := by positivity
  rw [zpow_neg]
  generalize (2 : ℚ) ^ (1024 : ℤ) = unit at cast unit ⊢
  generalize (10 : ℚ) ^ 308 = top at cast top ⊢
  field_simp
  linarith

/-- The double of a natural number is off by one unit at most. -/
theorem near_ofNat {digits : ℕ} (positive : 0 < digits) (below : (digits : ℚ) < limit) :
    ∃ size, Denotes (Float.ofNat digits) size ∧ Near 1 size digits := by
  have least : (1 : ℚ) ≤ digits := by exact_mod_cast positive
  exact near_rounded (isRounded_ofNat positive) (by linarith [least_le_half]) below

/-- The double of a power of ten is off by one unit at most. -/
theorem near_powerOfTen {power : ℕ} (small : power ≤ 308) :
    ∃ size, Denotes (powerOfTen power) size ∧ Near 1 size (10 ^ power) := by
  obtain ⟨size, denotes, near⟩ :=
    near_ofNat (Nat.pow_pos (by decide) : 0 < 10 ^ power) (pow_ten_lt_limit small)
  rw [← powerOfTen_eq small] at denotes
  exact ⟨size, denotes, by exact_mod_cast near⟩

/-- The greatest doubles are not scaled to infinity. -/
theorem isInf_greatest : ∀ (negative : Bool) (below : Fin 4),
    let written := counted ⟨negative, 2 ^ 53 - 1 - below, 971, false⟩
    (Float.ofNat written.digits * powerOfTen written.exponent.natAbs).isInf = false := by
  decide +kernel

/-- Below the four greatest doubles there is room for the errors of scaling. -/
theorem greatest_or_below {value : Decimal.Dyadic} (proper : value.Proper)
    (double : IsDouble value.mantissa value.exponent) :
    (∃ below : Fin 4, value = ⟨value.negative, 2 ^ 53 - 1 - below, 971, false⟩) ∨
      (Cell.ofDyadic value).highest ≤ (2 ^ 53 - 9 / 2) * 2 ^ (971 : ℤ) := by
  rw [Cell.highest_ofDyadic]
  have small := double.small
  rcases double.greatest.eq_or_lt with top | less
  · by_cases large : 2 ^ 53 - 4 ≤ value.mantissa
    · left
      have wide : value.narrow = false := by
        refine Bool.eq_false_iff.mpr fun narrow => ?_
        have whole := (proper.edge.mp narrow).1
        omega
      obtain ⟨negative, mantissa, exponent, narrow⟩ := value
      simp only at top wide small large ⊢
      refine ⟨⟨2 ^ 53 - 1 - mantissa, by omega⟩, ?_⟩
      rw [top, wide, Nat.sub_sub_self (by omega)]
    · right
      have room : value.mantissa + 5 ≤ 2 ^ 53 := by omega
      have cast : (value.mantissa + 5 : ℚ) ≤ 2 ^ 53 := by exact_mod_cast room
      rw [top]
      gcongr
      linarith
  · right
    have cast : (value.mantissa + 1 : ℚ) ≤ 2 ^ 53 := by exact_mod_cast small
    have half : (2 : ℚ) ^ (970 : ℤ) = 2 ^ (971 : ℤ) / 2 := zpow_sub_one₀ (by norm_num) 971
    have unit : (0 : ℚ) < 2 ^ (971 : ℤ) := by positivity
    calc (value.mantissa + 1 / 2 : ℚ) * 2 ^ value.exponent ≤ 2 ^ 53 * 2 ^ (970 : ℤ) :=
          mul_le_mul (by linarith) (zpow_le_zpow_right₀ (by norm_num) (by omega))
            (by positivity) (by norm_num)
      _ ≤ (2 ^ 53 - 9 / 2) * 2 ^ (971 : ℤ) := by
          rw [half]
          generalize (2 : ℚ) ^ (971 : ℤ) = unit at unit ⊢
          linarith

/-- Scaling up a double gives no number beyond the doubles. -/
theorem lt_limit_of_near {value : Decimal.Dyadic} (proper : value.Proper)
    (double : IsDouble value.mantissa value.exponent) {power : ℕ}
    (whole : (counted value).exponent = power) {exact : ℚ}
    (near : Near 3 exact (counted value).toRat)
    (rounded : IsRounded (Float.ofNat (counted value).digits * powerOfTen power) exact) :
    exact < limit := by
  rcases greatest_or_below proper double with ⟨below, greatest⟩ | bound
  · have finite := isInf_greatest value.negative below
    rw [← greatest] at finite
    simp only [whole, Int.natAbs_natCast] at finite
    exact rounded.lt_limit finite
  · obtain ⟨-, -, contains⟩ := counted_spec proper double.least double.greatest
    have above := Cell.le_highest contains
    have filled := (Cell.pos_of_contains (Cell.wide_ofDyadic proper).1 contains).le
    have close := (abs_le.mp (near.le filled)).2
    have unit : (0 : ℚ) < 2 ^ (971 : ℤ) := by positivity
    unfold limit
    generalize (2 : ℚ) ^ (971 : ℤ) = unit at unit bound ⊢
    linarith

/-- A quotient by a power of ten is off by two more units. -/
theorem near_quotient {x : Float} {size value units : ℚ} (denotes : Denotes x size)
    (near : Near units size value) (few : units ≤ 16) {power : ℕ} (small : power ≤ 308) :
    ∃ exact, IsRounded (x / powerOfTen power) exact ∧
      Near (units + 1 + 1) exact (value / 10 ^ power) := by
  obtain ⟨divisor, other, close⟩ := near_powerOfTen small
  exact ⟨size / divisor, denotes.div other, near.div few (by norm_num) close⟩

/-- Digits that are scaled down twice are rounded to a positive double on the way. -/
theorem near_twice {x : Float} {size digits : ℚ} (denotes : Denotes x size)
    (near : Near 1 size digits) (least : 1 ≤ digits) (below : 2 * digits < limit) {places : ℕ}
    (small : places ≤ 308) :
    ∃ exact, IsRounded (x / powerOfTen 308 / powerOfTen places) exact ∧
      Near 11 exact (digits / 10 ^ (308 + places)) := by
  obtain ⟨first, rounded, quotient⟩ := near_quotient denotes near (by norm_num) le_rfl
  have one : (1 : ℚ) ≤ 10 ^ 308 := one_le_pow₀ (by norm_num)
  have enough := least_le_quotient
  rw [pow_add, ← div_div]
  generalize (10 : ℚ) ^ 308 = top at quotient one enough ⊢
  have filled : 0 < digits / top := by positivity
  have above : 2 ^ (-1024 : ℤ) ≤ first := by
    have part : 1 / top ≤ digits / top := by gcongr
    linarith [(abs_le.mp (quotient.le filled.le)).1]
  have inside : first < limit := by
    have less : digits / top ≤ digits := div_le_self (by linarith) one
    linarith [((quotient.mono (by norm_num)).lt filled).2]
  obtain ⟨rest, denoted, again⟩ := near_subnormal rounded above inside
  obtain ⟨exact, last, total⟩ := near_quotient denoted
    (again.trans (by norm_num) (by norm_num) quotient) (by norm_num) small
  exact ⟨exact, last, total.mono (by norm_num)⟩

/-- Digits that are scaled up by one power, or down by one power or two, are rounded once more at
the end. -/
theorem scaled_rounded {value : Decimal.Dyadic} (proper : value.Proper)
    (double : IsDouble value.mantissa value.exponent) :
    ∃ x exact, scaledTo? (counted value) = some x ∧ IsRounded x exact ∧
      Near 11 exact (counted value).toRat ∧ exact < limit := by
  have top := @lt_limit_of_near value proper double
  obtain ⟨⟨positive, small⟩, ⟨low, high⟩, -⟩ := counted_spec proper double.least double.greatest
  unfold scaledTo?
  generalize counted value = written at *
  obtain ⟨digits, exponent⟩ := written
  simp only [Scientific.toRat] at *
  have least : (1 : ℚ) ≤ digits := by exact_mod_cast positive
  have bound : (digits : ℚ) < 2 * 10 ^ 17 := by exact_mod_cast small
  have below := pow_ten_lt_limit (by decide : 18 ≤ 308)
  norm_num at below
  obtain ⟨size, denotes, near⟩ := near_ofNat positive (by linarith)
  rcases le_or_gt 0 exponent with whole | fraction
  · obtain ⟨power, rfl⟩ := Int.eq_ofNat_of_zero_le whole
    obtain ⟨factor, other, close⟩ := near_powerOfTen (by omega : power ≤ 308)
    have half := (near.mono (by norm_num)).lt (by linarith)
    have product := near.mul (by norm_num) (by norm_num) close
    have rounded := denotes.mul other (by linarith [least_le_half])
    rw [← zpow_natCast] at product
    have inside := top rfl (product.mono (by norm_num)) rounded
    obtain ⟨_, sized, -⟩ := rounded.exists_sized (mul_pos denotes.pos other.pos).le inside
    exact ⟨_, _, scaled_mul _ _ (by omega) sized.isInf, rounded, product.mono (by norm_num), inside⟩
  · obtain ⟨power, rfl⟩ := Int.exists_eq_neg_ofNat fraction.le
    rw [zpow_neg, zpow_natCast, ← div_eq_mul_inv, Int.natAbs_neg, Int.natAbs_natCast]
    have inside {exact : ℚ} (close : Near 11 exact (digits / 10 ^ power)) : exact < limit := by
      have less : digits / 10 ^ power ≤ (digits : ℚ) :=
        div_le_self (by linarith) (one_le_pow₀ (by norm_num))
      linarith [(close.lt (by positivity)).2]
    by_cases close : power ≤ 308
    · obtain ⟨exact, rounded, quotient⟩ := near_quotient denotes near (by norm_num) close
      have total := quotient.mono (by norm_num : (1 + 1 + 1 : ℚ) ≤ 11)
      exact ⟨_, exact, scaled_div _ _ close (by omega), rounded, total, inside total⟩
    · obtain ⟨places, rfl⟩ := Nat.exists_eq_add_of_le (not_le.mp close).le
      obtain ⟨exact, rounded, total⟩ :=
        near_twice denotes near least (by linarith) (by omega : places ≤ 308)
      have rest : (-(308 + places : ℕ) : ℤ) + 308 = -(places : ℤ) := by omega
      have steps : 308 + places = 307 + places + 1 := by omega
      refine ⟨_, exact, ?_, rounded, total, inside total⟩
      rw [scaled_far _ _ (by omega) denotes.beq_zero, rest, steps]
      exact scaled_div _ _ (by omega) (by omega)

/-- The double that the digits are scaled to is off by a few of its last places. -/
theorem scaled_near {value : Decimal.Dyadic} (proper : value.Proper)
    (double : IsDouble value.mantissa value.exponent) :
    ∃ x size, scaledTo? (counted value) = some x ∧ Sized x size ∧
      |size - value.size| ≤ value.size / 2 ^ 48 + 2 ^ (-1074 : ℤ) := by
  obtain ⟨x, exact, known, rounded, near, below⟩ := scaled_rounded proper double
  obtain ⟨-, -, contains⟩ := counted_spec proper double.least double.greatest
  obtain ⟨-, nearest⟩ := bounds_of_contains proper.positive contains
  have place : (0 : ℚ) < 2 ^ value.exponent := by positivity
  have written : |(counted value).toRat - value.size| ≤ 2 ^ value.exponent / 2 := by
    have split : (counted value).toRat - value.size =
        ((counted value).toRat / 2 ^ value.exponent - value.mantissa) * 2 ^ value.exponent := by
      rw [Decimal.Dyadic.size]
      field_simp
    rw [split, abs_mul, abs_of_pos place]
    linarith [mul_le_mul_of_nonneg_right nearest.near place.le]
  have unit := double.rounds.toIsUnit.le_add (by positivity)
  rw [← Decimal.Dyadic.size] at unit
  have least : (2 : ℚ) ^ (-1074 : ℤ) ≤ value.size := by
    have one : (1 : ℚ) ≤ value.mantissa := by exact_mod_cast proper.positive
    exact (zpow_le_zpow_right₀ (by norm_num) double.least).trans
      (le_mul_of_one_le_left place.le one)
  have tiny : (0 : ℚ) < 2 ^ (-1074 : ℤ) := by positivity
  have positive : 0 < (counted value).toRat :=
    Cell.pos_of_contains (Cell.wide_ofDyadic proper).1 contains
  obtain ⟨low, high⟩ := near.lt positive
  obtain ⟨size, sized, error, -⟩ := rounded.exists_sized (by linarith) below
  have factor := near.le positive.le
  rw [← half_least] at unit error
  generalize (2 : ℚ) ^ (-1074 : ℤ) = step at *
  refine ⟨x, size, known, sized, abs_le.mpr ?_⟩
  rw [abs_le] at written factor error
  constructor <;> linarith

end Accuracy

section Floats

/-- Two doubles of one sign, of which the second is off by a few last places. -/
structure Close (x y : Float) : Prop where
  finite : y.isFinite = true
  sign : (Decimal.Dyadic.ofFloat y).negative = (Decimal.Dyadic.ofFloat x).negative
  near : |(Decimal.Dyadic.ofFloat y).size - (Decimal.Dyadic.ofFloat x).size| ≤
    (Decimal.Dyadic.ofFloat x).size / 2 ^ 48 + 2 ^ (-1074 : ℤ)

/-- The digits of the text and their power of ten are doubles themselves. -/
def IsShort (x : Float) : Prop :=
  ∃ digits zeros : ℕ, (counted (Decimal.Dyadic.ofFloat x)).digits = digits * 2 ^ zeros ∧
    digits < 2 ^ 53 ∧ (counted (Decimal.Dyadic.ofFloat x)).exponent.natAbs ≤ 22

theorem close_self {x : Float} (finite : x.isFinite = true) : Close x x := by
  refine ⟨finite, rfl, ?_⟩
  rw [sub_self, abs_zero, Decimal.Dyadic.size]
  positivity

/-- Digits are read as the double that they are scaled to, with their sign. -/
theorem toFloat_ofScientific {value : Scientific} {size : Float}
    (known : scaledTo? value = some size) {negative : Bool} {rest : List Char} :
    (Significand.ofScientific negative value).toFloat rest =
      .ok (.float (withSign negative size), rest) := by
  rw [scaledTo?] at known
  simp only [Significand.toFloat, Significand.ofScientific, known]

/-- The digits of a double are read as a double of its size, and as itself if they are short. -/
theorem exists_toFloat {x : Float} (finite : x.isFinite = true) :
    ∃ y, Close x y ∧ (IsShort x → y = x) ∧
      ∀ rest, (Significand.ofFloat x).toFloat rest = .ok (.float y, rest) := by
  rcases eq_withSign finite with ⟨none, zero⟩ | ⟨double, same⟩
  · refine ⟨x, close_self finite, fun _ => rfl, fun rest => ?_⟩
    have known : scaledTo? ⟨0, -1⟩ = some (.ofModel (.pack (.zero .positive))) := by decide +kernel
    rw [Significand.ofFloat, toFloat_ofScientific (by rwa [counted, if_pos none]), ← zero]
  · have proper := Decimal.Dyadic.proper_ofFloat double.positive
    obtain ⟨size, number, known, sized, near⟩ := scaled_near proper double
    obtain ⟨result, sign, found⟩ := sized.withSign (Decimal.Dyadic.ofFloat x).negative
    refine ⟨_, ⟨result, sign, found.symm ▸ near⟩, ?_, fun rest => toFloat_ofScientific known⟩
    rintro ⟨digits, zeros, digits_eq, short, few⟩
    have exact := scaled_exact proper double digits_eq short few
    obtain rfl := Option.some.inj (known.symm.trans exact)
    exact same.symm

end Floats

end HostBridge.Json
