/-
This file shows that the digits of a double are found.
-/
import HostBridge.Decimal.Shortest
import Mathlib.Algebra.Order.Field.Power
import Mathlib.Data.Rat.Cast.Order
import Mathlib.Tactic.FieldSimp
import Mathlib.Tactic.Linarith
import Mathlib.Tactic.NormNum
import Mathlib.Tactic.Positivity
import Mathlib.Tactic.Ring

namespace HostBridge.Decimal

def Fraction.toRat (value : Fraction) : ℚ := value.numerator / value.denominator

section Fractions

theorem Fraction.denominator_ofScaled (count : Nat) (exponent : Int) :
    0 < (ofScaled count exponent).denominator := by
  unfold ofScaled
  split
  · exact Nat.one_pos
  · exact Nat.pow_pos (by decide)

/-- A scaled count is the fraction of its number. -/
theorem Fraction.toRat_ofScaled (count : Nat) (exponent : Int) :
    (ofScaled count exponent).toRat = count * 2 ^ exponent := by
  unfold ofScaled toRat
  split
  · next positive =>
      obtain ⟨power, rfl⟩ := Int.eq_ofNat_of_zero_le positive
      simp
  · next negative =>
      obtain ⟨power, rfl⟩ := Int.exists_eq_neg_ofNat (not_le.mp negative).le
      simp [div_eq_mul_inv]

theorem Fraction.denominator_inUnits {value : Fraction} (positive : 0 < value.denominator)
    (unit : Int) : 0 < (value.inUnits unit).denominator := by
  unfold inUnits
  split
  · exact Nat.mul_pos positive (Nat.pow_pos (by decide))
  · exact positive

/-- A fraction in units of a power of ten is divided by it. -/
theorem Fraction.toRat_inUnits (value : Fraction) (unit : Int) :
    (value.inUnits unit).toRat = value.toRat / 10 ^ unit := by
  unfold inUnits toRat
  split
  · next positive =>
      obtain ⟨power, rfl⟩ := Int.eq_ofNat_of_zero_le positive
      simp [div_div]
  · next negative =>
      obtain ⟨power, rfl⟩ := Int.exists_eq_neg_ofNat (not_le.mp negative).le
      simp [div_eq_mul_inv, mul_right_comm]

/-- A number has so many digits at most when it is below the power of ten. -/
theorem digitCount_le_iff (value : Nat) {count : Nat} (positive : 0 < count) :
    digitCount value ≤ count ↔ value < 10 ^ count :=
  Nat.length_toDigits_le_iff (by decide) positive

/-- A number is below the power of ten of its digits. -/
theorem lt_pow_digitCount (value : Nat) : value < 10 ^ digitCount value :=
  (digitCount_le_iff value Nat.length_toDigits_pos).mp le_rfl

/-- A number is not below the power of ten of its digits but the first. -/
theorem pow_digitCount_le {value : Nat} (positive : 0 < value) :
    10 ^ (digitCount value - 1) ≤ value := by
  by_contra below
  have count : digitCount value - 1 ≠ 0 := by
    intro none
    rw [none, pow_zero] at below
    omega
  have less := (digitCount_le_iff value (Nat.pos_of_ne_zero count)).mpr (not_le.mp below)
  omega

/-- The power of ten of the first digit is not above the value. -/
theorem Fraction.pow_magnitude_le {value : Fraction} (positive : 0 < value.numerator)
    (proper : 0 < value.denominator) : (10 : ℚ) ^ (value.magnitude - 1) ≤ value.toRat := by
  obtain ⟨numerator, denominator⟩ := value
  have divides : (0 : ℚ) < denominator := Nat.cast_pos.mpr proper
  unfold magnitude toRat
  rw [le_div_iff₀ divides]
  simp only at positive proper ⊢
  split
  · next large =>
      have known := pow_digitCount_le (Nat.div_pos large proper)
      have count : 0 < digitCount (numerator / denominator) := Nat.length_toDigits_pos
      have power : (digitCount (numerator / denominator) : Int) - 1 =
          ((digitCount (numerator / denominator) - 1 : Nat) : Int) := by omega
      rw [power, zpow_natCast]
      exact_mod_cast (Nat.le_div_iff_mul_le proper).mp known
  · next small =>
      generalize same : digitCount (denominator / numerator) = places
      have count : 0 < places := same ▸ Nat.length_toDigits_pos
      split
      · next near =>
          have power : (2 : Int) - places - 1 = -((places - 1 : Nat) : Int) := by omega
          rw [power, zpow_neg, zpow_natCast, inv_mul_le_iff₀ (by positivity), mul_comm]
          exact_mod_cast near
      · have below := lt_pow_digitCount (denominator / numerator)
        rw [same, Nat.div_lt_iff_lt_mul positive] at below
        have power : (1 : Int) - places - 1 = -(places : Int) := by omega
        rw [power, zpow_neg, zpow_natCast, inv_mul_le_iff₀ (by positivity)]
        exact_mod_cast below.le

/-- The power of ten after it is above the value. -/
theorem Fraction.lt_pow_magnitude {value : Fraction} (positive : 0 < value.numerator)
    (proper : 0 < value.denominator) : value.toRat < (10 : ℚ) ^ value.magnitude := by
  obtain ⟨numerator, denominator⟩ := value
  have divides : (0 : ℚ) < denominator := Nat.cast_pos.mpr proper
  unfold magnitude toRat
  rw [div_lt_iff₀ divides]
  simp only at positive proper ⊢
  split
  · have below := lt_pow_digitCount (numerator / denominator)
    rw [Nat.div_lt_iff_lt_mul proper] at below
    rw [zpow_natCast]
    exact_mod_cast below
  · next small =>
      generalize same : digitCount (denominator / numerator) = places
      have count : 0 < places := same ▸ Nat.length_toDigits_pos
      have known := pow_digitCount_le (Nat.div_pos (not_le.mp small).le positive)
      rw [same, Nat.le_div_iff_mul_le positive] at known
      have power : (1 : Int) - places = -((places - 1 : Nat) : Int) := by omega
      split
      · have above : (numerator : ℚ) ≤ 10 ^ ((1 : Int) - places) * denominator := by
          rw [power, zpow_neg, zpow_natCast, le_inv_mul_iff₀ (by positivity)]
          exact_mod_cast known
        have grows : (10 : ℚ) ^ ((1 : Int) - places) < 10 ^ ((2 : Int) - places) :=
          zpow_lt_zpow_right₀ (by norm_num) (by omega)
        nlinarith
      · next far =>
          rw [power, zpow_neg, zpow_natCast, lt_inv_mul_iff₀ (by positivity), mul_comm]
          exact_mod_cast not_le.mp far

end Fractions

section Cells

/-- The reals of a cell are between these ends. -/
def Cell.lowest (cell : Cell) : ℚ := cell.low * 2 ^ cell.exponent

def Cell.middle (cell : Cell) : ℚ := cell.value * 2 ^ cell.exponent

def Cell.highest (cell : Cell) : ℚ := cell.high * 2 ^ cell.exponent

def Cell.Contains (cell : Cell) (value : ℚ) : Prop :=
  if cell.closed then cell.lowest ≤ value ∧ value ≤ cell.highest
  else cell.lowest < value ∧ value < cell.highest

/-- A fraction is compared with a number by its numerator. -/
theorem Fraction.le_iff {value : Fraction} (proper : 0 < value.denominator) (point : Nat) :
    value.numerator ≤ point * value.denominator ↔ value.toRat ≤ point := by
  rw [toRat, div_le_iff₀ (Nat.cast_pos.mpr proper)]
  exact_mod_cast Iff.rfl

theorem Fraction.ge_iff {value : Fraction} (proper : 0 < value.denominator) (point : Nat) :
    point * value.denominator ≤ value.numerator ↔ (point : ℚ) ≤ value.toRat := by
  rw [toRat, le_div_iff₀ (Nat.cast_pos.mpr proper)]
  exact_mod_cast Iff.rfl

/-- The test of a point decides whether its number lies in the cell. -/
theorem Cell.holds_iff (cell : Cell) (point : Nat) (unit : Int) :
    cell.holds point unit = true ↔ cell.Contains (point * 10 ^ unit) := by
  have width : (0 : ℚ) < 10 ^ unit := by positivity
  have proper (count : Nat) :=
    Fraction.denominator_inUnits (Fraction.denominator_ofScaled count cell.exponent) unit
  have scaled (count : Nat) :
      ((Fraction.ofScaled count cell.exponent).inUnits unit).toRat =
        count * 2 ^ cell.exponent / 10 ^ unit := by
    rw [Fraction.toRat_inUnits, Fraction.toRat_ofScaled]
  unfold holds Contains lowest highest
  cases cell.closed with
  | true =>
      simp only [if_true, Bool.and_eq_true, decide_eq_true_eq]
      rw [Fraction.le_iff (proper _), Fraction.ge_iff (proper _), scaled, scaled,
        div_le_iff₀ width, le_div_iff₀ width]
  | false =>
      simp only [Bool.false_eq_true, if_false, Bool.and_eq_true, decide_eq_true_eq]
      rw [← not_le, ← not_le, Fraction.le_iff (proper _), Fraction.ge_iff (proper _), not_le, not_le,
        scaled, scaled, div_lt_iff₀ width, lt_div_iff₀ width]

/-- Of two neighbours around the value, one lies in a cell that is wider than their distance. -/
theorem Cell.contains_neighbour (cell : Cell) {below : Nat} {unit : Int}
    (under : below * (10 : ℚ) ^ unit ≤ cell.middle)
    (above : cell.middle < (below + 1 : Nat) * (10 : ℚ) ^ unit)
    (low : cell.lowest < cell.middle) (high : cell.middle < cell.highest)
    (wide : (10 : ℚ) ^ unit < cell.highest - cell.lowest) :
    cell.Contains (below * 10 ^ unit) ∨ cell.Contains ((below + 1 : Nat) * 10 ^ unit) := by
  have step : ((below + 1 : Nat) : ℚ) * 10 ^ unit = below * 10 ^ unit + 10 ^ unit := by
    push_cast
    ring
  rw [step] at above ⊢
  by_cases inside : cell.lowest < below * 10 ^ unit
  · left
    unfold Contains
    split <;> constructor <;> linarith
  · right
    unfold Contains
    split <;> constructor <;> linarith

/-- A cell that is wider than a unit holds a number in such units. -/
theorem Cell.nearestOn?_isSome (cell : Cell) {unit : Int}
    (low : cell.lowest < cell.middle) (high : cell.middle < cell.highest)
    (wide : (10 : ℚ) ^ unit < cell.highest - cell.lowest) :
    (cell.nearestOn? unit).isSome = true := by
  have width : (0 : ℚ) < 10 ^ unit := by positivity
  generalize known : (Fraction.ofScaled cell.value cell.exponent).inUnits unit = value
  have proper : 0 < value.denominator :=
    known ▸ Fraction.denominator_inUnits (Fraction.denominator_ofScaled ..) unit
  have scaled : value.toRat = cell.middle / 10 ^ unit := by
    rw [← known, Fraction.toRat_inUnits, Fraction.toRat_ofScaled, middle]
  have under : (value.numerator / value.denominator : Nat) * (10 : ℚ) ^ unit ≤ cell.middle := by
    rw [← le_div_iff₀ width, ← scaled, ← Fraction.ge_iff proper]
    exact Nat.div_mul_le_self ..
  have above : cell.middle < (value.numerator / value.denominator + 1 : Nat) * (10 : ℚ) ^ unit := by
    rw [← div_lt_iff₀ width, ← scaled, ← not_le, ← Fraction.ge_iff proper, not_le]
    exact (Nat.div_lt_iff_lt_mul proper).mp (Nat.lt_succ_self _)
  have neighbour := cell.contains_neighbour under above low high wide
  rw [← holds_iff, ← holds_iff] at neighbour
  unfold nearestOn?
  simp only [known]
  cases left : cell.holds (value.numerator / value.denominator) unit <;>
    cases right : cell.holds (value.numerator / value.denominator + 1) unit
  · simp [left, right] at neighbour
  · rfl
  · rfl
  · simp only
    split_ifs <;> rfl

/-- The point that is found lies in the cell. -/
theorem Cell.holds_of_nearestOn? {cell : Cell} {unit : Int} {point : Nat}
    (found : cell.nearestOn? unit = some point) : cell.holds point unit = true := by
  unfold nearestOn? at found
  simp only at found
  generalize ((Fraction.ofScaled cell.value cell.exponent).inUnits unit).numerator /
    ((Fraction.ofScaled cell.value cell.exponent).inUnits unit).denominator = below at found
  cases left : cell.holds below unit <;> cases right : cell.holds (below + 1) unit <;>
    simp only [left, right] at found
  · cases found
  · exact Option.some.inj found ▸ right
  · exact Option.some.inj found ▸ left
  · split_ifs at found <;> obtain rfl := Option.some.inj found <;> assumption

/-- A size of a double other than zero. Only the least mantissa is narrow, unless the doubles below
it are as far apart. -/
structure Dyadic.Proper (value : Dyadic) : Prop where
  positive : 0 < value.mantissa
  small : value.mantissa < 2 ^ 53
  edge : value.narrow = true ↔ value.mantissa = 2 ^ 52 ∧ -1074 < value.exponent

/-- The ends of the cell of a double stand around it, and it is wider than the last place of
seventeen digits. -/
theorem Cell.wide_ofDyadic {value : Dyadic} (proper : value.Proper) :
    let cell := ofDyadic value
    0 < cell.lowest ∧ cell.lowest < cell.middle ∧ cell.middle < cell.highest ∧
      cell.middle < 2 ^ 53 * (cell.highest - cell.lowest) := by
  obtain ⟨positive, small, edge⟩ := proper
  have place : (0 : ℚ) < 2 ^ (value.exponent - 2) := by positivity
  have least : (1 : ℚ) ≤ value.mantissa := by exact_mod_cast positive
  simp only [ofDyadic, lowest, middle, highest]
  generalize (2 : ℚ) ^ (value.exponent - 2) = unit at place
  cases narrow : value.narrow with
  | true =>
      have size : (value.mantissa : ℚ) = 2 ^ 52 := by exact_mod_cast (edge.mp narrow).1
      rw [if_pos rfl, Nat.cast_sub (by omega)]
      push_cast
      rw [size]
      exact ⟨by linarith, by linarith, by linarith, by linarith⟩
  | false =>
      have size : (value.mantissa : ℚ) < 2 ^ 53 := by exact_mod_cast small
      rw [if_neg Bool.false_ne_true, Nat.cast_sub (by omega)]
      push_cast
      refine ⟨by nlinarith, by linarith, by linarith, ?_⟩
      nlinarith

end Cells

section Shortest

def Scientific.toRat (value : Scientific) : ℚ := value.digits * 10 ^ value.exponent

/-- Stripping zeros does not change the number. -/
theorem Scientific.toRat_stripped (bound : Nat) (value : Scientific) :
    (stripped bound value).toRat = value.toRat := by
  induction bound generalizing value with
  | zero => rfl
  | succ bound ih =>
      rw [stripped]
      split
      · next zeros =>
          have split : (value.digits : ℚ) = (value.digits / 10 : Nat) * 10 := by
            exact_mod_cast (Nat.div_mul_cancel (Nat.dvd_of_mod_eq_zero zeros)).symm
          rw [ih, toRat, toRat, split, zpow_add_one₀ (by norm_num)]
          ring
      · rfl

/-- Stripping zeros raises the exponent. -/
theorem Scientific.exponent_le_stripped (bound : Nat) (value : Scientific) :
    value.exponent ≤ (stripped bound value).exponent := by
  induction bound generalizing value with
  | zero => exact le_rfl
  | succ bound ih =>
      rw [stripped]
      split
      · have later := ih ⟨value.digits / 10, value.exponent + 1⟩
        simp only at later
        omega
      · exact le_rfl

/-- One of the grids that are tried has a point in the cell. -/
theorem Cell.shortestFrom_spec {cell : Cell} (magnitude : Int) (tries count : Nat) {last : Nat}
    (first : count ≤ last) (before : last < count + tries)
    (found : (cell.nearestOn? (magnitude - last)).isSome = true) :
    cell.Contains (cell.shortestFrom magnitude tries count).toRat ∧
      magnitude - last ≤ (cell.shortestFrom magnitude tries count).exponent := by
  induction tries generalizing count with
  | zero => omega
  | succ tries ih =>
      rw [shortestFrom]
      split
      · next point here =>
          refine ⟨?_, ?_⟩
          · rw [Scientific.toRat_stripped]
            exact (cell.holds_iff ..).mp (holds_of_nearestOn? here)
          · have least := Scientific.exponent_le_stripped 2 ⟨point, magnitude - count⟩
            simp only at least
            omega
      · next none =>
          refine ih (count + 1) (Nat.lt_of_le_of_ne first ?_) (by omega)
          rintro rfl
          rw [none] at found
          cases found

/-- Seventeen digits are always enough. -/
theorem shortest_spec {value : Dyadic} (proper : value.Proper) :
    let cell := Cell.ofDyadic value
    let magnitude := (Fraction.ofScaled cell.value cell.exponent).magnitude
    cell.Contains (shortest value).toRat ∧ magnitude - 17 ≤ (shortest value).exponent ∧
      cell.middle < 10 ^ magnitude := by
  obtain ⟨lowest, low, high, wide⟩ := Cell.wide_ofDyadic proper
  unfold shortest
  simp only
  generalize Cell.ofDyadic value = cell at lowest low high wide
  have units := Fraction.toRat_ofScaled cell.value cell.exponent
  have proper := Fraction.denominator_ofScaled cell.value cell.exponent
  generalize Fraction.ofScaled cell.value cell.exponent = fraction at units proper
  have sized : fraction.toRat = cell.middle := units
  have numerator : 0 < fraction.numerator := by
    by_contra zero
    have none : fraction.numerator = 0 := by omega
    rw [Fraction.toRat, none, Nat.cast_zero, zero_div] at sized
    linarith
  have first := Fraction.pow_magnitude_le numerator proper
  have last := Fraction.lt_pow_magnitude numerator proper
  have shift : (10 : ℚ) ^ (fraction.magnitude - 1) =
      10 ^ 16 * 10 ^ (fraction.magnitude - (17 : Nat)) := by
    rw [← zpow_natCast (10 : ℚ) 16, ← zpow_add₀ (by norm_num)]
    congr 1
    push_cast
    ring
  rw [shift, sized] at first
  have found : (cell.nearestOn? (fraction.magnitude - (17 : Nat))).isSome = true := by
    apply Cell.nearestOn?_isSome cell low high
    have wider : 0 < cell.highest - cell.lowest := by linarith
    nlinarith
  have known := Cell.shortestFrom_spec fraction.magnitude 17 1 (by decide : 1 ≤ 17) (by decide) found
  exact ⟨known.1, known.2, sized ▸ last⟩

/-- The numbers in a cell above zero are positive. -/
theorem Cell.pos_of_contains {cell : Cell} (low : 0 < cell.lowest) {value : ℚ}
    (contains : cell.Contains value) : 0 < value := by
  unfold Contains at contains
  split at contains <;> linarith [contains.1]

/-- The shortest digits of a double are not zero. -/
theorem shortest_pos {value : Dyadic} (proper : value.Proper) : 0 < (shortest value).digits := by
  obtain ⟨contains, -, -⟩ := shortest_spec proper
  have low := (Cell.wide_ofDyadic proper).1
  have positive := Cell.pos_of_contains low contains
  by_contra zero
  have none : (shortest value).digits = 0 := by omega
  rw [Scientific.toRat, none, Nat.cast_zero, zero_mul] at positive
  exact lt_irrefl _ positive

theorem Cell.le_highest {cell : Cell} {value : ℚ} (contains : cell.Contains value) :
    value ≤ cell.highest := by
  unfold Contains at contains
  split at contains <;> linarith [contains.2]

/-- The lower end of a cell is half of the last place away, or a quarter below a power of two. -/
theorem Cell.lowest_ofDyadic {value : Dyadic} (positive : 0 < value.mantissa) :
    (ofDyadic value).lowest =
      (value.mantissa - if value.narrow then 1 / 4 else 1 / 2) * 2 ^ value.exponent := by
  simp only [ofDyadic, lowest]
  rw [zpow_sub₀ (by norm_num), Nat.cast_sub (by split <;> omega)]
  split <;> push_cast <;> ring

theorem Cell.middle_ofDyadic (value : Dyadic) :
    (ofDyadic value).middle = value.mantissa * 2 ^ value.exponent := by
  simp only [ofDyadic, middle]
  rw [zpow_sub₀ (by norm_num)]
  push_cast
  ring

theorem Cell.highest_ofDyadic (value : Dyadic) :
    (ofDyadic value).highest = (value.mantissa + 1 / 2) * 2 ^ value.exponent := by
  simp only [ofDyadic, highest]
  rw [zpow_sub₀ (by norm_num)]
  push_cast
  ring

/-- No double other than zero is as small as this power of ten. -/
theorem pow_ten_lt_least : (10 : ℚ) ^ (-324 : Int) < 2 ^ (-1074 : Int) := by
  have known : 2 ^ 1074 < 10 ^ 324 := by decide +kernel
  rw [zpow_neg, zpow_neg]
  exact inv_strictAnti₀ (by positivity) (by exact_mod_cast known)

/-- No double is as large as this power of ten. -/
theorem greatest_lt_pow_ten : (2 : ℚ) ^ 53 * 2 ^ (971 : Int) < 10 ^ (309 : Int) := by
  have known : 2 ^ 53 * 2 ^ 971 < 10 ^ 309 := by decide +kernel
  exact_mod_cast known

/-- The digits of a double have 64 bits, and its powers of ten are those of doubles. -/
theorem shortest_bounds {value : Dyadic} (proper : value.Proper) (least : -1074 ≤ value.exponent)
    (greatest : value.exponent ≤ 971) : (shortest value).digits < 2 * 10 ^ 17 ∧
      -340 ≤ (shortest value).exponent ∧ (shortest value).exponent ≤ 308 := by
  obtain ⟨contains, low, high⟩ := shortest_spec proper
  have positive := shortest_pos proper
  have below := Cell.le_highest contains
  generalize (Fraction.ofScaled (Cell.ofDyadic value).value
    (Cell.ofDyadic value).exponent).magnitude = magnitude at low high
  rw [Cell.middle_ofDyadic] at high
  rw [Cell.highest_ofDyadic, Scientific.toRat] at below
  generalize shortest value = digits at *
  have one : (1 : ℚ) ≤ value.mantissa := by exact_mod_cast proper.positive
  have filled : (1 : ℚ) ≤ digits.digits := by exact_mod_cast positive
  have place : (0 : ℚ) < 2 ^ value.exponent := by positivity
  have unit : (0 : ℚ) < 10 ^ digits.exponent := by positivity
  refine ⟨?_, ?_, ?_⟩
  · have grows : (10 : ℚ) ^ magnitude ≤ 10 ^ 17 * 10 ^ digits.exponent := by
      rw [← zpow_natCast, ← zpow_add₀ (by norm_num)]
      exact zpow_le_zpow_right₀ (by norm_num) (by push_cast; omega)
    have less : (digits.digits : ℚ) * 10 ^ digits.exponent < 2 * 10 ^ 17 * 10 ^ digits.exponent := by
      nlinarith
    exact_mod_cast lt_of_mul_lt_mul_right less unit.le
  · have tiny : (10 : ℚ) ^ (-324 : Int) < 10 ^ magnitude :=
      calc (10 : ℚ) ^ (-324 : Int) < 2 ^ (-1074 : Int) := pow_ten_lt_least
        _ ≤ 2 ^ value.exponent := zpow_le_zpow_right₀ (by norm_num) least
        _ ≤ value.mantissa * 2 ^ value.exponent := le_mul_of_one_le_left place.le one
        _ < 10 ^ magnitude := high
    have order := (zpow_lt_zpow_iff_right₀ (by norm_num : (1 : ℚ) < 10)).mp tiny
    omega
  · have small : (value.mantissa : ℚ) + 1 / 2 ≤ 2 ^ 53 := by
      have bound : (value.mantissa : ℚ) + 1 ≤ 2 ^ 53 := by exact_mod_cast proper.small
      linarith
    have large : (10 : ℚ) ^ digits.exponent < 10 ^ (309 : Int) :=
      calc (10 : ℚ) ^ digits.exponent ≤ digits.digits * 10 ^ digits.exponent :=
            le_mul_of_one_le_left unit.le filled
        _ ≤ (value.mantissa + 1 / 2) * 2 ^ value.exponent := below
        _ ≤ 2 ^ 53 * 2 ^ (971 : Int) := by gcongr; norm_num
        _ < 10 ^ (309 : Int) := greatest_lt_pow_ten
    have order := (zpow_lt_zpow_iff_right₀ (by norm_num : (1 : ℚ) < 10)).mp large
    omega

/-- The bits of a double other than zero tell a proper size. -/
theorem Dyadic.proper_ofFloat {x : Float} (positive : 0 < (ofFloat x).mantissa) :
    (ofFloat x).Proper := by
  have fraction : x.toBits.toNat % 0x10000000000000 < 0x10000000000000 := Nat.mod_lt _ (by decide)
  unfold ofFloat at positive ⊢
  simp only at positive ⊢
  generalize x.toBits.toNat % 0x10000000000000 = digits at fraction positive ⊢
  generalize x.toBits.toNat / 0x10000000000000 % 0x800 = biased at positive ⊢
  by_cases subnormal : biased = 0
  · rw [if_pos subnormal] at positive ⊢
    refine ⟨positive, by simp only; omega, ?_⟩
    simp only [Bool.false_eq_true, false_iff]
    omega
  · rw [if_neg subnormal] at positive ⊢
    refine ⟨positive, by simp only; omega, ?_⟩
    simp only [Bool.and_eq_true, beq_iff_eq, decide_eq_true_eq, Int.ofNat_eq_natCast]
    omega

end Shortest

end HostBridge.Decimal
