/-
This file shows that what a number is rounded to is the closest of all doubles.
-/
import HostBridge.Proofs.Precision

namespace HostBridge

/-- The number with its sign. -/
def Decimal.Dyadic.toRat (value : Decimal.Dyadic) : ℚ :=
  if value.negative then -value.size else value.size

namespace Double

open Decimal (withSign)

/-- The exact value of a finite double. -/
def exact (x : Float) : ℚ := (Decimal.Dyadic.ofFloat x).toRat

/-- No double is closer to the number, and if another one is as close its mantissa is odd. -/
structure IsClosest (x : Float) (value : ℚ) : Prop where
  finite : x.isFinite = true
  closest : ∀ y : Float, y.isFinite = true → |exact x - value| ≤ |exact y - value|
  even : ∀ y : Float, y.isFinite = true → exact y ≠ exact x →
    |exact y - value| = |exact x - value| → (Decimal.Dyadic.ofFloat x).mantissa % 2 = 0

section Grid

/-- The size of a double is that of its number. -/
theorem abs_toRat (value : Decimal.Dyadic) : |value.toRat| = value.size := by
  have positive : 0 ≤ value.size := by
    unfold Decimal.Dyadic.size
    positivity
  unfold Decimal.Dyadic.toRat
  split
  · rw [abs_neg, abs_of_nonneg positive]
  · exact abs_of_nonneg positive

/-- The numbers of at most 53 digits, counted in units of a double. -/
def OnGrid (number : ℚ) : Prop :=
  ∃ (mantissa : ℕ) (exponent : ℤ), mantissa < 2 ^ 53 ∧ -1074 ≤ exponent ∧
    |number| = mantissa * 2 ^ exponent

/-- Every finite double is a number on the grid. -/
theorem onGrid_exact {x : Float} (finite : x.isFinite = true) : OnGrid (exact x) := by
  rw [OnGrid, exact, abs_toRat, Decimal.Dyadic.size]
  cases parts_ofFloat finite with
  | zero none =>
      exact ⟨0, -1074, by decide, le_rfl, by rw [none, Nat.cast_zero, zero_mul, zero_mul]⟩
  | finite double => exact ⟨_, _, double.small, double.least, rfl⟩

variable {value : ℚ} {count : ℕ} {power : ℤ}

/-- The nearest natural number is as close as any other, and even if another one is as close. -/
theorem IsNearest.closest (nearest : IsNearest value count) (other : ℕ) :
    |count - value| ≤ |other - value| ∧
      (|other - value| = |count - value| → other ≠ count → count % 2 = 0) := by
  rcases eq_or_ne other count with rfl | different
  · exact ⟨le_rfl, fun _ apart => absurd rfl apart⟩
  -- The numbers are a whole apart, so that no other one is nearer than a half.
  have apart : (1 : ℚ) ≤ |(other : ℚ) - count| := by
    have whole : (1 : ℤ) ≤ |(other : ℤ) - count| := Int.one_le_abs (by omega)
    exact_mod_cast whole
  have sum := abs_sub_le (other : ℚ) value count
  have near := nearest.near
  rw [abs_sub_comm] at near
  refine ⟨by rw [abs_sub_comm value] at sum; linarith, fun same _ => nearest.even ?_⟩
  rw [abs_sub_comm value] at sum ⊢
  linarith

/-- Doubles are counted in the units of a number or are further from it than some that are. -/
theorem Rounds.exists_count (rounds : Rounds value count power) (positive : 0 ≤ value) {number : ℚ}
    (grid : OnGrid number) :
    ∃ other : ℕ, number = other * 2 ^ power ∨ |other * 2 ^ power - value| < |number - value| := by
  obtain ⟨mantissa, exponent, small, least, size⟩ := grid
  rcases lt_or_ge number 0 with negative | natural
  · refine ⟨0, .inr ?_⟩
    rw [Nat.cast_zero, zero_mul, zero_sub, abs_neg, abs_of_nonneg positive, abs_sub_comm,
      abs_of_nonneg (by linarith)]
    linarith
  rw [abs_of_nonneg natural] at size
  subst size
  rcases le_or_gt power exponent with coarse | fine
  · obtain ⟨zeros, rfl⟩ := Int.le.dest coarse
    refine ⟨mantissa * 2 ^ zeros, .inl ?_⟩
    rw [zpow_add₀ (by norm_num), zpow_natCast]
    push_cast
    ring
  · -- A double that is counted in smaller units is below the numbers with these.
    have above := rounds.above.resolve_left (by omega)
    have below : (mantissa * 2 ^ exponent : ℚ) < 2 ^ (power + 52) := by
      calc (mantissa * 2 ^ exponent : ℚ) < 2 ^ 53 * 2 ^ exponent := by
            gcongr
            exact_mod_cast small
        _ = 2 ^ (53 + exponent) := by rw [zpow_add₀ (by norm_num)]; rfl
        _ ≤ 2 ^ (power + 52) := zpow_le_zpow_right₀ (by norm_num) (by omega)
    have edge : ((2 ^ 52 : ℕ) : ℚ) * 2 ^ power = 2 ^ (power + 52) := by
      rw [add_comm, zpow_add₀ (by norm_num)]
      push_cast
      rfl
    refine ⟨2 ^ 52, .inr ?_⟩
    rw [edge, abs_of_nonpos (by linarith), abs_of_nonpos (by linarith)]
    linarith

/-- A rounded number is as close as any other number on the grid, and even in the middle. -/
theorem Rounds.closest (rounds : Rounds value count power) (positive : 0 ≤ value) {number : ℚ}
    (grid : OnGrid number) :
    |count * 2 ^ power - value| ≤ |number - value| ∧
      (number ≠ count * 2 ^ power → |number - value| = |count * 2 ^ power - value| →
        count % 2 = 0) := by
  have place : (0 : ℚ) < 2 ^ power := by positivity
  have scaled (other : ℕ) :
      |(other : ℚ) * 2 ^ power - value| = |other - value / 2 ^ power| * 2 ^ power := by
    rw [← abs_of_pos place, ← abs_mul, abs_of_pos place, sub_mul, div_mul_cancel₀ _ place.ne']
  obtain ⟨other, place_eq | further⟩ := rounds.exists_count positive grid
  · obtain ⟨near, even⟩ := rounds.nearest.closest other
    subst place_eq
    rw [scaled, scaled]
    refine ⟨mul_le_mul_of_nonneg_right near place.le, fun apart same => ?_⟩
    refine even (mul_right_cancel₀ place.ne' same) ?_
    rintro rfl
    exact apart rfl
  · have near := mul_le_mul_of_nonneg_right (rounds.nearest.closest other).1 place.le
    rw [← scaled, ← scaled] at near
    exact ⟨(near.trans_lt further).le, fun _ same => absurd same (near.trans_lt further).ne'⟩

end Grid

section Rounding

variable {x : Float} {value : ℚ}

/-- The mantissa of a size is the one that its double has. -/
theorem mantissa_eq (finite : x.isFinite = true) {mantissa : ℕ} {exponent : ℤ}
    (double : IsDouble mantissa exponent)
    (size : (Decimal.Dyadic.ofFloat x).size = mantissa * 2 ^ exponent) :
    (Decimal.Dyadic.ofFloat x).mantissa = mantissa := by
  have rounds := double.rounds
  rw [← size] at rounds
  cases parts_ofFloat finite with
  | zero none =>
      have positive : (0 : ℚ) < mantissa := by exact_mod_cast double.positive
      rw [Decimal.Dyadic.size, none, Nat.cast_zero, zero_mul] at size
      exact absurd size (by positivity)
  | finite other => exact (other.rounds.unique rounds).1

/-- A sign turns the number of a double around. -/
theorem exact_withSign {size : ℚ} (sized : Sized x size) (negative : Bool) :
    exact (withSign negative x) = if negative then -size else size := by
  obtain ⟨-, sign, same⟩ := sized.withSign negative
  rw [exact, Decimal.Dyadic.toRat, sign, same]

/-- A double whose number is a rounded one, with a sign or without, is the closest. -/
theorem closest_of_exact {count : ℕ} {power : ℤ} (rounds : Rounds value count power)
    (positive : 0 ≤ value) {negative : Bool} (finite : x.isFinite = true)
    (same : exact x = (if negative then -(count * 2 ^ power) else count * 2 ^ power : ℚ))
    (even : count % 2 = 0 → (Decimal.Dyadic.ofFloat x).mantissa % 2 = 0) :
    IsClosest x (if negative then -value else value) := by
  -- With its sign turned around a double is on the grid too.
  have turned {number : ℚ} (grid : OnGrid number) : OnGrid (-number) := by
    rwa [OnGrid, abs_neg]
  have mirror (first second : ℚ) : |first - -second| = |-first - second| := by
    rw [← abs_neg, neg_sub, sub_eq_add_neg, add_comm, sub_eq_add_neg]
  cases negative with
  | false =>
      simp only [Bool.false_eq_true, if_false] at same ⊢
      refine ⟨finite, fun y known => ?_, fun y known apart tie => even ?_⟩
      · rw [same]
        exact (rounds.closest positive (onGrid_exact known)).1
      · rw [same] at apart tie
        exact (rounds.closest positive (onGrid_exact known)).2 apart tie
  | true =>
      simp only [if_true] at same ⊢
      refine ⟨finite, fun y known => ?_, fun y known apart tie => even ?_⟩
      · rw [same, mirror, mirror, neg_neg]
        exact (rounds.closest positive (turned (onGrid_exact known))).1
      · rw [same] at apart tie
        rw [mirror, mirror, neg_neg] at tie
        refine (rounds.closest positive (turned (onGrid_exact known))).2 ?_ tie
        exact fun equal => apart (neg_eq_iff_eq_neg.mp equal)

/-- What a number is rounded to is closest to it, with any sign. -/
theorem IsRounded.isClosest (rounded : IsRounded x value) (positive : 0 ≤ value)
    (below : value < limit) (negative : Bool) :
    IsClosest (withSign negative x) (if negative then -value else value) := by
  obtain ⟨count, power, rounds, rfl⟩ := rounded
  have sized := rounds.sized below
  obtain ⟨finite, -, size⟩ := sized.withSign negative
  refine closest_of_exact rounds positive finite (exact_withSign sized negative) fun whole => ?_
  rcases rounds.ofUnits_eq below with ⟨mantissa, exponent, double, same, even, -⟩ | ⟨none, -⟩
  · rw [mantissa_eq finite double (size.trans same.symm)]
    exact even whole
  · have nothing : (count * 2 ^ power : ℚ) = 0 := by rw [none, Nat.cast_zero, zero_mul]
    cases parts_ofFloat finite with
    | zero none => rw [none]
    | finite double =>
        have filled : (0 : ℚ) < (Decimal.Dyadic.ofFloat
            (withSign negative (.ofModel (.pack (ofUnits .positive count power))))).mantissa := by
          exact_mod_cast double.positive
        rw [nothing, Decimal.Dyadic.size] at size
        exact absurd size (by positivity)

/-- A finite double is the closest one to its own number. -/
theorem isClosest_exact (finite : x.isFinite = true) : IsClosest x (exact x) := by
  refine ⟨finite, fun y _ => ?_, fun y _ apart tie => absurd ?_ apart⟩
  · rw [sub_self, abs_zero]
    exact abs_nonneg _
  · rwa [sub_self, abs_zero, abs_eq_zero, sub_eq_zero] at tie

end Rounding

section Integers

variable {value : Decimal.Dyadic} {integer : ℤ}

theorem signed_natAbs (integer : ℤ) :
    (if decide (integer < 0) then -(integer.natAbs : ℚ) else integer.natAbs) = integer := by
  rw [Nat.cast_natAbs]
  rcases lt_or_ge integer 0 with negative | natural
  · rw [if_pos (decide_eq_true negative), abs_of_neg negative, Int.cast_neg, neg_neg]
  · rw [if_neg (by simpa using natural), abs_of_nonneg natural]

/-- A double that is found to be an integer is that integer. -/
theorem toRat_of_integer? (known : value.integer? = some integer) : value.toRat = integer := by
  obtain ⟨size, sign⟩ := size_of_integer? known
  rw [Decimal.Dyadic.toRat, size]
  rcases sign with rfl | sign
  · simp
  · rw [← sign]
    exact signed_natAbs integer

/-- The digits behind the point of an integer are zeros. -/
theorem isSome_integer? (whole : value.toRat = integer) : value.integer?.isSome = true := by
  have size : value.size = integer.natAbs := by
    rw [← abs_toRat, whole, Nat.cast_natAbs, Int.cast_abs]
  unfold Decimal.Dyadic.integer?
  rw [Option.isSome_map]
  split
  · rfl
  · next fraction =>
      obtain ⟨places, shift⟩ := Int.exists_eq_neg_ofNat (not_le.mp fraction).le
      have divides : value.mantissa = integer.natAbs * 2 ^ places := by
        rw [Decimal.Dyadic.size, shift, zpow_neg, zpow_natCast, ← div_eq_mul_inv,
          div_eq_iff (by positivity)] at size
        exact_mod_cast size
      simp only [shift, neg_neg, Int.toNat_natCast]
      rw [if_pos (by rw [divides]; exact Nat.mul_mod_left ..)]
      rfl

/-- A finite double is found to be an integer exactly when it is equal to one. -/
theorem integerOfFloat?_eq_some_iff {x : Float} (finite : x.isFinite = true) :
    Decimal.integerOfFloat? x = some integer ↔ exact x = integer := by
  rw [Decimal.integerOfFloat?, if_pos finite]
  refine ⟨toRat_of_integer?, fun whole => ?_⟩
  obtain ⟨found, known⟩ := Option.isSome_iff_exists.mp (isSome_integer? whole)
  have same : (found : ℚ) = integer := (toRat_of_integer? known).symm.trans whole
  rw [known, Int.cast_injective same]

theorem sized_ofNat_zero : Sized (Float.ofNat 0) (0 : ℕ) := .inr ⟨by decide +kernel, Nat.cast_zero⟩

/-- An integer of at most 53 digits before its last zeros is kept. -/
theorem exact_ofInt {digits zeros : ℕ} (same : integer.natAbs = digits * 2 ^ zeros)
    (short : digits < 2 ^ 53) (few : zeros ≤ 971) : exact (Float.ofInt integer) = integer := by
  have sized : Sized (Float.ofNat integer.natAbs) integer.natAbs := by
    rcases Nat.eq_zero_or_pos integer.natAbs with none | positive
    · exact none ▸ sized_ofNat_zero
    · have rounded := isRounded_ofNat positive
      rw [same] at rounded positive ⊢
      exact .inl (rounded.denotes_natural short few (Nat.pos_of_mul_pos_right positive))
  rw [ofInt_eq, exact_withSign sized, signed_natAbs]

/-- An integer below the limit becomes a double that is closest to it. -/
theorem isClosest_ofInt (below : (integer.natAbs : ℚ) < limit) :
    IsClosest (Float.ofInt integer) integer := by
  rcases Nat.eq_zero_or_pos integer.natAbs with none | positive
  · obtain rfl := Int.natAbs_eq_zero.mp none
    have finite : (Float.ofInt 0).isFinite = true := by decide +kernel
    have zero : exact (Float.ofInt 0) = (0 : ℤ) :=
      exact_ofInt (rfl : _ = 0 * 2 ^ 0) (by decide) (by decide)
    exact zero ▸ isClosest_exact finite
  · have closest :=
      (isRounded_ofNat positive).isClosest (by positivity) below (decide (integer < 0))
    rwa [signed_natAbs, ← ofInt_eq] at closest

/-- Rounding keeps to one side of a double. -/
theorem IsClosest.le {x y : Float} {number : ℚ} (closest : IsClosest x number)
    (finite : y.isFinite = true) (above : exact y ≤ number) : exact y ≤ exact x := by
  have near := closest.closest y finite
  rw [abs_sub_comm (exact y), abs_of_nonneg (sub_nonneg.mpr above)] at near
  linarith [(abs_le.mp near).1]

/-- A number is not rounded beyond a double that is not less. -/
theorem IsClosest.ge {x y : Float} {number : ℚ} (closest : IsClosest x number)
    (finite : y.isFinite = true) (below : number ≤ exact y) : exact x ≤ exact y := by
  have near := closest.closest y finite
  rw [abs_of_nonneg (sub_nonneg.mpr below)] at near
  linarith [(abs_le.mp near).2]

/-- An integer that is rounded is an integer still. -/
theorem IsRounded.exists_natural {x : Float} {number : ℕ} (rounded : IsRounded x number)
    (below : (number : ℚ) < limit) : ∃ size : ℕ, Sized x size := by
  obtain ⟨count, power, rounds, rfl⟩ := rounded
  have sized := rounds.sized below
  rcases le_or_gt 0 power with coarse | fine
  · obtain ⟨zeros, rfl⟩ := Int.eq_ofNat_of_zero_le coarse
    refine ⟨count * 2 ^ zeros, ?_⟩
    push_cast
    exact_mod_cast sized
  · -- In units of a half or less it is counted exactly.
    obtain ⟨places, rfl⟩ := Int.exists_eq_neg_ofNat fine.le
    have units : (number : ℚ) / 2 ^ (-places : ℤ) = (number * 2 ^ places : ℕ) := by
      rw [zpow_neg, div_inv_eq_mul, zpow_natCast]
      push_cast
      rfl
    have itself : IsNearest ((number * 2 ^ places : ℕ) : ℚ) (number * 2 ^ places) := by
      constructor <;> norm_num
    have nearest := rounds.nearest
    rw [units] at nearest
    refine ⟨number, ?_⟩
    have size : (count * 2 ^ (-places : ℤ) : ℚ) = number := by
      rw [← itself.unique nearest, zpow_neg, zpow_natCast, ← div_eq_mul_inv]
      push_cast
      exact mul_div_cancel_right₀ _ (by positivity)
    exact size ▸ sized

/-- The closest double of an integer with a sign is an integer that may be one more than these. -/
theorem exists_exact_ofInt (low : -0x8000000000000000 ≤ integer)
    (high : integer < 0x8000000000000000) :
    ∃ nearest : ℤ, exact (Float.ofInt integer) = nearest ∧
      -0x8000000000000000 ≤ nearest ∧ nearest ≤ 0x8000000000000000 := by
  have limited : (integer.natAbs : ℚ) < limit := Json.lt_limit_of_lt (by omega)
  have closest := isClosest_ofInt limited
  have edge (bound : ℤ) (edge : bound.natAbs = 1 * 2 ^ 63) :
      (Float.ofInt bound).isFinite = true ∧ exact (Float.ofInt bound) = bound :=
    ⟨(isClosest_ofInt (Json.lt_limit_of_lt (by omega))).finite,
      exact_ofInt edge (by decide) (by decide)⟩
  obtain ⟨least, below⟩ := edge (-0x8000000000000000) rfl
  obtain ⟨most, above⟩ := edge 0x8000000000000000 rfl
  have natural : ∃ size : ℕ, Sized (Float.ofNat integer.natAbs) size := by
    rcases Nat.eq_zero_or_pos integer.natAbs with none | positive
    · exact ⟨0, none ▸ sized_ofNat_zero⟩
    · exact (isRounded_ofNat positive).exists_natural limited
  obtain ⟨size, sized⟩ := natural
  have whole : exact (Float.ofInt integer) = (if integer < 0 then -size else size : ℤ) := by
    rw [ofInt_eq, exact_withSign sized]
    split <;> simp_all
  refine ⟨_, whole, ?_, ?_⟩
  · have near := closest.le least (below ▸ Int.cast_le.mpr low)
    rw [below, whole] at near
    exact_mod_cast near
  · have near := closest.ge most (above ▸ Int.cast_le.mpr high.le)
    rw [above, whole] at near
    exact_mod_cast near

end Integers

end Double

end HostBridge
