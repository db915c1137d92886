/-
This file shows what the spellings of an integer are translated to.
-/
import HostBridge.Proofs.Magnitude
import HostBridge.Proofs.Translation

namespace HostBridge

namespace Json

open Double Decimal

section Exact

/-- Digits that do not fit are zeros if the number is an integer with a sign. -/
theorem taken_exact {taken left places number : ℕ} {power : ℤ} (small : left < 10 ^ places)
    (large : 0 < places → 2 ^ 64 ≤ taken * 10 + 9)
    (same : ((taken * 10 ^ places + left : ℕ) : ℚ) * 10 ^ power = number)
    (below : number ≤ 2 ^ 63) : left = 0 ∧ (taken : ℚ) * 10 ^ (power + places) = number := by
  have none : left = 0 := by
    rcases le_or_gt (power + places) 0 with fraction | whole
    · -- The number is counted in tens of these digits, which are its last ones.
      obtain ⟨zeros, count⟩ := Int.exists_eq_neg_ofNat fraction
      obtain rfl : power = -((places + zeros : ℕ) : ℤ) := by
        push_cast
        omega
      rw [zpow_neg, zpow_natCast, ← div_eq_mul_inv, div_eq_iff (by positivity)] at same
      have same : taken * 10 ^ places + left = number * 10 ^ (places + zeros) := by
        exact_mod_cast same
      have divides : 10 ^ places ∣ left := by
        refine (Nat.dvd_add_right (Dvd.intro_left taken rfl)).mp ?_
        rw [same, pow_add]
        exact ⟨number * 10 ^ zeros, by ring⟩
      exact Nat.eq_zero_of_dvd_of_lt divides small
    · rcases Nat.eq_zero_or_pos places with rfl | positive
      · simpa using small
      · -- The digits that fit make too great a number already.
        have ten : (10 : ℚ) ≤ 10 ^ (power + places) := by
          calc (10 : ℚ) = 10 ^ (1 : ℤ) := (zpow_one _).symm
            _ ≤ 10 ^ (power + places) := zpow_le_zpow_right₀ (by norm_num) (by omega)
        have parts : (taken : ℚ) * 10 ^ (power + places) + left * 10 ^ power = number := by
          rw [← same, zpow_add₀ (by norm_num), zpow_natCast]
          push_cast
          ring
        have rest : (0 : ℚ) ≤ left * 10 ^ power := by positivity
        have product : (taken : ℚ) * 10 ≤ taken * 10 ^ (power + places) := by gcongr
        have less : taken * 10 ≤ number := by
          have cast : ((taken * 10 : ℕ) : ℚ) ≤ number := by
            push_cast
            linarith
          exact_mod_cast cast
        have large := large positive
        omega
  refine ⟨none, ?_⟩
  rw [← same, none, zpow_add₀ (by norm_num), zpow_natCast]
  push_cast
  ring

variable {numeral : Numeral} {number : ℕ}

/-- The digits that are taken and their power of ten make an integer with a sign exactly. -/
theorem Numeral.significand_exact
    (same : (numeral.digits * 10 ^ numeral.power : ℚ) = number) (below : number ≤ 2 ^ 63) :
    (numeral.significand.digits * 10 ^ numeral.scale : ℚ) = number := by
  obtain ⟨taken, places, left, count, more, takes⟩ := numeral.exists_takes
  rw [takes.digits] at same
  obtain ⟨none, exact⟩ := taken_exact takes.left_lt takes.large same below
  obtain rfl := takes.whole none
  obtain rfl : more = 0 := Nat.lt_one_iff.mp takes.more_lt
  rw [takes.significand, takes.scale, ← exact, pow_zero, mul_one, add_zero, Nat.cast_zero, sub_zero]

end Exact

section Scaled

variable {digits number : ℕ} {power : ℤ}

/-- Digits that are not scaled are rounded once. -/
theorem scaled_still (positive : 0 < digits) (small : digits < 10 ^ 20) :
    scaled 1 (Float.ofNat digits) 0 = some (Float.ofNat digits) := by
  obtain ⟨size, denotes, near⟩ := near_ofNat positive (lt_limit_of_lt small)
  have least : (1 : ℚ) ≤ digits := by exact_mod_cast positive
  have half := ((near.mono (by norm_num)).lt (by linarith)).1
  have product := denotes.mul (denotes_powerOfTen (Nat.zero_le 22)) (by linarith [least_le_half])
  rw [pow_zero, Nat.cast_one, mul_one] at product
  have same : Float.ofNat digits * powerOfTen 0 = Float.ofNat digits :=
    product.unique denotes.isRounded
  have finite : (Float.ofNat digits * powerOfTen 0).isInf = false := by
    rw [same]
    exact denotes.isInf
  exact (scaled_mul 0 _ (Nat.zero_le 308) finite).trans (congrArg some same)

/-- The double of a natural number that is one. -/
theorem denotes_ofNat (positive : 0 < digits) {x : Float} (finite : x.isFinite = true)
    (same : exact x = digits) : Denotes (Float.ofNat digits) digits := by
  have size : (digits : ℚ) = (Decimal.Dyadic.ofFloat x).size := by
    rw [← abs_toRat, ← exact, same, Nat.abs_cast]
  have rounded := isRounded_ofNat positive
  cases parts_ofFloat finite with
  | zero none =>
      rw [Decimal.Dyadic.size, none, Nat.cast_zero, zero_mul] at size
      exact absurd (Nat.cast_eq_zero.mp size) positive.ne'
  | finite double =>
      rw [size] at rounded ⊢
      exact rounded.denotes double

variable (small : digits < 2 ^ 64) (positive : 0 < number)
  (same : (digits * 10 ^ power : ℚ) = number) (below : number ≤ 2 ^ 63)

include positive same

/-- The digits of a positive number are not all zeros. -/
theorem digits_pos : 0 < digits := by
  rcases Nat.eq_zero_or_pos digits with rfl | filled
  · rw [Nat.cast_zero, zero_mul, eq_comm, Nat.cast_eq_zero] at same
    exact absurd same positive.ne'
  · exact filled

include small below

/-- The digits are not scaled far. -/
theorem power_near : -20 < power ∧ power < 20 := by
  have least : (1 : ℚ) ≤ number := by exact_mod_cast positive
  have most : (number : ℚ) ≤ 2 ^ 63 := by exact_mod_cast below
  have one : (1 : ℚ) ≤ digits := by exact_mod_cast digits_pos positive same
  have cast : (digits : ℚ) < 2 ^ 64 := by exact_mod_cast small
  constructor
  · by_contra low
    have tiny : (10 : ℚ) ^ power ≤ 10 ^ (-20 : ℤ) :=
      zpow_le_zpow_right₀ (by norm_num) (by omega)
    have product : (digits * 10 ^ power : ℚ) ≤ 2 ^ 64 * 10 ^ (-20 : ℤ) := by gcongr
    norm_num at product
    linarith
  · by_contra high
    have huge : (10 : ℚ) ^ (20 : ℤ) ≤ 10 ^ power :=
      zpow_le_zpow_right₀ (by norm_num) (by omega)
    have product : (1 * 10 ^ (20 : ℤ) : ℚ) ≤ digits * 10 ^ power := by gcongr
    norm_num at product
    linarith

/-- Scaling an integer with a sign does not leave the range of the doubles. -/
theorem exists_scaled : ∃ y, scaled (power.natAbs + 1) (Float.ofNat digits) power = some y := by
  rw [← Option.isSome_iff_exists, scaled_isSome_iff]
  rintro ⟨natural, large⟩
  obtain ⟨-, few⟩ := power_near small positive same below
  obtain ⟨places, rfl⟩ := Int.eq_ofNat_of_zero_le natural
  rw [if_pos (by omega), Int.natAbs_natCast] at large
  have filled := digits_pos positive same
  obtain ⟨size, denotes, near⟩ := near_ofNat filled (lt_limit_of_lt (small.trans (by decide)))
  have least : (1 : ℚ) ≤ digits := by exact_mod_cast filled
  obtain ⟨half, twice⟩ := (near.mono (by norm_num)).lt (by linarith)
  have product := denotes.mul (denotes_powerOfTen (by omega : places ≤ 22))
    (by linarith [least_le_half])
  have inside : size * (10 ^ places : ℕ) < limit := by
    have bound : (2 ^ 64 : ℕ) < limit := lt_limit_of_lt (by decide)
    have most : (number : ℚ) ≤ 2 ^ 63 := by exact_mod_cast below
    have grows : size * (10 ^ places : ℕ) ≤ 2 * digits * 10 ^ (places : ℤ) := by
      rw [zpow_natCast]
      push_cast
      gcongr
    push_cast at bound
    linarith
  have positive := mul_pos denotes.pos (denotes_powerOfTen (by omega : places ≤ 22)).pos
  obtain ⟨_, sized, -⟩ := product.exists_sized positive.le inside
  exact absurd large (Bool.eq_false_iff.mp sized.isInf)

/-- Digits that are not scaled or are a double are scaled to what is closest to their number. -/
theorem scaled_once (once : power = 0 ∨ ∃ x : Float, x.isFinite = true ∧ exact x = digits) :
    scaled (power.natAbs + 1) (Float.ofNat digits) power = some (Float.ofNat number) := by
  have filled := digits_pos positive same
  rcases once with rfl | ⟨x, finite, whole⟩
  · rw [zpow_zero, mul_one, Nat.cast_inj] at same
    rw [← same]
    exact scaled_still filled (small.trans (by decide))
  · obtain ⟨low, high⟩ := power_near small positive same below
    have denotes := denotes_ofNat filled finite whole
    obtain ⟨y, known, rounded⟩ := scaled_denoted denotes (by omega)
      (same ▸ lt_limit_of_lt (lt_of_le_of_lt below (by decide)))
    rw [same] at rounded
    rw [known, rounded.unique (isRounded_ofNat positive)]

end Scaled

section Decoded

/-- Zero is read with any exponent. -/
theorem toFloat_zero {value : Significand} (none : value.digits = 0) (rest : List Char) :
    value.toFloat rest = .ok (.float (withSign value.negative Double.zero), rest) := by
  rw [Significand.toFloat, none, ofNat_zero, scaled_zero]

/-- Digits of zero are read as zero with any exponent. -/
theorem scanScale_zero {value : Significand} (none : value.digits = 0) {exponent : Option Exponent}
    {behind : List Char} (ends : EndsScale exponent behind) :
    scanScale value (exponentText exponent ++ behind) =
      .ok (.float (withSign value.negative Double.zero), behind) := by
  cases exponent with
  | none =>
      rw [exponentText, Option.elim_none, List.nil_append, scanScale_ends value ends,
        toFloat_zero none]
  | some exponent =>
      rw [exponentText, Option.elim_some, Exponent.text, List.cons_append, scanScale,
        if_pos exponent.marks, List.append_assoc, scanExponent_append]
      rcases takeExponent_append exponent.digits.known ends.noDigit
        (by decide : 0 < 0x80000000) with ⟨-, taken⟩ | ⟨-, others, known, taken⟩
      · simp only [taken]
        apply toFloat_zero
        exact none
      · have zero : (0.0 : Float) = Double.zero := by decide +kernel
        simp [taken, none, zero, dropWhile_digits known ends.noDigit]

/-- A literal ends at the end of the text. -/
theorem Numeral.ends_nil (numeral : Numeral) : numeral.Ends [] :=
  numeral.ends_of_stops (by simp [Stops])

theorem Numeral.negative_significand (numeral : Numeral) :
    numeral.significand.negative = numeral.negative := by
  unfold significand
  cases numeral.fraction <;> rfl

/-- A text that is a literal is decoded as its number. -/
theorem ofText_numeral {numeral : Numeral} {number : Number}
    (scanned : scanUnsigned numeral.negative (numeral.unsignedText ++ []) = .ok (number, [])) :
    ofText (String.ofList numeral.text) = .ok (.number number) := by
  obtain ⟨c, others, text, begins⟩ := numeral.exists_text []
  rw [← scanNumber_text, text] at scanned
  rw [List.append_nil] at text
  rw [ofText, readText, String.toList_ofList, text, readValue_numeral _ _ begins, scanned]
  rfl

variable {numeral : Numeral} {number : ℕ}
  (same : (numeral.digits * 10 ^ numeral.power : ℚ) = number) (below : number ≤ 2 ^ 63)

include same

/-- Digits alone are read as the integer. -/
theorem ofText_whole (below : number < 2 ^ 64) (noFraction : numeral.fraction = none)
    (noExponent : numeral.exponent = none) :
    ofText (String.ofList numeral.text) = .ok (.number (wholeNumber numeral.negative number)) := by
  have digits : numeral.digits = number := by
    rw [Numeral.power, noFraction, noExponent, Option.elim_none, Option.elim_none, sub_zero,
      zpow_zero, mul_one] at same
    exact_mod_cast same
  have short : numeral.whole.Short := lt_of_le_of_lt numeral.le_digits (digits ▸ below)
  apply ofText_numeral
  rw [scanUnsigned_whole numeral.ends_nil noFraction noExponent short,
    Numeral.significand_short (digits ▸ below), digits]

/-- Zero with a fraction or an exponent is read as the double zero with its sign. -/
theorem ofText_none (other : ¬ (numeral.fraction = none ∧ numeral.exponent = none))
    (none : number = 0) :
    ofText (String.ofList numeral.text) =
      .ok (.number (.float (withSign numeral.negative Double.zero))) := by
  have digits : numeral.digits = 0 := by
    have ten : (10 : ℚ) ^ numeral.power ≠ 0 := by positivity
    rw [none, Nat.cast_zero, mul_eq_zero, Nat.cast_eq_zero] at same
    exact same.resolve_right ten
  have counted := Numeral.significand_short (digits ▸ (by decide : 0 < 0x10000000000000000))
  apply ofText_numeral
  rw [scanUnsigned_scaled numeral.ends_nil fun whole => other ⟨whole.1, whole.2.1⟩,
    scanScale_zero (by rw [counted, digits]) numeral.ends_nil.scale, counted]

include below

/-- Other spellings are read as the double that their digits are scaled to. -/
theorem ofText_scaled (other : ¬ (numeral.fraction = none ∧ numeral.exponent = none))
    (positive : 0 < number) (small : ∀ exponent ∈ numeral.exponent, exponent.size < 0x80000000)
    {y : Float}
    (known : scaled (numeral.scale.natAbs + 1) (Float.ofNat numeral.significand.digits)
      numeral.scale = some y) :
    ofText (String.ofList numeral.text) =
      .ok (.number (.float (withSign numeral.negative y))) := by
  have exact := numeral.significand_exact same below
  obtain ⟨low, high⟩ := power_near numeral.significand_lt positive exact below
  have scanned := scanScale_short numeral.significand small
    (by rw [← Numeral.scale]; omega) (by rw [← Numeral.scale]; omega) numeral.ends_nil.scale
  apply ofText_numeral
  rw [scanUnsigned_scaled numeral.ends_nil fun whole => other ⟨whole.1, whole.2.1⟩, scanned,
    ← Numeral.scale, Significand.toFloat, known, numeral.negative_significand]

end Decoded

section Spelled

/-- The digits that the decoder takes are not scaled, or they are a double. -/
def Numeral.RoundedOnce (numeral : Numeral) : Prop :=
  numeral.scale = 0 ∨
    ∃ x : Float, x.isFinite = true ∧ Double.exact x = numeral.significand.digits

variable {numeral : Numeral} {k : ℤ}

/-- A literal of an integer has its size and, unless it is zero, its sign. -/
theorem Numeral.natAbs_of_exact (whole : numeral.exact = k) :
    (numeral.digits * 10 ^ numeral.power : ℚ) = k.natAbs ∧
      (k ≠ 0 → numeral.negative = decide (k < 0)) := by
  have natural : (0 : ℚ) ≤ numeral.digits * 10 ^ numeral.power := by positivity
  unfold exact at whole
  generalize (numeral.digits * 10 ^ numeral.power : ℚ) = size at *
  rw [Nat.cast_natAbs, Int.cast_abs]
  cases sign : numeral.negative with
  | false =>
      rw [sign, if_neg Bool.false_ne_true] at whole
      have least : 0 ≤ k := by exact_mod_cast whole ▸ natural
      rw [← whole, abs_of_nonneg natural]
      exact ⟨rfl, fun _ => (decide_eq_false (not_lt.mpr least)).symm⟩
  | true =>
      rw [sign, if_pos rfl] at whole
      have most : k ≤ 0 := by exact_mod_cast whole ▸ neg_nonpos.mpr natural
      rw [← whole, abs_neg, abs_of_nonneg natural]
      exact ⟨rfl, fun filled => (decide_eq_true (lt_of_le_of_ne most filled)).symm⟩

/-- So few digits before the last zeros are a double, with any zeros of the decoder behind them. -/
theorem Numeral.roundedOnce_of_le {number : ℕ}
    (same : (numeral.digits * 10 ^ numeral.power : ℚ) = number) (positive : 0 < number)
    (few : number ≤ 922337203) : numeral.RoundedOnce := by
  have below : number ≤ 2 ^ 63 := few.trans (by decide)
  have exact := numeral.significand_exact same below
  have small := numeral.significand_lt
  obtain ⟨low, -⟩ := power_near small positive exact below
  generalize taken : numeral.significand.digits = digits at exact small
  generalize numeral.scale = power at exact low
  obtain ⟨short, zeros, size, bound, most⟩ :
      ∃ short zeros, digits = short * 2 ^ zeros ∧ short < 2 ^ 53 ∧ zeros ≤ 971 := by
    rcases le_or_gt 0 power with whole | fraction
    · obtain ⟨places, rfl⟩ := Int.eq_ofNat_of_zero_le whole
      have product : digits * 10 ^ places = number := by exact_mod_cast exact
      have least := Nat.le_mul_of_pos_right digits (Nat.pow_pos (by decide : 0 < 10) (n := places))
      exact ⟨digits, 0, (Nat.mul_one _).symm, by omega, by decide⟩
    · obtain ⟨places, rfl⟩ := Int.exists_eq_neg_ofNat fraction.le
      rw [zpow_neg, zpow_natCast, ← div_eq_mul_inv, div_eq_iff (by positivity)] at exact
      have product : digits = number * 5 ^ places * 2 ^ places := by
        rw [Nat.mul_assoc, ← Nat.mul_pow]
        exact_mod_cast exact
      refine ⟨number * 5 ^ places, places, product, ?_, by omega⟩
      rcases le_or_gt places 10 with near | far
      · calc number * 5 ^ places ≤ 922337203 * 5 ^ 10 :=
              Nat.mul_le_mul few (Nat.pow_le_pow_right (by decide) near)
          _ < 2 ^ 53 := by decide
      · have least := Nat.mul_le_mul_left (number * 5 ^ places)
          (Nat.pow_le_pow_right (by decide : 0 < 2) far)
        omega
  have limited := lt_limit_of_lt (small.trans (by decide))
  refine .inr ⟨Float.ofInt digits, ?_, ?_⟩
  · exact (isClosest_ofInt (by rwa [Int.natAbs_natCast])).finite
  · rw [exact_ofInt (by rwa [Int.natAbs_natCast]) bound most, taken, Int.cast_natCast]

end Spelled

end Json

section Whole

open Double

variable {k : ℤ} (low : -0x8000000000000000 ≤ k) (high : k < 0x8000000000000000)

include low high

/-- Digits alone are translated as they stand, minus zero too. -/
theorem Translated.ofNumber_wholeNumber {negative : Bool}
    (sign : k ≠ 0 → negative = decide (k < 0)) :
    ofNumber (Json.wholeNumber negative k.natAbs) = .integer (Int64.ofInt k) := by
  cases negative with
  | false =>
      have natural : 0 ≤ k := by
        by_contra less
        have wrong := sign (by omega)
        simp only [false_eq_decide_iff] at wrong
        omega
      have same : (k.natAbs : ℤ) = k := Int.natAbs_of_nonneg natural
      change ofNumber (.integer k.natAbs) = _
      rw [same, ofNumber_int64 low high]
  | true =>
      rcases eq_or_ne k 0 with rfl | filled
      · have minus : Json.wholeNumber true 0 = .float (Decimal.withSign true Double.zero) := by
          rw [← ofNat_zero]
          rfl
        exact (congrArg ofNumber minus).trans (ofNumber_zero true)
      · have less : k < 0 := of_decide_eq_true (sign filled).symm
        have minus : Json.wholeNumber true k.natAbs = .integer k := by
          have range : (0 < k.natAbs && k.natAbs ≤ 0x8000000000000000) = true := by
            simp only [Bool.and_eq_true, decide_eq_true_eq]
            omega
          rw [Json.wholeNumber, if_neg (by decide), if_pos range]
          have same : -Int.ofNat k.natAbs = k := by
            change -(k.natAbs : ℤ) = k
            omega
          rw [same]
        rw [minus, ofNumber_int64 low high]

end Whole

/-- A literal of an integer of 64 bits with a sign is always decoded. Digits alone are translated
exactly, and so are all spellings of an integer up to the given size. A spelling with a fraction or
an exponent is decoded as a double: if the decoder rounds once, it is translated as the double that
is closest to the integer, which is the integer itself if that is a double. -/
theorem integral_literals_translated (numeral : Json.Numeral) (k : ℤ) (whole : numeral.exact = k)
    (low : -0x8000000000000000 ≤ k) (high : k < 0x8000000000000000)
    (small : k ≠ 0 → ∀ exponent ∈ numeral.exponent, exponent.size < 0x80000000) :
    ∃ nearest : ℤ, Double.exact (Float.ofInt k) = nearest ∧ Double.IsClosest (Float.ofInt k) k ∧
      nearest ≤ 0x8000000000000000 ∧
      (∀ x : Float, x.isFinite = true → Double.exact x = k → nearest = k) ∧
      ∃ translated,
        (Json.ofText (String.ofList numeral.text)).map Translated.ofJson = .ok translated ∧
        (numeral.fraction = none → numeral.exponent = none →
          translated = .integer (Int64.ofInt k)) ∧
        (k.natAbs ≤ 922337203 → translated = .integer (Int64.ofInt k)) ∧
        (¬ (numeral.fraction = none ∧ numeral.exponent = none) → numeral.RoundedOnce →
          translated = if nearest < 0x8000000000000000 then .integer (Int64.ofInt nearest)
            else .float (Float.ofInt k)) := by
  obtain ⟨same, sign⟩ := numeral.natAbs_of_exact whole
  have below : k.natAbs ≤ 2 ^ 63 := by omega
  have closest : Double.IsClosest (Float.ofInt k) k :=
    Double.isClosest_ofInt (Json.lt_limit_of_lt (by omega))
  obtain ⟨nearest, value, least, most⟩ := Double.exists_exact_ofInt low high
  have kept (x : Float) (finite : x.isFinite = true) (itself : Double.exact x = k) :
      nearest = k := by
    have near := closest.closest x finite
    rw [itself, value, sub_self, abs_zero, abs_nonpos_iff, sub_eq_zero] at near
    exact_mod_cast near
  refine ⟨nearest, value, closest, most, kept, ?_⟩
  by_cases plain : numeral.fraction = none ∧ numeral.exponent = none
  · refine ⟨.integer (Int64.ofInt k), ?_, fun _ _ => rfl, fun _ => rfl,
      fun other => absurd plain other⟩
    rw [Json.ofText_whole same (by omega) plain.1 plain.2]
    exact congrArg Except.ok (Translated.ofNumber_wholeNumber low high sign)
  rcases eq_or_ne k 0 with rfl | filled
  · have zero : nearest = 0 := kept (Float.ofInt 0) closest.finite
      (Double.exact_ofInt (rfl : _ = 0 * 2 ^ 0) (by decide) (by decide))
    refine ⟨.integer 0, ?_, fun _ _ => rfl, fun _ => rfl, fun _ _ => by rw [zero]; rfl⟩
    rw [Json.ofText_none same plain rfl]
    exact congrArg Except.ok (Translated.ofNumber_zero numeral.negative)
  · have positive : 0 < k.natAbs := by omega
    have exact := numeral.significand_exact same below
    obtain ⟨y, known⟩ := Json.exists_scaled numeral.significand_lt positive exact below
    have rounded (once : numeral.RoundedOnce) :
        Translated.ofNumber (.float (Decimal.withSign numeral.negative y)) =
          if nearest < 0x8000000000000000 then .integer (Int64.ofInt nearest)
          else .float (Float.ofInt k) := by
      have again := Json.scaled_once numeral.significand_lt positive exact below once
      obtain rfl := Option.some.inj (known.symm.trans again)
      rw [sign filled, ← ofInt_eq]
      exact Translated.ofNumber_whole closest.finite value least
    refine ⟨.ofNumber (.float (Decimal.withSign numeral.negative y)), ?_,
      fun noFraction noExponent => absurd ⟨noFraction, noExponent⟩ plain, fun few => ?_,
      fun _ once => rounded once⟩
    · rw [Json.ofText_scaled same below plain positive (small filled) known]
      rfl
    · have itself : nearest = k := kept (Float.ofInt k) closest.finite
        (Double.exact_ofInt (Nat.mul_one _).symm (by omega) (Nat.zero_le 971))
      rw [rounded (Json.Numeral.roundedOnce_of_le same positive few), itself, if_pos high]

/-- Digits that are not scaled are rounded once: the greatest of these integers is rounded to one
more if it has a fraction. -/
theorem integral_literals_translated_greatest :
    ∃ numeral : Json.Numeral, String.ofList numeral.text = "922337203.6854775807e10" ∧
      numeral.exact = (0x7FFFFFFFFFFFFFFF : ℤ) ∧
      (Json.ofText "922337203.6854775807e10").map Translated.ofJson =
        .ok (.float (Float.ofBits 0x43E0000000000000)) := by
  let numeral : Json.Numeral := ⟨false,
    ⟨"922337203".toList, by simp, List.all_eq_true.mp rfl⟩, by decide,
    some ⟨"6854775807".toList, by simp, List.all_eq_true.mp rfl⟩,
    some ⟨'e', rfl, none, nofun, ⟨"10".toList, by simp, List.all_eq_true.mp rfl⟩⟩⟩
  have digits : numeral.digits = 0x7FFFFFFFFFFFFFFF := by decide +kernel
  have power : numeral.power = 0 := by decide +kernel
  have whole : numeral.exact = (0x7FFFFFFFFFFFFFFF : ℤ) := by
    rw [Json.Numeral.exact, digits, power]
    norm_num [numeral]
  have small : ∀ exponent ∈ numeral.exponent, exponent.size < 0x80000000 := by decide +kernel
  obtain ⟨nearest, value, -, -, -, translated, read, -, -, rounded⟩ :=
    integral_literals_translated numeral 0x7FFFFFFFFFFFFFFF whole (by decide) (by decide)
      fun _ => small
  have above : nearest = 0x8000000000000000 := by
    have finite : (Float.ofInt 0x7FFFFFFFFFFFFFFF).isFinite = true := by decide +kernel
    have found := (Double.integerOfFloat?_eq_some_iff finite).mpr value
    have known : Decimal.integerOfFloat? (Float.ofInt 0x7FFFFFFFFFFFFFFF) =
        some 0x8000000000000000 := by decide +kernel
    exact Option.some.inj (found.symm.trans known)
  have double : Float.ofInt 0x7FFFFFFFFFFFFFFF = Float.ofBits 0x43E0000000000000 := by
    decide +kernel
  have text : String.ofList numeral.text = "922337203.6854775807e10" := by decide +kernel
  have last := rounded (by simp [numeral]) (.inl (by decide +kernel))
  rw [above, double] at last
  rw [text, last] at read
  exact ⟨numeral, text, whole, read⟩

/-- An integer that is no double is decoded as another one if it has an exponent. -/
theorem integral_literals_differ :
    ∃ one two : Json.Numeral, one.exact = (9007199254740993 : ℤ) ∧ two.exact = one.exact ∧
      ((Json.ofText (String.ofList one.text)).toOption.map Translated.ofJson).bind
        Translated.integer? = some 9007199254740993 ∧
      ((Json.ofText (String.ofList two.text)).toOption.map Translated.ofJson).bind
        Translated.integer? = some 9007199254740992 := by
  let digits : Json.Digits := ⟨"9007199254740993".toList, by simp, List.all_eq_true.mp rfl⟩
  let one : Json.Numeral := ⟨false, digits, by decide, none, none⟩
  let two : Json.Numeral := { one with exponent := some ⟨'e', rfl, none, nofun, .zero⟩ }
  have power : one.power = 0 ∧ two.power = 0 := by decide +kernel
  have count : one.digits = 9007199254740993 := by decide +kernel
  refine ⟨one, two, ?_, ?_, by decide +kernel, by decide +kernel⟩
  · rw [Json.Numeral.exact, count, power.1]
    norm_num [one]
  · have same : two.digits = one.digits := rfl
    rw [Json.Numeral.exact, Json.Numeral.exact, same, power.1, power.2]

end HostBridge
