/-
This file compares the sizes of number literals with the range of the decoder.
-/
import HostBridge.Proofs.Numbers

namespace HostBridge.Json

open Double Decimal

section Taken

/-- Every digit is taken or left. -/
theorem takeDigits_count (value : ℕ) (digits : List Char) :
    (takeDigits value digits).2.1 + (takeDigits value digits).2.2.length = digits.length := by
  induction digits generalizing value with
  | nil => rfl
  | cons c digits ih =>
      simp only [takeDigits]
      split
      · rw [List.length_cons, ← ih (value * 10 + (c.toNat - 48))]
        exact Nat.add_right_comm ..
      · rw [Nat.zero_add]

theorem digit_le {c : Char} (digit : isDigit c = true) : c.toNat - 48 ≤ 9 := by
  have last : c ≤ '9' := (by simpa [isDigit] using digit : '0' ≤ c ∧ c ≤ '9').2
  have code : c.toNat ≤ 57 := last
  omega

variable {digits : List Char} (known : ∀ c ∈ digits, isDigit c = true)

include known

/-- The digits that are passed over stand behind those that are taken. -/
theorem takeDigits_value (value : ℕ) :
    Nat.ofDigitChars 10 digits value =
      (takeDigits value digits).1 * 10 ^ (takeDigits value digits).2.2.length +
        Nat.ofDigitChars 10 (takeDigits value digits).2.2 0 := by
  induction digits generalizing value with
  | nil => simp [takeDigits]
  | cons c digits ih =>
      obtain ⟨first, others⟩ := List.forall_mem_cons.mp known
      by_cases fits : value * 10 + (c.toNat - 48) < 0x10000000000000000
      · have next := ih others (value * 10 + (c.toNat - 48))
        rw [ofDigitChars_digit]
        simpa [takeDigits, first, fits] using next
      · simp only [takeDigits, first, fits, decide_false, Bool.and_false, Bool.false_eq_true,
          if_false]
        rw [Nat.ofDigitChars_eq_ofDigitChars_zero, Nat.mul_comm]

/-- The first digit that is passed over does not fit. -/
theorem takeDigits_stopped {value : ℕ} {c : Char} {others : List Char}
    (left : (takeDigits value digits).2.2 = c :: others) :
    2 ^ 64 ≤ (takeDigits value digits).1 * 10 + (c.toNat - 48) := by
  induction digits generalizing value with
  | nil => cases left
  | cons d digits ih =>
      obtain ⟨first, rest⟩ := List.forall_mem_cons.mp known
      by_cases fits : value * 10 + (d.toNat - 48) < 0x10000000000000000
      · simp only [takeDigits, first, fits, decide_true, Bool.and_true, if_true] at left ⊢
        exact ih rest left
      · simp only [takeDigits, first, fits, decide_false, Bool.and_false, Bool.false_eq_true,
          if_false] at left ⊢
        obtain ⟨rfl, -⟩ := List.cons.inj left
        omega

/-- Digits are left only behind so many that one more does not fit. -/
theorem takeDigits_large (value : ℕ)
    (left : 0 < (takeDigits value digits).2.2.length) :
    2 ^ 64 ≤ (takeDigits value digits).1 * 10 + 9 := by
  obtain ⟨c, others, same⟩ := List.exists_cons_of_length_pos left
  have stopped := takeDigits_stopped known same
  have digit := digit_le (takeDigits_known known value c (same ▸ List.mem_cons_self))
  omega

theorem ofDigitChars_lt : Nat.ofDigitChars 10 digits 0 < 10 ^ digits.length := by
  induction digits with
  | nil => decide
  | cons c digits ih =>
      obtain ⟨first, others⟩ := List.forall_mem_cons.mp known
      have digit := Nat.mul_le_mul_left (10 ^ digits.length) (digit_le first)
      have rest := ih others
      have ten : 10 ^ (digits.length + 1) = 10 ^ digits.length * 9 + 10 ^ digits.length := by ring
      rw [ofDigitChars_digit, Nat.ofDigitChars_eq_ofDigitChars_zero, List.length_cons, Nat.zero_mul,
        Nat.zero_add]
      omega

/-- The digits that are taken stand behind those of the value. -/
theorem exists_takeDigits (value : ℕ) :
    ∃ more, (takeDigits value digits).1 = value * 10 ^ (takeDigits value digits).2.1 + more ∧
      more < 10 ^ (takeDigits value digits).2.1 := by
  induction digits generalizing value with
  | nil => exact ⟨0, by simp [takeDigits], by simp⟩
  | cons c digits ih =>
      obtain ⟨first, others⟩ := List.forall_mem_cons.mp known
      simp only [takeDigits]
      split
      · obtain ⟨more, same, few⟩ := ih others (value * 10 + (c.toNat - 48))
        generalize takeDigits (value * 10 + (c.toNat - 48)) digits = next at same few ⊢
        have digit := Nat.mul_le_mul_left (10 ^ next.2.1) (digit_le first)
        refine ⟨10 ^ next.2.1 * (c.toNat - 48) + more, ?_, ?_⟩
        · rw [same, pow_succ]
          ring
        · rw [pow_succ]
          linarith
      · exact ⟨0, by simp, by simp⟩

end Taken

section Takes

/-- Fraction digits do not fit behind an integer part that does not. -/
theorem takeDigits_full {value : ℕ} (full : 2 ^ 64 ≤ value * 10) (digits : Digits) :
    takeDigits value digits.text = (value, 0, digits.text) := by
  obtain ⟨c, others, same⟩ := List.exists_cons_of_ne_nil digits.filled
  have large : ¬ value * 10 + (c.toNat - 48) < 0x10000000000000000 := by omega
  rw [same]
  simp [takeDigits, large]

/-- No digit of a fraction is taken behind an integer part of which only zeros are left. -/
theorem takeDigits_zeros {whole : Digits} {c : Char} {others : List Char}
    (left : (takeDigits 0 whole.text).2.2 = c :: others)
    (none : Nat.ofDigitChars 10 (c :: others) 0 = 0) (fraction : Digits) :
    (takeDigits (takeDigits 0 whole.text).1 fraction.text).2.1 = 0 := by
  have least := le_ofDigitChars others (0 * 10 + (c.toNat - 48))
  rw [← ofDigitChars_digit, none] at least
  have stopped := takeDigits_stopped whole.known left
  rw [takeDigits_full (by omega) fraction]

/-- The number of a literal. -/
def Numeral.exact (numeral : Numeral) : ℚ :=
  if numeral.negative then -(numeral.digits * 10 ^ numeral.power)
  else numeral.digits * 10 ^ numeral.power

/-- The power of ten that the last digit counts which is taken. -/
def Numeral.scale (numeral : Numeral) : Int :=
  numeral.significand.exponent + numeral.exponent.elim 0 Exponent.value

/-- The decoder takes the first digits of a literal and passes over those that are left. Behind an
integer part that it does not take whole, it may still take some digits of the fraction. -/
structure Numeral.Takes (numeral : Numeral) (taken places left count more : ℕ) : Prop where
  digits : numeral.digits = taken * 10 ^ places + left
  left_lt : left < 10 ^ places
  significand : numeral.significand.digits = taken * 10 ^ count + more
  more_lt : more < 10 ^ count
  scale : numeral.scale = numeral.power + places - count
  large : 0 < places → 2 ^ 64 ≤ taken * 10 + 9
  whole : left = 0 → count = 0

/-- The digits that are taken and left of a literal, with those of a fraction behind an integer part
that is too long. -/
theorem Numeral.exists_takes (numeral : Numeral) :
    ∃ taken places left count more, numeral.Takes taken places left count more := by
  obtain ⟨negative, whole, plain, fraction, exponent⟩ := numeral
  have first := takeDigits_value whole.known 0
  have few := ofDigitChars_lt (takeDigits_known whole.known 0)
  have large := takeDigits_large whole.known 0
  cases fraction with
  | none =>
      refine ⟨_, _, _, 0, 0, ?_, few, (Nat.mul_one _).symm, by simp, ?_, large, fun _ => rfl⟩
      · simpa [digits, significand, Significand.ofWhole] using first
      · simp [scale, power, significand, Significand.ofWhole, add_comm]
  | some fraction =>
      have second := takeDigits_value fraction.known (takeDigits 0 whole.text).1
      have count := takeDigits_count (takeDigits 0 whole.text).1 fraction.text
      have digits : Numeral.digits ⟨negative, whole, plain, some fraction, exponent⟩ =
          Nat.ofDigitChars 10 fraction.text (Nat.ofDigitChars 10 whole.text 0) :=
        Nat.ofDigitChars_append ..
      cases left : (takeDigits 0 whole.text).2.2 with
      | nil =>
          have all : Nat.ofDigitChars 10 whole.text 0 = (takeDigits 0 whole.text).1 := by
            rw [first, left]
            exact Nat.mul_one _
          refine ⟨_, _, _, 0, 0, (digits.trans (all ▸ second)),
            ofDigitChars_lt (takeDigits_known fraction.known _), (Nat.mul_one _).symm, by simp, ?_,
            takeDigits_large fraction.known _, fun _ => rfl⟩
          simp only [scale, power, significand, Significand.ofWhole, Significand.withFraction,
            Option.elim_some, left, List.length_nil, ← count]
          push_cast
          ring
      | cons c others =>
          -- The digits that are left of the integer part stand before those of the fraction.
          rw [left] at first few large
          have behind := ofDigitChars_lt fraction.known
          obtain ⟨more, taken, short⟩ := exists_takeDigits fraction.known (takeDigits 0 whole.text).1
          refine ⟨(takeDigits 0 whole.text).1, (c :: others).length + fraction.text.length,
            Nat.ofDigitChars 10 (c :: others) 0 * 10 ^ fraction.text.length +
              Nat.ofDigitChars 10 fraction.text 0,
            _, more, ?_, ?_, taken, short, ?_,
            fun _ => large (by simp), fun none => ?_⟩
          · rw [digits, Nat.ofDigitChars_eq_ofDigitChars_zero, first, pow_add]
            ring
          · have front := Nat.mul_le_mul_right (10 ^ fraction.text.length) (Nat.succ_le_of_lt few)
            rw [Nat.succ_mul, ← pow_add] at front
            omega
          · simp only [scale, power, significand, Significand.ofWhole, Significand.withFraction,
              Option.elim_some, left]
            push_cast
            ring
          · have front : Nat.ofDigitChars 10 (c :: others) 0 = 0 :=
              (Nat.mul_eq_zero.mp (Nat.add_eq_zero_iff.mp none).1).resolve_right (by positivity)
            exact takeDigits_zeros left front fraction

section Parts

variable {numeral : Numeral} {taken places left count more : ℕ}
  (takes : numeral.Takes taken places left count more)

include takes

/-- The number without its sign, in units of the last digit that is taken of it. -/
theorem Numeral.Takes.number_eq : (numeral.digits * 10 ^ numeral.power : ℚ) =
    (taken + left / 10 ^ places) * 10 ^ (numeral.power + places) := by
  have filled : (0 : ℚ) < 10 ^ places := by positivity
  rw [takes.digits, zpow_add₀ (by norm_num), zpow_natCast]
  push_cast
  field_simp

/-- What the decoder makes of it, in the same units. -/
theorem Numeral.Takes.product_eq : (numeral.significand.digits * 10 ^ numeral.scale : ℚ) =
    (taken + more / 10 ^ count) * 10 ^ (numeral.power + places) := by
  have filled : (0 : ℚ) < 10 ^ count := by positivity
  rw [takes.significand, takes.scale, zpow_sub₀ (by norm_num), zpow_natCast]
  push_cast
  field_simp

end Parts

variable {numeral : Numeral}

/-- The digits that the decoder takes make the number up to a part of 2^60. -/
theorem Numeral.significand_near (numeral : Numeral) :
    |(numeral.significand.digits * 10 ^ numeral.scale - numeral.digits * 10 ^ numeral.power : ℚ)| ≤
      numeral.digits * 10 ^ numeral.power / 2 ^ 60 := by
  obtain ⟨taken, places, left, count, more, takes⟩ := numeral.exists_takes
  have filled : (0 : ℚ) < 10 ^ places ∧ (0 : ℚ) < 10 ^ count := ⟨by positivity, by positivity⟩
  have parts : (0 : ℚ) ≤ left / 10 ^ places ∧ (0 : ℚ) ≤ more / 10 ^ count :=
    ⟨by positivity, by positivity⟩
  have low : (left / 10 ^ places : ℚ) < 1 := by
    rw [div_lt_one filled.1]
    exact_mod_cast takes.left_lt
  have high : (more / 10 ^ count : ℚ) < 1 := by
    rw [div_lt_one filled.2]
    exact_mod_cast takes.more_lt
  have unit : (0 : ℚ) < 10 ^ (numeral.power + places) := by positivity
  rw [takes.number_eq, takes.product_eq, ← sub_mul, abs_mul, abs_of_pos unit, mul_div_right_comm]
  gcongr
  rcases Nat.eq_zero_or_pos places with rfl | positive
  · have none : left = 0 := Nat.lt_one_iff.mp takes.left_lt
    obtain rfl := takes.whole none
    obtain rfl : more = 0 := Nat.lt_one_iff.mp takes.more_lt
    rw [none]
    simp only [Nat.cast_zero, zero_div, add_zero, sub_self, abs_zero]
    positivity
  · -- Digits are left only behind so many that what is left does not count for more.
    have large := takes.large positive
    have many : 2 ^ 60 ≤ taken := by omega
    have cast : (2 ^ 60 : ℚ) ≤ taken := by exact_mod_cast many
    rw [abs_le]
    constructor <;> linarith

/-- Only digits of zero are taken as zero. -/
theorem Numeral.significand_eq_zero_iff (numeral : Numeral) :
    numeral.significand.digits = 0 ↔ numeral.digits = 0 := by
  obtain ⟨taken, places, left, count, more, takes⟩ := numeral.exists_takes
  have few := takes.left_lt
  have short := takes.more_lt
  rw [takes.significand, takes.digits, Nat.add_eq_zero_iff, Nat.add_eq_zero_iff, Nat.mul_eq_zero,
    Nat.mul_eq_zero]
  constructor
  · rintro ⟨none | none, -⟩
    · obtain rfl : places = 0 := by
        have large := takes.large
        omega
      exact ⟨.inl none, Nat.lt_one_iff.mp few⟩
    · exact absurd none (by positivity)
  · rintro ⟨none | none, rest⟩
    · obtain rfl := takes.whole rest
      exact ⟨.inl none, Nat.lt_one_iff.mp short⟩
    · exact absurd none (by positivity)

/-- An exponent that is read to its end makes a scaled number, which must not be too large. -/
theorem Numeral.significand_fits
    (small : ∀ exponent ∈ numeral.exponent, exponent.size < 0x80000000) :
    numeral.significand.Fits numeral.exponent ↔
      ¬ TooLarge numeral.significand.digits numeral.scale := by
  unfold Numeral.scale
  cases written : numeral.exponent with
  | none => rw [Option.elim_none, add_zero, Significand.Fits]
  | some exponent => rw [Option.elim_some, Significand.Fits, if_pos (small exponent written)]

end Takes

section Range

variable {digits : ℕ} {power : ℤ}

/-- The product of a significand and its power of ten before it is rounded. -/
theorem exists_product (filled : 0 < digits) (small : digits < 2 ^ 64) {places : ℕ}
    (near : places ≤ 308) :
    ∃ product, 0 < product ∧ IsRounded (Float.ofNat digits * powerOfTen places) product ∧
      |product - digits * 10 ^ places| ≤ digits * 10 ^ places * 3 / 2 ^ 53 := by
  obtain ⟨size, denotes, close⟩ := near_ofNat filled (lt_limit_of_lt (small.trans (by decide)))
  obtain ⟨factor, other, scale⟩ := near_powerOfTen near
  have least : (1 : ℚ) ≤ digits := by exact_mod_cast filled
  have half := (close.mono (by norm_num)).lt (by linarith)
  have product := close.mul (by norm_num) (by norm_num) scale
  have bound := product.le (by positivity)
  exact ⟨size * factor, mul_pos denotes.pos other.pos,
    denotes.mul other (by linarith [least_le_half]), bound.trans_eq (by ring)⟩

/-- The powers of ten that are no doubles are beyond the limit. -/
theorem limit_lt : limit < 10 ^ 309 := by
  have known : 2 ^ 53 * 2 ^ 971 < 10 ^ 309 := by decide +kernel
  have cast : (2 ^ 53 * 2 ^ (971 : ℤ) : ℚ) < 10 ^ 309 := by exact_mod_cast known
  have unit : (0 : ℚ) < 2 ^ (971 : ℤ) := by positivity
  unfold limit
  generalize (2 : ℚ) ^ (971 : ℤ) = unit at cast unit ⊢
  generalize (10 : ℚ) ^ 309 = top at cast ⊢
  linarith

/-- A number with room for the errors of scaling below the limit is not too large. -/
theorem not_tooLarge_of_lt (small : digits < 2 ^ 64)
    (below : digits * 10 ^ power * (1 + 3 / 2 ^ 53) < limit) : ¬ TooLarge digits power := by
  rintro ⟨natural, large⟩
  rcases Nat.eq_zero_or_pos digits with rfl | filled
  · have zero := (scaled_isSome_iff 0 0 power).mp (by rw [ofNat_zero, scaled_zero]; rfl)
    exact zero ⟨natural, large⟩
  obtain ⟨places, rfl⟩ := Int.eq_ofNat_of_zero_le natural
  have least : (1 : ℚ) ≤ digits := by exact_mod_cast filled
  rw [zpow_natCast] at below
  have near : places ≤ 308 := by
    by_contra far
    have grows : (10 : ℚ) ^ 309 ≤ 10 ^ places := pow_le_pow_right₀ (by norm_num) (by omega)
    have positive : (0 : ℚ) < 10 ^ places := by positivity
    have share := le_mul_of_one_le_left positive.le least
    have top := limit_lt
    generalize (10 : ℚ) ^ 309 = bound at grows top
    linarith
  rw [if_pos (by omega), Int.natAbs_natCast] at large
  obtain ⟨product, positive, rounded, close⟩ := exists_product filled small near
  have inside : product < limit := by linarith [(abs_le.mp close).2]
  obtain ⟨_, sized, -⟩ := rounded.exists_sized positive.le inside
  exact absurd large (Bool.eq_false_iff.mp sized.isInf)

/-- A number that reaches the limit with all errors of scaling is too large. -/
theorem tooLarge_of_le (small : digits < 2 ^ 64)
    (above : limit ≤ digits * 10 ^ power * (1 - 3 / 2 ^ 53)) : TooLarge digits power := by
  have wide : (2 : ℚ) ^ 64 < limit := by exact_mod_cast lt_limit_of_lt (by decide : 2 ^ 64 < 10 ^ 20)
  have most : (digits : ℚ) < 2 ^ 64 := by exact_mod_cast small
  have reached : (2 : ℚ) ^ 64 < digits * 10 ^ power := by
    have natural : (0 : ℚ) ≤ digits * 10 ^ power := by positivity
    linarith
  have filled : 0 < digits := by
    refine Nat.pos_of_ne_zero fun none => ?_
    rw [none, Nat.cast_zero, zero_mul] at reached
    linarith
  have natural : 0 ≤ power := by
    by_contra negative
    have shrinks : (10 : ℚ) ^ power ≤ 1 := zpow_le_one_of_nonpos₀ (by norm_num) (by omega)
    have less : (digits * 10 ^ power : ℚ) ≤ digits := mul_le_of_le_one_right (by positivity) shrinks
    linarith
  refine ⟨natural, ?_⟩
  obtain ⟨places, rfl⟩ := Int.eq_ofNat_of_zero_le natural
  split
  · next near =>
      rw [Int.natAbs_natCast]
      obtain ⟨product, -, rounded, close⟩ := exists_product filled small (by omega : places ≤ 308)
      by_contra finite
      have below := rounded.lt_limit (Bool.eq_false_iff.mpr finite)
      rw [zpow_natCast] at above
      linarith [(abs_le.mp close).1]
  · obtain ⟨_, denotes, -⟩ := near_ofNat filled (most.trans wide)
    exact denotes.beq_zero

end Range

section Literals

variable {numeral : Numeral}

/-- The sign does not change the size of a literal. -/
theorem abs_exact (numeral : Numeral) : |numeral.exact| = numeral.digits * 10 ^ numeral.power := by
  have natural : (0 : ℚ) ≤ numeral.digits * 10 ^ numeral.power := by positivity
  unfold Numeral.exact
  split
  · rw [abs_neg, abs_of_nonneg natural]
  · exact abs_of_nonneg natural

/-- A literal is zero when its digits are. -/
theorem exact_eq_zero_iff (numeral : Numeral) : numeral.exact = 0 ↔ numeral.digits = 0 := by
  have ten : (10 : ℚ) ^ numeral.power ≠ 0 := by positivity
  rw [← abs_eq_zero, abs_exact, mul_eq_zero, Nat.cast_eq_zero, or_iff_left ten]

/-- With an exponent that is not read to its end, only zero is not too large. -/
theorem Numeral.fits_iff_of_far {exponent : Exponent} (written : exponent ∈ numeral.exponent)
    (far : 0x80000000 ≤ exponent.size) :
    numeral.Fits ↔ numeral.exact = 0 ∨ exponent.isNegative = true := by
  rw [exact_eq_zero_iff, ← numeral.significand_eq_zero_iff, Numeral.Fits,
    Option.mem_def.mp written, Significand.Fits, if_neg (not_lt.mpr far)]
  simp

theorem units_of_limit : (2 : ℚ) ^ 1024 = 2 ^ 53 * 2 ^ (971 : ℤ) ∧ (2 : ℚ) ^ 973 = 4 * 2 ^ (971 : ℤ) := by
  have four : (4 : ℚ) = 2 ^ 2 := by norm_num
  rw [zpow_ofNat, four, ← pow_add, ← pow_add]
  exact ⟨rfl, rfl⟩

variable (small : ∀ exponent ∈ numeral.exponent, exponent.size < 0x80000000)

include small

/-- Literals up to this size are decoded. -/
theorem Numeral.fits_of_le (below : |numeral.exact| ≤ 2 ^ 1024 - 2 ^ 973) : numeral.Fits := by
  right
  rw [numeral.significand_fits small]
  apply not_tooLarge_of_lt numeral.significand_lt
  have near := (abs_le.mp numeral.significand_near).2
  have unit : (0 : ℚ) < 2 ^ (971 : ℤ) := by positivity
  obtain ⟨top, step⟩ := units_of_limit
  rw [abs_exact, top, step] at below
  unfold limit
  generalize (2 : ℚ) ^ (971 : ℤ) = unit at below unit ⊢
  linarith

/-- Literals from this size on are not decoded. -/
theorem Numeral.not_fits_of_le (above : 2 ^ 1024 + 2 ^ 973 ≤ |numeral.exact|) : ¬ numeral.Fits := by
  rintro (⟨noFraction, noExponent, short⟩ | fits)
  · have least : (2 : ℚ) ^ 64 ≤ 2 ^ 1024 := pow_le_pow_right₀ (by norm_num) (by norm_num)
    have step : (0 : ℚ) < 2 ^ 973 := by positivity
    rw [abs_exact, Numeral.power, noFraction, noExponent, Option.elim_none, Option.elim_none,
      sub_zero, zpow_zero, mul_one, Numeral.digits, noFraction, Option.elim_none,
      List.append_nil] at above
    have less : (Nat.ofDigitChars 10 numeral.whole.text 0 : ℚ) < 2 ^ 64 := by exact_mod_cast short
    generalize (2 : ℚ) ^ 1024 = top at above least
    generalize (2 : ℚ) ^ 973 = step at above step
    linarith
  · refine (numeral.significand_fits small).mp fits (tooLarge_of_le numeral.significand_lt ?_)
    have near := (abs_le.mp numeral.significand_near).1
    have unit : (0 : ℚ) < 2 ^ (971 : ℤ) := by positivity
    obtain ⟨top, step⟩ := units_of_limit
    rw [abs_exact, top, step] at above
    unfold limit
    generalize (2 : ℚ) ^ (971 : ℤ) = unit at above unit ⊢
    linarith

end Literals

end HostBridge.Json
