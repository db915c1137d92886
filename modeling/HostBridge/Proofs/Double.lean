/-
This file shows that the operations of doubles give the double nearest to the exact result.
-/
import HostBridge.Decimal.Dyadic
import HostBridge.Decimal.Nearest
import HostBridge.Proofs.Rounding
import Mathlib

namespace HostBridge

/-- The number without its sign. -/
def Decimal.Dyadic.size (value : Decimal.Dyadic) : ℚ := value.mantissa * 2 ^ value.exponent

namespace Double

open Float.Model Float.Model.UnpackedFloat

section Packing

/-- The mantissas and exponents of doubles other than zero. -/
structure IsDouble (mantissa : ℕ) (exponent : ℤ) : Prop where
  positive : 0 < mantissa
  small : mantissa < 2 ^ 53
  least : -1074 ≤ exponent
  greatest : exponent ≤ 971
  normal : exponent = -1074 ∨ 2 ^ 52 ≤ mantissa

/-- The double of a sign, a mantissa and an exponent. -/
def ofParts (sign : Sign) {mantissa : ℕ} {exponent : ℤ} (double : IsDouble mantissa exponent) :
    Float :=
  .ofModel (.pack (.finite sign mantissa exponent double.positive))

theorem toNat_implicit (fraction : BitVec 52) :
    (1#1 ++ fraction).toNat = fraction.toNat + 2 ^ 52 := by
  rw [BitVec.toNat_append, ← Nat.shiftLeft_add_eq_or_of_lt fraction.isLt, Nat.add_comm]
  rfl

/-- A double with an implicit digit. -/
theorem unpack_normal (sign : Sign) {biased : ℕ} (fraction : BitVec 52) (filled : 0 < biased)
    (finite : biased < 2047) :
    UnpackedFloat.unpack Format.binary64
        (packComponents Format.binary64 sign (BitVec.ofNat 11 biased) fraction) =
      .finite sign (fraction.toNat + 2 ^ 52) (biased - 1075) (by omega) := by
  have size : (BitVec.ofNat 11 biased).toNat = biased := by
    rw [BitVec.toNat_ofNat, Nat.mod_eq_of_lt (by omega)]
  have noZero : BitVec.ofNat 11 biased ≠ 0#11 := by
    intro same
    have := congrArg BitVec.toNat same
    rw [size] at this
    exact filled.ne' this
  have noInfinity : BitVec.ofNat 11 biased ≠ -1#11 := by
    intro same
    have := congrArg BitVec.toNat same
    rw [size] at this
    exact finite.ne this
  unfold UnpackedFloat.unpack
  simp only [unpackMantissa_packComponents, unpackExponent_packComponents,
    unpackSign_packComponents, Sign.ofBitVec_toBitVec, noZero, noInfinity, if_false, size,
    toNat_implicit]
  rfl

/-- A double without one. -/
theorem unpack_subnormal (sign : Sign) {fraction : ℕ} (filled : 0 < fraction)
    (small : fraction < 2 ^ 52) :
    UnpackedFloat.unpack Format.binary64
        (packComponents Format.binary64 sign 0#11 (BitVec.ofNat 52 fraction)) =
      .finite sign fraction (-1074) filled := by
  have size : (BitVec.ofNat 52 fraction).toNat = fraction := by
    rw [BitVec.toNat_ofNat, Nat.mod_eq_of_lt small]
  have noZero : BitVec.ofNat 52 fraction ≠ 0#52 := by
    intro same
    have := congrArg BitVec.toNat same
    rw [size] at this
    exact filled.ne' this
  have noInfinity : (0#11 : BitVec 11) ≠ -1#11 := by decide
  unfold UnpackedFloat.unpack
  simp only [unpackMantissa_packComponents, unpackExponent_packComponents,
    unpackSign_packComponents, Sign.ofBitVec_toBitVec, noZero, noInfinity, if_false, if_true,
    dite_false, size]
  rfl

/-- A double keeps what is packed into it. -/
theorem unpack_ofParts (sign : Sign) {mantissa : ℕ} {exponent : ℤ}
    (double : IsDouble mantissa exponent) :
    (ofParts sign double).toModel.unpack = .finite sign mantissa exponent double.positive := by
  obtain ⟨positive, small, least, greatest, normal⟩ := double
  have bias : exponent + (Format.exponentBias Format.binary64 : ℤ) + (52 : ℕ) = exponent + 1075 :=
    add_assoc exponent 1023 52
  obtain ⟨biased, shift⟩ := Int.eq_ofNat_of_zero_le (by omega : 0 ≤ exponent + 1075)
  have fits : ¬ 2 ^ 11 ≤ biased + 1 := by omega
  have digits : mantissa.log2 + 1 = Format.binary64.mantissaBits ↔ 2 ^ 52 ≤ mantissa := by
    have more := Nat.le_log2 (n := mantissa) (k := 52) positive.ne'
    have less := Nat.log2_lt (n := mantissa) (k := 53) positive.ne'
    change mantissa.log2 + 1 = 53 ↔ _
    omega
  change UnpackedFloat.unpack Format.binary64 (UnpackedFloat.pack Format.binary64 _) = _
  unfold UnpackedFloat.pack
  simp only [bias, shift, Int.toNat_natCast, if_neg fits, digits]
  split
  · next large =>
      have fraction : (BitVec.ofNat 52 mantissa).toNat + 2 ^ 52 = mantissa := by
        rw [BitVec.toNat_ofNat, Nat.mod_eq_sub_mod large, Nat.mod_eq_of_lt (by omega)]
        omega
      rw [unpack_normal sign _ (by omega) (by omega)]
      simp only [fraction]
      congr 1
      omega
  · next less =>
      obtain rfl := normal.resolve_right less
      exact unpack_subnormal sign positive (by omega)

/-- A mantissa with a greater exponent than those of doubles is infinite. -/
theorem isInf_pack (sign : Sign) {mantissa : ℕ} {exponent : ℤ} (positive : 0 < mantissa)
    (large : 972 ≤ exponent) :
    (Float.ofModel (.pack (.finite sign mantissa exponent positive))).isInf = true := by
  have bias : exponent + (Format.exponentBias Format.binary64 : ℤ) + (52 : ℕ) = exponent + 1075 :=
    add_assoc exponent 1023 52
  obtain ⟨biased, shift⟩ := Int.eq_ofNat_of_zero_le (by omega : 0 ≤ exponent + 1075)
  have exceeds : 2 ^ 11 ≤ biased + 1 := by omega
  have packed : UnpackedFloat.pack Format.binary64 (.finite sign mantissa exponent positive) =
      packedInfinity Format.binary64 sign := by
    unfold UnpackedFloat.pack
    simp only [bias, shift, Int.toNat_natCast, if_pos exceeds]
  change UnpackedFloat.isInf (UnpackedFloat.unpack Format.binary64
    (UnpackedFloat.pack Format.binary64 _)) = true
  rw [packed]
  cases sign <;> decide +kernel

end Packing

section Values

def signOf (negative : Bool) : Sign := if negative then .negative else .positive

/-- The parts of a finite double are its sign, its mantissa and its exponent. -/
inductive Parts (x : Float) (value : Decimal.Dyadic) : Prop where
  | zero : value.mantissa = 0 → x.toModel.unpack = .zero (signOf value.negative) → Parts x value
  | finite (double : IsDouble value.mantissa value.exponent) :
      x.toModel.unpack =
        .finite (signOf value.negative) value.mantissa value.exponent double.positive →
      Parts x value

/-- The exponent stands in the eleven bits behind the sign. -/
theorem toNat_unpackExponent (bits : BitVec 64) :
    (@unpackExponent Format.binary64 bits).toNat =
      bits.toNat / 0x10000000000000 % 0x800 := by
  rw [unpackExponent_def, BitVec.extractLsb'_toNat, Nat.shiftRight_eq_div_pow]
  rfl

/-- The mantissa stands in the last 52 bits. -/
theorem toNat_unpackMantissa (bits : BitVec 64) :
    (@unpackMantissa Format.binary64 bits).toNat =
      bits.toNat % 0x10000000000000 := by
  rw [unpackMantissa_def, BitVec.extractLsb'_toNat, Nat.shiftRight_zero]
  rfl

theorem ofBitVec_unpackSign (bits : BitVec 64) :
    Sign.ofBitVec (@unpackSign Format.binary64 bits) =
      signOf (bits.toNat / 0x8000000000000000 == 1) := by
  have bound : bits.toNat < 2 ^ 64 := bits.isLt
  have top : (@unpackSign Format.binary64 bits).toNat =
      bits.toNat / 0x8000000000000000 := by
    rw [unpackSign_def, BitVec.extractLsb'_toNat, Nat.shiftRight_eq_div_pow]
    change bits.toNat / 0x8000000000000000 % 2 = _
    omega
  unfold Sign.ofBitVec signOf
  rcases (by omega : bits.toNat / 0x8000000000000000 = 0 ∨
      bits.toNat / 0x8000000000000000 = 1) with low | high
  · rw [if_pos (BitVec.eq_of_toNat_eq (by simpa using top.trans low)), low]
    rfl
  · rw [if_neg, high]
    · rfl
    · intro same
      rw [same, high] at top
      cases top

/-- The bits of a finite double leave out the highest exponent. -/
theorem unpackExponent_lt {bits : BitVec 64}
    (finite : (UnpackedFloat.unpack Format.binary64 bits).isFinite = true) :
    (@unpackExponent Format.binary64 bits).toNat < 2047 := by
  have bound : (@unpackExponent Format.binary64 bits).toNat < 2048 := BitVec.isLt _
  have apart : (@unpackExponent Format.binary64 bits).toNat ≠ 2047 := by
    intro same
    have infinite : @unpackExponent Format.binary64 bits = -1#11 :=
      BitVec.eq_of_toNat_eq same
    unfold UnpackedFloat.unpack at finite
    simp only [infinite, if_true] at finite
    split at finite <;> cases finite
  omega

/-- The parts are read off the bits. -/
theorem parts_ofFloat {x : Float} (finite : x.isFinite = true) :
    Parts x (Decimal.Dyadic.ofFloat x) := by
  have unpacked : x.toModel.unpack =
      UnpackedFloat.unpack Format.binary64 x.toBits.toBitVec := rfl
  have finite : x.toModel.unpack.isFinite = true := finite
  rw [unpacked] at finite
  have bounded := unpackExponent_lt finite
  have sign : Sign.ofBitVec (@unpackSign Format.binary64 x.toBits.toBitVec) =
      signOf (x.toBits.toNat / 0x8000000000000000 == 1) := ofBitVec_unpackSign _
  have exponent : BitVec.ofNat 11 (x.toBits.toNat / 0x10000000000000 % 0x800) =
      @unpackExponent Format.binary64 x.toBits.toBitVec :=
    BitVec.eq_of_toNat_eq (by
      rw [BitVec.toNat_ofNat, Nat.mod_mod]
      exact (toNat_unpackExponent _).symm)
  have fraction : BitVec.ofNat 52 (x.toBits.toNat % 0x10000000000000) =
      @unpackMantissa Format.binary64 x.toBits.toBitVec :=
    BitVec.eq_of_toNat_eq (by
      rw [BitVec.toNat_ofNat, Nat.mod_mod]
      exact (toNat_unpackMantissa _).symm)
  rw [toNat_unpackExponent] at bounded
  have bounded : x.toBits.toNat / 0x10000000000000 % 0x800 < 2047 := bounded
  have small := Nat.mod_lt x.toBits.toNat (by decide : 0 < 0x10000000000000)
  rw [← @packComponents_unpackSign_unpackExponent_unpackMantissa Format.binary64
    x.toBits.toBitVec, sign, ← exponent, ← fraction] at unpacked
  unfold Decimal.Dyadic.ofFloat
  simp only
  generalize x.toBits.toNat / 0x10000000000000 % 0x800 = biased at unpacked bounded
  generalize x.toBits.toNat % 0x10000000000000 = digits at unpacked small
  split
  · next low =>
      subst low
      rcases Nat.eq_zero_or_pos digits with rfl | filled
      · exact .zero rfl (unpacked.trans unpack_packedZero)
      · exact .finite ⟨filled, by simp only; omega, le_rfl, by simp, .inl rfl⟩
          (unpacked.trans (unpack_subnormal _ filled small))
  · next high =>
      have size : (BitVec.ofNat 52 digits).toNat = digits := by
        rw [BitVec.toNat_ofNat, Nat.mod_eq_of_lt small]
      have double : IsDouble (digits + 0x10000000000000) (biased - 1075) :=
        ⟨by omega, by omega, by omega, by omega, .inr (by omega)⟩
      refine .finite double ?_
      rw [unpacked, unpack_normal _ _ (by omega) bounded]
      simp only [size]
      rfl

end Values

section Operations

/-- A positive double is equal to a number. -/
def Denotes (x : Float) (size : ℚ) : Prop :=
  ∃ (mantissa : ℕ) (exponent : ℤ) (double : IsDouble mantissa exponent),
    x = ofParts .positive double ∧ size = mantissa * 2 ^ exponent

/-- A double denotes the product of its parts. -/
theorem denotes_ofParts {mantissa : ℕ} {exponent : ℤ} (double : IsDouble mantissa exponent) :
    Denotes (ofParts .positive double) (mantissa * 2 ^ exponent) :=
  ⟨mantissa, exponent, double, rfl, rfl⟩

/-- A double is what a positive number is rounded to. -/
def IsRounded (x : Float) (value : ℚ) : Prop :=
  ∃ count power, Rounds value count power ∧ x = .ofModel (.pack (ofUnits .positive count power))

/-- A number is rounded to one double. -/
theorem IsRounded.unique {x y : Float} {value : ℚ} (one : IsRounded x value)
    (two : IsRounded y value) : x = y := by
  obtain ⟨count, power, rounds, rfl⟩ := one
  obtain ⟨other, unit, again, rfl⟩ := two
  obtain ⟨rfl, rfl⟩ := rounds.unique again
  rfl

/-- The parts of a double are the rounded parts of its number. -/
theorem IsDouble.rounds {mantissa : ℕ} {exponent : ℤ} (double : IsDouble mantissa exponent) :
    Rounds (mantissa * 2 ^ exponent) mantissa exponent := by
  have whole : (mantissa * 2 ^ exponent : ℚ) / 2 ^ exponent = mantissa :=
    mul_div_cancel_right₀ _ (by positivity)
  refine ⟨⟨double.least, ?_, double.normal.imp_right fun large => ?_⟩, ?_⟩
  · rw [add_comm, zpow_add₀ (by norm_num), mul_lt_mul_iff_left₀ (by positivity)]
    exact_mod_cast double.small
  · rw [add_comm, zpow_add₀ (by norm_num), mul_le_mul_iff_left₀ (by positivity)]
    exact_mod_cast large
  · rw [whole]
    constructor <;> simp

/-- A double is what its own number is rounded to. -/
theorem Denotes.isRounded {x : Float} {size : ℚ} (denotes : Denotes x size) : IsRounded x size := by
  obtain ⟨mantissa, exponent, double, rfl, rfl⟩ := denotes
  refine ⟨mantissa, exponent, double.rounds, ?_⟩
  rw [ofUnits, dif_pos double.positive, if_pos double.small]
  rfl

/-- A number that a double is equal to is rounded to it. -/
theorem IsRounded.denotes {x : Float} {mantissa : ℕ} {exponent : ℤ}
    (rounded : IsRounded x (mantissa * 2 ^ exponent)) (double : IsDouble mantissa exponent) :
    Denotes x (mantissa * 2 ^ exponent) := by
  rw [rounded.unique (denotes_ofParts double).isRounded]
  exact denotes_ofParts double

/-- A natural number of at most 53 digits before its last zeros is a double. -/
theorem exists_isDouble {digits : ℕ} (positive : 0 < digits) (small : digits < 2 ^ 53) {zeros : ℕ}
    (few : zeros ≤ 971) : ∃ (mantissa : ℕ) (exponent : ℤ), IsDouble mantissa exponent ∧
      ((digits * 2 ^ zeros : ℕ) : ℚ) = mantissa * 2 ^ exponent := by
  have length : digits.log2 < 53 := (Nat.log2_lt positive.ne').mpr small
  obtain ⟨places, filled⟩ := Nat.exists_eq_add_of_le (Nat.le_of_lt_succ length)
  have above : 2 ^ 52 ≤ digits * 2 ^ places := by
    rw [filled, pow_add]
    exact Nat.mul_le_mul_right _ (Nat.log2_self_le positive.ne')
  have below : digits * 2 ^ places < 2 ^ 53 := by
    have same : digits.log2 + 1 + places = 53 := by omega
    rw [← same, pow_add]
    exact Nat.mul_lt_mul_of_pos_right Nat.lt_log2_self (Nat.two_pow_pos _)
  refine ⟨digits * 2 ^ places, zeros - places, ⟨by omega, below, by omega, by omega, .inr above⟩, ?_⟩
  rw [zpow_sub₀ (by norm_num), zpow_natCast, zpow_natCast]
  push_cast
  field_simp

/-- A natural number with few digits before its last zeros is rounded to itself. -/
theorem IsRounded.denotes_natural {x : Float} {digits : ℕ} (small : digits < 2 ^ 53) {zeros : ℕ}
    (few : zeros ≤ 971) (positive : 0 < digits)
    (rounded : IsRounded x (digits * 2 ^ zeros : ℕ)) : Denotes x (digits * 2 ^ zeros : ℕ) := by
  obtain ⟨mantissa, exponent, double, same⟩ := exists_isDouble positive small few
  rw [same] at rounded ⊢
  exact rounded.denotes double

variable {x y : Float} {first second : ℚ}

/-- A product with a number that is not below the least normal double is rounded. -/
theorem Denotes.mul (one : Denotes x first) (two : Denotes y second)
    (large : 2 ^ (-1022 : ℤ) ≤ first) : IsRounded (x * y) (first * second) := by
  obtain ⟨mantissa, exponent, double, rfl, rfl⟩ := one
  obtain ⟨factor, power, other, rfl, rfl⟩ := two
  have normal : 2 ^ 52 ≤ mantissa := by
    refine double.normal.elim ?_ id
    rintro rfl
    have split : (2 : ℚ) ^ (-1022 : ℤ) = 2 ^ 52 * 2 ^ (-1074 : ℤ) := by
      rw [← zpow_natCast, ← zpow_add₀ (by norm_num)]
      rfl
    rw [split] at large
    exact_mod_cast le_of_mul_le_mul_right large (by positivity)
  obtain ⟨count, unit, rounds, product⟩ := exists_mul double.positive other.positive exponent power
    (.inr (normal.trans (Nat.le_mul_of_pos_right _ other.positive)))
  refine ⟨count, unit, rounds, ?_⟩
  change Float.ofModel (.pack (UnpackedFloat.mul Format.binary64 _ _)) = _
  rw [unpack_ofParts .positive double, unpack_ofParts .positive other, product]

/-- The quotient of two doubles is the rounded exact one. -/
theorem Denotes.div (one : Denotes x first) (two : Denotes y second) :
    IsRounded (x / y) (first / second) := by
  obtain ⟨mantissa, exponent, double, rfl, rfl⟩ := one
  obtain ⟨factor, power, other, rfl, rfl⟩ := two
  obtain ⟨count, unit, rounds, quotient⟩ :=
    exists_div double.positive other.positive exponent power
  refine ⟨count, unit, rounds, ?_⟩
  change Float.ofModel (.pack (UnpackedFloat.div Format.binary64 _ _)) = _
  rw [unpack_ofParts .positive double, unpack_ofParts .positive other, quotient]

/-- A word is rounded after its digits are filled up with zeros. -/
theorem isRounded_word {value : ℕ} (positive : 0 < value) (small : value < 2 ^ 53) :
    IsRounded value.toUInt64.toFloat value := by
  have word : value.toUInt64.toNat = value := Nat.mod_eq_of_lt (by omega)
  have digits : value.log2 < 53 := (Nat.log2_lt positive.ne').mpr small
  obtain ⟨places, filled⟩ := Nat.exists_eq_add_of_le (Nat.le_of_lt_succ digits)
  have shift : (0 - max ((value.log2 : ℤ) + 0 - 52) (-1074)).toNat = places := by omega
  have compared : compare (value : ℤ) 0 = .gt := by
    rw [compare_gt_iff_gt]
    exact_mod_cast positive
  have fine : 2 ^ 52 ≤ value <<< places := by
    rw [Nat.shiftLeft_eq, filled, pow_add]
    exact Nat.mul_le_mul_right _ (Nat.log2_self_le positive.ne')
  have scaled : (value : ℚ) / 2 ^ (-(places : ℤ)) = (value <<< places : ℕ) := by
    rw [Nat.shiftLeft_eq, zpow_neg, zpow_natCast, div_inv_eq_mul]
    push_cast
    rfl
  have cuts := cutsOff_exact (value <<< places)
  rw [← scaled] at cuts
  obtain ⟨count, power, rounds, rounded⟩ := exists_roundWithAccuracy .positive cuts (.inr fine)
  refine ⟨count, power, rounds, ?_⟩
  change Float.ofModel (.pack (normalize Format.binary64 (value.toUInt64.toNat : ℤ) 0 .positive)) = _
  rw [word, UnpackedFloat.normalize, compared]
  simp only [UnpackedFloat.round, Int.toNat_natCast, targetExponent_eq, decreaseExponent, shift]
  rw [Int.zero_sub, rounded]

theorem isDouble_one : IsDouble (2 ^ 52) (-52) :=
  ⟨by norm_num, by norm_num, by norm_num, by norm_num, by norm_num⟩

theorem denotes_one : Denotes (Float.ofBits 0x3FF0000000000000) 1 :=
  ⟨2 ^ 52, -52, isDouble_one, by decide +kernel, by norm_num⟩

/-- Every natural number is rounded. -/
theorem isRounded_ofNat {value : ℕ} (positive : 0 < value) : IsRounded (Float.ofNat value) value := by
  change IsRounded (Float.ofScientific value false 0) value
  unfold Float.ofScientific
  split
  · next small =>
      have word := isRounded_word positive small.1
      rw [← Nat.mul_one value, ← pow_zero 2] at word
      have one : (1 : ℚ) ≤ (value * 2 ^ 0 : ℕ) := by exact_mod_cast (by omega : 1 ≤ value * 2 ^ 0)
      have product := (word.denotes_natural small.1 (by decide) positive).mul denotes_one
        ((zpow_le_one_of_nonpos₀ (by norm_num) (by norm_num)).trans one)
      rw [pow_zero, Nat.mul_one, mul_one] at product
      exact product
  · next large =>
      have known : 2 ^ 53 ≤ value := by omega
      have shifted : 0 < value <<< 53 := by
        rw [Nat.shiftLeft_eq]
        exact Nat.mul_pos positive (by decide)
      have fine : 2 ^ 52 ≤ value <<< 53 * 1 := by
        rw [Nat.shiftLeft_eq]
        omega
      obtain ⟨count, power, rounds, product⟩ := exists_mul shifted Nat.one_pos (-53) 0 (.inr fine)
      have exact : ((value <<< 53 : ℕ) * 2 ^ (-53 : ℤ) * ((1 : ℕ) * 2 ^ (0 : ℤ)) : ℚ) = value := by
        rw [Nat.shiftLeft_eq]
        push_cast
        norm_num
        ring
      refine ⟨count, power, exact ▸ rounds, ?_⟩
      rw [← product]
      change Float.ofModel (.pack (UnpackedFloat.ofScientific Format.binary64 value 0)) = _
      have bound : (0 : ℤ) ≤ 2 ^ Format.binary64.exponentBits := by positivity
      unfold UnpackedFloat.ofScientific
      rw [dif_neg positive.ne', if_neg (by omega), if_neg (by omega), if_pos le_rfl]
      rfl

end Operations

section Bounds

/-- Numbers from here on are rounded to infinity. -/
def limit : ℚ := (2 ^ 53 - 1 / 2) * 2 ^ (971 : ℤ)

variable {value : ℚ} {count : ℕ} {power : ℤ}

/-- A rounded number is off by half of its last place at most. -/
theorem Rounds.error (rounds : Rounds value count power) :
    |count * 2 ^ power - value| ≤ 2 ^ power / 2 := by
  have place : (0 : ℚ) < 2 ^ power := by positivity
  have near := abs_le.mp rounds.nearest.near
  have scaled : value = value / 2 ^ power * 2 ^ power := (div_mul_cancel₀ _ place.ne').symm
  rw [scaled, ← sub_mul, abs_mul, abs_of_pos place, abs_sub_comm]
  have bound := mul_le_mul_of_nonneg_right rounds.nearest.near place.le
  linarith

/-- The last place is small against a number that is not below the least normal double. -/
theorem IsUnit.le_div (isUnit : IsUnit value power) (normal : 2 ^ (-1022 : ℤ) ≤ value) :
    2 ^ power / 2 ≤ value / 2 ^ 53 := by
  have top : (2 : ℚ) ^ (power + 52) ≤ value := by
    rcases isUnit.above with rfl | above
    · exact normal
    · exact above
  rw [zpow_add₀ (by norm_num)] at top
  rw [div_le_div_iff₀ (by norm_num) (by norm_num)]
  have cast : (2 : ℚ) ^ (52 : ℤ) = 2 ^ 52 := by norm_num
  rw [cast] at top
  linarith

theorem half_least : (2 : ℚ) ^ (-1074 : ℤ) / 2 = 2 ^ (-1075 : ℤ) :=
  (zpow_sub_one₀ (by norm_num) (-1074)).symm

/-- The last place is small against the number and the least double. -/
theorem IsUnit.le_add (isUnit : IsUnit value power) (positive : 0 ≤ value) :
    2 ^ power / 2 ≤ value / 2 ^ 53 + 2 ^ (-1075 : ℤ) := by
  by_cases normal : 2 ^ (-1022 : ℤ) ≤ value
  · have bound := isUnit.le_div normal
    have tiny : (0 : ℚ) < 2 ^ (-1075 : ℤ) := by positivity
    linarith
  · have least : power = -1074 := by
      refine isUnit.above.resolve_right fun above => normal ?_
      have grows : (2 : ℚ) ^ (-1022 : ℤ) ≤ 2 ^ (power + 52) :=
        zpow_le_zpow_right₀ (by norm_num) (by have := isUnit.least; omega)
      exact grows.trans above
    rw [least, half_least]
    have share : 0 ≤ value / 2 ^ 53 := by positivity
    linarith

/-- Below the limit the last place is not greater than that of the greatest double. -/
theorem Rounds.power_le (rounds : Rounds value count power) (below : value < limit) :
    power ≤ 971 := by
  by_contra large
  have above := rounds.above.resolve_left (by omega)
  have grows : (2 : ℚ) ^ (53 + 971 : ℤ) ≤ 2 ^ (power + 52) :=
    zpow_le_zpow_right₀ (by norm_num) (by omega)
  rw [zpow_add₀ (by norm_num)] at grows
  have place : (0 : ℚ) < 2 ^ (971 : ℤ) := by positivity
  have cast : (2 : ℚ) ^ (53 : ℤ) = 2 ^ 53 := by norm_num
  rw [cast] at grows
  unfold limit at below
  generalize (2 : ℚ) ^ (971 : ℤ) = unit at below grows place
  linarith

/-- Below the limit a number in the greatest units has a mantissa of 53 bits. -/
theorem Rounds.count_lt (rounds : Rounds value count 971) (below : value < limit) :
    count < 2 ^ 53 := by
  have place : (0 : ℚ) < 2 ^ (971 : ℤ) := by positivity
  have less : value / 2 ^ (971 : ℤ) < 2 ^ 53 - 1 / 2 := (div_lt_iff₀ place).mpr below
  have near := (abs_le.mp rounds.nearest.near).1
  have strict : (count : ℚ) < 2 ^ 53 := by linarith
  exact_mod_cast strict

/-- Below the limit a rounded number is a double or zero. -/
theorem Rounds.ofUnits_eq (rounds : Rounds value count power) (below : value < limit) :
    (∃ (mantissa : ℕ) (exponent : ℤ) (double : IsDouble mantissa exponent),
      (mantissa * 2 ^ exponent : ℚ) = count * 2 ^ power ∧ (count % 2 = 0 → mantissa % 2 = 0) ∧
        ofUnits .positive count power = .finite .positive mantissa exponent double.positive) ∨
      count = 0 ∧ ofUnits .positive count power = .zero .positive := by
  have high := rounds.power_le below
  rcases Nat.eq_zero_or_pos count with rfl | positive
  · exact .inr ⟨rfl, rfl⟩
  left
  by_cases small : count < 2 ^ 53
  · refine ⟨count, power, ⟨positive, small, rounds.least, high, rounds.le_count⟩, rfl, id, ?_⟩
    rw [ofUnits, dif_pos positive, if_pos small]
  · have whole : count = 2 ^ 53 := le_antisymm rounds.count_le (not_lt.mp small)
    have apart : power ≠ 971 := by
      rintro rfl
      exact small (rounds.count_lt below)
    have least := rounds.least
    refine ⟨2 ^ 52, power + 1, ⟨by decide, by decide, by omega, by omega, .inr le_rfl⟩, ?_,
      fun _ => by decide, ?_⟩
    · rw [whole, zpow_add_one₀ (by norm_num)]
      push_cast
      ring
    · rw [ofUnits, dif_pos positive, if_neg small]

/-- A number with too great a last place is packed as infinity. -/
theorem isInf_ofUnits {count : ℕ} {power : ℤ} (filled : 0 < count)
    (large : 972 ≤ power ∨ power = 971 ∧ 2 ^ 53 ≤ count) :
    (Float.ofModel (.pack (ofUnits .positive count power))).isInf = true := by
  rw [ofUnits, dif_pos filled]
  split
  · exact isInf_pack .positive filled (by omega)
  · exact isInf_pack .positive (by decide) (by omega)

/-- Numbers from the limit on are rounded to infinity. -/
theorem IsRounded.lt_limit {x : Float} {value : ℚ} (rounded : IsRounded x value)
    (finite : x.isInf = false) : value < limit := by
  by_contra above
  rw [not_lt] at above
  obtain ⟨count, power, rounds, rfl⟩ := rounded
  have place : (0 : ℚ) < 2 ^ (971 : ℤ) := by positivity
  have high : 971 ≤ power := by
    have digits : (2 : ℚ) ^ (52 + 971 : ℤ) < 2 ^ (power + 53) := by
      refine lt_of_le_of_lt (le_trans ?_ above) rounds.below
      rw [zpow_add₀ (by norm_num), limit]
      gcongr
      norm_num
    have order := (zpow_lt_zpow_iff_right₀ (by norm_num : (1 : ℚ) < 2)).mp digits
    omega
  have filled : 2 ^ 52 ≤ count := rounds.le_count.resolve_left (by omega)
  refine absurd (isInf_ofUnits (by omega) ?_) (Bool.eq_false_iff.mp finite)
  rcases high.eq_or_lt with rfl | higher
  · right
    rw [limit, ← le_div_iff₀ place] at above
    obtain ⟨near, even⟩ := rounds.nearest
    have far := (abs_le.mp near).2
    refine ⟨rfl, ?_⟩
    -- One less is odd, and the middle goes to the even number.
    by_contra less
    have bound : (count : ℚ) + 1 ≤ 2 ^ 53 := by exact_mod_cast not_le.mp less
    have odd := even (le_antisymm near (le_abs.mpr (.inl (by linarith))))
    have last : (2 ^ 53 : ℕ) ≤ ((count + 1 : ℕ) : ℚ) := by
      push_cast
      linarith
    have last : 2 ^ 53 ≤ count + 1 := by exact_mod_cast last
    omega
  · exact .inl higher

/-- A double that is not negative is equal to a number. -/
def Sized (x : Float) (size : ℚ) : Prop :=
  Denotes x size ∨ x = .ofModel (.pack (.zero .positive)) ∧ size = 0

/-- A rounded number below the limit is the size of a double. -/
theorem Rounds.sized (rounds : Rounds value count power) (below : value < limit) :
    Sized (.ofModel (.pack (ofUnits .positive count power))) (count * 2 ^ power) := by
  rcases rounds.ofUnits_eq below with ⟨mantissa, exponent, double, same, -, units⟩ | ⟨none, units⟩
  · exact .inl ⟨mantissa, exponent, double, by rw [units]; rfl, same.symm⟩
  · exact .inr ⟨by rw [units], by rw [none, Nat.cast_zero, zero_mul]⟩

/-- Rounding goes wrong by a half unit of the last place, or of the least double. -/
theorem IsRounded.exists_sized {x : Float} (rounded : IsRounded x value) (positive : 0 ≤ value)
    (below : value < limit) :
    ∃ size, Sized x size ∧ |size - value| ≤ value / 2 ^ 53 + 2 ^ (-1075 : ℤ) ∧
      (2 ^ (-1022 : ℤ) ≤ value → |size - value| ≤ value / 2 ^ 53) := by
  obtain ⟨count, power, rounds, rfl⟩ := rounded
  exact ⟨count * 2 ^ power, rounds.sized below, rounds.error.trans (rounds.le_add positive),
    fun normal => rounds.error.trans (rounds.le_div normal)⟩

/-- A number that is not below the least double is rounded to a positive one. -/
theorem IsRounded.exists_denotes {x : Float} (rounded : IsRounded x value)
    (above : 2 ^ (-1074 : ℤ) ≤ value) (below : value < limit) :
    ∃ size, Denotes x size ∧ |size - value| ≤ value / 2 ^ 53 + 2 ^ (-1075 : ℤ) ∧
      (2 ^ (-1022 : ℤ) ≤ value → |size - value| ≤ value / 2 ^ 53) := by
  have least : (0 : ℚ) < 2 ^ (-1074 : ℤ) := by positivity
  obtain ⟨size, sized, near, normal⟩ := rounded.exists_sized (by linarith) below
  refine ⟨size, sized.resolve_right ?_, near, normal⟩
  rintro ⟨-, rfl⟩
  rw [zero_sub, abs_neg, abs_of_pos (by linarith), ← half_least] at near
  linarith

end Bounds

section Signs

open Decimal (withSign)

/-- Packing the parts of a double gives the double back. -/
theorem pack_unpack (x : Float) : Float.ofModel (.pack x.toModel.unpack) = x :=
  Float.ofBits_toBits x

theorem withSign_ofParts (negative : Bool) {mantissa : ℕ} {exponent : ℤ}
    (double : IsDouble mantissa exponent) :
    withSign negative (ofParts .positive double) = ofParts (signOf negative) double := by
  cases negative with
  | false => rfl
  | true =>
      change Float.ofModel (.pack (ofParts .positive double).toModel.unpack.neg) = _
      rw [unpack_ofParts]
      rfl

theorem withSign_zero (negative : Bool) :
    withSign negative (.ofModel (.pack (.zero .positive))) =
      .ofModel (.pack (.zero (signOf negative))) := by
  cases negative <;> rfl

theorem unpack_zero (sign : Sign) :
    (Float.ofModel (.pack (.zero sign))).toModel.unpack = .zero sign := by
  cases sign <;> rfl

theorem signOf_inj {first second : Bool} (same : signOf first = signOf second) :
    first = second := by
  cases first <;> cases second <;> first | rfl | cases same

/-- A finite double is its size with its sign. -/
theorem eq_withSign {x : Float} (finite : x.isFinite = true) :
    (Decimal.Dyadic.ofFloat x).mantissa = 0 ∧
        x = withSign (Decimal.Dyadic.ofFloat x).negative (.ofModel (.pack (.zero .positive))) ∨
      ∃ double : IsDouble (Decimal.Dyadic.ofFloat x).mantissa (Decimal.Dyadic.ofFloat x).exponent,
        x = withSign (Decimal.Dyadic.ofFloat x).negative (ofParts .positive double) := by
  cases parts_ofFloat finite with
  | zero none unpacked => exact .inl ⟨none, by rw [withSign_zero, ← unpacked, pack_unpack]⟩
  | finite double unpacked =>
      exact .inr ⟨double, by rw [withSign_ofParts, ofParts, ← unpacked, pack_unpack]⟩

/-- A finite double is its size with its sign. -/
theorem exists_withSign {x : Float} (finite : x.isFinite = true) :
    ∃ y, Sized y (Decimal.Dyadic.ofFloat x).size ∧
      x = withSign (Decimal.Dyadic.ofFloat x).negative y := by
  rcases eq_withSign finite with ⟨none, same⟩ | ⟨double, same⟩
  · exact ⟨_, .inr ⟨rfl, by rw [Decimal.Dyadic.size, none, Nat.cast_zero, zero_mul]⟩, same⟩
  · exact ⟨_, .inl (denotes_ofParts double), same⟩

/-- A double with finite parts is finite. -/
theorem isFinite_of_unpack {x : Float} (known : x.toModel.unpack.isFinite = true) :
    x.isFinite = true := known

/-- A size with a sign is a finite double, and its parts are found again. -/
theorem Sized.withSign {x : Float} {size : ℚ} (sized : Sized x size) (negative : Bool) :
    (withSign negative x).isFinite = true ∧
      (Decimal.Dyadic.ofFloat (withSign negative x)).negative = negative ∧
      (Decimal.Dyadic.ofFloat (withSign negative x)).size = size := by
  rcases sized with ⟨mantissa, exponent, double, rfl, rfl⟩ | ⟨rfl, rfl⟩
  · rw [withSign_ofParts]
    have unpacked := unpack_ofParts (signOf negative) double
    have finite := isFinite_of_unpack (by rw [unpacked]; rfl)
    refine ⟨finite, ?_⟩
    cases parts_ofFloat finite with
    | zero none same => cases unpacked.symm.trans same
    | finite other same =>
        have parts := unpacked.symm.trans same
        injection parts with sign digits power
        rw [Decimal.Dyadic.size, ← digits, ← power]
        exact ⟨signOf_inj sign.symm, rfl⟩
  · rw [withSign_zero]
    have unpacked := unpack_zero (signOf negative)
    have finite := isFinite_of_unpack (by rw [unpacked]; rfl)
    refine ⟨finite, ?_⟩
    cases parts_ofFloat finite with
    | zero none same =>
        have parts := unpacked.symm.trans same
        injection parts with sign
        exact ⟨signOf_inj sign.symm, by rw [Decimal.Dyadic.size, none, Nat.cast_zero, zero_mul]⟩
    | finite other same => cases unpacked.symm.trans same

theorem Denotes.pos {x : Float} {size : ℚ} (denotes : Denotes x size) : 0 < size := by
  obtain ⟨mantissa, exponent, double, -, rfl⟩ := denotes
  have positive : (0 : ℚ) < mantissa := by exact_mod_cast double.positive
  positivity

/-- A double that denotes a number is not infinite. -/
theorem Denotes.isInf {x : Float} {size : ℚ} (denotes : Denotes x size) : x.isInf = false := by
  obtain ⟨mantissa, exponent, double, rfl, -⟩ := denotes
  change UnpackedFloat.isInf (ofParts .positive double).toModel.unpack = false
  rw [unpack_ofParts]
  rfl

theorem Sized.isInf {x : Float} {size : ℚ} (sized : Sized x size) : x.isInf = false := by
  rcases sized with denotes | ⟨rfl, -⟩
  · exact denotes.isInf
  · rfl

/-- A double that denotes a number is not equal to zero. -/
theorem Denotes.beq_zero {x : Float} {size : ℚ} (denotes : Denotes x size) :
    (x == 0.0) = false := by
  obtain ⟨mantissa, exponent, double, rfl, -⟩ := denotes
  have zero : (0.0 : Float) = .ofModel (.pack (.zero .positive)) := by decide +kernel
  change UnpackedFloat.beq (ofParts .positive double).toModel.unpack (0.0 : Float).toModel.unpack =
    false
  rw [zero, unpack_ofParts, unpack_zero]
  rfl

/-- A finite double is equal to itself. -/
theorem beq_self {x : Float} (finite : x.isFinite = true) : (x == x) = true := by
  change UnpackedFloat.beq x.toModel.unpack x.toModel.unpack = true
  change x.toModel.unpack.isFinite = true at finite
  rw [beq_iff_ne_notANumber_and_eq]
  have number : x.toModel.unpack ≠ .notANumber := by
    intro none
    rw [none] at finite
    cases finite
  exact ⟨number, number, .inl rfl⟩

/-- Finite doubles with the same parts are equal, and those of size zero are equal anyhow. -/
theorem withSign_beq {x : Float} {size : ℚ} (sized : Sized x size) {first second : Bool}
    (same : size = 0 ∨ first = second) : (withSign first x == withSign second x) = true := by
  change UnpackedFloat.beq (withSign first x).toModel.unpack
    (withSign second x).toModel.unpack = true
  rw [beq_iff_ne_notANumber_and_eq]
  rcases sized with denotes | ⟨rfl, -⟩
  · obtain rfl := same.resolve_left denotes.pos.ne'
    obtain ⟨mantissa, exponent, double, rfl, -⟩ := denotes
    rw [withSign_ofParts, unpack_ofParts]
    simp
  · rw [withSign_zero, withSign_zero, unpack_zero, unpack_zero]
    cases first <;> cases second <;> simp [signOf]

end Signs

end Double

end HostBridge
