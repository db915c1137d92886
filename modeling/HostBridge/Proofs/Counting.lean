/-
This file shows which digits and which power of ten are read of the text of a double.
-/
import HostBridge.Proofs.Written

namespace HostBridge

namespace Decimal

/-- A zero behind the point does not change the number. -/
theorem Scientific.toRat_pointed (value : Scientific) : value.pointed.toRat = value.toRat := by
  unfold pointed toRat
  split
  · next whole =>
      obtain ⟨zeros, known⟩ := Int.eq_ofNat_of_zero_le whole
      simp only [known, Int.toNat_natCast]
      push_cast
      rw [zpow_natCast, pow_succ]
      field_simp
  · rfl

/-- The digits that are counted are those of a number that the double is nearest to. -/
theorem counted_spec {value : Dyadic} (proper : value.Proper) (least : -1074 ≤ value.exponent)
    (greatest : value.exponent ≤ 971) :
    (0 < (counted value).digits ∧ (counted value).digits < 2 * 10 ^ 17) ∧
      (-340 ≤ (counted value).exponent ∧ (counted value).exponent ≤ 308) ∧
      (Cell.ofDyadic value).Contains (counted value).toRat := by
  obtain ⟨contains, -, -⟩ := shortest_spec proper
  obtain ⟨small, low, high⟩ := shortest_bounds proper least greatest
  have positive := shortest_pos proper
  unfold counted
  rw [if_neg proper.positive.ne']
  simp only
  generalize shortest value = digits at *
  split
  · next short =>
      refine ⟨?_, ?_, digits.toRat_pointed.symm ▸ contains⟩
      · unfold Scientific.pointed
        split
        · next whole =>
            refine ⟨Nat.mul_pos positive (Nat.pow_pos (by decide)), ?_⟩
            calc digits.digits * 10 ^ (digits.exponent.toNat + 1)
                < 10 ^ digitCount digits.digits * 10 ^ (digits.exponent.toNat + 1) :=
                  Nat.mul_lt_mul_of_pos_right (lt_pow_digitCount _) (Nat.pow_pos (by decide))
              _ = 10 ^ (digitCount digits.digits + (digits.exponent.toNat + 1)) :=
                  (Nat.pow_add ..).symm
              _ ≤ 10 ^ 17 := Nat.pow_le_pow_right (by decide) (by omega)
              _ < 2 * 10 ^ 17 := by decide
        · exact ⟨positive, small⟩
      · unfold Scientific.pointed
        split
        · simp
        · exact ⟨low, high⟩
  · exact ⟨⟨positive, small⟩, ⟨low, high⟩, contains⟩

end Decimal

namespace Json

open Decimal

/-- What is scaled when a text has these digits behind its sign. -/
def Significand.ofScientific (negative : Bool) (value : Scientific) : Significand :=
  ⟨negative, value.digits, value.exponent⟩

/-- What is scaled when the text of a double is read. -/
def Significand.ofFloat (x : Float) : Significand :=
  .ofScientific (Decimal.Dyadic.ofFloat x).negative (counted (Decimal.Dyadic.ofFloat x))

section Literals

/-- The digits of the fraction make the number of all digits no less. -/
theorem Numeral.le_digits (numeral : Numeral) :
    Nat.ofDigitChars 10 numeral.whole.text 0 ≤ numeral.digits := by
  rw [Numeral.digits, Nat.ofDigitChars_append]
  exact le_ofDigitChars ..

/-- Digits that make a number of 64 bits are all taken. -/
theorem takeDigits_short {digits : List Char} (known : ∀ c ∈ digits, isDigit c = true) {value : Nat}
    (fits : Nat.ofDigitChars 10 digits value < 0x10000000000000000) :
    takeDigits value digits = (Nat.ofDigitChars 10 digits value, digits.length, []) := by
  have ends : Stops [] := by simp [Stops]
  have taken := takeDigits_digits known fits ends
  rwa [List.append_nil] at taken

/-- The digits before the exponent are counted whole. -/
theorem Numeral.significand_short {numeral : Numeral} (short : numeral.digits < 0x10000000000000000) :
    numeral.significand = ⟨numeral.negative, numeral.digits,
      -numeral.fraction.elim 0 fun digits => (digits.text.length : Int)⟩ := by
  have whole := takeDigits_short numeral.whole.known (lt_of_le_of_lt numeral.le_digits short)
  rw [Numeral.digits, Nat.ofDigitChars_append] at short
  unfold Numeral.significand Numeral.digits Significand.ofWhole
  cases known : numeral.fraction with
  | none => simp [whole]
  | some fraction =>
      rw [known] at short
      have taken := takeDigits_short fraction.known short
      simp [Significand.withFraction, whole, taken, Nat.ofDigitChars_append]

/-- A number literal ends where a value does. -/
theorem Numeral.ends_of_stops (numeral : Numeral) {rest : List Char} (stops : Stops rest) :
    numeral.Ends rest := by
  refine numeral.ends_of_detached fun c head => ?_
  rcases stops c head with rfl | rfl | rfl <;> rfl

/-- An exponent that is not beyond all doubles moves the point. -/
theorem scanScale_short (value : Significand) {exponent : Option Exponent}
    (small : ∀ known ∈ exponent, known.size < 0x80000000)
    (low : -0x80000000 ≤ value.exponent + exponent.elim 0 Exponent.value)
    (high : value.exponent + exponent.elim 0 Exponent.value ≤ 0x7FFFFFFF) {rest : List Char}
    (ends : EndsScale exponent rest) :
    scanScale value (exponentText exponent ++ rest) =
      ({ value with exponent := value.exponent + exponent.elim 0 Exponent.value } :
        Significand).toFloat rest := by
  cases exponent with
  | none =>
      rw [exponentText, Option.elim_none, List.nil_append, scanScale_ends value ends,
        Option.elim_none, Int.add_zero]
  | some exponent =>
      have small := small exponent rfl
      rw [Option.elim_some] at low high ⊢
      obtain ⟨-, taken⟩ := (takeExponent_append exponent.digits.known ends.noDigit
        (by decide : 0 < 0x80000000)).resolve_right fun large => by
          have := large.1
          rw [Exponent.size] at small
          omega
      have moved : (if exponent.isNegative then value.exponent - exponent.size
          else value.exponent + exponent.size) = value.exponent + exponent.value := by
        unfold Exponent.value
        split <;> omega
      have kept : clampExponent (value.exponent + exponent.value) =
          value.exponent + exponent.value := by
        unfold clampExponent
        omega
      rw [exponentText, Option.elim_some, Exponent.text, List.cons_append, scanScale,
        if_pos exponent.marks, List.append_assoc, scanExponent_append, taken]
      simp only
      rw [← Exponent.size, moved, kept]

/-- A literal of a float is read as its digits and their power. -/
theorem scanUnsigned_shows {numeral : Numeral} {value : Scientific} (shows : numeral.Shows value)
    (short : value.digits < 0x10000000000000000) (near : value.exponent.natAbs < 0x10000000)
    {rest : List Char} (stops : Stops rest) :
    scanUnsigned numeral.negative (numeral.unsignedText ++ rest) =
      (Significand.ofScientific numeral.negative value).toFloat rest := by
  have counted := Numeral.significand_short (shows.digits ▸ short)
  have few : digitCount value.digits ≤ 20 := (digitCount_le_iff _ (by decide)).mpr (by omega)
  have ends := numeral.ends_of_stops stops
  have small : ∀ exponent ∈ numeral.exponent, exponent.size < 0x80000000 := by
    intro exponent known
    have size := shows.near exponent known
    omega
  have power : numeral.significand.exponent + numeral.exponent.elim 0 Exponent.value =
      value.exponent := by
    rw [counted, ← shows.power, Numeral.power]
    exact neg_add_eq_sub _ _
  rw [shows.digits] at counted
  rw [scanUnsigned_scaled ends fun whole => shows.float whole.1 whole.2.1,
    scanScale_short _ small (by omega) (by omega) ends.scale, power, counted]
  rfl

end Literals

end Json

end HostBridge
