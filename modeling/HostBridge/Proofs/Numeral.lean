/-
This file shows which number literals are read, and that their reading ends where they do.
-/
import HostBridge.Proofs.Grammar
import HostBridge.Proofs.Reading
import Mathlib.Data.List.TakeDrop

namespace HostBridge.Json

/-- A scan succeeds before the rest. -/
def Leaves {A : Type} (scan : Scan A) (rest : List Char) : Prop := ∃ value, scan = .ok (value, rest)

@[simp] theorem leaves_ok {A : Type} {value : A} {text rest : List Char} :
    Leaves (.ok (value, text) : Scan A) rest ↔ text = rest := by
  simp [Leaves]

@[simp] theorem not_leaves_error {A : Type} {stop : Stop} {rest : List Char} :
    ¬ Leaves (.error stop : Scan A) rest := by
  simp [Leaves]

/-- What is made of a result does not change where the scan stops. -/
theorem leaves_map {A B : Type} {scan : Scan A} (make : A → B) {rest : List Char} :
    Leaves (scan.map fun (value, rest) => (make value, rest)) rest ↔ Leaves scan rest := by
  obtain _ | ⟨value, behind⟩ := scan <;> simp [Leaves, Except.map]

section Digits

/-- A text that begins with a digit begins with all the digits up to another character. -/
theorem exists_digits {text : List Char} (starts : startsWithDigit text = true) :
    ∃ (digits : Digits) (rest : List Char), text = digits.text ++ rest ∧
      startsWithDigit rest = false := by
  obtain _ | ⟨c, others⟩ := text
  · cases starts
  · have digit : Decimal.isDigit c = true := starts
    refine ⟨⟨(c :: others).takeWhile Decimal.isDigit, by simp [digit], fun _ member =>
      List.mem_takeWhile_imp member⟩, (c :: others).dropWhile Decimal.isDigit,
      List.takeWhile_append_dropWhile.symm, ?_⟩
    cases left : (c :: others).dropWhile Decimal.isDigit with
    | nil => rfl
    | cons d rest =>
        have stopped := List.head?_dropWhile_not Decimal.isDigit (c :: others)
        simpa [left, startsWithDigit] using stopped

theorem dropWhile_digits {digits : List Char} (known : ∀ c ∈ digits, Decimal.isDigit c = true)
    {rest : List Char} (stops : startsWithDigit rest = false) :
    (digits ++ rest).dropWhile Decimal.isDigit = rest := by
  rw [List.dropWhile_append_of_pos known]
  cases rest with
  | nil => rfl
  | cons c rest =>
      have noDigit : Decimal.isDigit c = false := stops
      simp [noDigit]

/-- Digits are split from what stands behind them. -/
theorem spanDigits_append {digits : List Char}
    (known : ∀ c ∈ digits, Decimal.isDigit c = true) {rest : List Char}
    (stops : startsWithDigit rest = false) :
    Decimal.spanDigits (digits ++ rest) = (digits, rest) := by
  have none : rest.takeWhile Decimal.isDigit = [] := by
    cases rest with
    | nil => rfl
    | cons c rest =>
        have noDigit : Decimal.isDigit c = false := stops
        simp [noDigit]
  rw [Decimal.spanDigits, List.span_eq_takeWhile_dropWhile, dropWhile_digits known stops,
    List.takeWhile_append_of_pos known, none, List.append_nil]

/-- What stands behind some digits does not change how many of them are taken. -/
theorem takeDigits_append {digits : List Char} (known : ∀ c ∈ digits, Decimal.isDigit c = true)
    {rest : List Char} (stops : startsWithDigit rest = false) (significand : Nat) :
    takeDigits significand (digits ++ rest) =
      ((takeDigits significand digits).1, (takeDigits significand digits).2.1,
        (takeDigits significand digits).2.2 ++ rest) := by
  induction digits generalizing significand with
  | nil =>
      cases rest with
      | nil => rfl
      | cons c rest =>
          have noDigit : Decimal.isDigit c = false := stops
          simp [takeDigits, noDigit]
  | cons c digits ih =>
      obtain ⟨first, others⟩ := List.forall_mem_cons.mp known
      by_cases fits : significand * 10 + (c.toNat - 48) < 0x10000000000000000
      · simp [takeDigits, first, fits, ih others]
      · simp [takeDigits, first, fits]

/-- The digits that are left are those behind the taken ones. -/
theorem takeDigits_drop (significand : Nat) (text : List Char) :
    (takeDigits significand text).2.2 = text.drop (takeDigits significand text).2.1 := by
  induction text generalizing significand with
  | nil => rfl
  | cons c text ih =>
      simp only [takeDigits]
      split
      · simpa using ih _
      · rfl

/-- The digits that are passed over. -/
theorem takeDigits_known {digits : List Char} (known : ∀ c ∈ digits, Decimal.isDigit c = true)
    (significand : Nat) : ∀ c ∈ (takeDigits significand digits).2.2, Decimal.isDigit c = true := by
  rw [takeDigits_drop]
  exact fun c member => known c (List.mem_of_mem_drop member)

/-- All digits are taken exactly when their number has 64 bits. -/
theorem takeDigits_all_iff {digits : List Char} (known : ∀ c ∈ digits, Decimal.isDigit c = true)
    {significand : Nat} (small : significand < 0x10000000000000000) :
    (takeDigits significand digits).2.2 = [] ↔
      Nat.ofDigitChars 10 digits significand < 0x10000000000000000 := by
  induction digits generalizing significand with
  | nil => simpa [takeDigits] using small
  | cons c digits ih =>
      obtain ⟨first, others⟩ := List.forall_mem_cons.mp known
      rw [ofDigitChars_digit]
      by_cases fits : significand * 10 + (c.toNat - 48) < 0x10000000000000000
      · simpa [takeDigits, first, fits] using ih others fits
      · have grows := le_ofDigitChars digits (significand * 10 + (c.toNat - 48))
        simp only [takeDigits, first, fits, decide_false, Bool.and_false, Bool.false_eq_true,
          if_false, List.cons_ne_nil, false_iff]
        omega

end Digits

section Scale

/-- The doubles of a significand and of a power of ten have an infinite product. Beyond the powers
that are doubles this is so for every significand but zero. -/
def TooLarge (significand : Nat) (power : Int) : Prop :=
  0 ≤ power ∧
    if power ≤ 308 then (Float.ofNat significand * powerOfTen power.natAbs).isInf = true
    else (Float.ofNat significand == 0.0) = false

def Exponent.size (exponent : Exponent) : Nat := Nat.ofDigitChars 10 exponent.digits.text 0

def Exponent.isNegative (exponent : Exponent) : Bool := exponent.sign = some '-'

def Exponent.value (exponent : Exponent) : Int :=
  if exponent.isNegative then -exponent.size else exponent.size

/-- The number that a significand and an exponent make has a double. From 2^31 on an exponent is
not looked at any further: a number is zero or has none. -/
def Significand.Fits (value : Significand) : Option Exponent → Prop
  | none => ¬ TooLarge value.digits value.exponent
  | some exponent =>
      if exponent.size < 0x80000000 then
        ¬ TooLarge value.digits (value.exponent + exponent.value)
      else value.digits = 0 ∨ exponent.isNegative = true

/-- Scaling down always gives a double. -/
theorem scaled_isSome (steps : Nat) (value : Float) (power : Int) (negative : power < 0) :
    (scaled steps value power).isSome = true := by
  induction steps generalizing value power with
  | zero => rfl
  | succ steps ih =>
      have below : ¬ 0 ≤ power := by omega
      by_cases near : power.natAbs ≤ 308
      · simp [scaled, near, below]
      · have next := ih (value / powerOfTen 308) (power + 308) (by omega)
        by_cases zero : (value == 0.0) = true
        · simp [scaled, near, zero]
        · simpa [scaled, near, zero, below] using next

/-- Scaling gives a double exactly when the number is not too large. -/
theorem scaled_isSome_iff (significand steps : Nat) (power : Int) :
    (scaled (steps + 1) (Float.ofNat significand) power).isSome = true ↔
      ¬ TooLarge significand power := by
  by_cases positive : 0 ≤ power
  · by_cases near : power ≤ 308
    · have small : power.natAbs ≤ 308 := by omega
      simp only [scaled, small, positive, if_true, TooLarge, near, true_and]
      split <;> simp_all
    · have large : ¬ power.natAbs ≤ 308 := by omega
      simp only [scaled, large, positive, if_false, if_true, TooLarge, near, true_and]
      split <;> simp_all
  · have some := scaled_isSome (steps + 1) (Float.ofNat significand) power (by omega)
    simp [some, TooLarge, positive]

/-- An exponent beyond 32 bits may be cut off. -/
theorem tooLarge_clampExponent (significand : Nat) (power : Int) :
    TooLarge significand (clampExponent power) ↔ TooLarge significand power := by
  have sorted : clampExponent power = power ∨ clampExponent power < 0 ∧ power < 0 ∨
      308 < clampExponent power ∧ 308 < power := by
    unfold clampExponent
    omega
  rcases sorted with same | ⟨below, negative⟩ | ⟨above, large⟩
  · rw [same]
  · simp [TooLarge, not_le.mpr below, not_le.mpr negative]
  · have positive : 0 ≤ clampExponent power ∧ 0 ≤ power := by omega
    simp [TooLarge, positive, not_le.mpr above, not_le.mpr large]

/-- Scaling reads nothing, and succeeds for a number that fits. -/
theorem leaves_toFloat (value : Significand) (text rest : List Char) :
    Leaves (value.toFloat text) rest ↔ text = rest ∧ value.Fits none := by
  have fits := scaled_isSome_iff value.digits value.exponent.natAbs value.exponent
  rw [Significand.Fits, ← fits, Significand.toFloat]
  split
  · next size found => simp [found]
  · next found => simp [found, stopAt]

/-- The digits of an exponent are taken to their end, or their number is 2^31 or more. -/
theorem takeExponent_append {digits : List Char}
    (known : ∀ c ∈ digits, Decimal.isDigit c = true) {rest : List Char}
    (stops : startsWithDigit rest = false) {value : Nat} (small : value < 0x80000000) :
    (Nat.ofDigitChars 10 digits value < 0x80000000 ∧
      takeExponent value (digits ++ rest) = (some (Nat.ofDigitChars 10 digits value), rest)) ∨
    (0x80000000 ≤ Nat.ofDigitChars 10 digits value ∧
      ∃ others, (∀ c ∈ others, Decimal.isDigit c = true) ∧
        takeExponent value (digits ++ rest) = (none, others ++ rest)) := by
  induction digits generalizing value with
  | nil =>
      left
      cases rest with
      | nil => exact ⟨small, rfl⟩
      | cons c rest =>
          have noDigit : Decimal.isDigit c = false := stops
          simpa [takeExponent, noDigit] using small
  | cons c digits ih =>
      obtain ⟨first, others⟩ := List.forall_mem_cons.mp known
      rw [ofDigitChars_digit]
      by_cases fits : value * 10 + (c.toNat - 48) < 0x80000000
      · simpa [takeExponent, first, fits] using ih others fits
      · have grows := le_ofDigitChars digits (value * 10 + (c.toNat - 48))
        exact .inr ⟨by omega, digits, others, by simp [takeExponent, first, fits]⟩

/-- The text stands after the mark of the exponent. -/
theorem scanExponent_append (value : Significand) (exponent : Exponent) (behind : List Char) :
    scanExponent value (exponent.sign.toList ++ (exponent.digits.text ++ behind)) =
      match takeExponent 0 (exponent.digits.text ++ behind) with
      | (some size, rest) =>
          ({ value with exponent := clampExponent (if exponent.isNegative then
              value.exponent - size else value.exponent + size) } : Significand).toFloat rest
      | (none, rest) =>
          if value.digits != 0 && !exponent.isNegative then stopAt .numberOutOfRange rest
          else .ok (.float (Decimal.withSign value.negative 0.0),
            rest.dropWhile Decimal.isDigit) := by
  obtain ⟨mark, marks, sign, signs, digits⟩ := exponent
  obtain ⟨c, others, same⟩ := List.exists_cons_of_ne_nil digits.filled
  have digit := digits.known c (by simp [same])
  have noSign : c ≠ '+' ∧ c ≠ '-' := ⟨ne_of_numeral (.inr digit) (by decide), by
    rintro rfl
    exact absurd digit (by decide)⟩
  simp only [same, List.cons_append]
  -- The matches on both sides are open once it is known what is taken.
  generalize taken : takeExponent 0 (c :: (others ++ behind)) = scanned
  obtain ⟨size, rest⟩ := scanned
  cases sign with
  | none => cases size <;> simp [scanExponent, taken, digit, noSign, Exponent.isNegative]
  | some sign =>
      rcases signs sign rfl with rfl | rfl <;> cases size <;>
        simp [scanExponent, taken, digit, Exponent.isNegative]

/-- An exponent is scanned up to its end if the number fits. -/
theorem leaves_scanExponent (value : Significand) (exponent : Exponent) {behind : List Char}
    (stops : startsWithDigit behind = false) (rest : List Char) :
    Leaves (scanExponent value (exponent.sign.toList ++ (exponent.digits.text ++ behind))) rest ↔
      behind = rest ∧ value.Fits (some exponent) := by
  rw [scanExponent_append]
  obtain ⟨small, taken⟩ | ⟨large, others, known, taken⟩ :=
    takeExponent_append exponent.digits.known stops (by decide : 0 < 0x80000000)
  · have small : exponent.size < 0x80000000 := small
    have power : (if exponent.isNegative = true then value.exponent - exponent.size else
        value.exponent + exponent.size) = value.exponent + exponent.value := by
      unfold Exponent.value
      split <;> omega
    have taken : takeExponent 0 (exponent.digits.text ++ behind) =
        (some exponent.size, behind) := taken
    simp only [taken, leaves_toFloat, Significand.Fits, tooLarge_clampExponent, if_pos small, power]
  · have unread : ¬ exponent.size < 0x80000000 := not_lt.mpr large
    simp only [taken, Significand.Fits, unread, if_false, dropWhile_digits known stops]
    cases negative : exponent.isNegative <;> by_cases zero : value.digits = 0 <;>
      simp [zero, stopAt]

/-- What stands behind a number does not go on with its exponent or begin one. -/
structure EndsScale (exponent : Option Exponent) (behind : List Char) : Prop where
  noDigit : startsWithDigit behind = false
  noMark : exponent = none → ∀ c ∈ behind.head?, isExponentMark c = false

/-- Digits without an exponent are scaled as they are. -/
theorem scanScale_ends (value : Significand) {behind : List Char} (ends : EndsScale none behind) :
    scanScale value behind = value.toFloat behind := by
  cases behind with
  | nil => rfl
  | cons c behind =>
      have noMark := ends.noMark rfl c rfl
      simp [scanScale, noMark]

/-- Digits with or without an exponent are scanned up to their end if the number fits. -/
theorem leaves_scanScale (value : Significand) {exponent : Option Exponent} {behind : List Char}
    (ends : EndsScale exponent behind) (rest : List Char) :
    Leaves (scanScale value (exponentText exponent ++ behind)) rest ↔
      behind = rest ∧ value.Fits exponent := by
  cases exponent with
  | none =>
      rw [exponentText, Option.elim_none, List.nil_append, ← leaves_toFloat,
        scanScale_ends value ends]
  | some exponent =>
      rw [← leaves_scanExponent value exponent ends.noDigit]
      simp [exponentText, Exponent.text, scanScale, exponent.marks]

/-- A text begins with a sign or does not. -/
theorem exists_sign (text : List Char) :
    ∃ (sign : Option Char) (digits : List Char), (∀ c ∈ sign, c = '+' ∨ c = '-') ∧
      text = sign.toList ++ digits ∧ (sign = none → ∀ c ∈ digits.head?, c ≠ '+' ∧ c ≠ '-') := by
  cases text with
  | nil => exact ⟨none, [], by simp, rfl, by simp⟩
  | cons c text =>
      by_cases signed : c = '+' ∨ c = '-'
      · exact ⟨some c, text, by simpa using signed, rfl, by simp⟩
      · exact ⟨none, c :: text, by simp, rfl, by simpa using not_or.mp signed⟩

/-- The mark of an exponent without digits is refused. -/
theorem not_leaves_scanExponent (value : Significand) {sign : Option Char} {digits : List Char}
    (signs : ∀ c ∈ sign, c = '+' ∨ c = '-')
    (unsigned : sign = none → ∀ c ∈ digits.head?, c ≠ '+' ∧ c ≠ '-')
    (noDigit : startsWithDigit digits = false) (rest : List Char) :
    ¬ Leaves (scanExponent value (sign.toList ++ digits)) rest := by
  cases digits with
  | nil =>
      cases sign with
      | none => simp [scanExponent, stopAt]
      | some sign => rcases signs sign rfl with rfl | rfl <;> simp [scanExponent, stopAt]
  | cons c digits =>
      have other : Decimal.isDigit c = false := noDigit
      cases sign with
      | none =>
          have noSign := unsigned rfl c rfl
          simp [scanExponent, other, noSign, stopAfter]
      | some sign =>
          rcases signs sign rfl with rfl | rfl <;> simp [scanExponent, other, stopAfter]

/-- What is scanned behind a mark begins with an exponent. -/
theorem exists_exponent {value : Significand} {text rest : List Char}
    (leaves : Leaves (scanExponent value text) rest) {mark : Char}
    (marks : isExponentMark mark = true) :
    ∃ (exponent : Exponent) (behind : List Char), mark :: text = exponent.text ++ behind ∧
      startsWithDigit behind = false := by
  obtain ⟨sign, digits, signs, rfl, unsigned⟩ := exists_sign text
  cases starts : startsWithDigit digits with
  | false => exact absurd leaves (not_leaves_scanExponent value signs unsigned starts rest)
  | true =>
      obtain ⟨digits, behind, rfl, stops⟩ := exists_digits starts
      exact ⟨⟨mark, marks, sign, signs, digits⟩, behind, by simp [Exponent.text], stops⟩

/-- What is scanned behind the digits begins with an exponent or goes on with none. -/
theorem exists_scale {value : Significand} {text rest : List Char}
    (leaves : Leaves (scanScale value text) rest) (stops : startsWithDigit text = false) :
    ∃ (exponent : Option Exponent) (behind : List Char),
      text = exponentText exponent ++ behind ∧ EndsScale exponent behind := by
  obtain _ | ⟨c, text⟩ := text
  · exact ⟨none, [], rfl, rfl, by simp⟩
  · cases marks : isExponentMark c with
    | false => exact ⟨none, c :: text, rfl, stops, by simpa using marks⟩
    | true =>
        rw [scanScale, if_pos marks] at leaves
        obtain ⟨exponent, behind, same, noDigit⟩ := exists_exponent leaves marks
        exact ⟨some exponent, behind, same, noDigit, by simp⟩

end Scale

theorem noDigit_mark {mark : Char} (marks : isExponentMark mark = true) (text : List Char) :
    startsWithDigit (mark :: text) = false := by
  rcases (by simpa [isExponentMark] using marks : mark = 'e' ∨ mark = 'E') with rfl | rfl <;> rfl

section Whole

/-- Digits behind the point lower the exponent as far as they are taken. -/
def Significand.withFraction (value : Significand) (fraction : Digits) : Significand where
  negative := value.negative
  digits := (takeDigits value.digits fraction.text).1
  exponent := value.exponent - (takeDigits value.digits fraction.text).2.1

def Significand.ofWhole (negative : Bool) (whole : Digits) : Significand where
  negative := negative
  digits := (takeDigits 0 whole.text).1
  exponent := (takeDigits 0 whole.text).2.2.length

/-- The digits of a fraction are scanned up to their end. -/
theorem scanFraction_append (value : Significand) (fraction : Digits) {behind : List Char}
    (stops : startsWithDigit behind = false) :
    scanFraction value (fraction.text ++ behind) =
      scanScale (value.withFraction fraction) behind := by
  have taken := takeDigits_append fraction.known stops value.digits
  have passed := takeDigits_known fraction.known value.digits
  have left := takeDigits_drop value.digits fraction.text
  simp only [scanFraction, taken]
  cases more : (takeDigits value.digits fraction.text).2.2 with
  | nil =>
      have some : (takeDigits value.digits fraction.text).2.1 ≠ 0 := by
        intro none
        rw [more, none, List.drop_zero] at left
        exact fraction.filled left.symm
      rw [List.nil_append, stops, if_neg Bool.false_ne_true, if_neg some]
      rfl
  | cons c others =>
      rw [more] at passed
      have starts : startsWithDigit (c :: others ++ behind) = true := passed c (by simp)
      rw [if_pos starts, dropWhile_digits passed stops]
      rfl

/-- A point is followed by a digit. -/
theorem starts_of_scanFraction {value : Significand} {text rest : List Char}
    (leaves : Leaves (scanFraction value text) rest) : startsWithDigit text = true := by
  cases starts : startsWithDigit text with
  | true => rfl
  | false =>
      have taken : takeDigits value.digits text = (value.digits, 0, text) :=
        takeDigits_append (List.forall_mem_nil _) starts value.digits
      cases text <;> simp [scanFraction, taken, starts, stopAt, stopAfter] at leaves

/-- A number that all digits of the integer part make has 64 bits. -/
def Digits.Short (whole : Digits) : Prop :=
  Nat.ofDigitChars 10 whole.text 0 < 0x10000000000000000

/-- An integer part has 64 bits when all of its digits are taken. -/
theorem Digits.short_iff (whole : Digits) :
    whole.Short ↔ (takeDigits 0 whole.text).2.2 = [] :=
  (takeDigits_all_iff whole.known (by decide)).symm

/-- An integer part of 64 bits is scanned up to its end. -/
theorem scanUnsigned_short (negative : Bool) {whole : Digits}
    (plain : whole.text.head? = some '0' → whole.text = ['0']) (short : whole.Short)
    {behind : List Char} (stops : startsWithDigit behind = false) :
    scanUnsigned negative (whole.text ++ behind) =
      scanAfterWhole negative (Significand.ofWhole negative whole).digits behind := by
  have taken := takeDigits_append whole.known stops 0
  rw [whole.short_iff.mp short, List.nil_append] at taken
  obtain ⟨c, others, same⟩ := List.exists_cons_of_ne_nil whole.filled
  have digit := whole.known c (by simp [same])
  by_cases zero : c = '0'
  · have alone : whole.text = ['0'] := plain (by rw [same, zero]; rfl)
    rw [Significand.ofWhole, alone]
    simp [scanUnsigned, stops, takeDigits, Decimal.isDigit]
  · rw [same, List.cons_append] at taken
    simp [scanUnsigned, same, zero, digit, taken, stops, Significand.ofWhole]

/-- A longer integer part is scanned as far as its digits are taken. -/
theorem scanUnsigned_long (negative : Bool) {whole : Digits}
    (plain : whole.text.head? = some '0' → whole.text = ['0']) (long : ¬ whole.Short)
    {behind : List Char} (stops : startsWithDigit behind = false) :
    scanUnsigned negative (whole.text ++ behind) =
      scanLongWhole negative (takeDigits 0 whole.text).1
        ((takeDigits 0 whole.text).2.2 ++ behind) := by
  have taken := takeDigits_append whole.known stops 0
  have passed := takeDigits_known whole.known 0
  rw [whole.short_iff] at long
  have starts : startsWithDigit ((takeDigits 0 whole.text).2.2 ++ behind) = true := by
    obtain ⟨d, more, extra⟩ := List.exists_cons_of_ne_nil long
    rw [extra]
    exact passed d (by simp [extra])
  obtain ⟨c, others, same⟩ := List.exists_cons_of_ne_nil whole.filled
  have digit := whole.known c (by simp [same])
  have nonzero : c ≠ '0' := by
    rintro rfl
    have alone : whole.text = ['0'] := plain (by rw [same]; rfl)
    rw [alone] at long
    exact long rfl
  rw [same, List.cons_append] at taken ⊢
  rw [same] at starts
  simp [scanUnsigned, nonzero, digit, taken, starts]

variable (negative : Bool) {whole : Digits}
  (plain : whole.text.head? = some '0' → whole.text = ['0'])

include plain

/-- A point is followed by the digits of the fraction. -/
theorem scanUnsigned_point (text : List Char) :
    scanUnsigned negative (whole.text ++ '.' :: text) =
      scanFraction (Significand.ofWhole negative whole) text := by
  by_cases short : whole.Short
  · rw [scanUnsigned_short negative plain short rfl, Significand.ofWhole,
      whole.short_iff.mp short]
    rfl
  · rw [scanUnsigned_long negative plain short rfl, scanLongWhole,
      spanDigits_append (takeDigits_known whole.known 0) rfl]
    rfl

/-- A mark is followed by the exponent. -/
theorem scanUnsigned_mark {mark : Char} (marks : isExponentMark mark = true) (text : List Char) :
    scanUnsigned negative (whole.text ++ mark :: text) =
      scanExponent (Significand.ofWhole negative whole) text := by
  have noDigit := noDigit_mark marks text
  have noPoint : mark ≠ '.' := by
    rintro rfl
    exact absurd marks (by decide)
  by_cases short : whole.Short
  · rw [scanUnsigned_short negative plain short noDigit, Significand.ofWhole,
      whole.short_iff.mp short]
    simp [scanAfterWhole, noPoint, marks]
  · rw [scanUnsigned_long negative plain short noDigit, scanLongWhole,
      spanDigits_append (takeDigits_known whole.known 0) noDigit]
    simp [scanScale, noPoint, marks, Significand.ofWhole]

end Whole

section Numeral

def Numeral.significand (numeral : Numeral) : Significand :=
  let value := Significand.ofWhole numeral.negative numeral.whole
  numeral.fraction.elim value value.withFraction

/-- The decoder has a value for the number. -/
def Numeral.Fits (numeral : Numeral) : Prop :=
  numeral.fraction = none ∧ numeral.exponent = none ∧ numeral.whole.Short ∨
    numeral.significand.Fits numeral.exponent

/-- What stands behind a number does not go on with it. -/
structure Numeral.Ends (numeral : Numeral) (behind : List Char) : Prop where
  scale : EndsScale numeral.exponent behind
  noPoint : numeral.fraction = none → numeral.exponent = none → ∀ c ∈ behind.head?, c ≠ '.'

theorem noDigit_exponentText {behind : List Char} (stops : startsWithDigit behind = false)
    (exponent : Option Exponent) : startsWithDigit (exponentText exponent ++ behind) = false := by
  cases exponent with
  | none => exact stops
  | some exponent => exact noDigit_mark exponent.marks _

/-- Digits that make an integer of 64 bits are not scaled. -/
theorem scanUnsigned_whole {numeral : Numeral} {behind : List Char} (ends : numeral.Ends behind)
    (noFraction : numeral.fraction = none) (noExponent : numeral.exponent = none)
    (short : numeral.whole.Short) :
    scanUnsigned numeral.negative (numeral.unsignedText ++ behind) =
      .ok (wholeNumber numeral.negative numeral.significand.digits, behind) := by
  obtain ⟨negative, whole, plain, fraction, exponent⟩ := numeral
  obtain rfl : fraction = none := noFraction
  obtain rfl : exponent = none := noExponent
  simp only [Numeral.unsignedText, fractionText, exponentText, Option.elim_none, List.append_nil]
  rw [scanUnsigned_short negative plain short ends.scale.noDigit]
  cases behind with
  | nil => rfl
  | cons c behind =>
      have noMark := ends.scale.noMark rfl c rfl
      have noPoint := ends.noPoint rfl rfl c rfl
      simp [scanAfterWhole, noMark, noPoint, Numeral.significand]

/-- All other digits are scaled by their power of ten. -/
theorem scanUnsigned_scaled {numeral : Numeral} {behind : List Char} (ends : numeral.Ends behind)
    (other : ¬ (numeral.fraction = none ∧ numeral.exponent = none ∧ numeral.whole.Short)) :
    scanUnsigned numeral.negative (numeral.unsignedText ++ behind) =
      scanScale numeral.significand (exponentText numeral.exponent ++ behind) := by
  obtain ⟨negative, whole, plain, fraction, exponent⟩ := numeral
  simp only [Numeral.unsignedText, List.append_assoc]
  cases fraction with
  | some fraction =>
      have stops := noDigit_exponentText ends.scale.noDigit exponent
      rw [fractionText, Option.elim_some, List.cons_append, scanUnsigned_point negative plain,
        scanFraction_append _ _ stops]
      rfl
  | none =>
      rw [fractionText, Option.elim_none, List.nil_append]
      cases exponent with
      | some exponent =>
          rw [exponentText, Option.elim_some, Exponent.text, List.cons_append,
            scanUnsigned_mark negative plain exponent.marks, scanScale, if_pos exponent.marks]
          rfl
      | none =>
          have long : ¬ whole.Short := fun short => other ⟨rfl, rfl, short⟩
          rw [exponentText, Option.elim_none, List.nil_append,
            scanUnsigned_long negative plain long ends.scale.noDigit, scanLongWhole,
            spanDigits_append (takeDigits_known whole.known 0) ends.scale.noDigit]
          cases behind with
          | nil => rfl
          | cons c behind =>
              have noPoint := ends.noPoint rfl rfl c rfl
              simp [noPoint, Numeral.significand, Significand.ofWhole]

/-- A literal without its sign is scanned up to its end if it fits. -/
theorem leaves_scanUnsigned (numeral : Numeral) {behind : List Char}
    (ends : numeral.Ends behind) (rest : List Char) :
    Leaves (scanUnsigned numeral.negative (numeral.unsignedText ++ behind)) rest ↔
      behind = rest ∧ numeral.Fits := by
  by_cases whole : numeral.fraction = none ∧ numeral.exponent = none ∧ numeral.whole.Short
  · rw [scanUnsigned_whole ends whole.1 whole.2.1 whole.2.2]
    simp [Numeral.Fits, whole]
  · rw [scanUnsigned_scaled ends whole, leaves_scanScale _ ends.scale]
    simp [Numeral.Fits, whole]

theorem scanNumber_unsigned {text : List Char} (unsigned : ∀ c ∈ text.head?, c ≠ '-') :
    scanNumber text = scanUnsigned false text := by
  cases text with
  | nil => rfl
  | cons c text =>
      have noSign := unsigned c rfl
      simp [scanNumber, noSign]

/-- A literal is scanned behind its sign. -/
theorem scanNumber_text (numeral : Numeral) (behind : List Char) :
    scanNumber (numeral.text ++ behind) =
      scanUnsigned numeral.negative (numeral.unsignedText ++ behind) := by
  rw [Numeral.text]
  cases negative : numeral.negative with
  | true => rfl
  | false =>
      obtain ⟨c, others, same⟩ := List.exists_cons_of_ne_nil numeral.whole.filled
      have digit := numeral.whole.known c (by simp [same])
      have noSign : c ≠ '-' := by
        rintro rfl
        exact absurd digit (by decide)
      rw [if_neg Bool.false_ne_true, List.nil_append, scanNumber_unsigned]
      simpa [Numeral.unsignedText, same] using noSign

/-- A literal is scanned up to its end if it fits. -/
theorem leaves_scanNumber (numeral : Numeral) {behind : List Char}
    (ends : numeral.Ends behind) (rest : List Char) :
    Leaves (scanNumber (numeral.text ++ behind)) rest ↔ behind = rest ∧ numeral.Fits := by
  rw [← leaves_scanUnsigned numeral ends, scanNumber_text]

/-- What is scanned begins with an integer part. -/
theorem exists_whole {negative : Bool} {text rest : List Char}
    (leaves : Leaves (scanUnsigned negative text) rest) :
    ∃ (whole : Digits) (behind : List Char), text = whole.text ++ behind ∧
      (whole.text.head? = some '0' → whole.text = ['0']) ∧ startsWithDigit behind = false := by
  obtain _ | ⟨c, others⟩ := text
  · simp [scanUnsigned, stopAt] at leaves
  · by_cases zero : c = '0'
    · cases starts : startsWithDigit others with
      | true => simp [scanUnsigned, zero, starts, stopAfter] at leaves
      | false => exact ⟨.zero, others, by simp [zero], fun _ => rfl, starts⟩
    · cases starts : startsWithDigit (c :: others) with
      | false =>
          have noDigit : Decimal.isDigit c = false := starts
          simp [scanUnsigned, zero, noDigit, stopAfter] at leaves
      | true =>
          obtain ⟨whole, behind, same, stops⟩ := exists_digits starts
          refine ⟨whole, behind, same, ?_, stops⟩
          intro head
          obtain ⟨d, digits, begins⟩ := List.exists_cons_of_ne_nil whole.filled
          rw [begins, List.cons_append] at same
          rw [begins, List.head?_cons, ← (List.cons.inj same).1] at head
          exact absurd (Option.some.inj head) zero

/-- What is read begins with a number literal that nothing behind it goes on with. -/
theorem exists_unsigned {negative : Bool} {text rest : List Char}
    (leaves : Leaves (scanUnsigned negative text) rest) :
    ∃ (numeral : Numeral) (behind : List Char), numeral.negative = negative ∧
      text = numeral.unsignedText ++ behind ∧ numeral.Ends behind := by
  obtain ⟨whole, behind, rfl, plain, stops⟩ := exists_whole leaves
  obtain _ | ⟨c, others⟩ := behind
  · exact ⟨⟨negative, whole, plain, none, none⟩, [], rfl, by simp [Numeral.unsignedText,
      fractionText, exponentText], ⟨stops, by simp⟩, by simp⟩
  · by_cases point : c = '.'
    · subst point
      rw [scanUnsigned_point negative plain] at leaves
      obtain ⟨fraction, behind, rfl, noDigit⟩ := exists_digits (starts_of_scanFraction leaves)
      rw [scanFraction_append _ _ noDigit] at leaves
      obtain ⟨exponent, behind, rfl, ends⟩ := exists_scale leaves noDigit
      exact ⟨⟨negative, whole, plain, some fraction, exponent⟩, behind, rfl,
        by simp [Numeral.unsignedText, fractionText], ends, by simp⟩
    · cases marks : isExponentMark c with
      | true =>
          rw [scanUnsigned_mark negative plain marks] at leaves
          obtain ⟨exponent, behind, same, noDigit⟩ := exists_exponent leaves marks
          exact ⟨⟨negative, whole, plain, none, some exponent⟩, behind, rfl,
            by simp [Numeral.unsignedText, fractionText, exponentText, same],
            ⟨noDigit, by simp⟩, by simp⟩
      | false =>
          exact ⟨⟨negative, whole, plain, none, none⟩, c :: others, rfl,
            by simp [Numeral.unsignedText, fractionText, exponentText],
            ⟨stops, by simpa using marks⟩, by simpa using point⟩

/-- A number is read exactly where one stands that fits. -/
theorem leaves_scanNumber_iff (text rest : List Char) :
    Leaves (scanNumber text) rest ↔
      ∃ numeral : Numeral, text = numeral.text ++ rest ∧ numeral.Ends rest ∧ numeral.Fits := by
  constructor
  · intro leaves
    have found : ∃ (numeral : Numeral) (behind : List Char),
        text = numeral.text ++ behind ∧ numeral.Ends behind := by
      by_cases signed : text.head? = some '-'
      · obtain ⟨others, rfl⟩ := List.head?_eq_some_iff.mp signed
        have leaves : Leaves (scanUnsigned true others) rest := leaves
        obtain ⟨numeral, behind, negative, rfl, ends⟩ := exists_unsigned leaves
        exact ⟨numeral, behind, by simp [Numeral.text, negative], ends⟩
      · rw [scanNumber_unsigned fun c head same => signed (same ▸ head)] at leaves
        obtain ⟨numeral, behind, negative, rfl, ends⟩ := exists_unsigned leaves
        exact ⟨numeral, behind, by simp [Numeral.text, negative], ends⟩
    obtain ⟨numeral, behind, rfl, ends⟩ := found
    obtain ⟨rfl, fits⟩ := (leaves_scanNumber numeral ends rest).mp leaves
    exact ⟨numeral, rfl, ends, fits⟩
  · rintro ⟨numeral, rfl, ends, fits⟩
    exact (leaves_scanNumber numeral ends rest).mpr ⟨rfl, fits⟩

end Numeral

end HostBridge.Json
