/-
This file rounds doubles to a number of places or digits.
-/
import HostBridge.Decimal.Layout

namespace HostBridge.Decimal

/-- The nearest integer, the larger one of two. -/
def Fraction.rounded (value : Fraction) : Nat :=
  (2 * value.numerator + value.denominator) / (2 * value.denominator)

def Dyadic.fraction (value : Dyadic) : Fraction :=
  Fraction.ofScaled value.mantissa value.exponent

/-- The size of a double in units of its last place behind the point. -/
def Dyadic.inPlaces (value : Dyadic) (places : Nat) : Nat :=
  (value.fraction.inUnits (-places)).rounded

/-- The size of a double with a number of digits. Zero has a digit before the point. -/
def Dyadic.inDigits (value : Dyadic) (count : Nat) : Scientific :=
  if value.mantissa = 0 then ⟨0, 1 - count⟩
  else
    let unit := value.fraction.magnitude - count
    let digits := (value.fraction.inUnits unit).rounded
    if digits = Nat.pow 10 count then ⟨Nat.pow 10 (count - 1), unit + 1⟩ else ⟨digits, unit⟩

def padded (count : Nat) (digits : List Char) : List Char :=
  List.replicate (count - digits.length) '0' ++ digits

def signText (value : Dyadic) : String :=
  if value.negative && value.mantissa ≠ 0 then "-" else ""

/-- The text of a double with a number of places behind the point. -/
def fixedText (value : Dyadic) (places : Nat) : String :=
  let digits := padded (places + 1) (Nat.toDigits 10 (value.inPlaces places))
  let whole := digits.length - places
  signText value ++ String.ofList (digits.take whole) ++
    (if places = 0 then "" else "." ++ String.ofList (digits.drop whole))

/-- Digits and the power of ten of the first one, with an exponent. -/
def poweredText (digits : List Char) (power : Int) : String :=
  String.ofList (digits.take 1) ++
    (if digits.length < 2 then "" else "." ++ String.ofList (digits.drop 1)) ++
    (if power < 0 then "e-" else "e+") ++ digitText power.natAbs

/-- The text of a double with a number of digits and an exponent. -/
def scientificText (value : Dyadic) (count : Nat) : String :=
  let rounded := value.inDigits count
  signText value ++
    poweredText (padded count (Nat.toDigits 10 rounded.digits)) (rounded.exponent + count - 1)

/-- The text of a double with an exponent and as few digits as tell it from others. -/
def shortScientificText (value : Dyadic) : String :=
  if value.mantissa = 0 then "0e+0"
  else
    let found := bisected value
    let digits := Nat.toDigits 10 found.digits
    signText value ++ poweredText digits (found.exponent + digits.length - 1)

/-- The text of a double with a number of digits. An exponent is written where more digits would
stand before the point, or too many zeros behind it. -/
def preciseText (value : Dyadic) (count : Nat) : String :=
  let rounded := value.inDigits count
  let digits := padded count (Nat.toDigits 10 rounded.digits)
  let before := rounded.exponent + count
  if 0 < before && before ≤ count then
    signText value ++ String.ofList (digits.take before.toNat) ++
      (if before = count then "" else "." ++ String.ofList (digits.drop before.toNat))
  else if -5 ≤ before && before ≤ 0 then
    signText value ++ "0." ++ zeros (-before).toNat ++ String.ofList digits
  else signText value ++ poweredText digits (before - 1)

end HostBridge.Decimal
