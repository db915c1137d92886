/-
This file lays out the digits of a double as text.
-/
import HostBridge.Decimal.Bisection

namespace HostBridge.Decimal

/-- The decisions of a number format. -/
structure Layout where
  /-- The digits that stand for the size of a number. -/
  digits : Dyadic → Scientific
  /-- The least power of ten of a first digit that is written without an exponent. -/
  lowest : Int
  /-- The least power of ten of a first digit above that range. -/
  limit : Int
  /-- An integer ends in a point and a zero. -/
  pointed : Bool
  zero : String
  negativeZero : String
  infinity : String
  negativeInfinity : String
  notNumber : String

def digitText (value : Nat) : String := String.ofList (Nat.toDigits 10 value)

def zeros (count : Nat) : String := String.ofList (List.replicate count '0')

/-- The point stands after the first digits, among them or before them. -/
def Layout.positional (layout : Layout) (value : Scientific) : String :=
  let digits := Nat.toDigits 10 value.digits
  let before := digits.length + value.exponent
  if 0 ≤ value.exponent then
    String.ofList digits ++ zeros value.exponent.toNat ++ (if layout.pointed then ".0" else "")
  else if 0 < before then
    String.ofList (digits.take before.toNat) ++ "." ++ String.ofList (digits.drop before.toNat)
  else "0." ++ zeros (-before).toNat ++ String.ofList digits

/-- The exponent always has its sign. -/
def exponential (value : Scientific) : String :=
  let digits := Nat.toDigits 10 value.digits
  let power := value.exponent + digits.length - 1
  let fraction := digits.drop 1
  String.ofList (digits.take 1) ++
    (if fraction.isEmpty then "" else "." ++ String.ofList fraction) ++
    (if power < 0 then "e-" else "e+") ++ digitText power.natAbs

def Layout.size (layout : Layout) (value : Scientific) : String :=
  let power := value.exponent + digitCount value.digits - 1
  if layout.lowest ≤ power && power < layout.limit then layout.positional value
  else exponential value

def Layout.text (layout : Layout) (x : Float) : String :=
  if x.isNaN then layout.notNumber
  else
    let value := Dyadic.ofFloat x
    if x.isInf then if value.negative then layout.negativeInfinity else layout.infinity
    else if value.mantissa = 0 then if value.negative then layout.negativeZero else layout.zero
    else (if value.negative then "-" else "") ++ layout.size (layout.digits value)

/-- A number of a JSON text shows that it is no integer literal. -/
def Layout.json : Layout where
  digits := shortest
  lowest := -5
  limit := 16
  pointed := true
  zero := "0.0"
  negativeZero := "-0.0"
  infinity := "inf"
  negativeInfinity := "-inf"
  notNumber := "NaN"

/-- A number of a script does not tell integers apart. -/
def Layout.script : Layout where
  digits := bisected
  lowest := -6
  limit := 21
  pointed := false
  zero := "0"
  negativeZero := "0"
  infinity := "Infinity"
  negativeInfinity := "-Infinity"
  notNumber := "NaN"

end HostBridge.Decimal
