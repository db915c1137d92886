/-
This file writes doubles in other bases than ten.
-/
import HostBridge.Decimal.Remainder

namespace HostBridge.Decimal

/-- The digit of a value below 36. -/
def radixDigit (value : Nat) : Char := Char.ofNat (if value < 10 then 48 + value else 87 + value)

def radixDigitsWithin (radix : Nat) : Nat → Nat → List Char → List Char
  | 0, _, behind => behind
  | bound + 1, value, behind =>
      if value < radix then radixDigit value :: behind
      else radixDigitsWithin radix bound (value / radix) (radixDigit (value % radix) :: behind)

/-- The digits of an integer. -/
def radixDigits (radix value : Nat) : List Char :=
  radixDigitsWithin radix (value.log2 + 1) value []

/-- Integers up to this size are all doubles. -/
def exactLimit : Float := 9007199254740991.0

/-- The digits of an integer beyond the exact ones. Those that no double shows are zeros. The first
argument bounds their number. -/
def largeDigits (radix : Float) : Nat → Float → List Char → List Char
  | 0, _, behind => behind
  | bound + 1, size, behind =>
      if size < radix then radixDigit size.toUInt64.toNat :: behind
      else
        let next := (size / radix).floor
        let digit := (remainder size radix).toUInt64.toNat
        let shown := if exactLimit ≤ next then 0 else digit
        largeDigits radix bound next (radixDigit shown :: behind)

/-- The digits behind the point, the last one first, and what is left. The first argument bounds
their number, and the fourth one is the value of all digits so far. -/
def fractionDigits (radix : Float) : Nat → Float → Float → Float → List Nat → List Nat × Float
  | 0, _, rest, _, digits => (digits, rest)
  | bound + 1, room, rest, value, digits =>
      if rest == 0.0 || exactLimit / 2.0 < value || room ≤ 0.0 then (digits, rest)
      else
        let digit := (rest * radix).floor
        fractionDigits radix bound (room - radix.log2) (rest * radix - digit)
          (value * radix + digit) (digit.toUInt64.toNat :: digits)

/-- One more in the last place. What is no digit of the fraction is carried over. -/
def raiseDigits (radix : Nat) : List Nat → List Nat × Bool
  | [] => ([], true)
  | digit :: before =>
      if digit + 1 = radix then raiseDigits radix before
      else ((digit + 1) :: before, false)

/-- The text of a size with a fraction. -/
def fractionText (radix whole : Nat) (fraction : Float) : String :=
  let base := Float.ofNat radix
  let (digits, rest) := fractionDigits base 1100 1074.0 fraction (Float.ofNat whole) []
  let (digits, carried) :=
    if Float.ofNat (radix / 2) ≤ rest * base then raiseDigits radix digits
    else (digits.dropWhile (· = 0), false)
  let whole := if carried then whole + 1 else whole
  String.ofList (radixDigits radix whole) ++
    (if digits.isEmpty then "" else "." ++ String.ofList (digits.reverse.map radixDigit))

/-- The text of a finite double in a base. -/
def radixText (radix : Nat) (number : Float) : String :=
  let size := number.abs
  let whole := size.floor
  (if number < 0.0 then "-" else "") ++
    if exactLimit < whole then
      String.ofList (largeDigits (Float.ofNat radix) 1100 whole [])
    else if size == whole then String.ofList (radixDigits radix whole.toUInt64.toNat)
    else fractionText radix whole.toUInt64.toNat (size - whole)

end HostBridge.Decimal
