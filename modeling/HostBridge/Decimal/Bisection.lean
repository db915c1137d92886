/-
This file finds digits that read back as the same double by halving the range of their number.
-/
import HostBridge.Decimal.Shortest

namespace HostBridge.Decimal

/-- The point of the grid of a power of ten that is nearest to the value, the even one of two. -/
def Cell.rounded (cell : Cell) (unit : Int) : Nat :=
  let value := (Fraction.ofScaled cell.value cell.exponent).inUnits unit
  let below := value.numerator / value.denominator
  let twice := 2 * (value.numerator % value.denominator)
  if twice < value.denominator then below
  else if value.denominator < twice then below + 1
  else if below % 2 = 0 then below
  else below + 1

/-- The value rounded to a number of digits, without the zeros at the end. -/
def Cell.roundedDigits (cell : Cell) (magnitude : Int) (count : Nat) : Scientific :=
  let unit := magnitude - count
  Scientific.stripped (count + 1) ⟨cell.rounded unit, unit⟩

/-- The value rounded to a number of digits reads back as the same double. -/
def Cell.suffices (cell : Cell) (magnitude : Int) (count : Nat) : Bool :=
  let unit := magnitude - count
  cell.holds (cell.rounded unit) unit

/-- A number of digits between two bounds, of which the upper one suffices. The first argument
bounds the steps. -/
def Cell.searchCount (cell : Cell) (magnitude : Int) : Nat → Nat → Nat → Nat
  | 0, _, high => high
  | steps + 1, low, high =>
      if high ≤ low then high
      else
        let middle := (low + high) / 2
        if cell.suffices magnitude middle then
          cell.searchCount magnitude steps low
            (digitCount (cell.roundedDigits magnitude middle).digits)
        else cell.searchCount magnitude steps (middle + 1) high

/-- The digits of the size of a finite double other than zero. A number of digits that does not
suffice rules out all smaller ones, although one of them may suffice. -/
def bisected (value : Dyadic) : Scientific :=
  let cell := Cell.ofDyadic value
  let magnitude := (Fraction.ofScaled cell.value cell.exponent).magnitude
  cell.roundedDigits magnitude (cell.searchCount magnitude 17 1 17)

end HostBridge.Decimal
