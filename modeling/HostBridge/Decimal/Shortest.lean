/-
This file finds the fewest digits that read back as the same double.
-/
import HostBridge.Decimal.Dyadic

namespace HostBridge.Decimal

/-- A positive number, written as digits times a power of ten. -/
structure Scientific where
  digits : Nat
  exponent : Int
deriving DecidableEq

/-- A fraction of natural numbers. -/
structure Fraction where
  numerator : Nat
  denominator : Nat

def Fraction.ofScaled (count : Nat) (exponent : Int) : Fraction :=
  if 0 ≤ exponent then ⟨count * Nat.pow 2 exponent.toNat, 1⟩ else ⟨count, Nat.pow 2 (-exponent).toNat⟩

/-- The fraction in units of a power of ten. -/
def Fraction.inUnits (value : Fraction) (exponent : Int) : Fraction :=
  if 0 ≤ exponent then ⟨value.numerator, value.denominator * Nat.pow 10 exponent.toNat⟩
  else ⟨value.numerator * Nat.pow 10 (-exponent).toNat, value.denominator⟩

def digitCount (value : Nat) : Nat := (Nat.toDigits 10 value).length

/-- The number of digits before the point, which is not positive for a fraction below 0.1. -/
def Fraction.magnitude (value : Fraction) : Int :=
  if value.denominator ≤ value.numerator then digitCount (value.numerator / value.denominator)
  else
    let places := digitCount (value.denominator / value.numerator)
    if value.denominator ≤ value.numerator * Nat.pow 10 (places - 1) then 2 - places else 1 - places

/-- The reals that round to a double, in quarters of its last place. -/
structure Cell where
  low : Nat
  value : Nat
  high : Nat
  exponent : Int
  closed : Bool

/-- The ends of a cell belong to it when the mantissa is even. -/
def Cell.ofDyadic (value : Dyadic) : Cell where
  low := 4 * value.mantissa - (if value.narrow then 1 else 2)
  value := 4 * value.mantissa
  high := 4 * value.mantissa + 2
  exponent := value.exponent - 2
  closed := value.mantissa % 2 = 0

/-- A point of the grid of a power of ten lies in the cell. -/
def Cell.holds (cell : Cell) (point : Nat) (unit : Int) : Bool :=
  let low := (Fraction.ofScaled cell.low cell.exponent).inUnits unit
  let high := (Fraction.ofScaled cell.high cell.exponent).inUnits unit
  if cell.closed then low.numerator ≤ point * low.denominator && point * high.denominator ≤ high.numerator
  else low.numerator < point * low.denominator && point * high.denominator < high.numerator

/-- Of the two neighbours on the grid that lie in the cell the nearer one is taken, and of two
equally near ones the even one. -/
def Cell.nearestOn? (cell : Cell) (unit : Int) : Option Nat :=
  let value := (Fraction.ofScaled cell.value cell.exponent).inUnits unit
  let below := value.numerator / value.denominator
  let twice := 2 * (value.numerator % value.denominator)
  match cell.holds below unit, cell.holds (below + 1) unit with
  | false, false => none
  | true, false => some below
  | false, true => some (below + 1)
  | true, true =>
      if twice < value.denominator then some below
      else if value.denominator < twice then some (below + 1)
      else if below % 2 = 0 then some below
      else some (below + 1)

/-- Trailing zeros move into the exponent. The first argument bounds their number. -/
def Scientific.stripped : Nat → Scientific → Scientific
  | 0, value => value
  | bound + 1, value =>
      if value.digits % 10 = 0 then stripped bound ⟨value.digits / 10, value.exponent + 1⟩
      else value

/-- Grids of ever more digits are tried. -/
def Cell.shortestFrom (cell : Cell) (magnitude : Int) : Nat → Nat → Scientific
  | 0, count => ⟨0, magnitude - count⟩
  | tries + 1, count =>
      let unit := magnitude - count
      match cell.nearestOn? unit with
      | some point => Scientific.stripped 2 ⟨point, unit⟩
      | none => cell.shortestFrom magnitude tries (count + 1)

/-- The shortest digits of the size of a finite double other than zero. Seventeen digits are always
enough. -/
def shortest (value : Dyadic) : Scientific :=
  let cell := Cell.ofDyadic value
  cell.shortestFrom (Fraction.ofScaled cell.value cell.exponent).magnitude 17 1

end HostBridge.Decimal
