/-
This file gives the exact value of a double.
-/

namespace HostBridge.Decimal

/-- A mantissa times a power of two, with a sign. -/
structure Dyadic where
  negative : Bool
  mantissa : Nat
  exponent : Int
  /-- The next double toward zero is half as far away as the next one outward. -/
  narrow : Bool
deriving DecidableEq

/-- The value of a finite double, which has 52 bits of fraction after 11 bits of exponent. -/
def Dyadic.ofFloat (x : Float) : Dyadic :=
  let bits := x.toBits.toNat
  let biased := bits / 0x10000000000000 % 0x800
  let fraction := bits % 0x10000000000000
  let negative := bits / 0x8000000000000000 == 1
  if biased = 0 then ⟨negative, fraction, -1074, false⟩
  else ⟨negative, fraction + 0x10000000000000, Int.ofNat biased - 1075, fraction == 0 && 1 < biased⟩

/-- The value, if it is an integer. -/
def Dyadic.integer? (value : Dyadic) : Option Int :=
  let size : Option Nat :=
    if 0 ≤ value.exponent then some (value.mantissa * Nat.pow 2 value.exponent.toNat)
    else
      let unit := Nat.pow 2 (-value.exponent).toNat
      if value.mantissa % unit = 0 then some (value.mantissa / unit) else none
  size.map fun size => if value.negative then -(Int.ofNat size) else Int.ofNat size

/-- The integer that a double is equal to. -/
def integerOfFloat? (x : Float) : Option Int :=
  if x.isFinite then (Dyadic.ofFloat x).integer? else none

end HostBridge.Decimal
