/-
This file gives what is left of a double that is divided.
-/
import HostBridge.Decimal.Dyadic

namespace HostBridge.Decimal

/-- The remainder of two sizes on the finer one of their grids. -/
def remainderSize (left right : Dyadic) : Float :=
  let unit := min left.exponent right.exponent
  let dividend := left.mantissa * Nat.pow 2 (left.exponent - unit).toNat
  let divisor := right.mantissa * Nat.pow 2 (right.exponent - unit).toNat
  (Float.ofNat (dividend % divisor)).scaleB unit

/-- The remainder has the sign of the number that is divided and is exact. -/
def remainder (left right : Float) : Float :=
  if left.isNaN || right.isNaN || left.isInf || right == 0.0 then 0.0 / 0.0
  else if right.isInf || left == 0.0 then left
  else
    let size := remainderSize (Dyadic.ofFloat left) (Dyadic.ofFloat right)
    if left < 0.0 then -size else size

end HostBridge.Decimal
