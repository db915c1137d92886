/-
This file defines the functions of mathematics.
-/
import HostBridge.Script.Library.Basic

namespace HostBridge.Script

/-- The larger of two numbers. What is no number wins, and zero is larger than minus zero. -/
def larger (left right : Float) : Float :=
  if left.isNaN || right.isNaN then notNumber
  else if left == 0.0 && right == 0.0 then if left.toBits == 0 then left else right
  else if left < right then right
  else left

def smaller (left right : Float) : Float := -(larger (-left) (-right))

/-- The nearest integer, the larger one of two. -/
def roundedUp (number : Float) : Float :=
  if number.floor == number || !number.isFinite then number
  else if number < 0.0 && -0.5 ≤ number then -0.0
  else if number - number.floor < 0.5 then number.floor
  else number.floor + 1.0

def signOf (number : Float) : Float :=
  if number < 0.0 then -1.0 else if 0.0 < number then 1.0 else number

/-- One less than a power of the natural base, also for small exponents. -/
def powerLessOne (number : Float) : Float :=
  let power := number.exp
  if power == 1.0 || number == 0.0 then number
  else if power - 1.0 == -1.0 || power.isInf then power - 1.0
  else (power - 1.0) * number / power.log

/-- The natural logarithm of one more than a number, also for small numbers. -/
def logarithmOfNext (number : Float) : Float :=
  let next := 1.0 + number
  if next == 1.0 || number.isInf || next ≤ 0.0 then if next == 1.0 then number else next.log
  else next.log * number / (next - 1.0)

/-- The root of the sum of the squares of two sizes, of which the first is not the smaller one. What
rounding takes away from the root is put back. -/
def rootOfSquares (large small : Float) : Float :=
  let root := (large * large + small * small).sqrt
  let surplus :=
    if root ≤ 2.0 * small then
      let more := root - small
      large * (2.0 * more - large) + (more - 2.0 * (large - small)) * more
    else
      let more := root - large
      2.0 * more * (large - 2.0 * small) + ((4.0 * more - small) * small + more * more)
  root - surplus / (2.0 * root)

/-- Sizes whose squares may be no doubles are scaled. -/
def scaledRoot (large small : Float) (scale : Int) : Float :=
  (rootOfSquares (large.scaleB scale) (small.scaleB scale)).scaleB (-scale)

/-- The length of the long side of a triangle with a right angle. A side that is too short for the
precision of doubles counts just so. -/
def longSide (left right : Float) : Float :=
  if left.isInf || right.isInf then infinity
  else if left.isNaN || right.isNaN then notNumber
  else
    let large := larger left.abs right.abs
    let small := smaller left.abs right.abs
    if small ≤ large.scaleB (-54) then large + small
    else if (1.0 : Float).scaleB 511 < large then scaledRoot large small (-600)
    else if small < (1.0 : Float).scaleB (-459) then scaledRoot large small 600
    else rootOfSquares large small

def sideOf : List Float → Float
  | [] => 0.0
  | [single] => single.abs
  | first :: rest => rest.foldl longSide first

/-- A function of one number. -/
def shelvedFormula (name : String) (formula : Float → Float) : Article :=
  shelved name 1 fun call given => return .ofFloat (formula (← toNumber call given.first))

/-- A function of two numbers. -/
def shelvedPair (name : String) (formula : Float → Float → Float) : Article :=
  shelved name 2 fun call given => do
    let first ← toNumber call given.first
    let second ← toNumber call given.second
    return .ofFloat (formula first second)

/-- A function of any number of numbers. -/
def shelvedSeries (name : String) (formula : List Float → Float) : Article :=
  shelved name 2 fun call given => do
    return .ofFloat (formula (← given.arguments.mapM (toNumber call)))

/-- The leading bits of an integer that are zeros. -/
def leadingZeros (bits : UInt32) : Nat :=
  if bits = 0 then 32 else 31 - bits.toNat.log2

def mathematicsShelf : Shelf := [
  shelvedSeries "min" (·.foldl smaller infinity),
  shelvedSeries "max" (·.foldl larger (-infinity)),
  shelvedFormula "abs" Float.abs,
  shelvedFormula "floor" Float.floor,
  shelvedFormula "ceil" Float.ceil,
  shelvedFormula "round" roundedUp,
  shelvedFormula "sqrt" Float.sqrt,
  shelvedFormula "acos" Float.acos,
  shelvedFormula "asin" Float.asin,
  shelvedFormula "atan" Float.atan,
  shelvedPair "atan2" Float.atan2,
  shelvedFormula "cos" Float.cos,
  shelvedFormula "exp" Float.exp,
  shelvedFormula "log" Float.log,
  shelvedPair "pow" powerOf,
  shelvedFormula "sin" Float.sin,
  shelvedFormula "tan" Float.tan,
  shelvedFormula "trunc" truncated,
  shelvedFormula "sign" signOf,
  shelvedFormula "cosh" Float.cosh,
  shelvedFormula "sinh" Float.sinh,
  shelvedFormula "tanh" Float.tanh,
  shelvedFormula "acosh" Float.acosh,
  shelvedFormula "asinh" Float.asinh,
  shelvedFormula "atanh" Float.atanh,
  shelvedFormula "expm1" powerLessOne,
  shelvedFormula "log1p" logarithmOfNext,
  shelvedFormula "log2" Float.log2,
  shelvedFormula "log10" Float.log10,
  shelvedFormula "cbrt" Float.cbrt,
  shelvedSeries "hypot" sideOf,
  shelved "random" 0 fun _ _ => return .float 0.5,
  shelvedFormula "fround" fun number => number.toFloat32.toFloat,
  shelved "imul" 2 fun call given => do
    let first ← toBits call given.first
    let second ← toBits call given.second
    return .integer (first * second).toInt32,
  shelved "clz32" 1 fun call given => return .ofNat (leadingZeros (← toBits call given.first)),
  shelvedTag "Math",
  shelvedConstant "E" (.float 2.718281828459045),
  shelvedConstant "LN10" (.float 2.302585092994046),
  shelvedConstant "LN2" (.float 0.6931471805599453),
  shelvedConstant "LOG2E" (.float 1.4426950408889634),
  shelvedConstant "LOG10E" (.float 0.4342944819032518),
  shelvedConstant "PI" (.float 3.141592653589793),
  shelvedConstant "SQRT1_2" (.float 0.7071067811865476),
  shelvedConstant "SQRT2" (.float 1.4142135623730951)]

end HostBridge.Script
