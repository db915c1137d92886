/-
This file defines the functions of numbers.
-/
import HostBridge.Decimal.Radix
import HostBridge.Decimal.Rounded
import HostBridge.Script.Library.Basic

namespace HostBridge.Script

/-- The primitive value inside an object that stands for one. -/
def unboxed (value : Value) : Machine Value := do
  match value with
  | .object place =>
      match ← kindAt place with
      | .boxed inner => return inner
      | _ => return value
  | _ => return value

/-- A primitive value, or an object that stands for it and was made by a class. -/
def makeBoxed (call : Caller) (given : Given) (value : Value) (prototype : Reference) :
    Machine Value := do
  if given.isFresh then
    makeObject (.bare (.boxed value) (some (← given.prototype call prototype)))
  else return value

/-- The number that a function of numbers is called on. -/
def thisNumber (given : Given) : Machine Float := do
  match (← unboxed given.receiver).number? with
  | some number => return number
  | none => typeFaultText "not a number"

/-- A wish that is too large for an integer of 32 bits counts as the largest one. -/
def toSmall (call : Caller) (value : Value) : Machine Int := do
  return max (-0x80000000) (min 0x7FFFFFFF (← toWhole call value))

def digitFault {A : Type} : Machine A := rangeFault "invalid number of digits"

def textOfString (text : String) : Value := .ofString text

def fixedNumber : NativeAction := fun call given => do
  let number ← thisNumber given
  let places ← toSmall call given.first
  if places < 0 || 100 < places then digitFault
  else if number.isNaN || 1e21 ≤ number.abs then return .text (numberText number)
  else return textOfString (Decimal.fixedText (.ofFloat number) places.toNat)

def exponentialNumber : NativeAction := fun call given => do
  let number ← thisNumber given
  let digits ← toSmall call given.first
  if !number.isFinite then return .text (numberText number)
  else if given.first.isUndefined then
    return textOfString (Decimal.shortScientificText (.ofFloat number))
  else if digits < 0 || 100 < digits then digitFault
  else return textOfString (Decimal.scientificText (.ofFloat number) (digits.toNat + 1))

def preciseNumber : NativeAction := fun call given => do
  let number ← thisNumber given
  if given.first.isUndefined then return .text (numberText number)
  else
    let digits ← toSmall call given.first
    if !number.isFinite then return .text (numberText number)
    else if digits < 1 || 100 < digits then digitFault
    else return textOfString (Decimal.preciseText (.ofFloat number) digits.toNat)

/-- The base that a number is written in. -/
def toRadix (call : Caller) (value : Value) : Machine Nat := do
  if value.isUndefined then return 10
  else
    let radix ← toSmall call value
    if radix < 2 || 36 < radix then rangeFault "radix must be between 2 and 36"
    else return radix.toNat

def numberToText : NativeAction := fun call given => do
  let number ← thisNumber given
  let radix ← toRadix call given.first
  if radix = 10 || !number.isFinite then return .text (numberText number)
  else return textOfString (Decimal.radixText radix number)

def numberShelf : Shelf := [
  shelved "toExponential" 1 exponentialNumber,
  shelved "toFixed" 1 fixedNumber,
  shelved "toPrecision" 1 preciseNumber,
  shelved "toString" 1 numberToText,
  shelved "toLocaleString" 0 fun _ given => return .text (numberText (← thisNumber given)),
  shelved "valueOf" 0 fun _ given => return .ofFloat (← thisNumber given)]

def makeNumber : NativeAction := fun call given => do
  let number ←
    match given.arguments with
    | [] => pure (.integer 0)
    | value :: _ =>
        match ← toNumeric call value with
        | .big size => pure (.ofFloat (Float.ofInt size))
        | number => pure number
  makeBoxed call given number numberPrototype

def isWholeNumber (number : Float) : Bool := number.isFinite && number.floor == number

/-- A test that only numbers pass. -/
def numberTest (test : Float → Bool) : NativeAction := fun _ given =>
  return .boolean ((given.first.number?.map test).getD false)

def numberClassShelf : Shelf := [
  .global (.ofString "parseInt"),
  .global (.ofString "parseFloat"),
  shelved "isNaN" 1 (numberTest Float.isNaN),
  shelved "isFinite" 1 (numberTest Float.isFinite),
  shelved "isInteger" 1 (numberTest isWholeNumber),
  shelved "isSafeInteger" 1 (numberTest fun number =>
    isWholeNumber number && number.abs ≤ Float.ofInt largestInteger),
  shelvedConstant "MAX_VALUE" (.float 1.7976931348623157e308),
  shelvedConstant "MIN_VALUE" (.float 5e-324),
  shelvedConstant "NaN" (.float notNumber),
  shelvedConstant "NEGATIVE_INFINITY" (.float (-infinity)),
  shelvedConstant "POSITIVE_INFINITY" (.float infinity),
  shelvedConstant "EPSILON" (.float 2.220446049250313e-16),
  shelvedConstant "MAX_SAFE_INTEGER" (.float (Float.ofInt largestInteger)),
  shelvedConstant "MIN_SAFE_INTEGER" (.float (Float.ofInt (-largestInteger)))]

/-- The number at the beginning of a text. -/
def leadingFloat (text : List Char) : Float :=
  match spanSigned? (trimStart text) with
  | some (number, _) => number
  | none => notNumber

/-- The integer at the beginning of a text. Base 16 can be announced by the text. -/
def leadingInteger (text : List Char) (base : Int) : Float :=
  let trimmed := trimStart text
  let (negative, size) :=
    match trimmed with
    | '-' :: rest => (true, rest)
    | '+' :: rest => (false, rest)
    | _ => (false, trimmed)
  let announces := (size.take 2).map Char.toLower = ['0', 'x']
  let (base, size) :=
    if announces && (base = 0 || base = 16) then (16, size.drop 2)
    else (if base = 0 then 10 else base, size)
  let digits := spanBase base.toNat size
  if base < 2 || 36 < base || digits.isEmpty then notNumber
  else
    Decimal.withSign negative
      (if base = 10 then Float.ofNat (digitsInBase 10 digits) else numberInBase base.toNat digits)

def parseInteger : NativeAction := fun call given => do
  let text ← toText call given.first
  let base ← toInteger call given.second
  return .ofFloat (leadingInteger (characters text) base.toInt)

def parseNumber : NativeAction := fun call given => do
  return .ofFloat (leadingFloat (characters (← toText call given.first)))

/-- The functions of numbers that stand alone. -/
def looseNumberShelf : Shelf := [
  shelved "parseInt" 2 parseInteger,
  shelved "parseFloat" 1 parseNumber,
  shelved "isNaN" 1 fun call given => return .boolean (← toNumber call given.first).isNaN,
  shelved "isFinite" 1 fun call given => return .boolean (← toNumber call given.first).isFinite]

end HostBridge.Script
