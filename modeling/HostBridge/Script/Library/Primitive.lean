/-
This file defines the functions of truth values, symbols and integers of any size.
-/
import HostBridge.Script.Library.Number

namespace HostBridge.Script

def thisTruth (given : Given) : Machine Bool := do
  match ← unboxed given.receiver with
  | .boolean truth => return truth
  | _ => typeFaultText "not a boolean"

def truthShelf : Shelf := [
  shelved "toString" 0 fun _ given =>
    return .ofString (if ← thisTruth given then "true" else "false"),
  shelved "valueOf" 0 fun _ given => return .boolean (← thisTruth given)]

def makeTruth : NativeAction := fun call given =>
  makeBoxed call given (.boolean given.first.truth) booleanPrototype

/-- The number of a symbol and its description. -/
def thisSymbol (given : Given) : Machine (Nat × Option Units) := do
  match ← unboxed given.receiver with
  | .symbol number description => return (number, description)
  | _ => typeFaultText "not a symbol"

def symbolValue : NativeAction := fun _ given => do
  let (number, description) ← thisSymbol given
  return .symbol number description

def symbolShelf : Shelf := [
  shelved "toString" 0 fun _ given => return .text (symbolText (← thisSymbol given).2),
  shelved "valueOf" 0 symbolValue,
  shelvedSymbol primitiveSymbol 1 symbolValue,
  shelvedTag "Symbol",
  shelvedGetter (.ofString "description") fun _ given => do
    return ((← thisSymbol given).2.map Value.text).getD .undefined]

def freshSymbol (description : Option Units) : Machine Value := fun world =>
  .done (.symbol world.symbols description) { world with symbols := world.symbols + 1 }

def makeSymbol : NativeAction := fun call given => do
  if given.isFresh then notConstructor
  else if given.first.isUndefined then freshSymbol none
  else freshSymbol (some (← toText call given.first))

/-- The symbol that all scripts share under a description. -/
def sharedSymbol : NativeAction := fun call given => do
  let description ← toText call given.first
  match (← asks? World.shared).lookup description with
  | some number => return .symbol number (some description)
  | none =>
      let number ← asks? World.symbols
      change fun world => { world with shared := (description, number) :: world.shared }
      freshSymbol (some description)

def sharedName : NativeAction := fun _ given => do
  match given.first with
  | .symbol number _ =>
      match (← asks? World.shared).find? fun entry => entry.2 = number with
      | some (description, _) => return .text description
      | none => return .undefined
  | _ => typeFaultText "not a symbol"

def symbolClassShelf : Shelf := [
  shelved "for" 1 sharedSymbol,
  shelved "keyFor" 1 sharedName] ++
  wellKnownNames.map fun name => shelvedConstant name (Key.wellKnown name).value

def thisBig (given : Given) : Machine Int := do
  match ← unboxed given.receiver with
  | .big number => return number
  | _ => typeFaultText "not a bigint"

def bigToText : NativeAction := fun call given => do
  let number ← thisBig given
  let radix ← toRadix call given.first
  return textOfString ((if number < 0 then "-" else "") ++
    String.ofList (Decimal.radixDigits radix number.natAbs))

def bigShelf : Shelf := [
  shelved "toString" 0 bigToText,
  shelved "valueOf" 0 fun _ given => return .big (← thisBig given),
  shelvedTag "BigInt"]

/-- The integer of any size that a primitive value is. -/
def bigOfPrimitive (value : Value) : Machine Int :=
  match value with
  | .integer number => return number.toInt
  | .boolean truth => return if truth then 1 else 0
  | .big number => return number
  | .float number =>
      if !number.isFinite then rangeFault "cannot convert NaN or Infinity to bigint"
      else
        match Decimal.integerOfFloat? number with
        | some whole => return whole
        | none => rangeFault "cannot convert to bigint: not an integer"
  | .text units =>
      match bigOfText? (characters units) with
      | some number => return number
      | none => syntaxFault "invalid bigint literal"
  | _ => typeFaultText "cannot convert to bigint"

def makeBig : NativeAction := fun call given => do
  if given.isFresh then notConstructor
  else return .big (← bigOfPrimitive (← toPrimitive call .number given.first))

/-- A number of places. -/
def toPlaces (call : Caller) (value : Value) : Machine Nat := do
  let count ← toWhole call value
  if count < 0 || largestInteger < count then rangeFault "invalid array index"
  else return count.toNat

/-- The last bits of an integer, of which the first one may be a sign. -/
def lowBits (isSigned : Bool) : NativeAction := fun call given => do
  let width ← toPlaces call given.first
  let number ← toBig call given.second
  if width = 0 then return .big 0
  else if widestBig < width then return .big number
  else
    let size := Int.ofNat (Nat.pow 2 width)
    let rest := number % size
    return .big (if isSigned && size ≤ 2 * rest then rest - size else rest)

def bigClassShelf : Shelf := [
  shelved "asUintN" 2 (lowBits false),
  shelved "asIntN" 2 (lowBits true)]

end HostBridge.Script
