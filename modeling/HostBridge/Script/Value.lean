/-
This file defines the values that scripts compute and the keys of their members.
-/
import HostBridge.Decimal.Dyadic
import HostBridge.Decimal.Layout
import HostBridge.Decimal.Nearest
import HostBridge.Script.Scope
import HostBridge.Text.Units

namespace HostBridge.Script

/-- An integer of 32 bits is kept apart from the other numbers. -/
inductive Value where
  | undefined
  | null
  | boolean (value : Bool)
  | integer (value : Int32)
  | float (value : Float)
  /-- An integer of any size. -/
  | big (value : Int)
  | text (value : Units)
  /-- Symbols with one description differ by their numbers. -/
  | symbol (number : Nat) (description : Option Units)
  | object (reference : Reference)

instance : Inhabited Value := ⟨.undefined⟩

/-- The key of a member. Texts that stand for indices of arrays are kept apart from others. -/
inductive Key where
  | index (value : Nat)
  | text (name : Units)
  | symbol (number : Nat) (description : Option Units)
deriving DecidableEq, Hashable

/-- What is the same value as a key of a map. -/
inductive Identity where
  | undefined
  | null
  | boolean (value : Bool)
  | number (bits : UInt64)
  | big (value : Int)
  | text (value : Units)
  | symbol (number : Nat)
  | object (reference : Reference)
deriving DecidableEq, Hashable

/-- A member holds a value, or functions that are called when it is read or assigned to. -/
inductive Property where
  | data (value : Value) (writable enumerable configurable : Bool)
  | accessor (getter setter : Option Reference) (enumerable configurable : Bool)

instance : Inhabited Property := ⟨.data .undefined true true true⟩

/-- A text from outside a script. -/
def Value.ofString (text : String) : Value := .text (Text.units text)

/-- A number that is an integer of 32 bits, other than minus zero, becomes one. -/
def Value.ofFloat (number : Float) : Value :=
  let whole := number.toInt32
  if Float.ofInt whole.toInt == number && (whole != 0 || number.toBits == 0) then .integer whole
  else .float number

def Value.ofNat (count : Nat) : Value :=
  if count < 0x80000000 then .integer (Int32.ofNat count) else .float (Float.ofNat count)

def Value.ofInt (number : Int) : Value :=
  if -0x80000000 ≤ number && number < 0x80000000 then .integer (Int32.ofInt number)
  else .float (Float.ofInt number)

/-- What is no number. -/
def notNumber : Float := 0.0 / 0.0

def infinity : Float := 1.0 / 0.0

def Value.reference? : Value → Option Reference
  | .object place => some place
  | _ => none

def Value.isObject (value : Value) : Bool := value.reference?.isSome

def Value.isUndefined : Value → Bool
  | .undefined => true
  | _ => false

/-- The value stands for nothing. -/
def Value.isAbsent : Value → Bool
  | .undefined | .null => true
  | _ => false

def Value.isInteger : Value → Bool
  | .integer _ => true
  | _ => false

def Value.isText : Value → Bool
  | .text _ => true
  | _ => false

def Value.isSymbol : Value → Bool
  | .symbol _ _ => true
  | _ => false

/-- Absence, zero, the empty text and what is no number count as false. -/
def Value.truth : Value → Bool
  | .undefined | .null => false
  | .boolean truth => truth
  | .integer number => number != 0
  | .float number => !(number == 0.0 || number.isNaN)
  | .big number => number ≠ 0
  | .text units => !units.isEmpty
  | .symbol _ _ | .object _ => true

/-- A number is the same as itself also when it is none, and zeros of different signs differ. -/
def sameFloat (left right : Float) : Bool :=
  left.toBits == right.toBits || (left.isNaN && right.isNaN)

/-- The number that a value is. -/
def Value.number? : Value → Option Float
  | .integer number => some (Float.ofInt number.toInt)
  | .float number => some number
  | _ => none

/-- Two values that nothing can tell apart. -/
def Value.same (left right : Value) : Bool :=
  match left, right with
  | .undefined, .undefined | .null, .null => true
  | .boolean left, .boolean right => left == right
  | .big left, .big right => left == right
  | .text left, .text right => left == right
  | .symbol left _, .symbol right _ => left == right
  | .object left, .object right => left == right
  | .integer left, .integer right => left == right
  | _, _ =>
      match left.number?, right.number? with
      | some left, some right => sameFloat left right
      | _, _ => false

/-- Two equal values. Zero has no sign, and what is no number is not equal to itself. -/
def Value.equals (left right : Value) : Bool :=
  match left.number?, right.number? with
  | some left, some right => left == right
  | _, _ => left.same right

/-- Zero has no sign, and what is no number is equal to itself. -/
def Value.resembles (left right : Value) : Bool := left.equals right || left.same right

/-- The key under which a map finds a value. -/
def Value.identity : Value → Identity
  | .undefined => .undefined
  | .null => .null
  | .boolean truth => .boolean truth
  | .integer number => .number (Float.ofInt number.toInt).toBits
  | .float number =>
      .number (if number.isNaN then notNumber.toBits else if number == 0.0 then 0 else number.toBits)
  | .big number => .big number
  | .text units => .text units
  | .symbol number _ => .symbol number
  | .object place => .object place

/-- A zero has no sign as a key of a map. -/
def Value.unsigned : Value → Value
  | .float number => if number == 0.0 then .integer 0 else .float number
  | other => other

/-- The text of a number. -/
def numberText (number : Float) : Units := Text.units (Decimal.Layout.script.text number)

def wholeText (number : Int) : Units :=
  Text.units ((if number < 0 then "-" else "") ++ Decimal.digitText number.natAbs)

/-- The index that a text stands for when it is written in the usual way. -/
def indexOfUnits? (name : Units) : Option Nat :=
  match name with
  | [] => none
  | first :: rest =>
      if first < 48 || 57 < first || 9 < rest.length || (first = 48 && !rest.isEmpty) then none
      else if rest.all fun unit => 48 ≤ unit && unit ≤ 57 then
        let index := name.foldl (fun value unit => value * 10 + (unit.toNat - 48)) 0
        if index < 0xFFFFFFFF then some index else none
      else none

def Key.ofUnits (name : Units) : Key :=
  match indexOfUnits? name with
  | some number => .index number
  | none => .text name

def Key.ofString (name : String) : Key := .ofUnits (Text.units name)

def Key.ofNat (number : Nat) : Key :=
  if number < 0xFFFFFFFF then .index number else .text (wholeText number)

/-- The value that a key is. -/
def Key.value : Key → Value
  | .index number => .text (wholeText number)
  | .text name => .text name
  | .symbol number description => .symbol number description

/-- What a message shows of a key. -/
def Key.shown : Key → Units
  | .index number => wholeText number
  | .text name => name
  | .symbol _ description => description.getD []

def Key.index? : Key → Option Nat
  | .index number => some number
  | _ => none

def Key.isSymbol : Key → Bool
  | .symbol _ _ => true
  | _ => false

/-- The name of a function that is a member under a key. -/
def Key.title : Key → Units
  | .symbol _ (some description) =>
      Text.units "[" ++ description ++ Text.units "]"
  | .symbol _ none => []
  | other => other.shown

/-- Symbols of the language. -/
def wellKnownNames : List String := [
  "toPrimitive", "iterator", "match", "matchAll", "replace", "search", "split", "toStringTag",
  "isConcatSpreadable", "hasInstance", "species", "unscopables", "asyncIterator"]

def Key.wellKnown (name : String) : Key :=
  .symbol (wellKnownNames.idxOf name) (some (Text.units ("Symbol." ++ name)))

def primitiveSymbol : Key := .wellKnown "toPrimitive"

def iteratorSymbol : Key := .wellKnown "iterator"

def tagSymbol : Key := .wellKnown "toStringTag"

def speciesSymbol : Key := .wellKnown "species"

def instanceSymbol : Key := .wellKnown "hasInstance"

def unscopableSymbol : Key := .wellKnown "unscopables"

def spreadableSymbol : Key := .wellKnown "isConcatSpreadable"

def lengthKey : Key := .ofString "length"

def messageKey : Key := .ofString "message"

def nameKey : Key := .ofString "name"

def prototypeKey : Key := .ofString "prototype"

def constructorKey : Key := .ofString "constructor"

def stackKey : Key := .ofString "stack"

/-- A member that scripts make by assignment. -/
def Property.plain (value : Value) : Property := .data value true true true

/-- A member that is not listed. -/
def Property.hidden (value : Value) : Property := .data value true false true

/-- A member that no script can change. -/
def Property.locked (value : Value) : Property := .data value false false false

/-- A member that can be replaced as a whole only. -/
def Property.replaceable (value : Value) : Property := .data value false false true

def Property.isEnumerable : Property → Bool
  | .data _ _ enumerable _ => enumerable
  | .accessor _ _ enumerable _ => enumerable

def Property.isConfigurable : Property → Bool
  | .data _ _ _ configurable => configurable
  | .accessor _ _ _ configurable => configurable

/-- The value of a member that was made by assignment. -/
def Property.plainValue? : Property → Option Value
  | .data value true true true => some value
  | _ => none

/-- An inherited member that keeps an assignment from making a member of the object's own. -/
def Property.intercepts : Property → Bool
  | .data _ writable _ _ => !writable
  | .accessor _ _ _ _ => true

end HostBridge.Script
