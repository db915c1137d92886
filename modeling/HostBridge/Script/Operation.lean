/-
This file defines the operators of scripts.
-/
import HostBridge.Decimal.Remainder
import HostBridge.Script.Conversion

namespace HostBridge.Script

/-- A power of one with an exponent that is not finite is no number. -/
def powerOf (base exponent : Float) : Float :=
  if !exponent.isFinite && base.abs == 1.0 then notNumber else base.pow exponent

/-- The arithmetic on numbers. -/
def Operator.onFloats (operator : Operator) (left right : Float) : Float :=
  match operator with
  | .add => left + right
  | .subtract => left - right
  | .multiply => left * right
  | .divide => left / right
  | .remainder => Decimal.remainder left right
  | .power => powerOf left right
  | _ => notNumber

/-- The operators on the bits of two numbers. -/
def Operator.onBits (operator : Operator) (left right : UInt32) : Value :=
  let count := right % 32
  match operator with
  | .shiftLeft => .integer (left <<< count).toInt32
  | .shiftRight => .integer (left.toInt32 >>> count.toInt32)
  | .shiftPlain => .ofNat (left >>> count).toNat
  | .bitAnd => .integer (left &&& right).toInt32
  | .bitOr => .integer (left ||| right).toInt32
  | .bitXor => .integer (left ^^^ right).toInt32
  | _ => .undefined

def Operator.isBitwise : Operator → Bool
  | .shiftLeft | .shiftRight | .shiftPlain | .bitAnd | .bitOr | .bitXor => true
  | _ => false

/-- Integers of any size have endless bits in front, zeros or ones after their sign. -/
def bigBits (combine : Bool → Bool → Bool) (left right : Int) : Int :=
  let width := max left.natAbs.log2 right.natAbs.log2 + 2
  let size := Int.ofNat (Nat.pow 2 width)
  let first := (left % size).toNat
  let second := (right % size).toNat
  let joined := Nat.bitwise combine first second
  if Nat.testBit joined (width - 1) then Int.ofNat joined - size else Int.ofNat joined

/-- Integers are not moved or raised beyond this number of bits. -/
def widestBig : Nat := 0x1000000

/-- An integer moved by bits, to the left if their number is positive. -/
def shiftBig (number count : Int) : Machine Value :=
  if count < 0 then
    if Int.ofNat widestBig < -count then return .big (if number < 0 then -1 else 0)
    else return .big (Int.fdiv number (Int.ofNat (Nat.pow 2 (-count).toNat)))
  else if number = 0 then return .big 0
  else if Int.ofNat widestBig < count then rangeFault "BigInt is too large to allocate"
  else return .big (number * Int.ofNat (Nat.pow 2 count.toNat))

def powerBig (base exponent : Int) : Machine Value :=
  if exponent < 0 then rangeFault "invalid operation"
  else if base.natAbs < 2 then
    return .big (if exponent = 0 then 1 else if base = -1 && exponent % 2 = 0 then 1 else base)
  else if Int.ofNat widestBig < exponent * Int.ofNat base.natAbs.log2 then
    rangeFault "BigInt is too large to allocate"
  else return .big (Int.pow base exponent.toNat)

/-- The arithmetic on integers of any size. -/
def Operator.onBigs (operator : Operator) (left right : Int) : Machine Value :=
  match operator with
  | .add => return .big (left + right)
  | .subtract => return .big (left - right)
  | .multiply => return .big (left * right)
  | .divide =>
      if right = 0 then rangeFault "division by zero" else return .big (Int.tdiv left right)
  | .remainder =>
      if right = 0 then rangeFault "division by zero" else return .big (Int.tmod left right)
  | .power => powerBig left right
  | .shiftLeft => shiftBig left right
  | .shiftRight => shiftBig left (-right)
  | .bitAnd => return .big (bigBits Bool.and left right)
  | .bitOr => return .big (bigBits Bool.or left right)
  | .bitXor => return .big (bigBits Bool.xor left right)
  | _ => typeFaultText "bigint operands are forbidden for >>>"

/-- An operator on two numbers, which are of one kind. -/
def runNumeric (operator : Operator) (left right : Value) : Machine Value := do
  match left, right with
  | .big left, .big right => operator.onBigs left right
  | .big _, _ | _, .big _ => typeFaultText "cannot convert to bigint"
  | _, _ =>
      match left.number?, right.number? with
      | some first, some second =>
          if operator.isBitwise then return operator.onBits (lastBits first) (lastBits second)
          else
            let result := operator.onFloats first second
            if left.isInteger && right.isInteger then return .ofFloat result
            else return .float result
      | _, _ => return .float notNumber

def runArithmetic (call : Caller) (operator : Operator) (left right : Value) : Machine Value := do
  let left ← toNumeric call left
  let right ← toNumeric call right
  runNumeric operator left right

/-- A longer text than this is none. -/
def longestText : Nat := 0x3FFFFFFF

def joinUnits (left right : Units) : Machine Value :=
  return .text (left ++ right)

/-- Addition joins texts when one of its operands is one. -/
def runSum (call : Caller) (left right : Value) : Machine Value := do
  match left, right with
  | .text left, .text right => joinUnits left right
  | .integer left, .integer right => return .ofInt (left.toInt + right.toInt)
  | _, _ =>
      let left ← toPrimitive call .either left
      let right ← toPrimitive call .either right
      if left.isText || right.isText then joinUnits (← toText call left) (← toText call right)
      else runArithmetic call .add left right

/-- The order of an integer and a number, unless the number is none. -/
def orderBig? (left : Int) (right : Float) : Option Ordering :=
  if right.isNaN then none
  else if right.isInf then some (if right < 0.0 then .gt else .lt)
  else
    let whole := exactPart right
    match compare left whole with
    | .eq =>
        let rest := right - truncated right
        some (if rest < 0.0 then .gt else if 0.0 < rest then .lt else .eq)
    | other => some other

def orderFloats? (left right : Float) : Option Ordering :=
  if left < right then some .lt
  else if right < left then some .gt
  else if left == right then some .eq
  else none

/-- The order of two texts is that of their units. -/
def orderUnits (left right : Units) : Ordering :=
  if left = right then .eq else if left < right then .lt else .gt

/-- The order of two primitive values, if they have one. -/
def orderOf? (left right : Value) : Machine (Option Ordering) := do
  match left, right with
  | .text left, .text right => return some (orderUnits left right)
  | .big left, .text right =>
      return (bigOfText? (characters right)).map fun number => compare left number
  | .text left, .big right =>
      return (bigOfText? (characters left)).map fun number => compare number right
  | _, _ =>
      match ← plainNumber left, ← plainNumber right with
      | .big left, .big right => return some (compare left right)
      | .big left, other => return (other.number?).bind (orderBig? left)
      | other, .big right => return ((other.number?).bind (orderBig? right)).map Ordering.swap
      | left, right =>
          return (left.number?).bind fun left => (right.number?).bind (orderFloats? left)

def Operator.holds (operator : Operator) (order : Option Ordering) : Bool :=
  match operator, order with
  | .less, some .lt => true
  | .greater, some .gt => true
  | .atMost, some order => order.isLE
  | .atLeast, some order => order.isGE
  | _, _ => false

def runComparison (call : Caller) (operator : Operator) (left right : Value) : Machine Bool := do
  match left, right with
  | .integer left, .integer right =>
      return operator.holds (some (compare left.toInt right.toInt))
  | _, _ =>
      let left ← toPrimitive call .number left
      let right ← toPrimitive call .number right
      return operator.holds (← orderOf? left right)

/-- A number or a truth value, which are compared as numbers. -/
def Value.isNumeric : Value → Bool
  | .integer _ | .float _ | .big _ | .boolean _ => true
  | _ => false

/-- Two primitive values are equal, if need be as numbers. -/
def plainAlike (left right : Value) : Machine Bool := do
  match left, right with
  | .text _, .text _ => return left.equals right
  | _, _ =>
      if (left.isNumeric || left.isText) && (right.isNumeric || right.isText) then
        return (← orderOf? left right) = some .eq
      else return left.equals right

/-- Equality after conversion. -/
def runAlike (call : Caller) (left right : Value) : Machine Bool := do
  if left.isAbsent || right.isAbsent then return left.isAbsent && right.isAbsent
  else if left.isObject && right.isObject then return left.equals right
  else if left.isObject then plainAlike (← toPrimitive call .either left) right
  else if right.isObject then plainAlike left (← toPrimitive call .either right)
  else plainAlike left right

/-- The function that another one calls in the end. -/
def boundTarget? (place : Reference) : Machine (Option Reference) := do
  match ← kindAt place with
  | .function (.bound target _ _) => return some target
  | _ => return none

/-- An object is behind another one. The first argument bounds the objects. -/
def isBehind (call : Caller) (wanted : Reference) : Nat → Reference → Machine Bool
  | 0, _ => return false
  | bound + 1, place => do
      match ← prototypeOf call place with
      | none => return false
      | some behind => if behind = wanted then return true else isBehind call wanted bound behind

/-- A value was made by a function in the usual way. The first argument bounds how often one
function is bound in another. -/
def isInstance (call : Caller) (test : Caller → Value → Value → Machine Bool) (value : Value)
    (constructor : Value) : Machine Bool := do
  match constructor with
  | .object place =>
      if !(← objectAt place).isCallable then return false
      else
        match ← boundTarget? place, value with
        | some target, _ => test call value (.object target)
        | none, .object start =>
            match ← getMember call constructor prototypeKey with
            | .object wanted => isBehind call wanted (← lookUp Array.size) start
            | _ => typeFaultText "operand 'prototype' property is not an object"
        | none, _ => return false
  | _ => return false

def instanceWithin : Nat → Caller → Value → Value → Machine Bool
  | 0, _, _, _ => tooDeep
  | bound + 1, call, value, constructor => do
      match constructor with
      | .object place =>
          let method ← getMember call constructor instanceSymbol
          if !method.isAbsent then return (← call (.on constructor) method [value]).truth
          else if (← objectAt place).isCallable then
            isInstance call (instanceWithin bound) value constructor
          else typeFaultText "invalid 'instanceof' right operand"
      | _ => typeFaultText "invalid 'instanceof' right operand"

/-- A value was made by a function, or the function says so. -/
def runInstance (call : Caller) (value constructor : Value) : Machine Bool :=
  instanceWithin proxyLimit call value constructor

/-- A value that was made by a function in the usual way. -/
def wasMadeBy (call : Caller) (value constructor : Value) : Machine Bool :=
  isInstance call (instanceWithin proxyLimit) value constructor

def runAmong (call : Caller) (key holder : Value) : Machine Bool := do
  match holder with
  | .object place => hasMember call place (← toKey call key)
  | _ => typeFaultText "invalid 'in' operand"

/-- An operator on two values. -/
def runOperator (call : Caller) (operator : Operator) (left right : Value) : Machine Value := do
  match operator with
  | .add => runSum call left right
  | .less | .greater | .atMost | .atLeast =>
      return .boolean (← runComparison call operator left right)
  | .alike => return .boolean (← runAlike call left right)
  | .unlike => return .boolean !(← runAlike call left right)
  | .same => return .boolean (left.equals right)
  | .different => return .boolean !(left.equals right)
  | .instanceOf => return .boolean (← runInstance call left right)
  | .among => return .boolean (← runAmong call left right)
  | _ => runArithmetic call operator left right

/-- The opposite of an integer is no integer when it is minus zero or too large. -/
def negated (value : Value) : Value :=
  match value with
  | .integer number =>
      if number = 0 || number = Int32.minValue then .float (-(Float.ofInt number.toInt))
      else .integer (-number)
  | .float number => .float (-number)
  | .big number => .big (-number)
  | other => other

def runSign (call : Caller) (sign : Sign) (value : Value) : Machine Value := do
  match sign with
  | .opposite => return .boolean !value.truth
  | .minus => return negated (← toNumeric call value)
  | .plus =>
      match ← toNumeric call value with
      | .big _ => typeFaultText "bigint argument with unary +"
      | number => return number
  | .complement =>
      match ← toNumeric call value with
      | .big number => return .big (-number - 1)
      | number => return .integer (lastBits (number.number?.getD 0.0) ^^^ 0xFFFFFFFF).toInt32

/-- One more or one less. -/
def counted (up : Bool) (number : Value) : Value :=
  match number with
  | .integer whole => .ofInt (if up then whole.toInt + 1 else whole.toInt - 1)
  | .float size => .float (if up then size + 1.0 else size - 1.0)
  | .big whole => .big (if up then whole + 1 else whole - 1)
  | other => other

end HostBridge.Script
