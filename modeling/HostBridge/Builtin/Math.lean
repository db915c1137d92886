/-
This file defines the object `math`.
-/
import HostBridge.Capability.Object

namespace HostBridge.Builtin

def failed (message : String) : Outcome := .failed (.plain message)

/-- The argument in a place that is taken for granted. -/
def withArgument (arguments : List HostValue) (index : Nat) (next : HostValue → Outcome) :
    Outcome :=
  match arguments[index]? with
  | some value => next value
  | none =>
      .panicked (some
        s!"index out of bounds: the len is {arguments.length} but the index is {index}")

/-- The value, if it fits in 64 bits. -/
def fitting? (value : Int) : Option Int64 := (Number.integer value).int64?

/-- Two integers make an integer when it fits in 64 bits, and otherwise the result is a float. -/
def arithmetic (whole : Int → Int → Int) (real : Float → Float → Float)
    (arguments : List HostValue) : Outcome :=
  withArgument arguments 0 fun left =>
    withArgument arguments 1 fun right =>
      let exact := do
        let left ← left.integer?
        let right ← right.integer?
        fitting? (whole left.toInt right.toInt)
      match exact with
      | some value => .returned (.integer value)
      | none =>
          match left.float?, right.float? with
          | some left, some right => .returned (.float (real left right))
          | _, _ => failed "expected a number"

def number (value : HostValue) : Float := (value.float?).getD 0.0

def divide (arguments : List HostValue) : Outcome :=
  withArgument arguments 1 fun right =>
    if number right == 0.0 then failed "division by zero"
    else withArgument arguments 0 fun left => .returned (.float (number left / number right))

/-- The least integer has no absolute value. -/
def absolute (arguments : List HostValue) : Outcome :=
  withArgument arguments 0 fun value =>
    match value with
    | .integer value =>
        match fitting? (Int.ofNat value.toInt.natAbs) with
        | some size => .returned (.integer size)
        | none => failed "integer overflow"
    | other => .returned (.float (number other).abs)

def power (arguments : List HostValue) : Outcome :=
  withArgument arguments 0 fun base =>
    withArgument arguments 1 fun exponent =>
      .returned (.float (Float.pow (number base) (number exponent)))

def squareRoot (arguments : List HostValue) : Outcome :=
  withArgument arguments 0 fun value =>
    if number value < 0.0 then failed "square root of negative number"
    else .returned (.float (number value).sqrt)

/-- The numbers of an array, or the reason why there are none. -/
def numbers (value : HostValue) : Except String (List Float) :=
  match value with
  | .array items =>
      items.mapM fun item =>
        match item.float? with
        | some value => .ok value
        | none => .error s!"expected only numbers, got {item.hostType.name}"
  | _ => .error "expected an array"

/-- A number wins over one that is not comparable. Of equal ones the first is kept. -/
def larger (left right : Float) : Float :=
  if left.isNaN then right else if left < right then right else left

def smaller (left right : Float) : Float :=
  if left.isNaN then right else if right < left then right else left

/-- An empty array has no extreme. -/
def extreme (choose : Float → Float → Float) (arguments : List HostValue) : Outcome :=
  withArgument arguments 0 fun value =>
    match numbers value with
    | .error message => failed message
    | .ok [] => .returned .null
    | .ok (first :: rest) => .returned (.float (rest.foldl choose first))

def method (name : String) (params : List HostType) (function : List HostValue → Outcome) :
    Method :=
  ⟨name, params, "", Handler.pure function⟩

def math : HostObject := HostObject.ofMethods "Math" [
  method "add" [.number, .number] (arithmetic (· + ·) (· + ·)),
  method "sub" [.number, .number] (arithmetic (· - ·) (· - ·)),
  method "mul" [.number, .number] (arithmetic (· * ·) (· * ·)),
  method "div" [.number, .number] divide,
  method "abs" [.number] absolute,
  method "pow" [.number, .number] power,
  method "sqrt" [.number] squareRoot,
  method "max" [.array] (extreme larger),
  method "min" [.array] (extreme smaller)]

end HostBridge.Builtin
