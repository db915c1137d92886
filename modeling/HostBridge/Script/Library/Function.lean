/-
This file defines the functions that call functions and look at them.
-/
import HostBridge.Script.Evaluation.Program
import HostBridge.Script.Library.Object

namespace HostBridge.Script

/-- No call is given more arguments than this. -/
def argumentLimit : Nat := 65535

/-- The arguments that an object like an array holds. -/
def spreadArguments (call : Caller) (value : Value) : Machine (List Value) := do
  if !value.isObject then typeFaultText "not a object"
  else
    let size ← lengthOf call value
    if argumentLimit < size then
      rangeFault s!"too many arguments in function call (only {argumentLimit} allowed)"
    else (List.range size).mapM fun index => getMember call value (.ofNat index)

def applyFunction : NativeAction := fun call given => do
  requireFunction given.receiver
  let arguments ← if given.second.isAbsent then pure [] else spreadArguments call given.second
  call (.on given.first) given.receiver arguments

/-- A bound function takes as many arguments as are not given yet. -/
def boundLength (call : Caller) (function : Reference) (count : Nat) : Machine Value := do
  if (← ownMember? call function lengthKey).isSome then
    match ← getMember call (.object function) lengthKey with
    | .integer size => return .ofNat (size.toInt - count).toNat
    | .float size =>
        if size.isNaN then return .integer 0
        else
          let rest := truncated size - Float.ofNat count
          return .ofFloat (if rest < 0.0 then 0.0 else rest)
    | _ => return .integer 0
  else return .integer 0

def bindFunction : NativeAction := fun call given => do
  requireFunction given.receiver
  let target ← requireObject given.receiver
  let name ←
    match ← getMember call given.receiver nameKey with
    | .text name => pure name
    | _ => pure []
  let size ← boundLength call target (given.count - 1)
  let bound := Object.bare (.function (.bound target given.first (given.arguments.drop 1)))
    (some functionPrototype)
  makeObject ((bound.put nameKey (.replaceable (.text (Text.units "bound " ++ name)))).put
    lengthKey (.replaceable size))

/-- The text of a function that no script has written. -/
def nativeText (name : Units) : Units :=
  Text.units "function " ++ name ++ Text.units "() \x7b\n    [native code]\n\x7d"

def functionText : NativeAction := fun call given => do
  requireFunction given.receiver
  match ← lookUp fun memory => memory.code? given.receiver with
  | some (.script closure) => return .ofString closure.text.heading.source
  | _ =>
      match ← getMember call given.receiver nameKey with
      | .undefined => return .text (nativeText [])
      | name => return .text (nativeText (← toText call name))

/-- What is known of a function that a script has written. -/
def closureOf? (value : Value) : Machine (Option Closure) := do
  match ← lookUp fun memory => memory.code? value with
  | some (.script closure) => return some closure
  | _ => return none

/-- Only a function that is neither strict nor made for objects does not mind being asked for its
callers. -/
def guardCallers : NativeAction := fun _ given => do
  match ← closureOf? given.receiver with
  | some closure =>
      let heading := closure.text.heading
      if heading.mode = .loose && heading.role = .plain && !heading.isAsynchronous then
        return .undefined
      else typeFaultText "invalid property access"
  | none => typeFaultText "invalid property access"

def functionShelf : Shelf := [
  shelved "call" 1 fun call given =>
    call (.on given.first) given.receiver (given.arguments.drop 1),
  shelved "apply" 2 applyFunction,
  shelved "bind" 1 bindFunction,
  shelved "toString" 0 functionText,
  shelvedSymbol instanceSymbol 1 fun call given =>
    truthOf (wasMadeBy call given.first given.receiver),
  shelvedGetter (.ofString "fileName") fun _ given => do
    match ← closureOf? given.receiver with
    | some closure => return .ofString closure.scope.file
    | none => return .undefined,
  shelvedGetter (.ofString "lineNumber") fun _ given => do
    match ← closureOf? given.receiver with
    | some closure => return .ofNat closure.text.heading.line
    | none => return .undefined]

/-- The texts of parameters are joined, and the last text is the body. -/
def joinParameters : List Units → Units
  | [] => []
  | [text] => text
  | text :: rest => text ++ Text.units "," ++ joinParameters rest

/-- Makes a function of texts. -/
def makeFunctionOfTexts (isGenerator isAsynchronous : Bool) (usual : Reference) : NativeAction :=
  fun call given => do
    let texts ← given.arguments.mapM (toText call)
    let made ← makeFromTexts (joinParameters texts.dropLast) ((texts.getLast?).getD [])
      isGenerator isAsynchronous usual
    if given.isFresh then
      let behind ← given.prototype call usual
      let _ ← changePrototype call .strict (← requireObject made) (some behind)
    return made

end HostBridge.Script
