/-
This file defines what the evaluation of scripts consists of, and how functions come to be.
-/
import HostBridge.Script.Iteration
import HostBridge.Script.Name
import HostBridge.Script.Operation

namespace HostBridge.Script

/-- How a statement ends. -/
inductive Completion where
  | normal
  | leave (label : Option String)
  | proceed (label : Option String)
  | answer (value : Value)

/-- A variable gets its first value or another one. -/
inductive Storing where
  | first
  | other
deriving DecidableEq

/-- The evaluations that refer to each other. -/
structure Evaluator where
  value : Scope → Expression → Machine Value
  /-- A value with the receiver of a call of it. There is none where a value in question is
  absent. -/
  link : Scope → Expression → Machine (Option (Value × Value))
  run : Scope → Statement → Machine Completion
  /-- Stores a value that is computed after the place for it. -/
  store : Scope → Storing → Target → Machine Value → Machine Unit
  call : Caller

/-- Sets the value of a script. -/
def Scope.setAnswer (scope : Scope) (value : Value) : Machine Unit :=
  match scope.answer with
  | some cell => setCell cell (some value)
  | none => return ()

/-- Statements run up to the first one that does not end in the normal way. -/
def runAll (e : Evaluator) (scope : Scope) : List Statement → Machine Completion
  | [] => return .normal
  | statement :: rest => do
      match ← e.run scope statement with
      | .normal => runAll e scope rest
      | other => return other

/-- The prototype of the functions with a heading. -/
def Heading.prototype (heading : Heading) : Reference :=
  match heading.isAsynchronous, heading.isGenerator with
  | false, false => functionPrototype
  | false, true => prototypePlace "GeneratorFunction"
  | true, false => prototypePlace "AsyncFunction"
  | true, true => prototypePlace "AsyncGeneratorFunction"

/-- The object that the new objects of a function inherit from. -/
def givePrototype (heading : Heading) (function : Reference) : Machine Unit := do
  if heading.isGenerator then
    let behind := if heading.isAsynchronous then prototypePlace "AsyncGenerator"
      else generatorPrototype
    let prototype ← makeEmpty (some behind)
    changeObject function fun object =>
      object.put prototypeKey (.data prototype true false false)
  else if heading.role = .plain && !heading.isAsynchronous then
    let prototype ← allocate ((Object.bare .plain (some objectPrototype)).put constructorKey
      (.hidden (.object function)))
    changeObject function fun object =>
      object.put prototypeKey (.data (.object prototype) true false false)
  else return ()

/-- The object of a function with a name of its own choice. -/
def makeClosure (closure : Closure) (title : Units) (prototype : Reference) : Machine Reference :=
  allocate (((Object.bare (.function (.script closure)) (some prototype)).put lengthKey
    (.replaceable (.ofNat closure.text.heading.arity))).put nameKey (.replaceable (.text title)))

/-- A function that knows itself by a name. -/
def makeNamedFunction (scope : Scope) (text : FunctionText) (name : String) : Machine Value := do
  let cell ← newCell none
  let inner := scope.declare [⟨name, cell, .fixed⟩]
  let place ← makeClosure ⟨text, inner, none, []⟩ (Text.units name) text.heading.prototype
  givePrototype text.heading place
  setCell cell (some (.object place))
  return .object place

/-- The value of a function expression. -/
def makeFunction (scope : Scope) (text : FunctionText) : Machine Value := do
  match text.heading.ownName with
  | some name => makeNamedFunction scope text name
  | none =>
      let title := Text.units (text.heading.title.getD "")
      let place ← makeClosure ⟨text, scope, none, []⟩ title text.heading.prototype
      givePrototype text.heading place
      return .object place

/-- A function that belongs to an object. -/
def makeMethod (scope : Scope) (text : FunctionText) (home : Reference) (title : Units) :
    Machine Reference := do
  let place ← makeClosure ⟨text, scope, some home, []⟩ title text.heading.prototype
  givePrototype text.heading place
  return place

/-- Getters and setters show in their names what they are. -/
def Role.title (role : Role) (key : Key) : Units :=
  match role with
  | .getter => Text.units "get " ++ key.title
  | .setter => Text.units "set " ++ key.title
  | _ => key.title

/-- A function without a name gets the name of a key that is computed. -/
def titleValue (content : Expression) (key : Key) (value : Value) : Machine Unit := do
  let isNameless :=
    match content with
    | .function heading _ _ => heading.ownName.isNone && heading.title.isNone
    | .blueprint none none _ _ _ _ => true
    | _ => false
  match value, isNameless with
  | .object place, true =>
      changeObject place fun object => object.put nameKey (.replaceable (.text key.title))
  | _, _ => return ()

/-- A computed key. The value of another key is the key. -/
def evaluateKey (e : Evaluator) (scope : Scope) (key : Expression) : Machine Key := do
  match key with
  | .text units => return .ofUnits units
  | _ => toKey e.call (← e.value scope key)

/-- The receiver of the function around the code. -/
def receiverOf (scope : Scope) : Machine Value := do
  match scope.receiver with
  | none => return globalValue
  | some cell =>
      match ← cellValue cell with
      | some value => return value
      | none => notInitialized "this"

def newTargetOf (scope : Scope) : Machine Value := do
  match scope.newTarget with
  | none => return .undefined
  | some cell => return (← cellValue cell).getD .undefined

/-- The object behind the one that the function around the code belongs to. -/
def parentOf (e : Evaluator) (scope : Scope) : Machine (Option Reference) := do
  match scope.home with
  | none => return none
  | some home => prototypeOf e.call home

end HostBridge.Script
