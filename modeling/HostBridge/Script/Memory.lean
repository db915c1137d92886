/-
This file defines the memory of scripts, which holds their objects.
-/
import HostBridge.Script.Object

namespace HostBridge.Script

/-- Every object has a place of its own and stays there. -/
abbrev Memory := Array Object

/-- The classes of errors, of which all but the first inherit from the first. -/
def errorClasses : List String := [
  "Error", "EvalError", "RangeError", "ReferenceError", "SyntaxError", "TypeError", "URIError",
  "InternalError", "AggregateError"]

/-- The object of the global variables. -/
def globalPlace : Reference := 0

/-- What prototypes are for, in the order of their places behind the global object. -/
def prototypeNames : List String := [
  "Object", "Function", "Array", "String", "Number", "Boolean", "Symbol", "BigInt", "RegExp",
  "Date", "Map", "Set", "WeakMap", "WeakSet", "Promise", "Iterator", "Array Iterator",
  "String Iterator", "Map Iterator", "Set Iterator", "RegExp String Iterator", "Generator",
  "GeneratorFunction", "AsyncFunction", "AsyncGenerator", "AsyncGeneratorFunction",
  "AsyncIterator"] ++ errorClasses

def prototypePlace (name : String) : Reference := 1 + prototypeNames.idxOf name

/-- The function that evaluates the text of a script. -/
def evalPlace : Reference := 1 + prototypeNames.length

/-- The class of patterns. -/
def regexPlace : Reference := 2 + prototypeNames.length

/-- The class of promises. -/
def promisePlace : Reference := 3 + prototypeNames.length

def objectPrototype : Reference := prototypePlace "Object"

def functionPrototype : Reference := prototypePlace "Function"

def arrayPrototype : Reference := prototypePlace "Array"

def textPrototype : Reference := prototypePlace "String"

def numberPrototype : Reference := prototypePlace "Number"

def booleanPrototype : Reference := prototypePlace "Boolean"

def symbolPrototype : Reference := prototypePlace "Symbol"

def bigPrototype : Reference := prototypePlace "BigInt"

def regexPrototype : Reference := prototypePlace "RegExp"

def generatorPrototype : Reference := prototypePlace "Generator"

def Memory.object (memory : Memory) (place : Reference) : Object := (memory[place]?).getD default

/-- What is found under a key in an object and the objects behind it. A proxy answers itself. -/
inductive Found where
  | nothing
  | member (property : Property)
  | proxy (place : Reference)

/-- The objects behind an object are asked one after the other. The first argument bounds their
number. -/
def Memory.findWithin (memory : Memory) (key : Key) : Nat → Option Reference → Found
  | _, none => .nothing
  | 0, some _ => .nothing
  | bound + 1, some place =>
      let object := memory.object place
      match object.kind with
      | .proxy _ _ _ => .proxy place
      | _ =>
          match object.own? key with
          | some property => .member property
          | none => memory.findWithin key bound object.prototype

/-- What is found under a key, which no object behind itself keeps from being found. -/
def Memory.find (memory : Memory) (key : Key) (start : Option Reference) : Found :=
  memory.findWithin key memory.size start

/-- An object and the objects behind it, up to a proxy. The first argument bounds their number. -/
def Memory.chainWithin (memory : Memory) : Nat → Option Reference → List Reference
  | _, none => []
  | 0, some _ => []
  | bound + 1, some place =>
      let object := memory.object place
      match object.kind with
      | .proxy _ _ _ => [place]
      | _ => place :: memory.chainWithin bound object.prototype

def Memory.chain (memory : Memory) (start : Option Reference) : List Reference :=
  memory.chainWithin memory.size start

/-- The object that the members of a value are looked for in. -/
def Value.prototype? : Value → Option Reference
  | .undefined | .null => none
  | .boolean _ => some booleanPrototype
  | .integer _ | .float _ => some numberPrototype
  | .big _ => some bigPrototype
  | .text _ => some textPrototype
  | .symbol _ _ => some symbolPrototype
  | .object place => some place

/-- The member that a value answers with to a key. -/
def Memory.member (memory : Memory) (value : Value) (key : Key) : Found :=
  match value with
  | .text units =>
      match textMember? units key with
      | some property => .member property
      | none => memory.find key (some textPrototype)
  | _ => memory.find key value.prototype?

def Memory.code? (memory : Memory) (value : Value) : Option Code :=
  value.reference?.bind fun place => (memory.object place).code?

def Memory.isFunction (memory : Memory) (value : Value) : Bool :=
  match value with
  | .object place => (memory.object place).isCallable
  | _ => false

/-- A function of a script that `new` can be applied to. -/
def Heading.constructs (heading : Heading) : Bool :=
  match heading.role with
  | .plain => !heading.isGenerator && !heading.isAsynchronous
  | .maker | .derivedMaker => true
  | _ => false

/-- Functions that `new` can be applied to. The first argument bounds how often one function is
bound in another. -/
def Memory.constructsWithin (memory : Memory) : Nat → Reference → Bool
  | 0, _ => false
  | bound + 1, place =>
      match (memory.object place).kind with
      | .function (.standard _ isClass _) => isClass
      | .function (.script closure) => closure.text.heading.constructs
      | .function (.bound target _ _) => memory.constructsWithin bound target
      | .proxy _ _ isConstructor => isConstructor
      | _ => false

def Memory.isConstructor (memory : Memory) (value : Value) : Bool :=
  match value with
  | .object place => memory.constructsWithin memory.size place
  | _ => false

/-- What `typeof` says of a value. -/
def Memory.typeName (memory : Memory) (value : Value) : String :=
  match value with
  | .undefined => "undefined"
  | .null => "object"
  | .boolean _ => "boolean"
  | .integer _ | .float _ => "number"
  | .big _ => "bigint"
  | .text _ => "string"
  | .symbol _ _ => "symbol"
  | .object _ => if memory.isFunction value then "function" else "object"

/-- The kind of object that a message about a wrong argument names. -/
def Memory.objectKind (memory : Memory) (value : Value) : String :=
  let isConstructor := memory.isConstructor value
  match value.reference?.map fun place => (memory.object place).kind with
  | some (.array _ _) => "array"
  | some .error => "exception"
  | some (.promise _) => "promise"
  | some (.function _) => if isConstructor then "constructor" else "function"
  | some (.proxy _ isFunction _) =>
      if isConstructor then "constructor" else if isFunction then "function" else "object"
  | _ => "object"

/-- The kind of value that a message about a wrong argument names. -/
def Memory.valueKind (memory : Memory) (value : Value) : String :=
  match value with
  | .undefined => "undefined"
  | .null => "null"
  | .boolean _ => "bool"
  | .integer _ => "int"
  | .float _ => "float"
  | .big _ => "big_int"
  | .text _ => "string"
  | .symbol _ _ => "symbol"
  | .object _ => memory.objectKind value

end HostBridge.Script
