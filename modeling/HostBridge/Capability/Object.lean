/-
This file defines the methods of host objects and the tables that hold them.
-/
import HostBridge.Capability.Action
import HostBridge.Event
import HostBridge.Text.Shown

namespace HostBridge

/-- The names that every value of a script already answers to. No call reaches a host method of
these names. -/
def baseCapabilities : List String := [
  "constructor",
  "toString",
  "toLocaleString",
  "valueOf",
  "hasOwnProperty",
  "isPrototypeOf",
  "propertyIsEnumerable",
  "__proto__",
  "__defineGetter__",
  "__defineSetter__",
  "__lookupGetter__",
  "__lookupSetter__",
  "equals",
  "hashCode",
  "getClass"]

def isBaseCapability (name : String) : Bool := baseCapabilities.contains name

/-- Overloads of one name differ in their number of parameters. -/
structure MethodKey where
  name : String
  arity : Nat
deriving DecidableEq

def MethodKey.text (key : MethodKey) : String := s!"{key.name}/{key.arity}"

structure Method where
  name : String
  params : List HostType
  description : String
  handler : Handler

def Method.arity (method : Method) : Nat := method.params.length

def Method.key (method : Method) : MethodKey := ⟨method.name, method.arity⟩

/-- Every parameter takes the argument in its place. -/
def Method.accepts (method : Method) (types : List HostType) : Bool :=
  method.params.length == types.length &&
    (method.params.zip types).all fun pair => pair.1.accepts pair.2

def typeNames (types : List HostType) : String := separated ", " (types.map HostType.name)

def Method.signature (method : Method) : String := s!"{method.name}({typeNames method.params})"

/-- The table of the methods of one object, in the order of their first declaration. -/
structure HostObject where
  typeName : String
  methods : Table MethodKey Method

def HostObject.empty (typeName : String) : HostObject := ⟨typeName, []⟩

/-- A method takes the place of the one with the same name and arity. -/
def HostObject.add (object : HostObject) (method : Method) : HostObject :=
  { object with methods := Table.put object.methods method.key method }

def HostObject.addEvents (object : HostObject) (method : Method) : List Event :=
  (if isBaseCapability method.name then [.shadowsBase object.typeName method.name] else []) ++
    match Table.lookup? object.methods method.key with
    | some old => [.replaced object.typeName old.signature]
    | none => []

def HostObject.addAll (object : HostObject) (methods : List Method) : HostObject :=
  methods.foldl HostObject.add object

def HostObject.addAllEvents (object : HostObject) : List Method → List Event
  | [] => []
  | method :: rest => object.addEvents method ++ (object.add method).addAllEvents rest

def HostObject.ofMethods (typeName : String) (methods : List Method) : HostObject :=
  (HostObject.empty typeName).addAll methods

def HostObject.method? (object : HostObject) (name : String) (arity : Nat) : Option Method :=
  Table.lookup? object.methods ⟨name, arity⟩

def HostObject.hasMethod (object : HostObject) (name : String) : Bool :=
  (Table.keys object.methods).any fun key => key.name == name

def HostObject.methodList (object : HostObject) : List Method := object.methods.map Prod.snd

/-- An arity joins those of its name. -/
def addArity (arities : Table String (List Nat)) (key : MethodKey) : Table String (List Nat) :=
  Table.put arities key.name ((Table.lookup? arities key.name).getD [] ++ [key.arity])

/-- The arities of every method name, in the order of their first declaration. -/
def HostObject.arities (object : HostObject) : Table String (List Nat) :=
  (Table.keys object.methods).foldl addArity []

/-- A base name reaches no method, and a method is reached only by arguments it accepts. -/
def HostObject.select? (object : HostObject) (name : String) (types : List HostType) :
    Option Method :=
  if isBaseCapability name then none
  else (object.method? name types.length).filter (·.accepts types)

def Method.helpLine (method : Method) : String :=
  s!"  {method.signature}" ++
    (if method.description.isEmpty then "" else s!"  {method.description}") ++ "\n"

/-- One line for the type and one for each method. -/
def HostObject.help (object : HostObject) : String :=
  object.typeName ++ "\n" ++ String.join (object.methodList.map Method.helpLine)

def Method.inspect (method : Method) : String :=
  "HostMethod \x7b name: " ++ Text.shown method.name ++ ", params: [" ++
    separated ", " (method.params.map HostType.title) ++ "] \x7d"

def MethodKey.inspect (key : MethodKey) : String :=
  "MethodKey \x7b name: " ++ Text.shown key.name ++ s!", arity: {key.arity} \x7d"

def HostObject.inspect (object : HostObject) : String :=
  "HostObject \x7b type_name: " ++ Text.shown object.typeName ++ ", methods: [" ++
    separated ", " ((Table.keys object.methods).map MethodKey.inspect) ++ "] \x7d"

/-- Values of the type tell themselves what scripts can do with them. -/
class HostBinding (A : Type) where
  capabilities : A → HostObject

end HostBridge
