/-
This file evaluates object literals and classes.
-/
import HostBridge.Script.Evaluation.Invocation

namespace HostBridge.Script

/-- A getter or a setter goes together with the other one under the same key. -/
def accessorPart (role : Role) (function : Reference) (enumerable : Bool) : Descriptor :=
  if role = .getter then ⟨none, none, some (some function), none, some enumerable, some true⟩
  else ⟨none, none, none, some (some function), some enumerable, some true⟩

/-- Defines a method, a getter or a setter. -/
def defineMethod (e : Evaluator) (scope : Scope) (target home : Reference) (enumerable : Bool)
    (key : Key) (text : FunctionText) : Machine Unit := do
  let role := text.heading.role
  let function ← makeMethod scope text home (role.title key)
  let wanted : Descriptor :=
    if role = .getter || role = .setter then accessorPart role function enumerable
    else .ofProperty (.data (.object function) true enumerable true)
  let _ ← defineMember e.call .strict target key wanted

/-- A literal replaces an earlier member of the same key. -/
def putLiteral (place : Reference) (key : Key) (value : Value) : Machine Unit :=
  changeObject place fun object => object.put key (.plain value)

def evaluateMember (e : Evaluator) (scope : Scope) (place : Reference) (member : Member) :
    Machine Unit := do
  match member with
  | .value key isComputed content =>
      let key ← evaluateKey e scope key
      let value ← e.value scope content
      if isComputed then titleValue content key value
      putLiteral place key value
  | .prototype content =>
      match ← e.value scope content with
      | .object behind => changeObject place fun object => { object with prototype := some behind }
      | .null => changeObject place fun object => { object with prototype := none }
      | _ => return ()
  | .function key (.function heading parameters statements) =>
      let key ← evaluateKey e scope key
      defineMethod e scope place place true key ⟨heading, parameters, statements⟩
  | .function _ _ => return ()
  | .spread content => do spreadMembers e.call place (← e.value scope content)
  | .fixed _ => return ()

def evaluateObject (e : Evaluator) (scope : Scope) (members : List Member) : Machine Value := do
  let place ← allocate (.bare .plain (some objectPrototype))
  for member in members do evaluateMember e scope place member
  return .object place

/-- The class that another one is made from: what its functions and its objects inherit from. -/
structure Parentage where
  behind : Reference
  prototype : Option Reference

/-- A class without a parent makes plain objects. -/
def parentageOf (e : Evaluator) (scope : Scope) (parent : Expression) : Machine Parentage := do
  match parent with
  | .nothing => return ⟨functionPrototype, some objectPrototype⟩
  | _ =>
      match ← e.value scope parent with
      | .null => return ⟨functionPrototype, none⟩
      | value =>
          unless ← lookUp fun memory => memory.isConstructor value do
            typeFaultText "parent class must be constructor"
          match ← getMember e.call value prototypeKey with
          | .object prototype => return ⟨← requireObject value, some prototype⟩
          | .null => return ⟨← requireObject value, none⟩
          | _ => typeFaultText "parent prototype must be an object or null"

/-- A class without a function of its own hands everything on to its parent. -/
def defaultMaker (isDerived : Bool) (source : String) : FunctionText where
  heading := {
    role := if isDerived then .derivedMaker else .maker
    mode := .strict
    isGenerator := false
    isAsynchronous := false
    ownName := none
    title := none
    isSimple := !isDerived
    arity := 0
    parameterNames := if isDerived then ["rest"] else []
    variableNames := []
    names := []
    callsEval := false
    usesArguments := false
    line := 1
    source := source }
  parameters := if isDerived then [.rest (.place (.name "rest"))] else []
  statements :=
    if isDerived then [.value (.constructParent 1 [.spread (.name "rest")])] else []

/-- The function that makes the objects of a class shows the text of the whole class. -/
def makerOf (parent maker : Expression) (source : String) : FunctionText :=
  match maker, parent with
  | .function heading parameters statements, _ =>
      ⟨{ heading with source := source }, parameters, statements⟩
  | _, .nothing => defaultMaker false source
  | _, _ => defaultMaker true source

/-- A field that is waiting to be set up. -/
structure Draft where
  isFixed : Bool
  field : Field

/-- A part of a class: a method is defined at once, and a field is kept. -/
def evaluatePart (e : Evaluator) (scope : Scope) (maker prototype : Reference) (isFixed : Bool)
    (part : Member) : Machine (List Draft) := do
  let home := if isFixed then maker else prototype
  match part with
  | .function key (.function heading parameters statements) =>
      let key ← evaluateKey e scope key
      defineMethod e scope home home false key ⟨heading, parameters, statements⟩
      return []
  | .value key _ (.function heading parameters statements) =>
      let key ← evaluateKey e scope key
      let compute ← makeMethod scope ⟨heading, parameters, statements⟩ home []
      return [⟨isFixed, ⟨key, compute⟩⟩]
  | _ => return []

def evaluateParts (e : Evaluator) (scope : Scope) (maker prototype : Reference) :
    List Member → Machine (List Draft)
  | [] => return []
  | .fixed part :: rest => do
      let drafts ← evaluatePart e scope maker prototype true part
      return drafts ++ (← evaluateParts e scope maker prototype rest)
  | part :: rest => do
      let drafts ← evaluatePart e scope maker prototype false part
      return drafts ++ (← evaluateParts e scope maker prototype rest)

/-- The fields of a class are known to the function that makes its objects. -/
def keepFields (maker : Reference) (fields : List Field) : Machine Unit :=
  changeObject maker fun object =>
    match object.kind with
    | .function (.script closure) =>
        { object with kind := .function (.script { closure with fields := fields }) }
    | _ => object

/-- The function and the prototype of a class. -/
def makeClass (scope : Scope) (parentage : Parentage) (text : FunctionText)
    (title : Option String) : Machine (Reference × Reference) := do
  let prototype ← allocate (.bare .plain parentage.prototype)
  let maker ← makeClosure ⟨text, scope, some prototype, []⟩
    (Text.units (title.getD "")) parentage.behind
  changeObject maker fun object => object.put prototypeKey (.locked (.object prototype))
  changeObject prototype fun object => object.put constructorKey (.hidden (.object maker))
  return (maker, prototype)

/-- A class knows itself by its name. Its own fields are set up when it is complete. -/
def evaluateClass (e : Evaluator) (scope : Scope) (ownName title : Option String)
    (parent maker : Expression) (parts : List Member) (source : String) : Machine Value := do
  let own ← newVariables (ownName.toList.map fun name => (name, true))
  let inner := { scope.declare own with mode := .strict }
  let parentage ← parentageOf e inner parent
  let text := makerOf parent maker source
  let (function, prototype) ← makeClass inner parentage text (ownName.or title)
  let drafts ← evaluateParts e inner function prototype parts
  keepFields function ((drafts.filter fun draft => !draft.isFixed).map Draft.field)
  for entry in own do setCell entry.cell (some (.object function))
  setFields e function ((drafts.filter Draft.isFixed).map Draft.field)
  return .object function

end HostBridge.Script
