/-
This file finds, reads and changes the variables that names stand for.
-/
import HostBridge.Script.Conversion

namespace HostBridge.Script

/-- Where a name is found. -/
inductive Site where
  | variable (found : Variable)
  /-- An object whose members are variables. -/
  | member (object : Reference) (isAsked : Bool)
  /-- The global object. The flag says whether it has such a member. -/
  | global (isKnown : Bool)

def globalValue : Value := .object globalPlace

def notInitialized {A : Type} (name : String) : Machine A :=
  fault "ReferenceError" (Text.units (name ++ " is not initialized"))

/-- An object keeps some of its members from being variables. -/
def isUnscopable (call : Caller) (place : Reference) (key : Key) : Machine Bool := do
  match ← getMember call (.object place) unscopableSymbol with
  | .object list => return (← getMember call (.object list) key).truth
  | _ => return false

/-- An object has a variable for a name. -/
def holdsName (call : Caller) (place : Reference) (isAsked : Bool) (key : Key) : Machine Bool := do
  if ← hasMember call place key then
    if isAsked then return !(← isUnscopable call place key) else return true
  else return false

def findVariable? (name : String) (list : List Variable) : Option Variable :=
  list.find? fun entry => entry.name = name

/-- A name that no layer has is a global one. -/
def findGlobal (call : Caller) (name : String) : Machine Site := do
  match findVariable? name (← asks? World.lexicals) with
  | some found => return .variable found
  | none => return .global (← hasMember call globalPlace (.ofString name))

/-- The innermost layer with a name is asked. -/
def findName (call : Caller) (name : String) : List Layer → Machine Site
  | [] => findGlobal call name
  | .locals list :: rest =>
      match findVariable? name list with
      | some found => return .variable found
      | none => findName call name rest
  | .members place isAsked :: rest => do
      if ← holdsName call place isAsked (.ofString name) then return .member place isAsked
      else findName call name rest

def readVariable (found : Variable) : Machine Value := do
  match ← cellValue found.cell with
  | some value => return value
  | none => notInitialized found.name

/-- The value of a name. -/
def Site.read (call : Caller) (name : String) : Site → Machine Value
  | .variable found => readVariable found
  | .member place _ => getMember call (.object place) (.ofString name)
  | .global true => getMember call globalValue (.ofString name)
  | .global false => notDefined (Text.units name)

def nameValue (call : Caller) (scope : Scope) (name : String) : Machine Value := do
  (← findName call name scope.layers).read call name

/-- The value of a name and the receiver of a call of it. -/
def readCallee (call : Caller) (scope : Scope) (name : String) : Machine (Value × Value) := do
  let site ← findName call name scope.layers
  let value ← site.read call name
  match site with
  | .member place true => return (value, .object place)
  | _ => return (value, .undefined)

/-- An unknown name has a type too. -/
def readNameOrNothing (call : Caller) (scope : Scope) (name : String) : Machine Value := do
  match ← findName call name scope.layers with
  | .global false => return .undefined
  | site => site.read call name

def assignVariable (mode : Mode) (found : Variable) (value : Value) : Machine Unit := do
  match ← cellValue found.cell, found.binding with
  | none, _ => notInitialized found.name
  | some _, .changeable => setCell found.cell (some value)
  | some _, .constant => readOnly (Text.units found.name)
  | some _, .fixed =>
      if mode = .strict then readOnly (Text.units found.name) else return ()

/-- Assigns to a name that was found before. A strict script has to know the name. -/
def Site.assign (call : Caller) (mode : Mode) (name : String) (value : Value) :
    Site → Machine Unit
  | .variable found => assignVariable mode found value
  | .member place _ => do
      let _ ← setInObject call mode true place (.ofString name) value
  | .global isKnown => do
      if mode = .strict && !isKnown then notDefined (Text.units name)
      else
        let _ ← setInObject call mode (mode = .loose) globalPlace (.ofString name) value

def assignName (call : Caller) (scope : Scope) (name : String) (value : Value) : Machine Unit := do
  (← findName call name scope.layers).assign call scope.mode name value

/-- A declared name gets its first value. -/
def initializeName (call : Caller) (scope : Scope) (name : String) (value : Value) :
    Machine Unit := do
  match ← findName call name scope.layers with
  | .variable found => setCell found.cell (some value)
  | site => site.assign call scope.mode name value

/-- Removes a name. Only members of objects can be removed. -/
def removeName (call : Caller) (scope : Scope) (name : String) : Machine Bool := do
  match ← findName call name scope.layers with
  | .variable _ => return false
  | .member place _ => removeMember call .loose place (.ofString name)
  | .global _ => removeMember call .loose globalPlace (.ofString name)

/-- New variables without values. -/
def newVariables (names : List (String × Bool)) : Machine (List Variable) :=
  names.mapM fun entry => do
    return ⟨entry.1, ← newCell none, if entry.2 then .constant else .changeable⟩

/-- A new variable with a value. -/
def newVariable (name : String) (value : Value) (binding : Binding) : Machine Variable := do
  return ⟨name, ← newCell (some value), binding⟩

/-- Variables of the same names and values in new cells. -/
def renewVariables (list : List Variable) : Machine (List Variable) :=
  list.mapM fun entry => do
    return { entry with cell := ← newCell (← cellValue entry.cell) }

/-- Declares a variable of the global object. A known one is left as it is. -/
def declareGlobal (name : String) (configurable : Bool) : Machine Unit := do
  let key := Key.ofString name
  let isSettled ← lookUp fun memory =>
    let object := memory.object globalPlace
    (object.own? key).isSome || !object.extensible
  if isSettled then return ()
  else changeObject globalPlace fun object =>
    object.put key (.data .undefined true true configurable)

/-- A function becomes a global variable, also in place of one that can be removed. -/
def declareGlobalFunction (call : Caller) (name : String) (value : Value) (configurable : Bool) :
    Machine Unit := do
  let key := Key.ofString name
  let isFresh :=
    match ← ownAt globalPlace key with
    | some property => property.isConfigurable
    | none => true
  let flag : Option Bool := if isFresh then some true else none
  let _ ← defineMember call .strict globalPlace key
    ⟨some value, flag, none, none, flag, if isFresh then some configurable else none⟩

/-- What keeps a script from declaring a global name. -/
def checkGlobal (name : String) (isLexical isFunction : Bool) : Machine Unit := do
  let object ← objectAt globalPlace
  let own := object.own? (.ofString name)
  let taken {A : Type} : Machine A :=
    fault "SyntaxError" (naming "redeclaration of " (Text.units name) "")
  let isFixed :=
    match own with
    | some property => !property.isConfigurable
    | none => false
  let isStrange :=
    match own with
    | some (.data _ true true _) => false
    | some property => !property.isConfigurable
    | none => false
  if isLexical && isFixed then taken
  else if !isLexical && ((own.isNone && !object.extensible) || (isFunction && isStrange)) then
    typeFault (naming "cannot define variable " (Text.units name) "")
  else if (findVariable? name (← asks? World.lexicals)).isSome then taken
  else return ()

end HostBridge.Script
