/-
This file defines the functions of maps and sets.
-/
import HostBridge.Script.Library.Object
import HostBridge.Script.Library.Walk

namespace HostBridge.Script

/-- The classes of collections. -/
structure Holding where
  isMap : Bool
  isWeak : Bool

def Holding.name (holding : Holding) : String :=
  (if holding.isWeak then "Weak" else "") ++ if holding.isMap then "Map" else "Set"

def Holding.kind (holding : Holding) (entries : Collection) : Kind :=
  if holding.isMap then .map entries holding.isWeak else .set entries holding.isWeak

/-- The entries of a collection of this class. -/
def Holding.entries? (holding : Holding) : Kind → Option Collection
  | .map entries isWeak => if holding.isMap && isWeak = holding.isWeak then some entries else none
  | .set entries isWeak => if !holding.isMap && isWeak = holding.isWeak then some entries else none
  | _ => none

def Kind.changeEntries (step : Collection → Collection) : Kind → Kind
  | .map entries isWeak => .map (step entries) isWeak
  | .set entries isWeak => .set (step entries) isWeak
  | kind => kind

/-- The place of the collection that a function is called on. -/
def Holding.this (holding : Holding) (given : Given) : Machine Reference := do
  let wrong : Machine Reference := typeFaultText (holding.name ++ " object expected")
  match given.receiver with
  | .object place =>
      if ← lookUp fun memory => (holding.entries? (memory.object place).kind).isSome then
        return place
      else wrong
  | _ => wrong

/-- Adds an entry. Only objects are keys of what does not keep its keys alive. -/
def Holding.add (holding : Holding) (given : Given) (value : Value) : Machine Value := do
  let place ← holding.this given
  if holding.isWeak && !given.first.isObject then notObject
  else
    let key := given.first.unsigned
    changeObject place fun object =>
      { object with kind := object.kind.changeEntries (·.put key.identity (key, value)) }
    return given.receiver

def Holding.find (holding : Holding) (given : Given) : Machine (Option Value) := do
  let place ← holding.this given
  let entry ← lookUp fun memory => (memory.collection place).lookup? given.first.identity
  return entry.map Prod.snd

def Holding.delete (holding : Holding) (given : Given) : Machine Value := do
  let found ← holding.find given
  let place ← holding.this given
  changeObject place fun object =>
    { object with kind := object.kind.changeEntries (·.remove given.first.identity) }
  return .boolean found.isSome

def Holding.clear (holding : Holding) (given : Given) : Machine Value := do
  let place ← holding.this given
  changeObject place fun object => { object with kind := object.kind.changeEntries Catalog.clear }
  return .undefined

/-- Calls a function for every entry, those among them that are added on the way. The first argument
bounds their number. -/
def visitEntries (call : Caller) (given : Given) (source : Reference) :
    Nat → Nat → Machine Value
  | 0, _ => interrupted
  | bound + 1, place => do
      match ← lookUp fun memory => (memory.collection source).entryFrom? place with
      | none => return .undefined
      | some (place, _, key, value) =>
          let _ ← call (.on given.second) given.first [value, key, given.receiver]
          visitEntries call given source bound (place + 1)

def Holding.visit (holding : Holding) : NativeAction := fun call given => do
  let place ← holding.this given
  requireFunction given.first
  visitEntries call given place roundLimit 0

def Holding.walk (holding : Holding) (showing : Showing) : NativeAction := fun _ given => do
  let place ← holding.this given
  makeWalk (holding.name ++ " Iterator") (.entries place 0 showing)

/-- The method that adds a value. -/
def Holding.adderName (holding : Holding) : String := if holding.isMap then "set" else "add"

/-- The functions that all collections of a class have. -/
def Holding.commonShelf (holding : Holding) : Shelf :=
  (if holding.isMap then [
    shelved "set" 2 fun _ given => holding.add given given.second,
    shelved "get" 1 fun _ given => return (← holding.find given).getD .undefined]
  else [shelved "add" 1 fun _ given => holding.add given given.first.unsigned]) ++ [
    shelved "has" 1 fun _ given => return .boolean (← holding.find given).isSome,
    shelved "delete" 1 fun _ given => holding.delete given]

/-- The functions of collections that can be walked through. -/
def Holding.walkShelf (holding : Holding) : Shelf := [
  shelved "clear" 0 fun _ given => holding.clear given,
  shelvedGetter (.ofString "size") fun _ given => do
    let place ← holding.this given
    return .ofNat (← lookUp fun memory => (memory.collection place).count),
  shelved "forEach" 1 holding.visit,
  shelved "values" 0 (holding.walk .values)] ++
  (if holding.isMap then [
    shelved "keys" 0 (holding.walk .keys),
    shelved "entries" 0 (holding.walk .entries),
    .again iteratorSymbol (.ofString "entries")]
  else [
    shelvedAgain "keys" "values",
    .again iteratorSymbol (.ofString "values"),
    shelved "entries" 0 (holding.walk .entries)])

def Holding.shelf (holding : Holding) : Shelf :=
  holding.commonShelf ++ (if holding.isWeak then [] else holding.walkShelf) ++
    [shelvedTag holding.name]

/-- The arguments that a value of a list gives to the method that adds it. -/
def Holding.addArguments (holding : Holding) (call : Caller) (value : Value) :
    Machine (List Value) := do
  if holding.isMap then
    let _ ← requireObject value
    return [← getMember call value (.index 0), ← getMember call value (.index 1)]
  else return [value]

def Holding.make (holding : Holding) : NativeAction := fun call given => do
  let prototype ← given.prototype call (prototypePlace holding.name)
  let made ← makeObject (.bare (holding.kind .empty) (some prototype))
  if given.first.isAbsent then return made
  else
    let adder ← getNamed call made holding.adderName
    unless ← lookUp fun memory => memory.isFunction adder do
      typeFaultText "set/add is not a function"
    foldValues call given.first () fun _ value => do
      let arguments ← holding.addArguments call value
      let _ ← call (.on made) adder arguments
    return made

/-- A map of the values that a function puts together. -/
def groupInMap : NativeAction := fun call given => do
  let groups ← groupValues call given Catalog.empty fun (groups : Collection) key value => do
    match groups.lookup? key.identity with
    | some (_, .object group) =>
        changeObject group fun object => object.putIndex object.items.size (.plain value)
        return groups
    | _ => return groups.put key.identity (key.unsigned, ← makeArray [value])
  makeObject (.bare (.map groups false) (some (prototypePlace "Map")))

def Holding.classShelf (holding : Holding) : Shelf :=
  if holding.isWeak then []
  else (if holding.isMap then [shelved "groupBy" 2 groupInMap] else []) ++ [shelvedSpecies]

end HostBridge.Script
