/-
This file reads and makes arrays and objects that are like arrays.
-/
import HostBridge.Script.Library.Basic

namespace HostBridge.Script

variable {A : Type}

/-- Goes through the indices below a size as long as the body says so. The first argument of the
recursion counts the indices that are left. -/
def climbWithin (body : A → Nat → Machine (A × Bool)) (size : Nat) : Nat → A → Machine A
  | 0, state => return state
  | rest + 1, state => do
      let (state, goesOn) ← body state (size - (rest + 1))
      if goesOn then climbWithin body size rest state else return state

/-- Goes through the indices below a size in ascending order. -/
def climb (size : Nat) (start : A) (body : A → Nat → Machine (A × Bool)) : Machine A :=
  climbWithin body size size start

/-- Goes through the indices below a size in descending order. -/
def descend (body : A → Nat → Machine (A × Bool)) : Nat → A → Machine A
  | 0, state => return state
  | index + 1, state => do
      let (state, goesOn) ← body state index
      if goesOn then descend body index state else return state

/-- Does something with every index below a size. -/
def forIndices (size : Nat) (body : Nat → Machine Unit) : Machine Unit :=
  climb size () fun _ index => do
    body index
    return ((), true)

/-- The object that a function of arrays is called on, and its length. -/
def Given.holder (call : Caller) (given : Given) : Machine (Reference × Nat) := do
  let place ← toObject given.receiver
  return (place, ← lengthOf call (.object place))

def itemAt (call : Caller) (place : Reference) (index : Nat) : Machine Value := do
  match ← lookUp fun memory => (memory.object place).items[index]? with
  | some value => return value
  | none => getMember call (.object place) (.ofNat index)

/-- The item at an index, if there is one. -/
def item? (call : Caller) (place : Reference) (index : Nat) : Machine (Option Value) := do
  match ← lookUp fun memory => (memory.object place).items[index]? with
  | some value => return some value
  | none =>
      if ← hasMember call place (.ofNat index) then
        return some (← getMember call (.object place) (.ofNat index))
      else return none

/-- All items, also where there are none. -/
def allItems (call : Caller) (place : Reference) (size : Nat) : Machine (Array Value) :=
  climb size #[] fun items index => do
    return (items.push (← itemAt call place index), true)

def putItem (call : Caller) (place : Reference) (index : Nat) (value : Value) : Machine Unit :=
  putMember call (.object place) (.ofNat index) value

/-- An item of a new array. -/
def makeItem (call : Caller) (place : Reference) (index : Nat) (value : Value) : Machine Unit := do
  let _ ← createMember call .strict place (.ofNat index) value

def removeItem (call : Caller) (place : Reference) (index : Nat) : Machine Unit := do
  let _ ← removeMember call .strict place (.ofNat index)

def setLength (call : Caller) (place : Reference) (size : Nat) : Machine Unit :=
  putMember call (.object place) lengthKey (.ofNat size)

/-- An array without items, which has a length all the same. -/
def makeSized (size : Nat) : Machine Reference :=
  if 0xFFFFFFFF < size then rangeFault "invalid array length"
  else allocate { Object.ofItems #[] with kind := .array size true }

/-- An array, or a proxy that stands for one. The first argument bounds the proxies. -/
def isArrayWithin : Nat → Reference → Machine Bool
  | 0, _ => tooDeep
  | bound + 1, place => do
      match ← kindAt place with
      | .array _ _ => return true
      | .proxy none _ _ => typeFaultText "revoked proxy"
      | .proxy (some (target, _)) _ _ => isArrayWithin bound target
      | _ => return false

def isArrayValue (value : Value) : Machine Bool :=
  match value with
  | .object place => isArrayWithin proxyLimit place
  | _ => return false

/-- The class that makes new arrays like an array, unless it is the usual one. -/
def arraySpecies (call : Caller) (place : Reference) : Machine Value := do
  match ← getMember call (.object place) constructorKey with
  | .object constructor =>
      match ← getMember call (.object constructor) speciesSymbol with
      | .null => return .undefined
      | species => return species
  | other => return other

/-- A new array for what is made of another one. -/
def makeLike (call : Caller) (place : Reference) (size : Nat) : Machine Reference := do
  if ← isArrayValue (.object place) then
    let species ← arraySpecies call place
    if species.isUndefined then makeSized size
    else requireObject (← call (.fresh species) species [.ofNat size])
  else makeSized size

/-- The largest number of items. -/
def itemLimit : Nat := 0x1FFFFFFFFFFFFF

def tooManyItems : Machine Unit := typeFaultText "Array loo long"

/-- Moves items to other indices. Items that are missing are missing there too. -/
def moveItem (call : Caller) (place : Reference) (source target : Nat) : Machine Unit := do
  match ← item? call place source with
  | some value => putItem call place target value
  | none => removeItem call place target

def moveUp (call : Caller) (place : Reference) (source target count : Nat) : Machine Unit :=
  descend (fun _ offset => do
    moveItem call place (source + offset) (target + offset)
    return ((), true)) count ()

def moveDown (call : Caller) (place : Reference) (source target count : Nat) : Machine Unit :=
  forIndices count fun offset => moveItem call place (source + offset) (target + offset)

/-- The new array that a class makes, or a usual one. -/
def makeByClass (call : Caller) (maker : Value) (arguments : List Value) (size : Nat) :
    Machine Reference := do
  if ← lookUp fun memory => memory.isConstructor maker then
    requireObject (← call (.fresh maker) maker arguments)
  else makeSized size

end HostBridge.Script
