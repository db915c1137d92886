/-
This file goes through the items of arrays and looks for some of them.
-/
import HostBridge.Script.Library.Array.Basic

namespace HostBridge.Script

/-- What a function answers for an item. -/
def askItem (call : Caller) (given : Given) (place : Reference) (index : Nat) (value : Value) :
    Machine Value :=
  call (.on given.second) given.first [value, .ofNat index, .object place]

/-- A function is called for every item that there is, as long as the body says so. -/
def visitItems {A : Type} (call : Caller) (given : Given)
    (start : Reference → Nat → Machine A)
    (body : A → Nat → Value → Value → Machine (A × Bool)) : Machine A := do
  let (place, size) ← given.holder call
  requireFunction given.first
  let start ← start place size
  climb size start fun state index => do
    match ← item? call place index with
    | some value => body state index value (← askItem call given place index value)
    | none => return (state, true)

/-- Some item has an answer of this kind. -/
def anyAnswer (wanted : Bool) : NativeAction := fun call given => do
  let found ← visitItems call given (fun _ _ => return false) fun _ _ _ answer =>
    return (answer.truth = wanted, answer.truth ≠ wanted)
  return .boolean (found = wanted)

def visitAll : NativeAction := fun call given => do
  visitItems call given (fun _ _ => return ()) fun _ _ _ _ => return ((), true)
  return .undefined

def mapItems : NativeAction := fun call given => do
  let made ← visitItems call given (makeLike call) fun made index _ answer => do
    makeItem call made index answer
    return (made, true)
  return .object made

def filterItems : NativeAction := fun call given => do
  let start (place : Reference) (_ : Nat) : Machine (Reference × Nat) := do
    return (← makeLike call place 0, 0)
  let (made, _) ← visitItems call given start fun (made, count) _ value answer => do
    if answer.truth then
      makeItem call made count value
      return ((made, count + 1), true)
    else return ((made, count), true)
  return .object made

/-- A way through the indices below a size. -/
inductive Direction where
  | forward
  | backward

def Direction.walk {A : Type} (direction : Direction) (size : Nat) (start : A)
    (body : A → Nat → Machine (A × Bool)) : Machine A :=
  match direction with
  | .forward => climb size start body
  | .backward => descend body size start

/-- Items are taken together. The first one is the start where none is given. -/
def reduceItems (direction : Direction) : NativeAction := fun call given => do
  let (place, size) ← given.holder call
  requireFunction given.first
  let start := given.arguments[1]?
  let total ← direction.walk size start fun total index => do
    match ← item? call place index, total with
    | none, _ => return (total, true)
    | some value, none => return (some value, true)
    | some value, some total =>
        let next ← call (.on .undefined) given.first [total, value, .ofNat index, .object place]
        return (some next, true)
  match total with
  | some value => return value
  | none => typeFaultText "empty array"

/-- The first item on the way for which a function says yes. -/
def seekItem (direction : Direction) (call : Caller) (given : Given) :
    Machine (Option (Nat × Value)) := do
  let (place, size) ← given.holder call
  requireFunction given.first
  direction.walk size none fun _ index => do
    let value ← itemAt call place index
    if (← askItem call given place index value).truth then return (some (index, value), false)
    else return (none, true)

def findItem (direction : Direction) : NativeAction := fun call given => do
  return ((← seekItem direction call given).map Prod.snd).getD .undefined

def findIndexOfItem (direction : Direction) : NativeAction := fun call given => do
  return indexValue ((← seekItem direction call given).map Prod.fst)

/-- The index from which on a value is looked for. -/
def searchStart (call : Caller) (given : Given) (size : Nat) : Machine Nat := do
  if given.count < 2 then return 0 else return clampIndex (← toWhole call given.second) size

def findValue : NativeAction := fun call given => do
  let (place, size) ← given.holder call
  if size = 0 then return indexValue none
  else
    let first ← searchStart call given size
    let found ← climb (size - first) none fun _ offset => do
      match ← item? call place (first + offset) with
      | some value =>
          if value.equals given.first then return (some (first + offset), false)
          else return (none, true)
      | none => return (none, true)
    return indexValue found

def findLastValue : NativeAction := fun call given => do
  let (place, size) ← given.holder call
  if size = 0 then return indexValue none
  else
    let bound ←
      if given.count < 2 then pure size
      else do
        let index ← toWhole call given.second
        pure (if index < 0 then (index + size + 1).toNat else min (index.toNat + 1) size)
    let found ← descend (fun _ index => do
      match ← item? call place index with
      | some value =>
          if value.equals given.first then return (some index, false) else return (none, true)
      | none => return (none, true)) bound none
    return indexValue found

def includesValue : NativeAction := fun call given => do
  let (place, size) ← given.holder call
  if size = 0 then return .boolean false
  else
    let first ← searchStart call given size
    let found ← climb (size - first) false fun _ offset => do
      let isFound := (← itemAt call place (first + offset)).resembles given.first
      return (isFound, !isFound)
    return .boolean found

/-- The item at an index that may be counted from the end. -/
def pickItem : NativeAction := fun call given => do
  let (place, size) ← given.holder call
  let index ← toWhole call given.first
  let index := if index < 0 then index + size else index
  if index < 0 || Int.ofNat size ≤ index then return .undefined
  else itemAt call place index.toNat

end HostBridge.Script
