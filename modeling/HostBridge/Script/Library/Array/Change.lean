/-
This file adds items to arrays, removes them and moves them.
-/
import HostBridge.Script.Library.Array.Basic

namespace HostBridge.Script

def pushItems : NativeAction := fun call given => do
  let (place, size) ← given.holder call
  if itemLimit < size + given.count then tooManyItems
  let mut index := size
  for value in given.arguments do
    putItem call place index value
    index := index + 1
  setLength call place index
  return .ofNat index

def unshiftItems : NativeAction := fun call given => do
  let (place, size) ← given.holder call
  if itemLimit < size + given.count then tooManyItems
  if 0 < given.count then
    moveUp call place 0 given.count size
    forIndices given.count fun index => putItem call place index (given.argument index)
  setLength call place (size + given.count)
  return .ofNat (size + given.count)

def popItem : NativeAction := fun call given => do
  let (place, size) ← given.holder call
  if size = 0 then
    setLength call place 0
    return .undefined
  else
    let value ← itemAt call place (size - 1)
    removeItem call place (size - 1)
    setLength call place (size - 1)
    return value

/-- All items of an array stand side by side, and it can change in every way. -/
def Object.isPacked (object : Object) : Bool :=
  match object.kind with
  | .array size isOpen => isOpen && object.extensible && object.items.size = size
  | _ => false

/-- A packed array without its first item. -/
def Object.behead (object : Object) : Object :=
  { object with
    kind := .array (object.items.size - 1) true
    items := object.items.extract 1 object.items.size }

def shiftItem : NativeAction := fun call given => do
  let (place, size) ← given.holder call
  if size = 0 then
    setLength call place 0
    return .undefined
  else
    let value ← itemAt call place 0
    if (← objectAt place).isPacked then changeObject place Object.behead
    else
      moveDown call place 1 0 (size - 1)
      removeItem call place (size - 1)
      setLength call place (size - 1)
    return value

def putOrRemove (call : Caller) (place : Reference) (index : Nat) (value : Option Value) :
    Machine Unit :=
  match value with
  | some value => putItem call place index value
  | none => removeItem call place index

def reverseItems : NativeAction := fun call given => do
  let (place, size) ← given.holder call
  forIndices (size / 2) fun index => do
    let other := size - 1 - index
    let first ← item? call place index
    let last ← item? call place other
    if first.isSome || last.isSome then
      putOrRemove call place index last
      putOrRemove call place other first
  return .object place

def fillItems : NativeAction := fun call given => do
  let (place, size) ← given.holder call
  let first ← indexOr call given.second size 0
  let last ← indexOr call given.third size size
  forIndices (last - first) fun offset => putItem call place (first + offset) given.first
  return .object place

def copyWithin : NativeAction := fun call given => do
  let (place, size) ← given.holder call
  let target ← indexOr call given.first size 0
  let source ← indexOr call given.second size 0
  let last ← indexOr call given.third size size
  let count := min (last - source) (size - target)
  if source < target && target < source + count then moveUp call place source target count
  else moveDown call place source target count
  return .object place

/-- A new array of the items from an index on. -/
def takeItems (call : Caller) (place : Reference) (first count : Nat) : Machine Reference := do
  let made ← makeLike call place count
  forIndices count fun offset => do
    match ← item? call place (first + offset) with
    | some value => makeItem call made offset value
    | none => return ()
  setLength call made count
  return made

def sliceItems : NativeAction := fun call given => do
  let (place, size) ← given.holder call
  let first ← indexOr call given.first size 0
  let last ← indexOr call given.second size size
  return .object (← takeItems call place first (last - first))

/-- The items that are to be removed: the index of the first one and their number. -/
def removedItems (call : Caller) (given : Given) (size : Nat) : Machine (Nat × Nat) := do
  let first ← indexOr call given.first size 0
  let count ←
    match given.arguments with
    | [] => pure 0
    | [_] => pure (size - first)
    | _ :: count :: _ => do pure (min (← toWhole call count).toNat (size - first))
  return (first, count)

/-- Makes room for items where others were. -/
def replaceRoom (call : Caller) (place : Reference) (size first removed added : Nat) :
    Machine Unit := do
  let rest := size - (first + removed)
  if added < removed then
    moveDown call place (first + removed) (first + added) rest
    descend (fun _ offset => do
      removeItem call place (size - removed + added + offset)
      return ((), true)) (removed - added) ()
  else if removed < added then moveUp call place (first + removed) (first + added) rest

def spliceItems : NativeAction := fun call given => do
  let (place, size) ← given.holder call
  let (first, removed) ← removedItems call given size
  let added := given.arguments.drop 2
  if itemLimit < size + added.length - removed then tooManyItems
  let made ← takeItems call place first removed
  replaceRoom call place size first removed added.length
  let mut index := first
  for value in added do
    putItem call place index value
    index := index + 1
  setLength call place (size + added.length - removed)
  return .object made

def splicedItems : NativeAction := fun call given => do
  let (place, size) ← given.holder call
  let (first, removed) ← removedItems call given size
  if itemLimit < size + (given.count - 2) - removed then tooManyItems
  let items ← allItems call place size
  makeArray ((items.toList.take first) ++ given.arguments.drop 2 ++
    items.toList.drop (first + removed))

/-- The items in another order, or with other ones among them, as a new array. -/
def itemsMade (make : Caller → Given → Array Value → Machine (List Value)) : NativeAction :=
  fun call given => do
    let (place, size) ← given.holder call
    if 0xFFFFFFFF < size then rangeFault "invalid array length"
    makeArray (← make call given (← allItems call place size))

def withItem : NativeAction := fun call given => do
  let (place, size) ← given.holder call
  if 0xFFFFFFFF < size then rangeFault "invalid array length"
  let index ← toWhole call given.first
  let index := if index < 0 then index + size else index
  if index < 0 || Int.ofNat size ≤ index then
    rangeFault s!"invalid array index: {shownText (wholeText index)}"
  else
    let items ← allItems call place size
    makeArray (items.setIfInBounds index.toNat given.second).toList

/-- The items of a value take its place in a longer array. -/
def isSpreadable (call : Caller) (value : Value) : Machine Bool := do
  if !value.isObject then return false
  else
    match ← getMember call value spreadableSymbol with
    | .undefined => isArrayValue value
    | wish => return wish.truth

/-- Adds a value, or the items of one, to an array with some items. -/
def concatValue (call : Caller) (made : Reference) (count : Nat) (value : Value) :
    Machine Nat := do
  match value, ← isSpreadable call value with
  | .object place, true =>
      let size ← lengthOf call value
      if itemLimit < count + size then tooManyItems
      forIndices size fun index => do
        match ← item? call place index with
        | some item => makeItem call made (count + index) item
        | none => return ()
      return count + size
  | _, _ =>
      if itemLimit ≤ count then tooManyItems
      makeItem call made count value
      return count + 1

def concatItems : NativeAction := fun call given => do
  let place ← toObject given.receiver
  let made ← makeLike call place 0
  let count ← (Value.object place :: given.arguments).foldlM (concatValue call made) 0
  setLength call made count
  return .object made

/-- Adds the items of an object to an array, those of arrays among them one by one. The first
argument bounds how deep arrays are opened. -/
def flattenWithin (call : Caller) (made : Reference) (change : Nat → Value → Machine Value) :
    Nat → Reference → Nat → Machine Nat
  | depth, place, count => do
      let size ← lengthOf call (.object place)
      climb size count fun count index => do
        match ← item? call place index with
        | none => return (count, true)
        | some value =>
            let value ← change index value
            match value, depth with
            | .object inner, depth + 1 =>
                if ← isArrayValue value then
                  return (← flattenWithin call made (fun _ value => return value) depth inner count,
                    true)
                else
                  makeItem call made count value
                  return (count + 1, true)
            | _, _ =>
                makeItem call made count value
                return (count + 1, true)

/-- Arrays are not opened deeper than this. -/
def deepestArray : Nat := 1000

def flatItems : NativeAction := fun call given => do
  let (place, _) ← given.holder call
  let depth ← if given.first.isUndefined then pure 1 else toWhole call given.first
  let made ← makeLike call place 0
  let _ ← flattenWithin call made (fun _ value => return value) (min depth.toNat deepestArray) place 0
  return .object made

def flatMapItems : NativeAction := fun call given => do
  let (place, _) ← given.holder call
  requireFunction given.first
  let made ← makeLike call place 0
  let change (index : Nat) (value : Value) : Machine Value :=
    call (.on given.second) given.first [value, .ofNat index, .object place]
  let _ ← flattenWithin call made change 1 place 0
  return .object made

end HostBridge.Script
