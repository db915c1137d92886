/-
This file lists the functions of arrays.
-/
import HostBridge.Script.Library.Array.Change
import HostBridge.Script.Library.Array.Order
import HostBridge.Script.Library.Array.Search
import HostBridge.Script.Library.Object
import HostBridge.Script.Library.Walk

namespace HostBridge.Script

/-- The texts of items with a separator between them. Absent items have empty texts. -/
def joinItems (call : Caller) (given : Given) (separator : Machine Units)
    (textOf : Value → Machine Units) : Machine Value := do
  let (place, size) ← given.holder call
  let separator ← separator
  let units ← climb size #[] fun (units : Array UInt16) index => do
    let units := if index = 0 then units else units ++ separator
    let value ← itemAt call place index
    if value.isAbsent then return (units, true)
    else return (units ++ (← textOf value), true)
  return .text units.toList

def joinPlain : NativeAction := fun call given =>
  joinItems call given (textOr call given.first (Text.units ",")) (toText call)

def joinLocal : NativeAction := fun call given =>
  joinItems call given (return Text.units ",") fun value => do
    let method ← getNamed call value "toLocaleString"
    toText call (← call (.on value) method [])

/-- An array shows its items, if it can join them. -/
def arrayText : NativeAction := fun call given => do
  let place ← toObject given.receiver
  let method ← getNamed call (.object place) "join"
  if ← lookUp fun memory => memory.isFunction method then call (.on (.object place)) method []
  else tagText call (.object place)

def arrayShelf : Shelf := [
  shelved "at" 1 pickItem,
  shelved "with" 2 withItem,
  shelved "concat" 1 concatItems,
  shelved "every" 1 (anyAnswer false),
  shelved "some" 1 (anyAnswer true),
  shelved "forEach" 1 visitAll,
  shelved "map" 1 mapItems,
  shelved "filter" 1 filterItems,
  shelved "reduce" 1 (reduceItems .forward),
  shelved "reduceRight" 1 (reduceItems .backward),
  shelved "fill" 1 fillItems,
  shelved "find" 1 (findItem .forward),
  shelved "findIndex" 1 (findIndexOfItem .forward),
  shelved "findLast" 1 (findItem .backward),
  shelved "findLastIndex" 1 (findIndexOfItem .backward),
  shelved "indexOf" 1 findValue,
  shelved "lastIndexOf" 1 findLastValue,
  shelved "includes" 1 includesValue,
  shelved "join" 1 joinPlain,
  shelved "toString" 0 arrayText,
  shelved "toLocaleString" 0 joinLocal,
  shelved "pop" 0 popItem,
  shelved "push" 1 pushItems,
  shelved "shift" 0 shiftItem,
  shelved "unshift" 1 unshiftItems,
  shelved "reverse" 0 reverseItems,
  shelved "toReversed" 0 (itemsMade fun _ _ items => return items.toList.reverse),
  shelved "sort" 1 sortItems,
  shelved "toSorted" 1 sortedItems,
  shelved "slice" 2 sliceItems,
  shelved "splice" 2 spliceItems,
  shelved "toSpliced" 2 splicedItems,
  shelved "copyWithin" 2 copyWithin,
  shelved "flatMap" 1 flatMapItems,
  shelved "flat" 0 flatItems,
  shelved "values" 0 (walkItems .values),
  .again iteratorSymbol (.ofString "values"),
  shelved "keys" 0 (walkItems .keys),
  shelved "entries" 0 (walkItems .entries)]

/-- The members of arrays that are no variables where an array is asked for them. -/
def hiddenItemNames : List String := [
  "at", "copyWithin", "entries", "fill", "find", "findIndex", "findLast", "findLastIndex", "flat",
  "flatMap", "includes", "keys", "toReversed", "toSorted", "toSpliced", "values"]

/-- One number is a length, and other arguments are items. -/
def makeArrayOf : NativeAction := fun call given => do
  let prototype ← given.prototype call arrayPrototype
  let made ←
    match given.arguments with
    | [single] =>
        match single.number?, single.arrayLength? with
        | some _, none => rangeFault "invalid array length"
        | some _, some size => makeSized size
        | none, _ => allocate (.ofItems #[single])
    | items => allocate (.ofItems items.toArray)
  changeObject made fun object => { object with prototype := some prototype }
  return .object made

/-- A function may be given that is called on every value. -/
def mapGiven (call : Caller) (given : Given) (value : Value) (index : Nat) : Machine Value := do
  if given.second.isUndefined then return value
  else call (.on given.third) given.second [value, .ofNat index]

def gatherValues (call : Caller) (given : Given) : Machine (Reference × Nat) := do
  let made ← makeByClass call given.receiver [] 0
  let count ← foldValues call given.first 0 fun index value => do
    makeItem call made index (← mapGiven call given value index)
    return index + 1
  return (made, count)

def gatherItems (call : Caller) (given : Given) : Machine (Reference × Nat) := do
  let place ← toObject given.first
  let size ← lengthOf call (.object place)
  let made ← makeByClass call given.receiver [.ofNat size] size
  forIndices size fun index => do
    let value ← itemAt call place index
    makeItem call made index (← mapGiven call given value index)
  return (made, size)

/-- An array of the values that an object gives, or of the items that it has. -/
def makeArrayFrom : NativeAction := fun call given => do
  if !given.second.isUndefined then requireFunction given.second
  let method ← getMember call given.first iteratorSymbol
  let (made, size) ←
    if method.isAbsent then gatherItems call given else gatherValues call given
  setLength call made size
  return .object made

def makeArrayOfItems : NativeAction := fun call given => do
  let made ← makeByClass call given.receiver [.ofNat given.count] given.count
  forIndices given.count fun index => makeItem call made index (given.argument index)
  setLength call made given.count
  return .object made

def arrayClassShelf : Shelf := [
  shelved "isArray" 1 fun _ given => truthOf (isArrayValue given.first),
  shelved "from" 1 makeArrayFrom,
  shelved "of" 0 makeArrayOfItems,
  shelvedSpecies]

end HostBridge.Script
