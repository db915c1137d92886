/-
This file brings the items of arrays into an order.
-/
import HostBridge.Script.Library.Array.Basic

namespace HostBridge.Script

variable {A : Type}

/-- An item goes behind the last one of a reversed list that does not go behind it. -/
def insertBehind (goesBehind : A → A → Machine Bool) (item : A) : List A → Machine (List A)
  | [] => return [item]
  | last :: rest => do
      if ← goesBehind last item then return last :: (← insertBehind goesBehind item rest)
      else return item :: last :: rest

/-- Items are inserted one after the other. -/
def insertAll (goesBehind : A → A → Machine Bool) (items : List A) : Machine (List A) := do
  return (← items.foldlM (fun sorted item => insertBehind goesBehind item sorted) []).reverse

/-- Two lists in order become one. The first argument bounds the items. -/
def mergeWithin (goesBehind : A → A → Machine Bool) :
    Nat → List A → List A → List A → Machine (List A)
  | 0, before, left, right => return before.reverse ++ left ++ right
  | _, before, [], right => return before.reverse ++ right
  | _, before, left, [] => return before.reverse ++ left
  | bound + 1, before, first :: left, second :: right => do
      if ← goesBehind first second then
        mergeWithin goesBehind bound (second :: before) (first :: left) right
      else mergeWithin goesBehind bound (first :: before) left (second :: right)

/-- So few items are inserted one by one. -/
def fewItems : Nat := 6

/-- Halves are brought into order and merged. The first argument bounds how often. -/
def sortWithin (goesBehind : A → A → Machine Bool) : Nat → List A → Machine (List A)
  | 0, items => return items
  | bound + 1, items => do
      if items.length ≤ fewItems then insertAll goesBehind items
      else
        let half := items.length / 2
        let left ← sortWithin goesBehind bound (items.take half)
        let right ← sortWithin goesBehind bound (items.drop half)
        mergeWithin goesBehind items.length [] left right

/-- An item goes behind another one when a function says so. The same value does not. -/
def goesBehindBy (call : Caller) (compare left right : Value) : Machine Bool := do
  if !left.isText && left.same right then return false
  else
    let order ← toNumber call (← call (.on .undefined) compare [left, right])
    return 0.0 < order

/-- Values in the order of a function or in that of their texts. -/
def sortValues (call : Caller) (compare : Value) (values : List Value) : Machine (List Value) := do
  if compare.isUndefined then
    if values.length < 2 then return values
    else
      let keyed ← values.mapM fun value => do return (← toText call value, value)
      let sorted ← sortWithin (fun (left, _) (right, _) => return decide (right < left))
        values.length keyed
      return sorted.map Prod.snd
  else sortWithin (goesBehindBy call compare) values.length values

def checkOrder (compare : Value) : Machine Unit := do
  if !compare.isUndefined then requireFunction compare

/-- Undefined items come last, and missing ones behind them. -/
def sortItems : NativeAction := fun call given => do
  checkOrder given.first
  let (place, size) ← given.holder call
  let found ← climb size #[] fun found index => do
    match ← item? call place index with
    | some value => return (found.push value, true)
    | none => return (found, true)
  let (absent, present) := found.toList.partition Value.isUndefined
  let sorted := (← sortValues call given.first present) ++ absent
  let mut index := 0
  for value in sorted do
    putItem call place index value
    index := index + 1
  for extra in List.range (size - sorted.length) do
    removeItem call place (size - 1 - extra)
  return .object place

def sortedItems : NativeAction := fun call given => do
  checkOrder given.first
  let (place, size) ← given.holder call
  let items ← allItems call place size
  let (absent, present) := items.toList.partition Value.isUndefined
  makeArray ((← sortValues call given.first present) ++ absent)

end HostBridge.Script
