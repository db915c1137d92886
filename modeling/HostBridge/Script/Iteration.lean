/-
This file goes through the values that an object gives one by one.
-/
import HostBridge.Script.Conversion

namespace HostBridge.Script

/-- What gives the values, and the function that is asked for the next one. -/
structure Iterator where
  source : Value
  next : Value

/-- No loop takes more rounds than this. -/
def roundLimit : Nat := 0x1000000000

def interrupted {A : Type} : Machine A := fault "InternalError" (Text.units "interrupted")

def valueKey : Key := .ofString "value"

def doneKey : Key := .ofString "done"

/-- The iterator that a function of an object makes. -/
def iteratorOf (call : Caller) (method value : Value) : Machine Iterator := do
  let source ← call (.on value) method []
  let _ ← requireObject source
  return ⟨source, ← getNamed call source "next"⟩

def openIterator (call : Caller) (value : Value) : Machine Iterator := do
  let method ← getMember call value iteratorSymbol
  if ← lookUp fun memory => memory.isFunction method then iteratorOf call method value
  else typeFaultText "value is not iterable"

/-- The answer of an iterator holds a value, unless it says that there is none. -/
def valueOfAnswer? (call : Caller) (answer : Value) : Machine (Option Value) := do
  if !answer.isObject then typeFaultText "iterator must return an object"
  else if (← getMember call answer doneKey).truth then return none
  else return some (← getMember call answer valueKey)

def Iterator.step (call : Caller) (iterator : Iterator) : Machine (Option Value) := do
  valueOfAnswer? call (← call (.on iterator.source) iterator.next [])

/-- An iterator is told that no more values are needed. -/
def Iterator.close (call : Caller) (iterator : Iterator) : Machine Unit := do
  let method ← getNamed call iterator.source "return"
  if method.isAbsent then return ()
  else
    let answer ← call (.on iterator.source) method []
    if !answer.isObject then notObject

/-- What goes wrong while values are taken is more important than what goes wrong when the iterator
is told about it. -/
def Iterator.guard {A : Type} (call : Caller) (iterator : Iterator) (body : Machine A) :
    Machine A :=
  beforeStop
    (attempt body fun thrown => do
      let _ ← attempted (iterator.close call)
      raise thrown)
    fun value => do
      iterator.close call
      stop value

/-- Goes on from value to value as long as the body says so. -/
def Iterator.foldWithin {A : Type} (call : Caller) (iterator : Iterator)
    (body : A → Value → Machine (A × Bool)) : Nat → A → Machine A
  | 0, _ => interrupted
  | bound + 1, state => do
      match ← iterator.step call with
      | none => return state
      | some value =>
          let (state, goesOn) ← iterator.guard call (body state value)
          if goesOn then iterator.foldWithin call body bound state
          else
            iterator.close call
            return state

/-- All values of an object are taken one after the other. -/
def foldValues {A : Type} (call : Caller) (source : Value) (start : A)
    (body : A → Value → Machine A) : Machine A := do
  let iterator ← openIterator call source
  iterator.foldWithin call (fun state value => do return (← body state value, true)) roundLimit
    start

/-- The values that an iterator has left. -/
def Iterator.rest (call : Caller) (iterator : Iterator) : Machine (Array Value) :=
  iterator.foldWithin call (fun values value => return (values.push value, true)) roundLimit #[]

def allValues (call : Caller) (source : Value) : Machine (Array Value) := do
  (← openIterator call source).rest call

/-- The answer of an iterator. -/
def makeAnswer (value : Value) (isDone : Bool) : Machine Value :=
  makePlain [(valueKey, value), (doneKey, .boolean isDone)]

end HostBridge.Script
