/-
This file goes step by step through what objects hold.
-/
import HostBridge.Script.Evaluation.Expression
import HostBridge.Script.Library.Array.Basic

namespace HostBridge.Script

/-- An object that gives values one by one. -/
def makeWalk (name : String) (walk : Walk) : Machine Value :=
  makeObject (.bare (.walk name walk) (some (prototypePlace name)))

def walkItems (showing : Showing) : NativeAction := fun _ given => do
  makeWalk "Array Iterator" (.items (← toObject given.receiver) 0 showing)

/-- What is shown of an entry. -/
def Showing.show (showing : Showing) (key value : Value) : Machine Value :=
  match showing with
  | .keys => return key
  | .values => return value
  | .entries => makePair key value

/-- The characters of a text, of which some take two units. -/
def splitCharacter (units : Units) : Units × Units :=
  match units with
  | high :: low :: rest =>
      if Text.isHighSurrogate high && Text.isLowSurrogate low then ([high, low], rest)
      else ([high], low :: rest)
  | other => (other, [])

def Memory.collection (memory : Memory) (place : Reference) : Collection :=
  match (memory.object place).kind with
  | .map entries _ | .set entries _ => entries
  | _ => .empty

/-- The next value of a walk and the walk behind it. A walk for the matches of a pattern is none of
these. -/
def Walk.next (call : Caller) : Walk → Machine (Option (Value × Walk))
  | .ended | .found _ _ _ _ => return none
  | .items source index showing => do
      if (← lengthOf call (.object source)) ≤ index then return none
      else
        let value ←
          match showing with
          | .keys => pure .undefined
          | _ => itemAt call source index
        return some (← showing.show (.ofNat index) value, .items source (index + 1) showing)
  | .characters units =>
      match units with
      | [] => return none
      | _ =>
          let (first, rest) := splitCharacter units
          return some (.text first, .characters rest)
  | .entries source place showing => do
      match ← lookUp fun memory => (memory.collection source).entryFrom? place with
      | none => return none
      | some (place, _, key, value) =>
          return some (← showing.show key value, .entries source (place + 1) showing)

/-- Takes one step, unless the object is no such walk. -/
def stepWalk (name : String) : NativeAction := fun call given => do
  let wrong {A : Type} : Machine A := typeFaultText (name ++ " object expected")
  match given.receiver with
  | .object place =>
      match ← kindAt place with
      | .walk other walk =>
          if name ≠ other then wrong
          else
            match ← walk.next call with
            | some (value, rest) =>
                changeKind place (.walk name rest)
                makeAnswer value false
            | none =>
                changeKind place (.walk name .ended)
                makeAnswer .undefined true
      | _ => wrong
  | _ => wrong

/-- Every walk can be walked through itself. -/
def iteratorShelf : Shelf := [
  shelvedSymbol iteratorSymbol 0 fun _ given => return given.receiver]

def walkShelf (name : String) : Shelf := [
  shelved "next" 0 (stepWalk name),
  shelvedTag name]

/-- A paused function is told a word. One that is over or has not begun has nothing to do. -/
def tellGenerator (word : Value → Word) : NativeAction := fun _ given => do
  let conclude (place : Reference) (function : Reference) (word : Word) : Machine Value := do
    changeKind place (.generator function .finished)
    match word with
    | .proceed _ => makeAnswer .undefined true
    | .finish value => makeAnswer value true
    | .fail thrown => raise thrown
  match given.receiver with
  | .object place =>
      match ← kindAt place with
      | .generator function pace =>
          let word := word given.first
          match pace, word with
          | .running, _ => typeFaultText "cannot invoke a running generator"
          | .finished, _ => conclude place function word
          | .fresh _ _, .finish _ | .fresh _ _, .fail _ => conclude place function word
          | _, _ => do obey (← askFor (.resume place word))
      | _ => typeFaultText "not a generator"
  | _ => typeFaultText "not a generator"

def generatorShelf : Shelf := [
  shelved "next" 1 (tellGenerator .proceed),
  shelved "return" 1 (tellGenerator .finish),
  shelved "throw" 1 (tellGenerator .fail),
  shelvedTag "Generator"]

/-- Nobody goes on with an asynchronous function that is paused, so that its promises are never
kept. -/
def promiseForever : NativeAction := fun _ _ =>
  makeObject (.bare (.promise .pending) (some (prototypePlace "Promise")))

def asynchronousShelf : Shelf := [
  shelved "next" 1 promiseForever,
  shelved "return" 1 promiseForever,
  shelved "throw" 1 promiseForever,
  shelvedTag "AsyncGenerator"]

end HostBridge.Script
