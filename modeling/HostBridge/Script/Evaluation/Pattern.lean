/-
This file stores values in the places that scripts give for them.
-/
import HostBridge.Script.Evaluation.Basic

namespace HostBridge.Script

/-- A place that a value can be read from and stored in. -/
inductive Slot where
  | name (name : String) (site : Site)
  | member (holder : Value) (key : Key)
  /-- A member of the object behind another one, for a receiver. -/
  | inherited (start : Option Reference) (receiver : Value) (key : Key)

def Slot.read (call : Caller) : Slot → Machine Value
  | .name word site => site.read call word
  | .member holder key => getMember call holder key
  | .inherited start receiver key => getBehind call start key receiver

def Slot.write (call : Caller) (mode : Mode) (value : Value) : Slot → Machine Unit
  | .name word site => site.assign call mode word value
  | .member holder key => do
      let _ ← setMember call mode holder key value
  | .inherited start receiver key => do
      let _ ← setBehind call mode true receiver key value proxyLimit start

/-- The place that an expression stands for. -/
def slotOf (e : Evaluator) (scope : Scope) (expression : Expression) : Machine Slot := do
  match expression with
  | .name word => return .name word (← findName e.call word scope.layers)
  | .member holder key =>
      let holder ← e.value scope holder
      return .member holder (← evaluateKey e scope key)
  | .inherited key =>
      let receiver ← receiverOf scope
      let key ← evaluateKey e scope key
      return .inherited (← parentOf e scope) receiver key
  | _ => syntaxFault "invalid assignment left-hand side"

/-- Stores a value in a place that is found first. -/
def storeInPlace (e : Evaluator) (scope : Scope) (storing : Storing) (place : Expression)
    (fetch : Machine Value) : Machine Unit := do
  match storing, place with
  | .first, .name word =>
      let value ← fetch
      initializeName e.call scope word value
  | _, _ =>
      let slot ← slotOf e scope place
      let value ← fetch
      slot.write e.call scope.mode value

/-- An iterator of which a cell holds whether it has anything left. -/
structure Source where
  iterator : Iterator
  isOpen : Cell

def Source.opened (source : Source) : Machine Bool := do
  return ((← cellValue source.isOpen).map Value.truth).getD false

/-- The next value. An iterator that fails is not asked again. -/
def Source.next (call : Caller) (source : Source) : Machine (Option Value) := do
  if ← source.opened then
    setCell source.isOpen (some (.boolean false))
    let found ← source.iterator.step call
    setCell source.isOpen (some (.boolean found.isSome))
    return found
  else return none

/-- The values that are left. -/
def Source.rest (call : Caller) (source : Source) : Machine Value := do
  if ← source.opened then
    setCell source.isOpen (some (.boolean false))
    let values ← source.iterator.rest call
    makeArray values.toList
  else makeArray []

/-- An iterator that has something left is told that nothing more is needed. -/
def Source.abandon (call : Caller) (source : Source) (value : Value) : Machine Unit := do
  if ← source.opened then
    setCell source.isOpen (some (.boolean false))
    source.iterator.close call
  stop value

def storeItem (e : Evaluator) (scope : Scope) (storing : Storing) (source : Source)
    (target : Target) : Machine Unit := do
  match target with
  | .gap =>
      let _ ← source.next e.call
  | .rest inner => e.store scope storing inner (source.rest e.call)
  | _ => e.store scope storing target do return (← source.next e.call).getD .undefined

def storeItems (e : Evaluator) (scope : Scope) (storing : Storing) (items : List Target)
    (value : Value) : Machine Unit := do
  let iterator ← openIterator e.call value
  let source : Source := ⟨iterator, ← newCell (some (.boolean true))⟩
  attempt (beforeStop (items.forM (storeItem e scope storing source)) (source.abandon e.call)) fun thrown => do
    if ← source.opened then
      let _ ← attempted (iterator.close e.call)
    raise thrown
  if ← source.opened then iterator.close e.call

/-- All listed members of an object but those under some keys. -/
def copyMembers (call : Caller) (target source : Reference) (without : List Key) :
    Machine Unit := do
  for key in ← ownKeysOf call source do
    if !without.contains key then
      match ← ownMember? call source key with
      | some property =>
          if property.isEnumerable then
            let value ← getMember call (.object source) key
            let _ ← createMember call .strict target key value
      | none => pure ()

/-- Members are copied from any value but an absent one. -/
def spreadMembers (call : Caller) (target : Reference) (value : Value) : Machine Unit := do
  match value with
  | .object source => copyMembers call target source []
  | .text _ => copyMembers call target (← toObject value) []
  | _ => return ()

def storeMembers (e : Evaluator) (scope : Scope) (storing : Storing) (value : Value) :
    List Key → List Target → Machine Unit
  | _, [] => return ()
  | keys, .member key target :: rest => do
      let key ← evaluateKey e scope key
      e.store scope storing target (getMember e.call value key)
      storeMembers e scope storing value (key :: keys) rest
  | keys, .rest target :: rest => do
      e.store scope storing target do
        let made ← makeEmpty (some objectPrototype)
        copyMembers e.call (← requireObject made) (← toObject value) keys
        return made
      storeMembers e scope storing value keys rest
  | keys, _ :: rest => storeMembers e scope storing value keys rest

/-- Stores a value in a target. -/
def storeTarget (e : Evaluator) (scope : Scope) (storing : Storing) (target : Target)
    (fetch : Machine Value) : Machine Unit := do
  match target with
  | .place place => storeInPlace e scope storing place fetch
  | .given inner value =>
      e.store scope storing inner do
        match ← fetch with
        | .undefined => e.value scope value
        | given => return given
  | .array items => storeItems e scope storing items (← fetch)
  | .object members =>
      let value ← fetch
      let _ ← toObject value
      storeMembers e scope storing value [] members
  | .gap =>
      let _ ← fetch
  | .rest inner => e.store scope storing inner fetch
  | .member _ inner => e.store scope storing inner fetch

end HostBridge.Script
