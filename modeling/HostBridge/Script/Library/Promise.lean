/-
This file defines the functions of promises. Nothing that waits for a promise is told when it is
kept, because scripts are over before that.
-/
import HostBridge.Script.Library.Function

namespace HostBridge.Script

def promisePrototype : Reference := prototypePlace "Promise"

/-- A promise that nothing is known of. -/
def makePending (prototype : Reference) : Machine Reference :=
  allocate (.bare (.promise .pending) (some prototype))

/-- A promise is settled once. -/
def settlePromise (promise : Value) (settlement : Settlement) : Machine Unit := do
  match promise with
  | .object place =>
      match ← kindAt place with
      | .promise .pending => changeKind place (.promise settlement)
      | _ => return ()
  | _ => return ()

/-- A promise that is kept with another one stays pending. -/
def keepPromise (call : Caller) (promise value : Value) : Machine Unit := do
  if promise.same value then
    let error ← attempted (typeFaultText "promise self resolution" : Machine Unit)
    match error with
    | .error thrown => settlePromise promise (.broken thrown)
    | .ok () => return ()
  else if !value.isObject then settlePromise promise (.kept value)
  else
    match ← attempted (getNamed call value "then") with
    | .error thrown => settlePromise promise (.broken thrown)
    | .ok method =>
        if ← lookUp fun memory => memory.isFunction method then return ()
        else settlePromise promise (.kept value)

def runKeep : NativeAction := fun call given => do
  keepPromise call (argumentAt given.held 0) given.first
  return .undefined

def runDeny : NativeAction := fun _ given => do
  settlePromise (argumentAt given.held 0) (.broken given.first)
  return .undefined

/-- The two functions of a promise are taken down in an array. -/
def runCapture : NativeAction := fun _ given => do
  match argumentAt given.held 0 with
  | .object place =>
      changeObject place fun object =>
        (object.putIndex 0 (.plain given.first)).putIndex 1 (.plain given.second)
  | _ => pure ()
  return .undefined

/-- A promise with the functions that settle it. -/
structure Capability where
  promise : Value
  keep : Value
  deny : Value

def capabilityOf (promise : Value) : Machine Capability := do
  return ⟨promise, ← makeHelper .keep 1 [promise], ← makeHelper .deny 1 [promise]⟩

/-- A promise of a class. -/
def makeCapability (call : Caller) (maker : Value) : Machine Capability := do
  if maker.same (.object promisePlace) then
    capabilityOf (.object (← makePending promisePrototype))
  else
    unless ← lookUp fun memory => memory.isConstructor maker do notConstructor
    let notes ← makeArray [.undefined, .undefined]
    let executor ← makeHelper .capture 2 [notes]
    let promise ← call (.fresh maker) maker [executor]
    let keep ← getMember call notes (.index 0)
    let deny ← getMember call notes (.index 1)
    requireFunction keep
    requireFunction deny
    return ⟨promise, keep, deny⟩

def makePromise : NativeAction := fun call given => do
  requireFunction given.first
  let promise ← makePending (← given.prototype call promisePrototype)
  let capability ← capabilityOf (.object promise)
  attempt
    (do
      let _ ← call (.on .undefined) given.first [capability.keep, capability.deny])
    fun thrown => do
      let _ ← call (.on .undefined) capability.deny [thrown]
  return .object promise

/-- A promise that is settled at once. -/
def settled (isKept : Bool) : NativeAction := fun call given => do
  let _ ← requireObject given.receiver
  let isKnown ←
    match given.first with
    | .object place =>
        match isKept, (← kindAt place) with
        | true, .promise _ => do
            pure ((← getMember call given.first constructorKey).same given.receiver)
        | _, _ => pure false
    | _ => pure false
  if isKnown then return given.first
  else
    let capability ← makeCapability call given.receiver
    let function := if isKept then capability.keep else capability.deny
    let _ ← call (.on .undefined) function [given.first]
    return capability.promise

/-- The promise of what becomes of several promises. -/
def gathered : NativeAction := fun call given => do
  let _ ← requireObject given.receiver
  let capability ← makeCapability call given.receiver
  attempt
    (do
      let resolve ← getNamed call given.receiver "resolve"
      requireFunction resolve
      foldValues call given.first () fun _ value => do
        let next ← call (.on given.receiver) resolve [value]
        let method ← getNamed call next "then"
        let _ ← call (.on next) method [capability.keep, capability.deny])
    fun thrown => do
      let _ ← call (.on .undefined) capability.deny [thrown]
  return capability.promise

def withResolvers : NativeAction := fun call given => do
  let capability ← makeCapability call given.receiver
  makePlain [(.ofString "promise", capability.promise), (.ofString "resolve", capability.keep),
    (.ofString "reject", capability.deny)]

def promiseClassShelf : Shelf := [
  shelved "resolve" 1 (settled true),
  shelved "reject" 1 (settled false),
  shelved "all" 1 gathered,
  shelved "allSettled" 1 gathered,
  shelved "any" 1 gathered,
  shelved "race" 1 gathered,
  shelved "withResolvers" 0 withResolvers,
  shelvedSpecies]

/-- The promise of what a function makes of the value of another one. -/
def promiseThen : NativeAction := fun call given => do
  match given.receiver with
  | .object place =>
      match ← kindAt place with
      | .promise _ =>
          let maker ← speciesOf call given.receiver promisePlace
          return (← makeCapability call maker).promise
      | _ => typeFaultText "Promise object expected"
  | _ => typeFaultText "Promise object expected"

def invokeThen (arguments : Given → List Value) : NativeAction := fun call given => do
  let method ← getNamed call given.receiver "then"
  call (.on given.receiver) method (arguments given)

def promiseShelf : Shelf := [
  shelved "then" 2 promiseThen,
  shelved "catch" 1 (invokeThen fun given => [.undefined, given.first]),
  shelved "finally" 1 (invokeThen fun given => [given.first, given.first]),
  shelvedTag "Promise"]

end HostBridge.Script
