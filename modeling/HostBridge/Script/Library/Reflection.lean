/-
This file defines the functions that do what the language does with objects.
-/
import HostBridge.Script.Library.Function

namespace HostBridge.Script

def reflectApply : NativeAction := fun call given => do
  requireFunction given.first
  call (.on given.second) given.first (← spreadArguments call given.third)

def reflectConstruct : NativeAction := fun call given => do
  let target ←
    match given.arguments.drop 2 with
    | [] => pure given.first
    | target :: _ =>
        if ← lookUp fun memory => memory.isConstructor target then pure target
        else notConstructor
  let arguments ← spreadArguments call given.second
  call (.fresh target) given.first arguments

def reflectDefine : NativeAction := fun call given => do
  let place ← requireObject given.first
  let key ← toKey call given.second
  truthOf (do defineMember call .loose place key (← readDescriptor call given.third))

def reflectGet : NativeAction := fun call given => do
  let place ← requireObject given.first
  let key ← toKey call given.second
  getBehind call (some place) key ((given.arguments[2]?).getD given.first)

def reflectSet : NativeAction := fun call given => do
  let place ← requireObject given.first
  let key ← toKey call given.second
  match given.arguments[3]? with
  | none => truthOf (setInObject call .loose true place key given.third)
  | some receiver =>
      truthOf (setBehind call .loose true receiver key given.third proxyLimit (some place))

/-- A question about an object. -/
def askPlace (ask : Caller → Reference → Given → Machine Value) : NativeAction :=
  fun call given => do ask call (← requireObject given.first) given

def reflectShelf : Shelf := [
  shelved "apply" 3 reflectApply,
  shelved "construct" 2 reflectConstruct,
  shelved "defineProperty" 3 reflectDefine,
  shelved "deleteProperty" 2 (askPlace fun call place given => do
    truthOf (removeMember call .loose place (← toKey call given.second))),
  shelved "get" 2 reflectGet,
  shelved "getOwnPropertyDescriptor" 2 (askPlace fun call place given => do
    describeOwn call place (← toKey call given.second)),
  shelved "getPrototypeOf" 1 (askPlace fun call place _ => do
    return prototypeValue (← prototypeOf call place)),
  shelved "has" 2 (askPlace fun call place given => do
    truthOf (hasMember call place (← toKey call given.second))),
  shelved "isExtensible" 1 (askPlace fun call place _ => truthOf (isExtensible call place)),
  shelved "ownKeys" 1 (askPlace fun call place _ => do makeKeys (← ownKeysOf call place)),
  shelved "preventExtensions" 1
    (askPlace fun call place _ => truthOf (stopExtending call place)),
  shelved "set" 3 reflectSet,
  shelved "setPrototypeOf" 2 (askPlace fun call place given => do
    truthOf (changePrototype call .loose place (← requirePrototype given.second))),
  shelvedTag "Reflect"]

/-- An object that stands for another one and asks a handler. -/
def makeProxyObject (target handler : Value) : Machine Reference := do
  let target ← requireObject target
  let handler ← requireObject handler
  let isFunction := (← objectAt target).isCallable
  let isConstructor ← lookUp fun memory => memory.isConstructor (.object target)
  allocate (.bare (.proxy (some (target, handler)) isFunction isConstructor) none)

/-- A proxy with the function that revokes it. -/
def makeRevocable : NativeAction := fun _ given => do
  let proxy := Value.object (← makeProxyObject given.first given.second)
  let revoke ← makeHelper .revoke 0 [proxy]
  makePlain [(.ofString "proxy", proxy), (.ofString "revoke", revoke)]

def proxyClassShelf : Shelf := [shelved "revocable" 2 makeRevocable]

def makeProxy : NativeAction := fun _ given => do
  return .object (← makeProxyObject given.first given.second)

/-- The function that takes from a proxy what it stands for. -/
def revokeProxy : NativeAction := fun _ given => do
  match argumentAt given.held 0 with
  | .object place =>
      match ← kindAt place with
      | .proxy (some _) isFunction isConstructor =>
          changeKind place (.proxy none isFunction isConstructor)
      | _ => pure ()
  | _ => pure ()
  return .undefined

end HostBridge.Script
