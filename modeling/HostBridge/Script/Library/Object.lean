/-
This file defines the functions that look at objects and change them.
-/
import HostBridge.Script.Evaluation.Pattern
import HostBridge.Script.Library.Basic

namespace HostBridge.Script

def prototypeValue (prototype : Option Reference) : Value :=
  match prototype with
  | some place => .object place
  | none => .null

/-- An object or null. -/
def requirePrototype (value : Value) : Machine (Option Reference) :=
  match value with
  | .object place => return some place
  | .null => return none
  | _ => notObject

/-- The listed members of another object describe the members of an object. -/
def defineFrom (call : Caller) (place : Reference) (descriptors : Value) : Machine Unit := do
  let source ← toObject descriptors
  for key in ← ownKeysOf call source do
    match ← ownMember? call source key with
    | some property =>
        if property.isEnumerable then
          let wanted ← readDescriptor call (← getMember call (.object source) key)
          let _ ← defineMember call .strict place key wanted
    | none => pure ()

def createObject : NativeAction := fun call given => do
  let prototype ←
    match given.first with
    | .object place => pure (some place)
    | .null => pure none
    | _ => typeFaultText "not a prototype"
  let made ← allocate (.bare .plain prototype)
  if !given.second.isUndefined then defineFrom call made given.second
  return .object made

/-- The object that a value inherits from. -/
def shownPrototype (call : Caller) (value : Value) : Machine Value := do
  match value with
  | .object place => return prototypeValue (← prototypeOf call place)
  | _ => return prototypeValue value.prototype?

/-- A value that is no object stays as it is. -/
def setPrototype (call : Caller) (value prototype : Value) : Machine Unit := do
  if value.isAbsent then notObject
  else
    let behind ← requirePrototype prototype
    match value with
    | .object place =>
        let _ ← changePrototype call .strict place behind
    | _ => return ()

def defineOne : NativeAction := fun call given => do
  let place ← requireObject given.first
  let key ← toKey call given.second
  let _ ← defineMember call .strict place key (← readDescriptor call given.third)
  return given.first

def defineMany : NativeAction := fun call given => do
  defineFrom call (← requireObject given.first) given.second
  return given.first

/-- The keys of an object that a test picks. -/
def pickedKeys (test : Key → Bool) : NativeAction := fun call given => do
  let place ← toObject given.first
  makeKeys ((← ownKeysOf call place).filter test)

/-- What is made of every listed member of a value. -/
def mapListed (make : Key → Value → Machine Value) : NativeAction := fun call given => do
  let place ← toObject given.first
  let found ← (← ownKeysOf call place).filterMapM fun key => do
    if key.isSymbol then return none
    else
      match ← ownMember? call place key with
      | some property =>
          if property.isEnumerable then
            return some (← make key (← getMember call (.object place) key))
          else return none
      | none => return none
  makeArray found

def listKeys : NativeAction := fun call given => do
  makeKeys (← listedKeysOf call (← toObject given.first))

/-- Values are put together under the keys that a function gives. -/
def groupValues {A : Type} (call : Caller) (given : Given) (start : A)
    (add : A → Value → Value → Machine A) : Machine A := do
  let function := given.second
  requireFunction function
  let (state, _) ← foldValues call given.first (start, 0) fun (state, index) value => do
    let key ← call (.on .undefined) function [value, .ofNat index]
    return (← add state key value, index + 1)
  return state

/-- A value is added to the array that a member is. -/
def addToGroup (call : Caller) (groups : Reference) (key : Key) (value : Value) :
    Machine Unit := do
  match ← getMember call (.object groups) key with
  | .object group =>
      changeObject group fun object => object.putIndex object.items.size (.plain value)
  | _ =>
      let group ← makeArray [value]
      changeObject groups fun object => object.put key (.plain group)

def groupByKey : NativeAction := fun call given => do
  let groups ← allocate (.bare .plain none)
  groupValues call given () fun _ key value => do
    addToGroup call groups (← toKey call key) value
  return .object groups

/-- The object is asked about, and no other value is any kind of it. -/
def askObject (otherwise : Value) (ask : Caller → Reference → Machine Value) : NativeAction :=
  fun call given =>
    match given.first with
    | .object place => ask call place
    | _ => return otherwise

def preventExtensions : NativeAction := fun call given => do
  match given.first with
  | .object place =>
      insist (← stopExtending call place)
        (typeFaultText "proxy preventExtensions handler returned false")
  | _ => pure ()
  return given.first

def describeOwn (call : Caller) (place : Reference) (key : Key) : Machine Value := do
  match ← ownMember? call place key with
  | some property => describeProperty property
  | none => return .undefined

def describeOne : NativeAction := fun call given => do
  let place ← toObject given.first
  describeOwn call place (← toKey call given.second)

def describeAll : NativeAction := fun call given => do
  let place ← toObject given.first
  let made ← allocate (.bare .plain (some objectPrototype))
  for key in ← ownKeysOf call place do
    match ← ownMember? call place key with
    | some property =>
        let shown ← describeProperty property
        changeObject made fun object => object.put key (.plain shown)
    | none => pure ()
  return .object made

/-- The listed members of objects are assigned to another object. -/
def assignMembers : NativeAction := fun call given => do
  let target ← toObject given.first
  for source in given.arguments.drop 1 do
    if !source.isAbsent then
      let source ← toObject source
      for key in ← ownKeysOf call source do
        match ← ownMember? call source key with
        | some property =>
            if property.isEnumerable then
              putMember call (.object target) key (← getMember call (.object source) key)
        | none => pure ()
  return .object target

/-- A member that can be written becomes one that cannot, if it is to be frozen. -/
def closeMember (call : Caller) (place : Reference) (isFrozen : Bool) (key : Key) :
    Machine Unit := do
  let writable : Option Bool ←
    if isFrozen then
      match ← ownMember? call place key with
      | some (.data _ true _ _) => pure (some false)
      | _ => pure none
    else pure none
  let _ ← defineMember call .strict place key ⟨none, writable, none, none, none, some false⟩

/-- No member of an object can be removed any more, and in a frozen one none can be assigned to. -/
def closeObject (isFrozen : Bool) : NativeAction := fun call given => do
  match given.first with
  | .object place =>
      insist (← stopExtending call place)
        (typeFaultText "proxy preventExtensions handler returned false")
      for key in ← ownKeysOf call place do closeMember call place isFrozen key
  | _ => pure ()
  return given.first

/-- A member that can be changed in the way that is asked about. -/
def Property.isLoose (isFrozen : Bool) : Property → Bool
  | .data _ writable _ configurable => configurable || (isFrozen && writable)
  | .accessor _ _ _ configurable => configurable

def isClosed (isFrozen : Bool) : NativeAction :=
  askObject (.boolean true) fun call place => do
    let loose ← (← ownKeysOf call place).anyM fun key => do
      return ((← ownMember? call place key).map (Property.isLoose isFrozen)).getD false
    if loose then return .boolean false
    else return .boolean !(← isExtensible call place)

/-- The name of the class of an object. -/
def Kind.className : Kind → String
  | .plain => "Object"
  | .array _ _ => "Array"
  | .arguments => "Arguments"
  | .error => "Error"
  | .boxed (.text _) => "String"
  | .boxed (.boolean _) => "Boolean"
  | .boxed (.symbol _ _) => "Symbol"
  | .boxed (.big _) => "BigInt"
  | .boxed _ => "Number"
  | .function _ => "Function"
  | .regex _ _ _ => "RegExp"
  | .date _ => "Date"
  | .map _ isWeak => if isWeak then "WeakMap" else "Map"
  | .set _ isWeak => if isWeak then "WeakSet" else "Set"
  | .walk name _ => name
  | .generator _ _ => "Generator"
  | .promise _ => "Promise"
  | .proxy _ _ _ => "Proxy"

def classOf : NativeAction := askObject (.ofString "Object") fun _ place => do
  return .ofString (← kindAt place).className

/-- An object is made of pairs of keys and values. -/
def makeFromPairs : NativeAction := fun call given => do
  let made ← allocate (.bare .plain (some objectPrototype))
  foldValues call given.first () fun _ pair => do
    let _ ← requireObject pair
    let key ← getMember call pair (.index 0)
    let value ← getMember call pair (.index 1)
    let key ← toKey call key
    changeObject made fun object => object.put key (.plain value)
  return .object made

def hasOwn : NativeAction := fun call given => do
  let place ← toObject given.first
  return .boolean (← ownMember? call place (← toKey call given.second)).isSome

/-- The functions of the class of objects. -/
def objectShelf : Shelf := [
  shelved "create" 2 createObject,
  shelved "getPrototypeOf" 1 fun call given => do
    if given.first.isAbsent then notObject else shownPrototype call given.first,
  shelved "setPrototypeOf" 2 fun call given => do
    setPrototype call given.first given.second
    return given.first,
  shelved "defineProperty" 3 defineOne,
  shelved "defineProperties" 2 defineMany,
  shelved "getOwnPropertyNames" 1 (pickedKeys fun key => !key.isSymbol),
  shelved "getOwnPropertySymbols" 1 (pickedKeys Key.isSymbol),
  shelved "groupBy" 2 groupByKey,
  shelved "keys" 1 listKeys,
  shelved "values" 1 (mapListed fun _ value => return value),
  shelved "entries" 1 (mapListed fun key value => makePair key.value value),
  shelved "isExtensible" 1 (askObject (.boolean false) fun call place => do
    return .boolean (← isExtensible call place)),
  shelved "preventExtensions" 1 preventExtensions,
  shelved "getOwnPropertyDescriptor" 2 describeOne,
  shelved "getOwnPropertyDescriptors" 1 describeAll,
  shelved "is" 2 fun _ given => return .boolean (given.first.same given.second),
  shelved "assign" 2 assignMembers,
  shelved "seal" 1 (closeObject false),
  shelved "freeze" 1 (closeObject true),
  shelved "isSealed" 1 (isClosed false),
  shelved "isFrozen" 1 (isClosed true),
  shelved "__getClass" 1 classOf,
  shelved "fromEntries" 1 makeFromPairs,
  shelved "hasOwn" 2 hasOwn]

/-- A call makes an object of any value. -/
def makeAnyObject : NativeAction := fun call given => do
  let isOwn :=
    match given.target with
    | some (.object place) => place = given.callee
    | some _ => false
    | none => true
  if !isOwn then makeEmpty (some (← given.prototype call objectPrototype))
  else if given.first.isAbsent then makeEmpty (some objectPrototype)
  else return .object (← toObject given.first)

/-- What an object is called that does not call itself anything. -/
def usualTag (place : Reference) : Machine String := do
  let object ← objectAt place
  match object.kind with
  | .array _ _ | .arguments | .error | .date _ | .regex _ _ _ => return object.kind.className
  | .boxed (.symbol _ _) | .boxed (.big _) => return "Object"
  | .boxed _ => return object.kind.className
  | .proxy (some (target, _)) _ _ =>
      if (← objectAt target).isArray then return "Array"
      else if object.isCallable then return "Function"
      else return "Object"
  | _ => return if object.isCallable then "Function" else "Object"

/-- The text of an object names its kind, or what it calls itself. -/
def tagText (call : Caller) (value : Value) : Machine Value := do
  let shown (tag : Units) : Value := .text (Text.units "[object " ++ tag ++ Text.units "]")
  match value with
  | .undefined => return shown (Text.units "Undefined")
  | .null => return shown (Text.units "Null")
  | _ =>
      let place ← toObject value
      let usual ← usualTag place
      match ← getMember call (.object place) tagSymbol with
      | .text tag => return shown tag
      | _ => return shown (Text.units usual)

def isBehindObject : NativeAction := fun call given => do
  match given.first with
  | .object place =>
      let mine ← toObject given.receiver
      return .boolean (← isBehind call mine (← lookUp Array.size) place)
  | _ => return .boolean false

def isListed : NativeAction := fun call given => do
  let place ← toObject given.receiver
  let found ← ownMember? call place (← toKey call given.first)
  return .boolean ((found.map Property.isEnumerable).getD false)

/-- Defines a getter or a setter that is listed and can be replaced. -/
def defineAccessor (part : Option Reference → Descriptor) : NativeAction := fun call given => do
  let place ← toObject given.receiver
  requireFunction given.second
  let key ← toKey call given.first
  let _ ← defineMember call .strict place key (part given.second.reference?)
  return .undefined

def getterPart (getter : Option Reference) : Descriptor :=
  ⟨none, none, some getter, none, some true, some true⟩

def setterPart (setter : Option Reference) : Descriptor :=
  ⟨none, none, none, some setter, some true, some true⟩

/-- The function behind the first member that an object or one behind it has. -/
def lookUpAccessor (choose : Property → Option Reference) : NativeAction := fun call given => do
  let place ← toObject given.receiver
  let key ← toKey call given.first
  let rec search : Nat → Option Reference → Machine Value
    | _, none => return .undefined
    | 0, some _ => return .undefined
    | bound + 1, some place => do
        match ← ownMember? call place key with
        | some property => return functionValue (choose property)
        | none => search bound (← prototypeOf call place)
  search (← lookUp Array.size) (some place)

def Property.getter? : Property → Option Reference
  | .accessor getter _ _ _ => getter
  | .data _ _ _ _ => none

def Property.setter? : Property → Option Reference
  | .accessor _ setter _ _ => setter
  | .data _ _ _ _ => none

/-- The functions that every object inherits. -/
def inheritedShelf : Shelf := [
  shelved "toString" 0 fun call given => tagText call given.receiver,
  shelved "toLocaleString" 0 fun call given => do
    let method ← getNamed call given.receiver "toString"
    call (.on given.receiver) method [],
  shelved "valueOf" 0 fun _ given => do return .object (← toObject given.receiver),
  shelved "hasOwnProperty" 1 fun call given => do
    let key ← toKey call given.first
    let place ← toObject given.receiver
    return .boolean (← ownMember? call place key).isSome,
  shelved "isPrototypeOf" 1 isBehindObject,
  shelved "propertyIsEnumerable" 1 isListed,
  shelvedAccessor "__proto__"
    (fun call given => do shownPrototype call (.object (← toObject given.receiver)))
    (fun call given => do
      if given.receiver.isAbsent then notObject
      else if given.first.isObject || given.first matches .null then
        setPrototype call given.receiver given.first
        return .undefined
      else return .undefined),
  shelved "__defineGetter__" 2 (defineAccessor getterPart),
  shelved "__defineSetter__" 2 (defineAccessor setterPart),
  shelved "__lookupGetter__" 1 (lookUpAccessor Property.getter?),
  shelved "__lookupSetter__" 1 (lookUpAccessor Property.setter?)]

end HostBridge.Script
