/-
This file reads and changes the members of values, also where a proxy stands for an object.
-/
import HostBridge.Script.Descriptor

namespace HostBridge.Script

/-- A getter is called on the value that the member was read from. -/
def Property.get (call : Caller) (receiver : Value) : Property → Machine Value
  | .data content _ _ _ => return content
  | .accessor none _ _ _ => return .undefined
  | .accessor (some getter) _ _ _ => call (.on receiver) (.object getter) []

/-- The target of a proxy and the object that it asks. -/
def proxyLink (place : Reference) : Machine (Reference × Reference) := do
  match ← kindAt place with
  | .proxy (some link) _ _ => return link
  | _ => typeFaultText "revoked proxy"

/-- The target keeps its locked members, whatever a proxy says. -/
def checkAnswer (target : Reference) (key : Key) (answer : Value) : Machine Value := do
  match ← ownAt target key with
  | some (.data value false _ false) =>
      if value.same answer then return answer else typeFaultText "proxy: inconsistent get"
  | some (.accessor none _ _ false) =>
      if answer.isUndefined then return answer else typeFaultText "proxy: inconsistent get"
  | _ => return answer

/-- Proxies do not stand for each other in longer chains than this. -/
def proxyLimit : Nat := 1000

def tooDeep {A : Type} : Machine A := fault "InternalError" (Text.units "stack overflow")

/-- The value of what is found under a key. The first argument bounds the proxies behind each
other. -/
def Found.get (call : Caller) (receiver : Value) (key : Key) : Nat → Found → Machine Value
  | _, .nothing => return .undefined
  | _, .member property => property.get call receiver
  | 0, .proxy _ => tooDeep
  | bound + 1, .proxy place => do
      let (target, handler) ← proxyLink place
      let name := Key.ofString "get"
      let trap ← Found.get call (.object handler) name bound
        (← lookUp fun memory => memory.find name (some handler))
      if trap.isAbsent then
        Found.get call receiver key bound (← lookUp fun memory => memory.find key (some target))
      else
        let answer ← call (.on (.object handler)) trap [.object target, key.value, receiver]
        checkAnswer target key answer

/-- The member of a value. -/
def getMember (call : Caller) (value : Value) (key : Key) : Machine Value := do
  match value with
  | .undefined => typeFault (naming "cannot read property " key.shown " of undefined")
  | .null => typeFault (naming "cannot read property " key.shown " of null")
  | _ =>
      match ← lookUp fun memory => memory.member value key with
      | .member (.data content _ _ _) => return content
      | found => found.get call value key proxyLimit

def getNamed (call : Caller) (value : Value) (name : String) : Machine Value :=
  getMember call value (.ofString name)

/-- The member that is found behind an object for another receiver. -/
def getBehind (call : Caller) (start : Option Reference) (key : Key) (receiver : Value) :
    Machine Value := do
  (← lookUp fun memory => memory.find key start).get call receiver key proxyLimit

/-- What a proxy is asked by: its target, its handler and the function of the handler. -/
structure Trap where
  target : Reference
  handler : Reference
  function : Value

def trapOf (call : Caller) (place : Reference) (name : String) : Machine Trap := do
  let (target, handler) ← proxyLink place
  return ⟨target, handler, ← getNamed call (.object handler) name⟩

def Trap.ask (call : Caller) (trap : Trap) (arguments : List Value) : Machine Value :=
  call (.on (.object trap.handler)) trap.function (.object trap.target :: arguments)

def functionValue (function : Option Reference) : Value :=
  match function with
  | some place => .object place
  | none => .undefined

/-- A member is described by an object. -/
def describeProperty (property : Property) : Machine Value :=
  let flags := [
    (Key.ofString "enumerable", Value.boolean property.isEnumerable),
    (Key.ofString "configurable", Value.boolean property.isConfigurable)]
  match property with
  | .data value writable _ _ =>
      makePlain ([(.ofString "value", value), (.ofString "writable", .boolean writable)] ++ flags)
  | .accessor getter setter _ _ =>
      makePlain ([(.ofString "get", functionValue getter), (.ofString "set", functionValue setter)] ++
        flags)

def hasMember (call : Caller) (place : Reference) (key : Key) : Machine Bool :=
  search proxyLimit place
where
  search : Nat → Reference → Machine Bool
    | 0, _ => tooDeep
    | bound + 1, place => do
        match ← lookUp fun memory => memory.find key (some place) with
        | .nothing => return false
        | .member _ => return true
        | .proxy place =>
            let trap ← trapOf call place "has"
            if trap.function.isAbsent then search bound trap.target
            else
              let answer := (← trap.ask call [key.value]).truth
              if !answer then
                match ← ownAt trap.target key with
                | some property =>
                    if !property.isConfigurable || !(← objectAt trap.target).extensible then
                      typeFaultText "proxy: inconsistent has"
                | none => pure ()
              return answer

/-- A part of a descriptor, if the object has it. -/
def descriptorPart (call : Caller) (place : Reference) (name : String) :
    Machine (Option Value) := do
  if ← hasMember call place (.ofString name) then
    return some (← getNamed call (.object place) name)
  else return none

/-- A getter or a setter is a function or nothing. -/
def functionPart (part : Option Value) (complaint : String) :
    Machine (Option (Option Reference)) := do
  match part with
  | none => return none
  | some .undefined => return some none
  | some value =>
      if ← lookUp fun memory => memory.isFunction value then return some value.reference?
      else typeFaultText complaint

/-- The descriptor that an object gives. -/
def readDescriptor (call : Caller) (value : Value) : Machine Descriptor := do
  let place ← requireObject value
  let configurable ← descriptorPart call place "configurable"
  let enumerable ← descriptorPart call place "enumerable"
  let content ← descriptorPart call place "value"
  let writable ← descriptorPart call place "writable"
  let getter ← functionPart (← descriptorPart call place "get") "invalid getter"
  let setter ← functionPart (← descriptorPart call place "set") "invalid setter"
  let wanted : Descriptor := ⟨content, writable.map Value.truth, getter, setter,
    enumerable.map Value.truth, configurable.map Value.truth⟩
  if wanted.isAccessor && wanted.isData then
    typeFaultText "cannot have setter/getter and value or writable"
  else return wanted

/-- The member of the object's own. -/
def ownMember? (call : Caller) (place : Reference) (key : Key) : Machine (Option Property) :=
  search proxyLimit place
where
  search : Nat → Reference → Machine (Option Property)
    | 0, _ => tooDeep
    | bound + 1, place => do
        let object ← objectAt place
        match object.kind with
        | .proxy _ _ _ =>
            let trap ← trapOf call place "getOwnPropertyDescriptor"
            if trap.function.isAbsent then search bound trap.target
            else
              match ← trap.ask call [key.value] with
              | .undefined =>
                  match ← ownAt trap.target key with
                  | some property =>
                      if property.isConfigurable && (← objectAt trap.target).extensible then
                        return none
                      else typeFaultText "proxy: inconsistent getOwnPropertyDescriptor"
                  | none => return none
              | answer => return some (← readDescriptor call answer).fresh
        | _ => return object.own? key

/-- The parts of a descriptor that are given. -/
def describeWanted (wanted : Descriptor) : Machine Value :=
  let part (name : String) (value : Option Value) : List (Key × Value) :=
    (value.map fun value => (Key.ofString name, value)).toList
  makePlain (part "value" wanted.value ++ part "writable" (wanted.writable.map .boolean) ++
    part "get" (wanted.getter.map functionValue) ++ part "set" (wanted.setter.map functionValue) ++
    part "enumerable" (wanted.enumerable.map .boolean) ++
    part "configurable" (wanted.configurable.map .boolean))

/-- Defines a member of an object. The answer says whether it is defined. -/
def defineMember (call : Caller) (mode : Mode) (place : Reference) (key : Key)
    (wanted : Descriptor) : Machine Bool :=
  search proxyLimit place
where
  search : Nat → Reference → Machine Bool
    | 0, _ => tooDeep
    | bound + 1, place => do
        match ← kindAt place with
        | .proxy _ _ _ =>
            let trap ← trapOf call place "defineProperty"
            if trap.function.isAbsent then search bound trap.target
            else if (← trap.ask call [key.value, ← describeWanted wanted]).truth then return true
            else refuse mode (typeFaultText "proxy: defineProperty exception")
        | _ => defineOwn mode place key wanted

/-- A member that scripts make by assignment, also where one was before. -/
def createMember (call : Caller) (mode : Mode) (place : Reference) (key : Key) (value : Value) :
    Machine Bool :=
  defineMember call mode place key (.ofProperty (.plain value))

def runSetter (call : Caller) (mode : Mode) (setter : Option Reference) (receiver value : Value) :
    Machine Bool := do
  match setter with
  | some setter =>
      let _ ← call (.on receiver) (.object setter) [value]
      return true
  | none => refuse mode (typeFaultText "no setter for property")

/-- Makes a member of the receiver or changes the one that it has. -/
def setOnReceiver (call : Caller) (mode : Mode) (addable : Bool) (receiver : Value) (key : Key)
    (value : Value) : Machine Bool := do
  if !addable then notDefined key.shown
  else
    match receiver with
    | .object place =>
        match ← ownMember? call place key with
        | some (.accessor _ _ _ _) => refuse mode (typeFaultText "setter is forbidden")
        | some (.data _ false _ _) => refuse mode (readOnly key.shown)
        | some (.data _ true _ _) => defineMember call mode place key (.ofValue value)
        | none => createMember call mode place key value
    | _ => refuse mode notObject

/-- The first member behind an object that an assignment has to respect. -/
def Memory.intercepting (memory : Memory) (key : Key) : Nat → Option Reference → Found
  | _, none => .nothing
  | 0, some _ => .nothing
  | bound + 1, some place =>
      let object := memory.object place
      match object.kind with
      | .proxy _ _ _ => .proxy place
      | _ =>
          match (object.own? key).filter Property.intercepts with
          | some property => .member property
          | none => memory.intercepting key bound object.prototype

/-- An inherited member may take an assignment over. -/
def setBehind (call : Caller) (mode : Mode) (addable : Bool) (receiver : Value) (key : Key)
    (value : Value) : Nat → Option Reference → Machine Bool
  | 0, _ => tooDeep
  | bound + 1, start => do
      match ← lookUp fun memory => memory.intercepting key memory.size start with
      | .member (.accessor _ setter _ _) => runSetter call mode setter receiver value
      | .member (.data _ _ _ _) => refuse mode (readOnly key.shown)
      | .nothing => setOnReceiver call mode addable receiver key value
      | .proxy place =>
          let trap ← trapOf call place "set"
          if trap.function.isAbsent then
            setBehind call mode addable receiver key value bound (some trap.target)
          else if (← trap.ask call [key.value, value, receiver]).truth then
            match ← ownAt trap.target key with
            | some (.data old false _ false) =>
                if old.same value then return true else typeFaultText "proxy: inconsistent set"
            | some (.accessor _ none _ false) => typeFaultText "proxy: inconsistent set"
            | _ => return true
          else refuse mode (typeFaultText "proxy: cannot set property")

/-- A new member of an object that nothing behind it cares for. -/
def addMember (mode : Mode) (place : Reference) (key : Key) (value : Value) : Machine Bool := do
  match ← lookUp fun memory => (memory.object place).welcome key with
  | .open =>
      changeObject place fun object => object.put key (.plain value)
      return true
  | welcome => welcome.refuse mode

/-- Assigns to a member of the object's own that can be written. -/
def replaceMember (mode : Mode) (place : Reference) (key : Key) (property : Property)
    (value : Value) : Machine Bool := do
  match ← kindAt place with
  | .array size isOpen =>
      if key = lengthKey then changeLength mode place (.ofValue value) size isOpen
      else
        changeObject place fun object => object.put key property
        return true
  | _ =>
      changeObject place fun object => object.put key property
      return true

/-- Assigns to a member of an object. The flag says whether the object may get a new member. -/
def setInObject (call : Caller) (mode : Mode) (addable : Bool) (place : Reference) (key : Key)
    (value : Value) : Machine Bool := do
  match ← kindAt place with
  | .proxy _ _ _ => setBehind call mode addable (.object place) key value proxyLimit (some place)
  | _ =>
      match ← ownAt place key with
      | some (.data _ true enumerable configurable) =>
          replaceMember mode place key (.data value true enumerable configurable) value
      | some (.data _ false _ _) => refuse mode (readOnly key.shown)
      | some (.accessor _ setter _ _) => runSetter call mode setter (.object place) value
      | none =>
          let behind ← lookUp fun memory => (memory.object place).prototype
          match ← lookUp fun memory => memory.intercepting key memory.size behind with
          | .nothing =>
              if addable then addMember mode place key value else notDefined key.shown
          | _ => setBehind call mode addable (.object place) key value proxyLimit behind

/-- Assigns to a member of a value. -/
def setMember (call : Caller) (mode : Mode) (holder : Value) (key : Key) (value : Value) :
    Machine Bool := do
  match holder with
  | .undefined => typeFault (naming "cannot set property " key.shown " of undefined")
  | .null => typeFault (naming "cannot set property " key.shown " of null")
  | .object place => setInObject call mode true place key value
  | _ => setBehind call mode true holder key value proxyLimit holder.prototype?

/-- Assigns to a member. Where that is not possible, an error is thrown. -/
def putMember (call : Caller) (holder : Value) (key : Key) (value : Value) : Machine Unit := do
  let _ ← setMember call .strict holder key value

/-- Removes a member of an object. The answer says whether it is gone. -/
def removeMember (call : Caller) (mode : Mode) (place : Reference) (key : Key) : Machine Bool :=
  search proxyLimit place
where
  search : Nat → Reference → Machine Bool
    | 0, _ => tooDeep
    | bound + 1, place => do
        match ← kindAt place with
        | .proxy _ _ _ =>
            let trap ← trapOf call place "deleteProperty"
            if trap.function.isAbsent then search bound trap.target
            else if (← trap.ask call [key.value]).truth then
              match ← ownAt trap.target key with
              | some property =>
                  if property.isConfigurable then return true
                  else typeFaultText "proxy: inconsistent deleteProperty"
              | none => return true
            else refuse mode (typeFaultText "could not delete property")
        | _ =>
            match ← ownAt place key with
            | none => return true
            | some property =>
                if property.isConfigurable then
                  changeObject place fun object => object.remove key
                  return true
                else refuse mode (typeFaultText "could not delete property")

/-- Removes a member of a value. -/
def deleteMember (call : Caller) (mode : Mode) (value : Value) (key : Key) : Machine Bool := do
  match value with
  | .undefined | .null => notConvertible
  | .object place => removeMember call mode place key
  | .text units =>
      if (textMember? units key).isSome then refuse mode (typeFaultText "could not delete property")
      else return true
  | _ => return true

/-- The object that an object inherits from. -/
def prototypeOf (call : Caller) (place : Reference) : Machine (Option Reference) :=
  search proxyLimit place
where
  search : Nat → Reference → Machine (Option Reference)
    | 0, _ => tooDeep
    | bound + 1, place => do
        let object ← objectAt place
        match object.kind with
        | .proxy _ _ _ =>
            let trap ← trapOf call place "getPrototypeOf"
            if trap.function.isAbsent then search bound trap.target
            else
              match ← trap.ask call [] with
              | .object found => return some found
              | .null => return none
              | _ => typeFaultText "proxy: inconsistent prototype"
        | _ => return object.prototype

/-- Gives an object another one to inherit from. -/
def changePrototype (call : Caller) (mode : Mode) (place : Reference)
    (prototype : Option Reference) : Machine Bool :=
  search proxyLimit place
where
  search : Nat → Reference → Machine Bool
    | 0, _ => tooDeep
    | bound + 1, place => do
        match ← kindAt place with
        | .proxy _ _ _ =>
            let trap ← trapOf call place "setPrototypeOf"
            if trap.function.isAbsent then search bound trap.target
            else
              let wanted : Value :=
                match prototype with
                | some found => .object found
                | none => .null
              if (← trap.ask call [wanted]).truth then return true
              else refuse mode (typeFaultText "proxy: bad prototype")
        | _ =>
            if (← objectAt place).prototype = prototype then return true
            else if !(← objectAt place).extensible then refuse mode notExtensible
            else if (← lookUp fun memory => memory.chain prototype).contains place then
              refuse mode (typeFaultText "circular prototype chain")
            else
              changeObject place fun object => { object with prototype := prototype }
              return true

/-- An object may get new members. -/
def isExtensible (call : Caller) (place : Reference) : Machine Bool :=
  search proxyLimit place
where
  search : Nat → Reference → Machine Bool
    | 0, _ => tooDeep
    | bound + 1, place => do
        let object ← objectAt place
        match object.kind with
        | .proxy _ _ _ =>
            let trap ← trapOf call place "isExtensible"
            if trap.function.isAbsent then search bound trap.target
            else
              let answer := (← trap.ask call []).truth
              if answer = (← objectAt trap.target).extensible then return answer
              else typeFaultText "proxy: inconsistent isExtensible"
        | _ => return object.extensible

/-- An object gets no new members any more. -/
def stopExtending (call : Caller) (place : Reference) : Machine Bool :=
  search proxyLimit place
where
  search : Nat → Reference → Machine Bool
    | 0, _ => tooDeep
    | bound + 1, place => do
        match ← kindAt place with
        | .proxy _ _ _ =>
            let trap ← trapOf call place "preventExtensions"
            if trap.function.isAbsent then search bound trap.target
            else
              let answer := (← trap.ask call []).truth
              if answer && (← objectAt trap.target).extensible then
                typeFaultText "proxy: inconsistent preventExtensions"
              else return answer
        | _ =>
            changeObject place fun object => { object with extensible := false }
            return true

/-- The keys that a proxy answers with. -/
def answeredKeys (call : Caller) (answer : Value) : Machine (List Key) := do
  let _ ← requireObject answer
  let size ←
    match ← getMember call answer lengthKey with
    | .integer size => pure size.toInt.toNat
    | _ => pure 0
  (List.range size).mapM fun index => do
    match ← getMember call answer (.ofNat index) with
    | .text name => return .ofUnits name
    | .symbol number description => return .symbol number description
    | _ => typeFaultText "proxy: properties must be strings or symbols"

def ownKeysOf (call : Caller) (place : Reference) : Machine (List Key) :=
  search proxyLimit place
where
  search : Nat → Reference → Machine (List Key)
    | 0, _ => tooDeep
    | bound + 1, place => do
        let object ← objectAt place
        match object.kind with
        | .proxy _ _ _ =>
            let trap ← trapOf call place "ownKeys"
            if trap.function.isAbsent then search bound trap.target
            else
              let keys ← answeredKeys call (← trap.ask call [])
              if keys.eraseDups.length = keys.length then return keys
              else typeFaultText "proxy: duplicate property"
        | _ => return object.ownKeys

/-- The texts among the keys of an object whose members are listed. -/
def listedKeysOf (call : Caller) (place : Reference) : Machine (List Key) := do
  let object ← objectAt place
  match object.kind with
  | .proxy _ _ _ =>
      (← ownKeysOf call place).filterM fun key => do
        if key.isSymbol then return false
        else return ((← ownMember? call place key).map Property.isEnumerable).getD false
  | _ => return object.listedKeys

end HostBridge.Script
