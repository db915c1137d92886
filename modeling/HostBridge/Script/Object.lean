/-
This file defines the objects of scripts.
-/
import HostBridge.Catalog
import HostBridge.Script.Regex.Basic
import HostBridge.Script.Value

namespace HostBridge.Script

/-- A field of a class has a function that computes its value for every object. -/
structure Field where
  key : Key
  compute : Reference

/-- A function of a script, with what it finds around it. -/
structure Closure where
  text : FunctionText
  scope : Scope
  /-- The object that a method belongs to. -/
  home : Option Reference
  /-- The fields of the objects that the function makes. -/
  fields : List Field

/-- What a function does when it is called. -/
inductive Code where
  /-- A function of the language has a number and may hold values of its own. The flag says that
  `new` can be applied to it. -/
  | standard (number : Nat) (isClass : Bool) (held : List Value)
  | script (closure : Closure)
  /-- Calls another function with a receiver and first arguments of its own. -/
  | bound (target : Reference) (receiver : Value) (arguments : List Value)
  /-- The hook that prints one line. -/
  | hostPrint
  /-- The hook that calls a method of a host object. -/
  | hostCall

/-- What a walk through a collection gives. -/
inductive Showing where
  | keys
  | values
  | entries
deriving DecidableEq

/-- The entries of a map or a set in their order. -/
abbrev Collection := Catalog Identity (Value × Value)

/-- What is left of a walk through values. -/
inductive Walk where
  | ended
  | items (source : Reference) (index : Nat) (showing : Showing)
  | characters (rest : Units)
  | entries (source : Reference) (place : Nat) (showing : Showing)
  | found (regex : Reference) (text : Units) (isGlobal isUnicode : Bool)

/-- A function whose values come one at a time is in one of these states. -/
inductive Pace where
  /-- Nothing has run yet. -/
  | fresh (scope : Scope) (statements : List Statement)
  /-- The rest is kept under a number. -/
  | paused (ticket : Nat)
  | running
  | finished

/-- What a promise has come to. -/
inductive Settlement where
  | pending
  | kept (value : Value)
  | broken (reason : Value)

/-- Objects differ in what converting them, writing them and looking into them depends on. -/
inductive Kind where
  | plain
  /-- The flag says whether the length can change. -/
  | array (size : Nat) (isOpen : Bool)
  | arguments
  | error
  | boxed (value : Value)
  | function (code : Code)
  | regex (source flags : Units) (program : RegexProgram)
  | date (time : Float)
  | map (entries : Collection) (isWeak : Bool)
  | set (entries : Collection) (isWeak : Bool)
  | walk (name : String) (walk : Walk)
  | generator (function : Reference) (pace : Pace)
  | promise (settlement : Settlement)
  /-- An object that asks a handler whatever is done with it. -/
  | proxy (link : Option (Reference × Reference)) (isFunction isConstructor : Bool)

abbrev Members := Catalog Key Property

structure Object where
  kind : Kind
  prototype : Option Reference
  extensible : Bool
  /-- The plain members under the first indices of an array. -/
  items : Array Value
  members : Members

instance : Inhabited Object := ⟨.plain, none, true, #[], .empty⟩

/-- An object without members. -/
def Object.bare (kind : Kind) (prototype : Option Reference) : Object :=
  ⟨kind, prototype, true, #[], .empty⟩

def Object.isArray (object : Object) : Bool :=
  match object.kind with
  | .array _ _ => true
  | _ => false

/-- The first items are kept apart from the other members. -/
def Object.isDense (object : Object) : Bool :=
  match object.kind with
  | .array _ _ | .arguments => true
  | _ => false

def Object.code? (object : Object) : Option Code :=
  match object.kind with
  | .function code => some code
  | _ => none

/-- The characters of a text and its length are members that no script can change. -/
def textMember? (units : Units) (key : Key) : Option Property :=
  match key with
  | .index index => units[index]?.map fun unit => .data (.text [unit]) false true false
  | _ => if key = lengthKey then some (.locked (.ofNat units.length)) else none

/-- The members that are no entries of an object: the length of an array and the characters of a
text. -/
def Object.virtual? (object : Object) (key : Key) : Option Property :=
  match object.kind with
  | .array size isOpen =>
      if key = lengthKey then some (.data (.ofNat size) isOpen false false) else none
  | .boxed (.text units) => textMember? units key
  | _ => none

/-- The member of the object's own. -/
def Object.own? (object : Object) (key : Key) : Option Property :=
  match key with
  | .index index =>
      match object.items[index]? with
      | some value => some (.plain value)
      | none => (object.virtual? key).or (object.members.lookup? key)
  | .symbol _ _ => object.members.lookup? key
  | .text _ => (object.virtual? key).or (object.members.lookup? key)

/-- The length of an array is greater than all its indices. -/
def Object.lengthen (object : Object) (index : Nat) : Object :=
  match object.kind with
  | .array size isOpen =>
      if index < size then object else { object with kind := .array (index + 1) isOpen }
  | _ => object

/-- The items from an index on become members like others. -/
def Object.spill (object : Object) (index : Nat) : Object :=
  let moved := (object.items.toList.drop index).mapIdx fun place value =>
    (Key.index (index + place), Property.plain value)
  { object with
    items := object.items.extract 0 index
    members := moved.foldl (fun members entry => members.put entry.1 entry.2) object.members }

/-- The object with a member under an index. -/
def Object.putIndex (object : Object) (index : Nat) (property : Property) : Object :=
  let size := object.items.size
  let entry (object : Object) : Object :=
    { object with members := object.members.put (.index index) property }
  if !object.isDense then entry object
  else
    match property.plainValue? with
    | some value =>
        if index < size then { object with items := object.items.setIfInBounds index value }
        else if index = size && (object.members.lookup? (.index index)).isNone then
          Object.lengthen { object with items := object.items.push value } index
        else (entry object).lengthen index
    | none => (entry (object.spill (min index size))).lengthen index

/-- The object with a member of its own. The length of an array is no such member. -/
def Object.put (object : Object) (key : Key) (property : Property) : Object :=
  match key with
  | .index index => object.putIndex index property
  | _ => { object with members := object.members.put key property }

def Object.remove (object : Object) (key : Key) : Object :=
  match key with
  | .index index =>
      if index + 1 = object.items.size then { object with items := object.items.pop }
      else if index < object.items.size then
        let spilt := object.spill index
        { spilt with members := spilt.members.remove key }
      else { object with members := object.members.remove key }
  | _ => { object with members := object.members.remove key }

/-- The indices among the members, in ascending order. -/
def Object.indices (object : Object) : List Nat :=
  let found := object.members.keys.filterMap Key.index?
  if found.length < 2 then found else found.mergeSort

/-- The keys that are no entries of the object. -/
def Object.virtualKeys (object : Object) : List Key × List Key :=
  match object.kind with
  | .array _ _ => ((List.range object.items.size).map .index, [lengthKey])
  | .boxed (.text units) => ((List.range units.length).map .index, [lengthKey])
  | _ => ((List.range object.items.size).map .index, [])

/-- Indices come first in their order, then the other texts and then the symbols. -/
def Object.ownKeys (object : Object) : List Key :=
  let keys := object.members.keys
  let (first, named) := object.virtualKeys
  let texts := keys.filter fun key =>
    match key with
    | .text _ => true
    | _ => false
  first ++ object.indices.map .index ++ named ++ texts ++ keys.filter Key.isSymbol

/-- The member is listed. -/
def Object.lists (object : Object) (key : Key) : Bool :=
  ((object.own? key).map Property.isEnumerable).getD false

/-- The texts among the keys whose members are listed. -/
def Object.listedKeys (object : Object) : List Key :=
  object.ownKeys.filter fun key => !key.isSymbol && object.lists key

/-- The indices of an array that keep it from becoming shorter. -/
def Object.leastSize (object : Object) (wanted : Nat) : Nat :=
  object.indices.foldl (fun least index =>
    let isFixed :=
      match object.members.lookup? (.index index) with
      | some property => !property.isConfigurable
      | none => false
    if wanted ≤ index && isFixed then max least (index + 1) else least) wanted

/-- An array of another length. It keeps the items that cannot be removed. -/
def Object.resize (object : Object) (size : Nat) (isOpen : Bool) : Object :=
  match object.kind with
  | .array old _ =>
      let size := if size < old then object.leastSize size else size
      let outside := object.indices.filter (size ≤ ·)
      { object with
        kind := .array size isOpen
        items := object.items.shrink size
        members := outside.foldl (fun members index => members.remove (.index index))
          object.members }
  | _ => object

def Object.isCallable (object : Object) : Bool :=
  match object.kind with
  | .function _ => true
  | .proxy _ isFunction _ => isFunction
  | _ => false

end HostBridge.Script
