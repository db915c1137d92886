/-
This file defines how a member of an object may change.
-/
import HostBridge.Script.World

namespace HostBridge.Script

/-- What a member is to become. Parts that are missing stay as they are. -/
structure Descriptor where
  value : Option Value
  writable : Option Bool
  getter : Option (Option Reference)
  setter : Option (Option Reference)
  enumerable : Option Bool
  configurable : Option Bool

def Descriptor.ofProperty : Property → Descriptor
  | .data value writable enumerable configurable =>
      ⟨some value, some writable, none, none, some enumerable, some configurable⟩
  | .accessor getter setter enumerable configurable =>
      ⟨none, none, some getter, some setter, some enumerable, some configurable⟩

/-- Only the value is to change. -/
def Descriptor.ofValue (value : Value) : Descriptor := ⟨some value, none, none, none, none, none⟩

def Descriptor.isAccessor (wanted : Descriptor) : Bool :=
  wanted.getter.isSome || wanted.setter.isSome

def Descriptor.isData (wanted : Descriptor) : Bool :=
  wanted.value.isSome || wanted.writable.isSome

/-- The member that is made where there was none. -/
def Descriptor.fresh (wanted : Descriptor) : Property :=
  let enumerable := wanted.enumerable.getD false
  let configurable := wanted.configurable.getD false
  if wanted.isAccessor then
    .accessor (wanted.getter.getD none) (wanted.setter.getD none) enumerable configurable
  else
    .data (wanted.value.getD .undefined) (wanted.writable.getD false) enumerable configurable

/-- A member that is not configurable keeps its kind, its flags and its functions, and a locked one
keeps its value. -/
def Descriptor.fits (wanted : Descriptor) (old : Property) : Bool :=
  old.isConfigurable ||
    (wanted.configurable != some true && wanted.enumerable.all (· == old.isEnumerable) &&
      match old with
      | .accessor getter setter _ _ =>
          !wanted.isData && wanted.getter.all (· == getter) && wanted.setter.all (· == setter)
      | .data value writable _ _ =>
          !wanted.isAccessor &&
            (writable || (wanted.writable != some true && wanted.value.all value.same)))

/-- The member after the change. -/
def Descriptor.change (wanted : Descriptor) (old : Property) : Property :=
  let enumerable := wanted.enumerable.getD old.isEnumerable
  let configurable := wanted.configurable.getD old.isConfigurable
  match old with
  | .data value writable _ _ =>
      if wanted.isAccessor then
        .accessor (wanted.getter.getD none) (wanted.setter.getD none) enumerable configurable
      else
        .data (wanted.value.getD value) (wanted.writable.getD writable) enumerable configurable
  | .accessor getter setter _ _ =>
      if wanted.isData then
        .data (wanted.value.getD .undefined) (wanted.writable.getD false) enumerable configurable
      else
        .accessor (wanted.getter.getD getter) (wanted.setter.getD setter) enumerable configurable

/-- The length that a value can be. -/
def Value.arrayLength? (value : Value) : Option Nat :=
  match value with
  | .integer number => if number < 0 then none else some number.toInt.toNat
  | .float number =>
      let size := number.toUInt64.toNat
      if size < 0x100000000 && Float.ofNat size == number then some size else none
  | _ => none

/-- The length of an array changes, together with the flag that says whether it may do so again.
The answer says whether it is as short as it is wanted. -/
def defineLength (mode : Mode) (place : Reference) (size : Nat) (isOpen : Bool) : Machine Bool := do
  changeObject place fun object => object.resize size isOpen
  match ← kindAt place with
  | .array reached _ =>
      if reached = size then return true else refuse mode notConfigurable
  | _ => return true

/-- Changes the length of an array as a descriptor says. -/
def changeLength (mode : Mode) (place : Reference) (wanted : Descriptor) (size : Nat)
    (isOpen : Bool) : Machine Bool := do
  match wanted.value with
  | none => defineLength mode place size (wanted.writable.getD isOpen)
  | some value =>
      match value.arrayLength? with
      | none => rangeFault "invalid array length"
      | some fresh => defineLength mode place fresh (wanted.writable.getD isOpen)

/-- A member of an array that keeps its length stays inside of it. -/
def Object.hasRoom (object : Object) (key : Key) : Bool :=
  match object.kind, key with
  | .array size isOpen, .index index => isOpen || index < size
  | _, _ => true

/-- Whether an object takes a new member. -/
inductive Welcome where
  | open
  | notExtensible
  | noRoom

def Object.welcome (object : Object) (key : Key) : Welcome :=
  if !object.extensible then .notExtensible else if object.hasRoom key then .open else .noRoom

/-- Complains about a member that an object does not take. -/
def Welcome.refuse (welcome : Welcome) (mode : Mode) : Machine Bool :=
  match welcome with
  | .noRoom => Script.refuse mode (readOnly (Text.units "length"))
  | _ => Script.refuse mode Script.notExtensible

/-- Defines a member of an object that is no proxy. -/
def defineOwn (mode : Mode) (place : Reference) (key : Key) (wanted : Descriptor) :
    Machine Bool := do
  match ← lookUp fun memory => (memory.object place).own? key with
  | some old =>
      if !wanted.fits old then refuse mode notConfigurable
      else
        match ← lookUp fun memory => (memory.object place).kind, decide (key = lengthKey) with
        | .array size isOpen, true => changeLength mode place wanted size isOpen
        | _, _ =>
            changeObject place fun object =>
              if (object.virtual? key).isNone then object.put key (wanted.change old) else object
            return true
  | none =>
      match ← lookUp fun memory => (memory.object place).welcome key with
      | .open =>
          changeObject place fun object => object.put key wanted.fresh
          return true
      | welcome => welcome.refuse mode

end HostBridge.Script
