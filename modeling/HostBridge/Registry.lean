/-
This file defines the registry of the objects that scripts reach by name.
-/
import HostBridge.Capability.Object

namespace HostBridge

/-- An object may be bound under several names and is then still one object. -/
structure Handle where
  identity : Nat
  object : HostObject

abbrev Registry := Table String Handle

def isIdentifierStart (c : Char) : Bool := c.isAlpha || c = '_' || c = '$'

/-- A name that scripts can write without quotes: letters, digits, low lines and dollar signs of
ASCII, no digit first. -/
def isIdentifier (name : String) : Bool :=
  match name.toList with
  | [] => false
  | c :: rest => isIdentifierStart c && rest.all fun c => isIdentifierStart c || c.isDigit

/-- A name that is bound already keeps its place. -/
def Registry.bind (registry : Registry) (name : String) (handle : Handle) : Registry :=
  Table.put registry name handle

/-- Binding hands back the handle that the name had before. -/
def Registry.exchange (registry : Registry) (name : String) (handle : Handle) :
    Registry × Option Handle := Table.exchange registry name handle

def Registry.bindEvents (registry : Registry) (name : String) : List Event :=
  (if isIdentifier name then [] else [.notIdentifier name]) ++
    if Table.contains registry name then [.rebound name] else []

def Registry.resolve (registry : Registry) (name : String) : Except DispatchError Handle :=
  match Table.lookup? registry name with
  | some handle => .ok handle
  | none => .error (.unboundName name)

def Registry.unbind (registry : Registry) (name : String) : Registry :=
  Table.remove registry name

/-- Unbinding hands back the handle that the name had. -/
def Registry.withdraw (registry : Registry) (name : String) : Registry × Option Handle :=
  Table.withdraw registry name

def Registry.names (registry : Registry) : List String := Table.keys registry

/-- The number of names under which an object is bound. -/
def Registry.bindings (registry : Registry) (identity : Nat) : Nat :=
  registry.countP fun entry => entry.2.identity == identity

theorem Registry.exchange_eq (registry : Registry) (name : String) (handle : Handle) :
    registry.exchange name handle = (registry.bind name handle, Table.lookup? registry name) :=
  Table.exchange_eq registry name handle

theorem Registry.withdraw_eq (registry : Registry) (name : String) :
    registry.withdraw name = (registry.unbind name, Table.lookup? registry name) :=
  Table.withdraw_eq registry name

end HostBridge
