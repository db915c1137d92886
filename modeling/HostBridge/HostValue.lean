/-
This file defines the values that pass between scripts and host objects.
-/
import HostBridge.HostType
import HostBridge.Json.Writer
import HostBridge.Table

namespace HostBridge

/-- The fields of an object keep the order of their first insertion. -/
inductive HostValue where
  | null
  | boolean (value : Bool)
  | integer (value : Int64)
  | float (value : Float)
  | string (value : String)
  | array (items : List HostValue)
  | object (fields : List (String × HostValue))

instance : Inhabited HostValue := ⟨.null⟩

def HostValue.isNull : HostValue → Bool
  | .null => true
  | _ => false

def HostValue.boolean? : HostValue → Option Bool
  | .boolean value => some value
  | _ => none

def HostValue.integer? : HostValue → Option Int64
  | .integer value => some value
  | _ => none

/-- An integer widens to the nearest double. -/
def HostValue.float? : HostValue → Option Float
  | .float value => some value
  | .integer value => some (Float.ofInt value.toInt)
  | _ => none

def HostValue.string? : HostValue → Option String
  | .string value => some value
  | _ => none

def HostValue.array? : HostValue → Option (List HostValue)
  | .array items => some items
  | _ => none

def HostValue.object? : HostValue → Option (Table String HostValue)
  | .object fields => some fields
  | _ => none

def HostValue.hostType : HostValue → HostType
  | .null => .null
  | .boolean _ => .boolean
  | .integer _ => .integer
  | .float _ => .float
  | .string _ => .string
  | .array _ => .array
  | .object _ => .object

mutual

/-- An integer that fits in 64 bits stays an integer and every other number is a float. -/
def HostValue.ofJson : Json → HostValue
  | .null => .null
  | .boolean value => .boolean value
  | .number value =>
      match value.int64? with
      | some value => .integer value
      | none => .float value.toFloat
  | .string value => .string value
  | .array items => .array (HostValue.ofItems items)
  | .object members => .object (HostValue.ofMembers members)

def HostValue.ofItems : List Json → List HostValue
  | [] => []
  | item :: rest => HostValue.ofJson item :: HostValue.ofItems rest

def HostValue.ofMembers : List (String × Json) → List (String × HostValue)
  | [] => []
  | (key, value) :: rest => (key, HostValue.ofJson value) :: HostValue.ofMembers rest

end

/-- A float without a literal becomes null. -/
def Json.ofFloat (value : Float) : Json :=
  if value.isFinite then .number (.float value) else .null

def Json.ofInt64 (value : Int64) : Json := .number (.integer value.toInt)

mutual

def HostValue.toJson : HostValue → Json
  | .null => .null
  | .boolean value => .boolean value
  | .integer value => .ofInt64 value
  | .float value => .ofFloat value
  | .string value => .string value
  | .array items => .array (HostValue.itemsToJson items)
  | .object fields => .object (Members.ofPairs (HostValue.fieldsToJson fields))

def HostValue.itemsToJson : List HostValue → List Json
  | [] => []
  | item :: rest => item.toJson :: HostValue.itemsToJson rest

def HostValue.fieldsToJson : List (String × HostValue) → List (String × Json)
  | [] => []
  | (key, value) :: rest => (key, value.toJson) :: HostValue.fieldsToJson rest

end

/-- The JSON text of the value. -/
def HostValue.text (value : HostValue) : String := value.toJson.text

mutual

/-- Floats compare as numbers, so that NaN differs from itself, and the order of the fields of an
object does not count. -/
def HostValue.same : HostValue → HostValue → Bool
  | .null, .null => true
  | .boolean left, .boolean right => left == right
  | .integer left, .integer right => left == right
  | .float left, .float right => left == right
  | .string left, .string right => left == right
  | .array left, .array right => HostValue.sameItems left right
  | .object left, .object right =>
      left.length == right.length && HostValue.fieldsWithin left right
  | _, _ => false

def HostValue.sameItems : List HostValue → List HostValue → Bool
  | [], [] => true
  | left :: lefts, right :: rights => left.same right && HostValue.sameItems lefts rights
  | _, _ => false

/-- Every field on the left stands on the right too. -/
def HostValue.fieldsWithin : List (String × HostValue) → List (String × HostValue) → Bool
  | [], _ => true
  | (key, left) :: rest, rights =>
      (match Table.lookup? rights key with
        | some right => left.same right
        | none => false) && HostValue.fieldsWithin rest rights

end

/-- The native values that can be handed to scripts. -/
class ToHost (A : Type) where
  toHost : A → HostValue

export ToHost (toHost)

instance : ToHost HostValue := ⟨id⟩

instance : ToHost Bool := ⟨.boolean⟩

instance : ToHost Int32 := ⟨fun value => .integer value.toInt64⟩

instance : ToHost Int64 := ⟨.integer⟩

/-- A count keeps its 64 bits, so that one of 2^63 or more is read as a negative number. -/
instance : ToHost UInt64 := ⟨fun value => .integer value.toInt64⟩

instance : ToHost Float := ⟨.float⟩

instance : ToHost String := ⟨.string⟩

instance {A : Type} [ToHost A] : ToHost (List A) := ⟨fun items => .array (items.map toHost)⟩

instance {A : Type} [ToHost A] : ToHost (Option A) :=
  ⟨fun value => (value.map toHost).getD .null⟩

end HostBridge
