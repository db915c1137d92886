/-
This file translates the value of a script into its native form.
-/
import HostBridge.HostValue

namespace HostBridge

/-- The elements of an array have one type or are kept as they are. -/
inductive Translated where
  | null
  | boolean (value : Bool)
  | integer (value : Int64)
  | float (value : Float)
  | string (value : String)
  | booleans (items : List Bool)
  | numbers (items : List Float)
  | strings (items : List String)
  | array (items : List Json)
  | object (members : Members)

/-- A number equal to an integer of 64 bits is one, however it is written. -/
def Translated.ofNumber (number : Number) : Translated :=
  match number.int64? with
  | some value => .integer value
  | none =>
      match (Decimal.integerOfFloat? number.toFloat).bind fun value =>
          (Number.integer value).int64? with
      | some value => .integer value
      | none => .float number.toFloat

/-- The first element decides which elements keep the array typed. -/
def Translated.ofItems (items : List Json) : Translated :=
  let typed : Option Translated :=
    match items with
    | [] => some (.numbers [])
    | .boolean _ :: _ => (items.mapM Json.boolean?).map .booleans
    | .number _ :: _ => (items.mapM Json.number?).map fun items => .numbers (items.map Number.toFloat)
    | .string _ :: _ => (items.mapM Json.string?).map .strings
    | _ => none
  typed.getD (.array items)

def Translated.ofJson : Json → Translated
  | .null => .null
  | .boolean value => .boolean value
  | .number value => .ofNumber value
  | .string value => .string value
  | .array items => .ofItems items
  | .object members => .object members

def Json.isTypable : Json → Bool
  | .boolean _ | .number _ | .string _ => true
  | _ => false

/-- The first element of an array that could have been typed and is not. -/
def mixedFirst? (value : Json) : Option Json :=
  match value, Translated.ofJson value with
  | .array (first :: _), .array _ => if first.isTypable then some first else none
  | _, _ => none

def Translated.isNull : Translated → Bool
  | .null => true
  | _ => false

def Translated.boolean? : Translated → Option Bool
  | .boolean value => some value
  | _ => none

def Translated.integer? : Translated → Option Int64
  | .integer value => some value
  | _ => none

/-- An integer widens to the nearest double. -/
def Translated.float? : Translated → Option Float
  | .float value => some value
  | .integer value => some (Float.ofInt value.toInt)
  | _ => none

def Translated.string? : Translated → Option String
  | .string value => some value
  | _ => none

def Translated.object? : Translated → Option Members
  | .object members => some members
  | _ => none

/-- An object whose member `error` is a text reports a failure. -/
def Translated.errorMessage? (value : Translated) : Option String :=
  value.object?.bind fun members => (members.lookup? "error").bind Json.string?

def Translated.typeName : Translated → String
  | .null => "null"
  | .boolean _ => "boolean"
  | .integer _ => "integer"
  | .float _ => "float"
  | .string _ => "string"
  | .booleans _ => "boolean[]"
  | .numbers _ => "number[]"
  | .strings _ => "string[]"
  | .array _ => "array"
  | .object _ => "object"

def Translated.toJson : Translated → Json
  | .null => .null
  | .boolean value => .boolean value
  | .integer value => .ofInt64 value
  | .float value => .ofFloat value
  | .string value => .string value
  | .booleans items => .array (items.map .boolean)
  | .numbers items => .array (items.map .ofFloat)
  | .strings items => .array (items.map .string)
  | .array items => .array items
  | .object members => .object members

def Translated.text (value : Translated) : String := value.toJson.text

end HostBridge
