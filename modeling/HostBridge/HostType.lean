/-
This file defines the types of declared parameters and of arguments.
-/

namespace HostBridge

/-- A number is an integer or a float, and any value fits `any`. No value has these two types. -/
inductive HostType where
  | null
  | boolean
  | integer
  | float
  | number
  | string
  | array
  | object
  | any
deriving DecidableEq

def HostType.name : HostType → String
  | .null => "null"
  | .boolean => "boolean"
  | .integer => "integer"
  | .float => "float"
  | .number => "number"
  | .string => "string"
  | .array => "array"
  | .object => "object"
  | .any => "any"

/-- The name with a capital letter. -/
def HostType.title : HostType → String
  | .null => "Null"
  | .boolean => "Boolean"
  | .integer => "Integer"
  | .float => "Float"
  | .number => "Number"
  | .string => "String"
  | .array => "Array"
  | .object => "Object"
  | .any => "Any"

/-- A parameter of the declared type takes an argument of the actual type. -/
def HostType.accepts (declared actual : HostType) : Bool :=
  match declared with
  | .any => true
  | .number => actual = .integer || actual = .float
  | _ => declared = actual

end HostBridge
