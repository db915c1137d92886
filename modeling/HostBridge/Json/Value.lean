/-
This file defines decoded JSON values.
-/

namespace HostBridge

/-- A number literal that is an integer in range stays one. -/
inductive Number where
  | integer (value : Int)
  | float (value : Float)
deriving DecidableEq

/-- The integer, if it fits in 64 bits with a sign. -/
def Number.int64? : Number → Option Int64
  | .integer value =>
      if -0x8000000000000000 ≤ value && value < 0x8000000000000000 then some (Int64.ofInt value) else none
  | .float _ => none

def Number.toFloat : Number → Float
  | .integer value => Float.ofInt value
  | .float value => value

/-- The members of an object are sorted by key. -/
inductive Json where
  | null
  | boolean (value : Bool)
  | number (value : Number)
  | string (value : String)
  | array (items : List Json)
  | object (members : List (String × Json))

abbrev Members := List (String × Json)

/-- A repeated key takes the new value. -/
def Members.insert : Members → String → Json → Members
  | [], key, value => [(key, value)]
  | (first, known) :: rest, key, value =>
      if key = first then (key, value) :: rest
      else if key < first then (key, value) :: (first, known) :: rest
      else (first, known) :: Members.insert rest key value

def Members.ofPairs (pairs : List (String × Json)) : Members :=
  pairs.foldl (fun members pair => Members.insert members pair.1 pair.2) []

def Members.lookup? (members : Members) (key : String) : Option Json := List.lookup key members

def Json.boolean? : Json → Option Bool
  | .boolean value => some value
  | _ => none

def Json.string? : Json → Option String
  | .string value => some value
  | _ => none

def Json.number? : Json → Option Number
  | .number value => some value
  | _ => none

end HostBridge
