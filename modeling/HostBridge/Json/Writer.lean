/-
This file writes JSON values without spaces.
-/
import HostBridge.Json.Value
import HostBridge.Decimal.Layout
import HostBridge.Text.Quoted

namespace HostBridge

def integerText (value : Int) : String :=
  (if value < 0 then "-" else "") ++ Decimal.digitText value.natAbs

/-- A float that is not finite has no literal. -/
def Number.text : Number → String
  | .integer value => integerText value
  | .float value => if value.isFinite then Decimal.Layout.json.text value else "null"

def separated (separator : String) (texts : List String) : String := separator.intercalate texts

mutual

def Json.text : Json → String
  | .null => "null"
  | .boolean value => if value then "true" else "false"
  | .number value => value.text
  | .string value => Text.quote value
  | .array items => "[" ++ separated "," (Json.itemTexts items) ++ "]"
  | .object members => "\x7b" ++ separated "," (Json.memberTexts members) ++ "\x7d"

def Json.itemTexts : List Json → List String
  | [] => []
  | item :: rest => item.text :: Json.itemTexts rest

def Json.memberTexts : List (String × Json) → List String
  | [] => []
  | (key, value) :: rest => (Text.quote key ++ ":" ++ value.text) :: Json.memberTexts rest

end

end HostBridge
