/-
This file writes the values of scripts as JSON texts.
-/
import HostBridge.Json.Writer
import HostBridge.Script.Library.JsonReader
import HostBridge.Script.Library.Number
import HostBridge.Text.Hex

namespace HostBridge.Script

/-- What a script can ask for when a JSON text is written. -/
structure JsonStyle where
  /-- The function that every value is passed through. -/
  replacer : Option Value
  /-- The keys that are written. -/
  keys : Option (List Key)
  /-- What a line is indented by, or nothing for a text of one line. -/
  gap : String

/-- The literal of a text, in which lone surrogates are escaped. -/
def quoteUnits (units : Units) : String :=
  let texts := (Text.unitSymbols units).map fun symbol =>
    match symbol with
    | .inl c => String.ofList (Text.Quoted.escape c)
    | .inr unit => String.ofList ('\\' :: 'u' :: Text.hexFixed 4 unit.toNat)
  "\"" ++ String.join texts ++ "\""

/-- The value that is written in place of an object that knows how to present itself. -/
def presented (call : Caller) (key : Key) (value : Value) : Machine Value := do
  match value with
  | .object _ | .big _ =>
      let method ← getNamed call value "toJSON"
      if ← lookUp fun memory => memory.isFunction method then call (.on value) method [key.value]
      else return value
  | _ => return value

/-- A value that no JSON text stands for is left out. -/
def writable? (call : Caller) (style : JsonStyle) (holder : Machine Value) (key : Key)
    (value : Value) : Machine (Option Value) := do
  let shown ← presented call key value
  let chosen ←
    match style.replacer with
    | some replacer => do call (.on (← holder)) replacer [key.value, shown]
    | none => pure shown
  match chosen with
  | .undefined | .symbol _ _ => return none
  | _ =>
      if ← lookUp fun memory => memory.isFunction chosen then return none else return some chosen

/-- The parts of an array or an object between its brackets. -/
def JsonStyle.enclose (style : JsonStyle) (opening closing indent : String)
    (parts : List String) : String :=
  if parts.isEmpty then opening ++ closing
  else if style.gap.isEmpty then opening ++ separated "," parts ++ closing
  else
    let line := "\n" ++ indent ++ style.gap
    opening ++ line ++ separated ("," ++ line) parts ++ "\n" ++ indent ++ closing

/-- The text of a value that is no object. -/
def plainJson (value : Value) : Machine String :=
  match value with
  | .boolean truth => return if truth then "true" else "false"
  | .integer number => return integerText number.toInt
  | .float number =>
      return if number.isFinite then Decimal.Layout.script.text number else "null"
  | .text units => return quoteUnits units
  | .big _ => typeFaultText "bigint are forbidden in JSON.stringify"
  | .undefined | .null | .symbol _ _ | .object _ => return "null"

/-- The text of an object that stands for a primitive value. -/
def boxedJson? (call : Caller) (value : Value) (kind : Kind) : Machine (Option String) := do
  match kind with
  | .boxed (.text _) => return some (quoteUnits (← toText call value))
  | .boxed (.integer _) | .boxed (.float _) =>
      return some (Decimal.Layout.script.text (← toNumber call value))
  | .boxed (.boolean truth) => return some (← plainJson (.boolean truth))
  | .boxed (.big number) => return some (← plainJson (.big number))
  | _ => return none

/-- Writes a value that is indented. -/
abbrev JsonWriting := Value → Machine String

/-- An item that cannot be written becomes null. -/
def jsonItems (call : Caller) (style : JsonStyle) (write : JsonWriting) (place : Reference) :
    Machine (List String) := do
  let holder := Value.object place
  let size ← lengthOf call holder
  let parts ← climb size #[] fun (parts : Array String) index => do
    let item ← itemAt call place index
    let shown ← writable? call style (return holder) (.ofNat index) item
    return (parts.push (← write (shown.getD .null)), true)
  return parts.toList

/-- A member that cannot be written vanishes. -/
def jsonMembers (call : Caller) (style : JsonStyle) (write : JsonWriting) (place : Reference) :
    Machine (List String) := do
  let holder := Value.object place
  let keys ←
    match style.keys with
    | some keys => pure keys
    | none => listedKeysOf call place
  let between := if style.gap.isEmpty then ":" else ": "
  keys.filterMapM fun key => do
    match ← writable? call style (return holder) key (← getMember call holder key) with
    | some shown => return some (quoteUnits key.shown ++ between ++ (← write shown))
    | none => return none

/-- The first argument bounds how deep values are nested. The places are those of the objects
around the value. -/
def jsonWithin (call : Caller) (style : JsonStyle) :
    Nat → List Reference → String → JsonWriting
  | 0, _, _, _ => tooDeep
  | depth + 1, around, indent, value => do
      match value with
      | .object place =>
          match ← boxedJson? call value (← kindAt place) with
          | some text => return text
          | none =>
              if around.contains place then typeFaultText "circular reference"
              else
                let write := jsonWithin call style depth (place :: around) (indent ++ style.gap)
                if ← isArrayValue value then
                  return style.enclose "[" "]" indent (← jsonItems call style write place)
                else
                  return style.enclose "\x7b" "\x7d" indent (← jsonMembers call style write place)
      | _ => plainJson value

/-- An item of a list of keys, which may be a text or a number. -/
def listedKey? (call : Caller) (value : Value) : Machine (Option Key) := do
  let isKey :=
    match ← unboxed value with
    | .text _ | .integer _ | .float _ => true
    | _ => false
  if isKey then return some (.ofUnits (← toText call value)) else return none

def listedKeysIn (call : Caller) (place : Reference) : Machine (List Key) := do
  let size ← lengthOf call (.object place)
  climb size [] fun keys index => do
    match ← listedKey? call (← itemAt call place index) with
    | some key => return (if keys.contains key then keys else keys ++ [key], true)
    | none => return (keys, true)

/-- What lines are indented by: a text or a number of blanks, up to ten. -/
def readGap (call : Caller) (value : Value) : Machine String := do
  let space ←
    match ← unboxed value with
    | .text _ => do pure (Value.text (← toText call value))
    | .integer _ | .float _ => do toNumberValue call value
    | other => pure other
  match space with
  | .text units => return shownText (units.take 10)
  | .integer _ | .float _ =>
      return String.ofList (List.replicate (min 10 (← toWhole call space).toNat) ' ')
  | _ => return ""

def readStyle (call : Caller) (replacer space : Value) : Machine JsonStyle := do
  let isFunction ← lookUp fun memory => memory.isFunction replacer
  let keys ←
    match replacer with
    | .object place =>
        if !isFunction && (← isArrayValue replacer) then pure (some (← listedKeysIn call place))
        else pure none
    | _ => pure none
  return ⟨if isFunction then some replacer else none, keys, ← readGap call space⟩

def writeJson : NativeAction := fun call given => do
  let style ← readStyle call given.second given.third
  let holder := makePlain [(.text [], given.first)]
  match ← writable? call style holder (.text []) given.first with
  | some shown => return .ofString (← jsonWithin call style deepestNesting [] "" shown)
  | none => return .undefined

def jsonShelf : Shelf := [
  shelved "parse" 2 readJson,
  shelved "stringify" 3 writeJson,
  shelvedTag "JSON"]

end HostBridge.Script
