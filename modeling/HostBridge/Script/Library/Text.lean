/-
This file defines the functions of texts.
-/
import HostBridge.Script.Library.Primitive
import HostBridge.Script.Library.Regex
import HostBridge.Text.NormalForm

namespace HostBridge.Script

/-- The text that a function of texts is called on. -/
def thisText (call : Caller) (given : Given) : Machine Units := do
  if given.receiver.isAbsent then typeFaultText "null or undefined are forbidden"
  else toText call given.receiver

/-- A function of the text that it is called on. -/
def shelvedView (name : String) (view : Units → Value) : Article :=
  shelved name 0 fun call given => return view (← thisText call given)

/-- A place inside a text that is not counted from its end. -/
def clampPlace (call : Caller) (argument : Value) (size otherwise : Nat) : Machine Nat := do
  if argument.isUndefined then return otherwise
  else return min (← toWhole call argument).toNat size

/-- The unit at the place that an argument gives. -/
def unitAt? (call : Caller) (text : Units) (argument : Value) : Machine (Option UInt16) := do
  let place ← toWhole call argument
  return if place < 0 then none else text[place.toNat]?

/-- The code of a character that may take two units. -/
def codeAt : Units → Option Nat
  | [] => none
  | unit :: rest =>
      match rest with
      | low :: _ =>
          if Text.isHighSurrogate unit && Text.isLowSurrogate low then
            some (Text.pairedChar unit low).toNat
          else some unit.toNat
      | [] => some unit.toNat

def pickUnit : NativeAction := fun call given => do
  let text ← thisText call given
  let place ← toWhole call given.first
  let place := if place < 0 then place + text.length else place
  if place < 0 then return .undefined
  else return (text[place.toNat]?.map fun unit => Value.text [unit]).getD .undefined

def pickCode : NativeAction := fun call given => do
  let text ← thisText call given
  let place ← toWhole call given.first
  if place < 0 then return .undefined
  else return ((codeAt (text.drop place.toNat)).map Value.ofNat).getD .undefined

/-- A text without lone surrogates. -/
def wellFormed (units : Units) : Units := (characters units).flatMap Text.charUnits

/-- The part begins the text from a place on. -/
def standsAt (part : Units) (text : Units) : Bool := part.isPrefixOf text

/-- The first place of a part in a text, counted from a place on. -/
def placeFrom? (part : Units) : Nat → Units → Option Nat
  | place, [] => if part.isEmpty then some place else none
  | place, unit :: rest =>
      if standsAt part (unit :: rest) then some place else placeFrom? part (place + 1) rest

def findPart? (part text : Units) (start : Nat) : Option Nat :=
  placeFrom? part start (text.drop start)

def indexOfPart : NativeAction := fun call given => do
  let text ← thisText call given
  let part ← toText call given.first
  let start ← clampPlace call given.second text.length 0
  return indexValue (findPart? part text start)

/-- The last place of a part up to a place. -/
def lastPlace? (part text : Units) : Nat → Option Nat
  | 0 => if standsAt part text then some 0 else none
  | place + 1 =>
      if standsAt part (text.drop (place + 1)) then some (place + 1)
      else lastPlace? part text place

def lastIndexOfPart : NativeAction := fun call given => do
  let text ← thisText call given
  let part ← toText call given.first
  let limit ← if given.count < 2 then pure notNumber else toNumber call given.second
  if text.length < part.length then return indexValue none
  else
    let most := text.length - part.length
    let start := if limit.isNaN then most else min most (wholePart limit).toNat
    return indexValue (lastPlace? part text start)

/-- A part is looked for that is no pattern. -/
def partOf (call : Caller) (given : Given) : Machine (Units × Units) := do
  let text ← thisText call given
  if ← isRegex call given.first then typeFaultText "regexp not supported"
  else return (text, ← toText call given.first)

def includesPart : NativeAction := fun call given => do
  let (text, part) ← partOf call given
  let start ← clampPlace call given.second text.length 0
  return .boolean (findPart? part text start).isSome

def startsWithPart : NativeAction := fun call given => do
  let (text, part) ← partOf call given
  let start ← clampPlace call given.second text.length 0
  return .boolean (standsAt part (text.drop start))

def endsWithPart : NativeAction := fun call given => do
  let (text, part) ← partOf call given
  let last ← clampPlace call given.second text.length text.length
  return .boolean (part.length ≤ last &&
    standsAt part ((text.take last).drop (last - part.length)))

/-- A method of an argument takes over, if it has one. -/
def delegateTo (call : Caller) (given : Given) (key : Key) (arguments : List Value) :
    Machine (Option Value) := do
  if given.receiver.isAbsent then notConvertible
  else if given.first.isAbsent then return none
  else
    let method ← getMember call given.first key
    if method.isAbsent then return none
    else return some (← call (.on given.first) method arguments)

/-- A pattern for all matches has to be global. -/
def checkGlobalFlag (call : Caller) (value : Value) : Machine Unit := do
  if ← isRegex call value then
    let flags ← getNamed call value "flags"
    if flags.isAbsent then notConvertible
    else if !hasFlag (← toText call flags) 'g' then
      typeFaultText "regexp must have the 'g' flag"

/-- A new pattern is made of the argument, and its method is called. -/
def askRegex (key : Key) (flags : List Value) (check : Caller → Value → Machine Unit) :
    NativeAction := fun call given => do
  if given.receiver.isAbsent then notConvertible
  if !given.first.isAbsent then check call given.first
  match ← delegateTo call given key [given.receiver] with
  | some answer => return answer
  | none =>
      let text ← toText call given.receiver
      let maker := Value.object regexPlace
      let regex ← call (.fresh maker) maker (given.first :: flags)
      call (.on regex) (← getMember call regex key) [.text text]

/-- A text is cut at its separators. The first argument counts the units. -/
def cutParts (separator : Units) : Nat → Units → Units → List Units
  | 0, before, rest => [before.reverse ++ rest]
  | _ + 1, before, [] => [before.reverse]
  | bound + 1, before, unit :: rest =>
      if standsAt separator (unit :: rest) then
        before.reverse :: cutParts separator bound [] ((unit :: rest).drop separator.length)
      else cutParts separator bound (unit :: before) rest

def splitParts (text separator : Units) : List Units :=
  if separator.isEmpty then text.map fun unit => [unit]
  else cutParts separator (text.length + 1) [] text

def splitText : NativeAction := fun call given => do
  match ← delegateTo call given (.wellKnown "split") [given.receiver, given.second] with
  | some answer => return answer
  | none =>
      let text ← toText call given.receiver
      let limit ← partLimit call given.second
      let separator ← toText call given.first
      if limit = 0 then makeArray []
      else if given.first.isUndefined then makeArray [.text text]
      else makeArray (((splitParts text separator).take limit).map .text)

/-- The places of a part in a text. The first argument bounds their number. -/
def placesOfPart (part text : Units) : Nat → Nat → List Nat
  | 0, _ => []
  | bound + 1, start =>
      if text.length < start then []
      else
        match findPart? part text start with
        | some place => place :: placesOfPart part text bound (place + max 1 part.length)
        | none => []

def replaceText (isAll : Bool) : NativeAction := fun call given => do
  if given.receiver.isAbsent then notConvertible
  if isAll && !given.first.isAbsent then checkGlobalFlag call given.first
  match ← delegateTo call given (.wellKnown "replace") [given.receiver, given.second] with
  | some answer => return answer
  | none =>
      let text ← toText call given.receiver
      let part ← toText call given.first
      let replacement ← toReplacement call given.second
      let places := placesOfPart part text (if isAll then text.length + 1 else 1) 0
      let found : List Match := places.map fun place =>
        ⟨text, place, part, [.text part], .undefined⟩
      return .text (← replaceMatches call text 0
        (found.map fun found => (found, replacement.apply call found)))

def substring : NativeAction := fun call given => do
  let text ← thisText call given
  let first ← clampPlace call given.first text.length 0
  let last ← clampPlace call given.second text.length text.length
  return .text ((text.drop (min first last)).take (max first last - min first last))

def countedPart : NativeAction := fun call given => do
  let text ← thisText call given
  let first ← indexOr call given.first text.length 0
  let count ← clampPlace call given.second (text.length - first) (text.length - first)
  return .text ((text.drop first).take count)

def sliceText : NativeAction := fun call given => do
  let text ← thisText call given
  let first ← indexOr call given.first text.length 0
  let last ← indexOr call given.second text.length text.length
  return .text ((text.drop first).take (last - first))

def repeatText : NativeAction := fun call given => do
  let text ← thisText call given
  let count ← toWhole call given.first
  if count < 0 || 0x7FFFFFFF < count then rangeFault "invalid repeat count"
  else if text.isEmpty then return .text []
  else if longestText < count.toNat * text.length then rangeFault "invalid string length"
  else return .text (List.replicate count.toNat text).flatten

/-- Fills a text up to a length. -/
def padText (isBefore : Bool) : NativeAction := fun call given => do
  let text ← thisText call given
  let size := (← toWhole call given.first).toNat
  if size ≤ text.length then return .text text
  else
    let filler ← textOr call given.second [32]
    if filler.isEmpty then return .text text
    else if longestText < size then rangeFault "invalid string length"
    else
      let missing := size - text.length
      let padding := ((List.replicate (missing / filler.length + 1) filler).flatten).take missing
      return .text (if isBefore then padding ++ text else text ++ padding)

def isBlankUnit (unit : UInt16) : Bool := isScriptBlank (Char.ofNat unit.toNat)

def trimUnits (isStart isEnd : Bool) (text : Units) : Units :=
  let text := if isStart then text.dropWhile isBlankUnit else text
  if isEnd then (text.reverse.dropWhile isBlankUnit).reverse else text

/-- Changes the characters of a text. Lone surrogates stay where they are. -/
def mapStretches (map : List Char → List Char) : List Char → List (Char ⊕ UInt16) → Units
  | before, [] => (map before.reverse).flatMap Text.charUnits
  | before, .inl c :: rest => mapStretches map (c :: before) rest
  | before, .inr unit :: rest =>
      (map before.reverse).flatMap Text.charUnits ++ unit :: mapStretches map [] rest

def mapText (map : List Char → List Char) (text : Units) : Value :=
  .text (mapStretches map [] (Text.unitSymbols text))

/-- A text in a normal form of Unicode. -/
def normalCodes (form : Text.NormalForm) (text : Units) : List Nat :=
  form.apply (Text.codePoints text)

/-- How far apart the first code points are in which two texts differ. -/
def compareCodes : List Nat → List Nat → Int
  | [], [] => 0
  | [], _ => -1
  | _, [] => 1
  | left :: first, right :: second =>
      if left = right then compareCodes first second else Int.ofNat left - Int.ofNat right

/-- Texts are compared when their characters are put together. -/
def compareTexts : NativeAction := fun call given => do
  let text ← thisText call given
  let other ← toText call given.first
  let codes := normalCodes ⟨false, true⟩
  return .ofInt (compareCodes (codes text) (codes other))

def normalizeText : NativeAction := fun call given => do
  let text ← thisText call given
  match Text.NormalForm.ofName? (shownText (← textOr call given.first (Text.units "NFC"))) with
  | some form => return .text ((normalCodes form text).flatMap Text.codeUnits)
  | none => rangeFault "bad normalization form"

/-- The text between the tags of an element, which may have an attribute. -/
def shelvedElement (name element detail : String) : Article :=
  shelved name (if detail.isEmpty then 0 else 1) fun call given => do
    let text ← thisText call given
    let quoted ←
      if detail.isEmpty then pure []
      else do
        let value ← toText call given.first
        let safe := value.flatMap fun unit =>
          if unit = 34 then Text.units "&quot;" else [unit]
        pure (Text.units (" " ++ detail ++ "=\"") ++ safe ++ [34])
    return .text (60 :: Text.units element ++ quoted ++ 62 :: text ++
      Text.units ("</" ++ element ++ ">"))

def elementShelf : Shelf := [
  shelvedElement "anchor" "a" "name",
  shelvedElement "big" "big" "",
  shelvedElement "blink" "blink" "",
  shelvedElement "bold" "b" "",
  shelvedElement "fixed" "tt" "",
  shelvedElement "fontcolor" "font" "color",
  shelvedElement "fontsize" "font" "size",
  shelvedElement "italics" "i" "",
  shelvedElement "link" "a" "href",
  shelvedElement "small" "small" "",
  shelvedElement "strike" "strike" "",
  shelvedElement "sub" "sub" "",
  shelvedElement "sup" "sup" ""]

def plainText : NativeAction := fun _ given => do
  match ← unboxed given.receiver with
  | .text units => return .text units
  | _ => typeFaultText "not a string"

def textShelf : Shelf := [
  shelved "at" 1 pickUnit,
  shelved "charCodeAt" 1 fun call given => do
    let text ← thisText call given
    match ← unitAt? call text given.first with
    | some unit => return .ofNat unit.toNat
    | none => return .float notNumber,
  shelved "charAt" 1 fun call given => do
    let text ← thisText call given
    return .text (← unitAt? call text given.first).toList,
  shelved "concat" 1 fun call given => do
    let text ← thisText call given
    return .text (text ++ (← given.arguments.mapM (toText call)).flatten),
  shelved "codePointAt" 1 pickCode,
  shelvedView "isWellFormed" fun text =>
    .boolean ((Text.unitSymbols text).all fun symbol => symbol.isLeft),
  shelvedView "toWellFormed" fun text => .text (wellFormed text),
  shelved "indexOf" 1 indexOfPart,
  shelved "lastIndexOf" 1 lastIndexOfPart,
  shelved "includes" 1 includesPart,
  shelved "endsWith" 1 endsWithPart,
  shelved "startsWith" 1 startsWithPart,
  shelved "match" 1 (askRegex (.wellKnown "match") [] fun _ _ => return ()),
  shelved "matchAll" 1
    (askRegex (.wellKnown "matchAll") [.ofString "g"] checkGlobalFlag),
  shelved "search" 1 (askRegex (.wellKnown "search") [] fun _ _ => return ()),
  shelved "split" 2 splitText,
  shelved "substring" 2 substring,
  shelved "substr" 2 countedPart,
  shelved "slice" 2 sliceText,
  shelved "repeat" 1 repeatText,
  shelved "replace" 2 (replaceText false),
  shelved "replaceAll" 2 (replaceText true),
  shelved "padEnd" 1 (padText false),
  shelved "padStart" 1 (padText true),
  shelvedView "trim" fun text => .text (trimUnits true true text),
  shelvedView "trimEnd" fun text => .text (trimUnits false true text),
  shelvedAgain "trimRight" "trimEnd",
  shelvedView "trimStart" fun text => .text (trimUnits true false text),
  shelvedAgain "trimLeft" "trimStart",
  shelved "toString" 0 plainText,
  shelved "valueOf" 0 plainText,
  shelved "localeCompare" 1 compareTexts,
  shelvedView "toLowerCase" (mapText Text.toLower),
  shelvedView "toUpperCase" (mapText Text.toUpper),
  shelvedView "toLocaleLowerCase" (mapText Text.toLower),
  shelvedView "toLocaleUpperCase" (mapText Text.toUpper),
  shelvedSymbol iteratorSymbol 0 fun call given => do
    makeWalk "String Iterator" (.characters (← thisText call given))] ++
  elementShelf ++ [shelved "normalize" 0 normalizeText]

/-- A character of any code. -/
def unitsOfCode (call : Caller) (value : Value) : Machine Units := do
  let number ← toNumber call value
  if number < 0.0 || 1114111.0 < number || !(number.floor == number) then
    rangeFault "invalid code point"
  else return Text.codeUnits number.toUInt32.toNat

/-- The texts of a template as they are written, with values between them. -/
def rawTexts : NativeAction := fun call given => do
  let template ← toObject given.first
  let raw ← toObject (← getNamed call (.object template) "raw")
  let size ← lengthOf call (.object raw)
  let units ← climb size #[] fun (units : Array UInt16) index => do
    let units := units ++ (← toText call (← itemAt call raw index))
    match given.arguments[index + 1]? with
    | some value =>
        if index + 1 < size then return (units ++ (← toText call value), true)
        else return (units, true)
    | none => return (units, true)
  return .text units.toList

def textClassShelf : Shelf := [
  shelved "fromCharCode" 1 fun call given => do
    let units ← given.arguments.mapM fun value => do return (← toBits call value).toUInt16
    return .text units,
  shelved "fromCodePoint" 1 fun call given => do
    return .text (← given.arguments.mapM (unitsOfCode call)).flatten,
  shelved "raw" 1 rawTexts]

/-- A symbol has a text only where no object is wanted. -/
def makeText : NativeAction := fun call given => do
  let text ←
    match given.arguments with
    | [] => pure []
    | value :: _ => if given.isFresh then toText call value else toShown call value
  makeBoxed call given (.text text) textPrototype

end HostBridge.Script
