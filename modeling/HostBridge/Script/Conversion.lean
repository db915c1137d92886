/-
This file converts the values of scripts to primitive values, texts, numbers, keys and objects.
-/
import HostBridge.Script.Access
import HostBridge.Script.Token

namespace HostBridge.Script

/-- The primitive value that an operation would like to have. -/
inductive Hint where
  | text
  | number
  | either

def Hint.name : Hint → String
  | .text => "string"
  | .number => "number"
  | .either => "default"

/-- The methods that make a primitive value, in the order in which they are asked. -/
def Hint.methods : Hint → List String
  | .text => ["toString", "valueOf"]
  | .number | .either => ["valueOf", "toString"]

/-- The first primitive value that one of the methods answers with. -/
def askMethods (call : Caller) (value : Value) : List String → Machine Value
  | [] => typeFaultText "toPrimitive"
  | name :: rest => do
      let method ← getNamed call value name
      if ← lookUp fun memory => memory.isFunction method then
        let answer ← call (.on value) method []
        if answer.isObject then askMethods call value rest else return answer
      else askMethods call value rest

/-- An object is converted by the method that it has for that, or by the usual ones. -/
def toPrimitive (call : Caller) (hint : Hint) (value : Value) : Machine Value := do
  if !value.isObject then return value
  else
    let method ← getMember call value primitiveSymbol
    if method.isAbsent then askMethods call value hint.methods
    else
      let answer ← call (.on value) method [.ofString hint.name]
      if answer.isObject then typeFaultText "toPrimitive" else return answer

/-- The text of a value that is no object. A symbol has none. -/
def Value.plainText? : Value → Option Units
  | .undefined => some (Text.units "undefined")
  | .null => some (Text.units "null")
  | .boolean truth => some (Text.units (if truth then "true" else "false"))
  | .integer number => some (wholeText number.toInt)
  | .float number => some (numberText number)
  | .big number => some (wholeText number)
  | .text units => some units
  | .symbol _ _ | .object _ => none

def symbolText (description : Option Units) : Units :=
  Text.units "Symbol(" ++ description.getD [] ++ Text.units ")"

def toText (call : Caller) (value : Value) : Machine Units := do
  match value with
  | .text units => return units
  | _ =>
      match (← toPrimitive call .text value).plainText? with
      | some units => return units
      | none => typeFaultText "cannot convert symbol to string"

/-- The text of a value for a reader, in which a symbol shows its description. -/
def toShown (call : Caller) (value : Value) : Machine Units := do
  match value with
  | .symbol _ description => return symbolText description
  | _ => toText call value

/-- The key that a value stands for. -/
def toKey (call : Caller) (value : Value) : Machine Key := do
  match value with
  | .text units => return .ofUnits units
  | .integer number =>
      if number < 0 then return .text (wholeText number.toInt) else return .index number.toInt.toNat
  | _ =>
      match ← toPrimitive call .text value with
      | .symbol number description => return .symbol number description
      | primitive => return .ofUnits (primitive.plainText?.getD [])

def trimStart (text : List Char) : List Char := text.dropWhile isScriptBlank

def trimEnd (text : List Char) : List Char := Text.dropEndWhile isScriptBlank text

/-- The digits of a base at the beginning of a text. -/
def spanBase (base : Nat) (text : List Char) : List Nat :=
  ((text.map (baseDigit? base)).takeWhile Option.isSome).filterMap id

/-- The number that a whole text is in a base. -/
def wholeInBase (base : Nat) (text : List Char) : Float :=
  let digits := spanBase base text
  if digits.isEmpty || digits.length < text.length then notNumber else numberInBase base digits

/-- The number at the beginning of a text and the rest. -/
def spanSigned? (text : List Char) : Option (Float × List Char) :=
  let (negative, size) :=
    match text with
    | '-' :: rest => (true, rest)
    | '+' :: rest => (false, rest)
    | _ => (false, text)
  let word := "Infinity".toList
  if word.isPrefixOf size then
    some (Decimal.withSign negative infinity, size.drop word.length)
  else
    (Decimal.spanNumber? size).map fun (value, rest) => (Decimal.withSign negative value, rest)

/-- The base that a text announces. -/
def announcedBase? : List Char → Option (Nat × List Char)
  | '0' :: mark :: rest =>
      if mark = 'x' || mark = 'X' then some (16, rest)
      else if mark = 'o' || mark = 'O' then some (8, rest)
      else if mark = 'b' || mark = 'B' then some (2, rest)
      else none
  | _ => none

/-- The number that a text stands for. Blanks around it do not count. -/
def textNumber (text : List Char) : Float :=
  let trimmed := trimEnd (trimStart text)
  if trimmed.isEmpty then 0.0
  else
    match announcedBase? trimmed with
    | some (base, rest) => wholeInBase base rest
    | none =>
        match spanSigned? trimmed with
        | some (value, []) => value
        | _ => notNumber

/-- The characters of a text, in which a lone surrogate is replaced. -/
def characters (units : Units) : List Char :=
  (Text.unitSymbols units).map fun symbol =>
    match symbol with
    | .inl c => c
    | .inr _ => Char.ofNat 0xFFFD

/-- A text for the outside of a script. -/
def shownText (units : Units) : String := String.ofList (characters units)

/-- The number of a primitive value, unless it is a number of another kind. -/
def plainNumber (value : Value) : Machine Value := do
  match value with
  | .undefined => return .float notNumber
  | .null => return .integer 0
  | .boolean truth => return .integer (if truth then 1 else 0)
  | .text units => return .ofFloat (textNumber (characters units))
  | .symbol _ _ => typeFaultText "cannot convert symbol to number"
  | other => return other

/-- A number of some kind. -/
def toNumeric (call : Caller) (value : Value) : Machine Value := do
  match value with
  | .integer _ | .float _ => return value
  | _ => plainNumber (← toPrimitive call .number value)

/-- A number that is no integer of any size. -/
def toNumberValue (call : Caller) (value : Value) : Machine Value := do
  match ← toNumeric call value with
  | .big _ => typeFaultText "cannot convert bigint to number"
  | number => return number

def toNumber (call : Caller) (value : Value) : Machine Float := do
  return ((← toNumberValue call value).number?).getD notNumber

/-- The largest integer up to which all integers are numbers. -/
def largestInteger : Int := 0x1FFFFFFFFFFFFF

/-- The integer part of a number. What is no number counts as zero. -/
def wholePart (number : Float) : Int :=
  if number.isNaN then 0
  else if Float.ofInt largestInteger < number then largestInteger
  else if number < Float.ofInt (-largestInteger) then -largestInteger
  else number.toInt64.toInt

def toWhole (call : Caller) (value : Value) : Machine Int := do
  match value with
  | .integer number => return number.toInt
  | _ => return wholePart (← toNumber call value)

/-- A number without its fraction. -/
def truncated (number : Float) : Float :=
  if number < 0.0 then number.ceil else number.floor

/-- The exact integer part of a finite number. -/
def exactPart (number : Float) : Int :=
  if number.isFinite then (Decimal.integerOfFloat? (truncated number)).getD 0 else 0

/-- The last bits of the integer part of a number. -/
def lastBits (number : Float) : UInt32 := UInt32.ofNat ((exactPart number) % 0x100000000).toNat

def toBits (call : Caller) (value : Value) : Machine UInt32 := do
  match value with
  | .integer number => return number.toUInt32
  | _ => return lastBits (← toNumber call value)

/-- An integer of 32 bits with a sign. -/
def toInteger (call : Caller) (value : Value) : Machine Int32 := do
  return (← toBits call value).toInt32

/-- The length of an object that is like an array. -/
def lengthOf (call : Caller) (holder : Value) : Machine Nat := do
  match holder with
  | .object place =>
      match ← kindAt place with
      | .array size _ => return size
      | _ => return (← toWhole call (← getMember call holder lengthKey)).toNat
  | _ => return (← toWhole call (← getMember call holder lengthKey)).toNat

/-- The object that stands for a value. -/
def toObject (value : Value) : Machine Reference := do
  match value with
  | .undefined | .null => notConvertible
  | .object place => return place
  | _ => allocate (.bare (.boxed value) value.prototype?)

/-- A text is an integer of any size, unless it is none. -/
def bigOfText? (text : List Char) : Option Int :=
  let trimmed := trimEnd (trimStart text)
  let decimal (digits : List Char) : Option Int :=
    if digits.isEmpty || !digits.all Decimal.isDigit then none
    else some (Int.ofNat (Decimal.digitsValue digits))
  match announcedBase? trimmed, trimmed with
  | some (base, rest), _ =>
      let digits := spanBase base rest
      if digits.isEmpty || digits.length < rest.length then none
      else some (Int.ofNat (digitsInBase base digits))
  | none, [] => some 0
  | none, '-' :: rest => (decimal rest).map fun size => -size
  | none, '+' :: rest => decimal rest
  | none, digits => decimal digits

/-- The integer of any size that a value is. Numbers are none. -/
def toBig (call : Caller) (value : Value) : Machine Int := do
  match ← toPrimitive call .number value with
  | .big number => return number
  | .boolean truth => return if truth then 1 else 0
  | .text units =>
      match bigOfText? (characters units) with
      | some number => return number
      | none => syntaxFault "invalid bigint literal"
  | _ => typeFaultText "cannot convert to bigint"

end HostBridge.Script
