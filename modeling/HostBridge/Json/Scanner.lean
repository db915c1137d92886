/-
This file reads the blanks, words, numbers and strings of JSON texts.
-/
import HostBridge.Json.Fault
import HostBridge.Json.Value
import HostBridge.Decimal.Nearest
import HostBridge.Text.Hex
import HostBridge.Text.Units

namespace HostBridge.Json

def isBlank (c : Char) : Bool := c = ' ' || c = '\t' || c = '\n' || c = '\r'

def skipBlanks (text : List Char) : List Char := text.dropWhile isBlank

/-- The rest of a word whose first letter is already read. -/
def scanWord : List Char → List Char → Except Stop (List Char)
  | [], text => .ok text
  | _ :: _, [] => stopAt .endOfValue []
  | c :: word, d :: text =>
      if c = d then scanWord word text else stopAfter .expectedIdent (d :: text)

/-- Digits are taken while the significand stays below 2^64. The result holds the significand, the
number of digits taken and the rest. -/
def takeDigits : Nat → List Char → Nat × Nat × List Char
  | significand, [] => (significand, 0, [])
  | significand, c :: rest =>
      let next := significand * 10 + (c.toNat - 48)
      if Decimal.isDigit c && next < 0x10000000000000000 then
        let (total, count, rest) := takeDigits next rest
        (total, count + 1, rest)
      else (significand, 0, c :: rest)

def startsWithDigit : List Char → Bool
  | [] => false
  | c :: _ => Decimal.isDigit c

/-- The power of ten, rounded to a double. -/
def powerOfTen (exponent : Nat) : Float := Decimal.nearest 1 exponent

/-- The value is multiplied or divided by one power of ten at a time, each step rounding. There is
no value above the largest double. -/
def scaled : Nat → Float → Int → Option Float
  | 0, value, _ => some value
  | steps + 1, value, exponent =>
      if exponent.natAbs ≤ 308 then
        if 0 ≤ exponent then
          let product := value * powerOfTen exponent.natAbs
          if product.isInf then none else some product
        else some (value / powerOfTen exponent.natAbs)
      else if value == 0.0 then some value
      else if 0 ≤ exponent then none
      else scaled steps (value / powerOfTen 308) (exponent + 308)

/-- The digits of a number before its exponent. -/
structure Significand where
  negative : Bool
  digits : Nat
  exponent : Int

def Significand.toFloat (value : Significand) (rest : List Char) : Scan Number :=
  match scaled (value.exponent.natAbs + 1) (Float.ofNat value.digits) value.exponent with
  | some size => .ok (.float (Decimal.withSign value.negative size), rest)
  | none => stopAt .numberOutOfRange rest

/-- An exponent is a 32-bit number with a sign, and sums stay in its range. -/
def clampExponent (exponent : Int) : Int := max (-0x80000000) (min 0x7FFFFFFF exponent)

/-- The digits of an exponent, while it stays below 2^31, and the rest. A digit too many is taken
but not counted. -/
def takeExponent : Nat → List Char → Option Nat × List Char
  | value, [] => (some value, [])
  | value, c :: rest =>
      if Decimal.isDigit c then
        let next := value * 10 + (c.toNat - 48)
        if next < 0x80000000 then takeExponent next rest else (none, rest)
      else (some value, c :: rest)

/-- The text stands after the letter of the exponent. -/
def scanExponent (value : Significand) (text : List Char) : Scan Number :=
  let (negative, digits) :=
    match text with
    | '+' :: rest => (false, rest)
    | '-' :: rest => (true, rest)
    | _ => (false, text)
  match digits with
  | [] => stopAt .endOfValue []
  | c :: _ =>
      if !Decimal.isDigit c then stopAfter .invalidNumber digits
      else
        match takeExponent 0 digits with
        | (some exponent, rest) =>
            let exponent := if negative then value.exponent - exponent else value.exponent + exponent
            ({ value with exponent := clampExponent exponent } : Significand).toFloat rest
        | (none, rest) =>
            if value.digits != 0 && !negative then stopAt .numberOutOfRange rest
            else .ok (.float (Decimal.withSign value.negative 0.0), rest.dropWhile Decimal.isDigit)

def isExponentMark (c : Char) : Bool := c = 'e' || c = 'E'

/-- What may follow the digits of a number that is no integer. -/
def scanScale (value : Significand) (text : List Char) : Scan Number :=
  match text with
  | c :: rest => if isExponentMark c then scanExponent value rest else value.toFloat text
  | [] => value.toFloat []

/-- The text stands after the point. Digits that do not fit the significand are passed over. -/
def scanFraction (value : Significand) (text : List Char) : Scan Number :=
  let (digits, count, rest) := takeDigits value.digits text
  let value := { value with digits := digits, exponent := value.exponent - count }
  if startsWithDigit rest then scanScale value (rest.dropWhile Decimal.isDigit)
  else if count = 0 then
    match rest with
    | [] => stopAt .endOfValue []
    | _ => stopAfter .invalidNumber rest
  else scanScale value rest

/-- A literal of digits alone is an integer when it fits in 64 bits, and minus zero is none. -/
def wholeNumber (negative : Bool) (digits : Nat) : Number :=
  if !negative then .integer digits
  else if 0 < digits && digits ≤ 0x8000000000000000 then .integer (-Int.ofNat digits)
  else .float (-Float.ofNat digits)

/-- What may follow the integer part. -/
def scanAfterWhole (negative : Bool) (digits : Nat) (text : List Char) : Scan Number :=
  match text with
  | c :: rest =>
      if c = '.' then scanFraction ⟨negative, digits, 0⟩ rest
      else if isExponentMark c then scanExponent ⟨negative, digits, 0⟩ rest
      else .ok (wholeNumber negative digits, text)
  | [] => .ok (wholeNumber negative digits, [])

/-- Every digit of the integer part that does not fit the significand raises the exponent. -/
def scanLongWhole (negative : Bool) (digits : Nat) (text : List Char) : Scan Number :=
  let (extra, rest) := Decimal.spanDigits text
  let value : Significand := ⟨negative, digits, extra.length⟩
  match rest with
  | '.' :: rest => scanFraction value rest
  | _ => scanScale value rest

/-- The text stands after the sign. -/
def scanUnsigned (negative : Bool) (text : List Char) : Scan Number :=
  match text with
  | [] => stopAt .endOfValue []
  | c :: rest =>
      if c = '0' then
        if startsWithDigit rest then stopAfter .invalidNumber rest
        else scanAfterWhole negative 0 rest
      else if Decimal.isDigit c then
        let (digits, _, rest) := takeDigits 0 text
        if startsWithDigit rest then scanLongWhole negative digits rest
        else scanAfterWhole negative digits rest
      else stopAfter .invalidNumber text

def scanNumber (text : List Char) : Scan Number :=
  match text with
  | '-' :: rest => scanUnsigned true rest
  | _ => scanUnsigned false text

def plainEscape? : Char → Option Char
  | '"' => some '"'
  | '\\' => some '\\'
  | '/' => some '/'
  | 'b' => some '\x08'
  | 'f' => some '\x0c'
  | 'n' => some '\n'
  | 'r' => some '\r'
  | 't' => some '\t'
  | _ => none

/-- Four hexadecimal digits, of which all bytes are taken even if they are none. -/
def scanHex (text : List Char) : Scan Nat :=
  if Text.byteLength (text.take 4) < 4 then stopAt .endOfString []
  else
    match Text.hexFour? text with
    | some value => .ok (value, text.drop 4)
    | none => .error ⟨.invalidEscape, text, 4⟩

/-- The low surrogate that has to follow a high one. -/
def scanLowSurrogate (high : Nat) (text : List Char) : Scan Char :=
  match text with
  | [] => stopAt .endOfString []
  | '\\' :: rest =>
      match rest with
      | [] => stopAt .endOfString []
      | 'u' :: digits =>
          match scanHex digits with
          | .error stop => .error stop
          | .ok (low, rest) =>
              if 0xDC00 ≤ low && low ≤ 0xDFFF then
                .ok (Text.pairedChar high.toUInt16 low.toUInt16, rest)
              else stopAt .loneSurrogate rest
      | _ => stopAfter .endOfEscape rest
  | _ => stopAfter .endOfEscape text

/-- The text stands after the backslash. -/
def scanEscape (text : List Char) : Scan Char :=
  match text with
  | [] => stopAt .endOfString []
  | 'u' :: digits =>
      match scanHex digits with
      | .error stop => .error stop
      | .ok (code, rest) =>
          if 0xDC00 ≤ code && code ≤ 0xDFFF then stopAt .loneSurrogate rest
          else if 0xD800 ≤ code && code ≤ 0xDBFF then scanLowSurrogate code rest
          else .ok (Char.ofNat code, rest)
  | c :: rest =>
      match plainEscape? c with
      | some plain => .ok (plain, rest)
      | none => stopAfter .invalidEscape text

/-- The text stands after the opening quote. The first argument bounds the number of characters. -/
def scanCharacters : Nat → List Char → Scan (List Char)
  | 0, _ => stopAt .endOfString []
  | _ + 1, [] => stopAt .endOfString []
  | bound + 1, c :: rest =>
      if c = '"' then .ok ([], rest)
      else if c = '\\' then
        match scanEscape rest with
        | .error stop => .error stop
        | .ok (plain, rest) =>
            (scanCharacters bound rest).map fun (text, rest) => (plain :: text, rest)
      else if c.toNat < 0x20 then stopAfter .controlCharacter (c :: rest)
      else (scanCharacters bound rest).map fun (text, rest) => (c :: text, rest)

def scanString (text : List Char) : Scan String :=
  (scanCharacters (text.length + 1) text).map fun (text, rest) => (String.ofList text, rest)

end HostBridge.Json
