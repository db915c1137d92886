/-
This file defines the functions that are global variables.
-/
import HostBridge.Script.Evaluation.Program
import HostBridge.Script.Library.Number
import HostBridge.Text.Hex

namespace HostBridge.Script

def addressFault {A : Type} (message : String) : Machine A :=
  fault "URIError" (Text.units message)

/-- Marks that have a meaning in addresses. -/
def addressMarks : List Char := ";/?:@&=+$,#".toList

def isPlainUnit (others : List Char) (unit : UInt16) : Bool :=
  let c := Char.ofNat unit.toNat
  unit < 128 && (c.isAlphanum || others.contains c)

/-- A byte as two digits behind a sign. -/
def percentByte (value : Nat) : Units :=
  37 :: Text.units (String.ofList (Text.hexFixed 2 value)).toUpper

/-- The bytes of a character, the first ones first. -/
def utf8Bytes (code : Nat) : List Nat :=
  if code < 0x80 then [code]
  else if code < 0x800 then [0xC0 + code / 64, 0x80 + code % 64]
  else if code < 0x10000 then [0xE0 + code / 4096, 0x80 + code / 64 % 64, 0x80 + code % 64]
  else [0xF0 + code / 262144, 0x80 + code / 4096 % 64, 0x80 + code / 64 % 64, 0x80 + code % 64]

/-- All units but some become bytes in digits. -/
def encodeAddress (others : List Char) : Units → Machine Units
  | [] => return []
  | [unit] => do
      if isPlainUnit others unit then return [unit]
      else if Text.isLowSurrogate unit then addressFault "invalid character"
      else if Text.isHighSurrogate unit then addressFault "expecting surrogate pair"
      else return (utf8Bytes unit.toNat).flatMap percentByte
  | unit :: next :: rest => do
      if isPlainUnit others unit then return unit :: (← encodeAddress others (next :: rest))
      else if Text.isLowSurrogate unit then addressFault "invalid character"
      else if Text.isHighSurrogate unit then
        if Text.isLowSurrogate next then
          let code := (Text.pairedChar unit next).toNat
          return (utf8Bytes code).flatMap percentByte ++ (← encodeAddress others rest)
        else addressFault "expecting surrogate pair"
      else
        return (utf8Bytes unit.toNat).flatMap percentByte ++
          (← encodeAddress others (next :: rest))

def hexOfUnits? (digits : Units) : Option Nat :=
  digits.foldlM (fun value unit =>
    (Text.hexValue? (Char.ofNat unit.toNat)).map fun digit => value * 16 + digit) 0

/-- The byte at the beginning of a text and the rest. -/
def takeByte (units : Units) : Machine (Nat × Units) :=
  match units with
  | sign :: rest =>
      if sign != 37 then addressFault "expecting %"
      else
        match rest with
        | first :: second :: behind =>
            match hexOfUnits? [first, second] with
            | some value => return (value, behind)
            | none => addressFault "expecting hex digit"
        | _ => addressFault "expecting hex digit"
  | [] => addressFault "expecting %"

/-- The later bytes of a character. A byte that is none ends it. -/
def takeLaterBytes : Nat → Nat → Units → Machine (Nat × Units)
  | 0, code, rest => return (code, rest)
  | count + 1, code, units => do
      let (byte, rest) ← takeByte units
      if byte / 64 = 2 then takeLaterBytes count (code * 64 + byte % 64) rest
      else return (0, rest)

/-- A character that is given as several bytes. -/
def takeCharacter (byte : Nat) (rest : Units) : Machine (Units × Units) := do
  let (count, least, first) : Nat × Nat × Nat :=
    if 0xC0 ≤ byte && byte ≤ 0xDF then (1, 0x80, byte % 32)
    else if 0xE0 ≤ byte && byte ≤ 0xEF then (2, 0x800, byte % 16)
    else if 0xF0 ≤ byte && byte ≤ 0xF7 then (3, 0x10000, byte % 8)
    else (0, 1, 0)
  let (code, rest) ← takeLaterBytes count first rest
  if code < least || 0x10FFFF < code || (0xD800 ≤ code && code < 0xE000) then
    addressFault "malformed UTF-8"
  else return (Text.codeUnits code, rest)

/-- Bytes in digits become characters. Some marks stay in digits. The first argument counts the
units. -/
def decodeAddress (kept : List Char) : Nat → Units → Machine Units
  | bound + 1, unit :: rest => do
      if unit != 37 then return unit :: (← decodeAddress kept bound rest)
      else
        let (byte, behind) ← takeByte (unit :: rest)
        if byte < 128 then
          if kept.contains (Char.ofNat byte) then
            return unit :: (← decodeAddress kept bound rest)
          else return byte.toUInt16 :: (← decodeAddress kept bound behind)
        else
          let (units, behind) ← takeCharacter byte behind
          return units ++ (← decodeAddress kept bound behind)
  | _, _ => return []

/-- Units that are not plain become numbers in digits. -/
def escapeUnit (unit : UInt16) : Units :=
  if isPlainUnit "@*_+-./".toList unit then [unit]
  else if unit < 256 then percentByte unit.toNat
  else 37 :: 117 :: Text.units (String.ofList (Text.hexFixed 4 unit.toNat)).toUpper

/-- The unit that digits stand for and the rest. -/
def unescapeUnit? (rest : Units) : Option (UInt16 × Units) :=
  let long :=
    match rest with
    | 117 :: digits =>
        if digits.length < 4 then none
        else (hexOfUnits? (digits.take 4)).map fun value => (Nat.toUInt16 value, digits.drop 4)
    | _ => none
  match long with
  | some found => some found
  | none =>
      if rest.length < 2 then none
      else (hexOfUnits? (rest.take 2)).map fun value => (Nat.toUInt16 value, rest.drop 2)

/-- The first argument counts the units. -/
def unescapeUnits : Nat → Units → Units
  | bound + 1, unit :: rest =>
      match if unit = 37 then unescapeUnit? rest else none with
      | some (found, behind) => found :: unescapeUnits bound behind
      | none => unit :: unescapeUnits bound rest
  | _, _ => []

/-- The marks that are not changed in a part of an address. -/
def partMarks : List Char := "-_.!~*'()".toList

def shelvedDecoder (name : String) (kept : List Char) : Article :=
  shelved name 1 fun call given => do
    let text ← toText call given.first
    return .text (← decodeAddress kept text.length text)

def shelvedEncoder (name : String) (others : List Char) : Article :=
  shelved name 1 fun call given => do
    return .text (← encodeAddress others (← toText call given.first))

def addressShelf : Shelf := [
  shelvedDecoder "decodeURI" addressMarks,
  shelvedDecoder "decodeURIComponent" [],
  shelvedEncoder "encodeURI" (partMarks ++ addressMarks),
  shelvedEncoder "encodeURIComponent" partMarks,
  shelved "escape" 1 fun call given => do
    return .text ((← toText call given.first).flatMap escapeUnit),
  shelved "unescape" 1 fun call given => do
    let text ← toText call given.first
    return .text (unescapeUnits text.length text)]

/-- Evaluates a text that sees no variables but the global ones. Another value is its own
result. -/
def evalNative : Native where
  name := "eval"
  arity := 1
  isClass := false
  run e given :=
    match given.first with
    | .text units => runText e inputFile .evaluated .loose units
    | other => return other

def globalConstants : Shelf := [
  shelvedConstant "Infinity" (.float infinity),
  shelvedConstant "NaN" (.float notNumber),
  shelvedConstant "undefined" .undefined,
  shelvedTag "global"]

def globalShelf : Shelf := looseNumberShelf ++ addressShelf ++ globalConstants

end HostBridge.Script
