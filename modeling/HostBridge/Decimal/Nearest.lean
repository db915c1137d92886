/-
This file reads decimal texts as the nearest double.
-/

namespace HostBridge.Decimal

/-- The double nearest to digits times a power of ten. Beyond the powers that doubles reach, the
value is zero or infinite. -/
def nearest (digits : Nat) (exponent : Int) : Float :=
  let magnitude := exponent + (Nat.toDigits 10 digits).length
  if digits = 0 || magnitude < -330 then 0.0
  else if 330 < magnitude then Float.ofScientific 1 false 400
  else if 0 ≤ exponent then Float.ofScientific (digits * Nat.pow 10 exponent.toNat) false 0
  else Float.ofScientific digits true (-exponent).toNat

def withSign (negative : Bool) (size : Float) : Float := if negative then -size else size

def isDigit (c : Char) : Bool := '0' ≤ c && c ≤ '9'

def digitsValue (digits : List Char) : Nat :=
  digits.foldl (fun value c => value * 10 + (c.toNat - 48)) 0

/-- The digits at the beginning and the rest. -/
def spanDigits (text : List Char) : List Char × List Char := text.span isDigit

/-- The written exponent and the rest. Without digits there is no exponent. -/
def spanExponent (text : List Char) : Int × List Char :=
  match text with
  | c :: rest =>
      if c = 'e' || c = 'E' then
        let (negative, rest) :=
          match rest with
          | '-' :: rest => (true, rest)
          | '+' :: rest => (false, rest)
          | _ => (false, rest)
        match spanDigits rest with
        | ([], _) => (0, text)
        | (digits, rest) =>
            let size := Int.ofNat (digitsValue digits)
            (if negative then -size else size, rest)
      else (0, text)
  | [] => (0, [])

/-- An unsigned number at the beginning of a text, and the rest. -/
def spanNumber? (text : List Char) : Option (Float × List Char) :=
  let (whole, rest) := spanDigits text
  let (fraction, rest) :=
    match rest with
    | '.' :: tail => spanDigits tail
    | _ => ([], rest)
  if whole.isEmpty && fraction.isEmpty then none
  else
    let (exponent, rest) := spanExponent rest
    some (nearest (digitsValue (whole ++ fraction)) (exponent - fraction.length), rest)

/-- A whole text that is a number, with names for the values that have no digits. -/
def float? (text : String) : Option Float :=
  let (negative, size) :=
    match text.toList with
    | '-' :: rest => (true, rest)
    | '+' :: rest => (false, rest)
    | chars => (false, chars)
  if size = "inf".toList then some (withSign negative (1.0 / 0.0))
  else if size = "NaN".toList then some (0.0 / 0.0)
  else
    match spanNumber? size with
    | some (value, []) => some (withSign negative value)
    | _ => none

end HostBridge.Decimal
