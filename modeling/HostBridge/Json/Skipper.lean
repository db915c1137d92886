/-
This file passes over JSON values without decoding them.
-/
import HostBridge.Json.Reader

namespace HostBridge.Json

/-- The text stands after the backslash. Surrogates are not looked at. -/
def skipEscape (text : List Char) : Except Stop (List Char) :=
  match text with
  | [] => stopAt .endOfString []
  | 'u' :: digits => (scanHex digits).map Prod.snd
  | c :: rest => if (plainEscape? c).isSome then .ok rest else stopAfter .invalidEscape text

/-- The text stands after the opening quote. The bound counts the characters. -/
def skipCharacters : Nat → List Char → Except Stop (List Char)
  | 0, _ => stopAt .endOfString []
  | _ + 1, [] => stopAt .endOfString []
  | bound + 1, c :: rest =>
      if c = '"' then .ok rest
      else if c = '\\' then (skipEscape rest).bind (skipCharacters bound)
      else if c.toNat < 0x20 then stopAt .controlCharacter (c :: rest)
      else skipCharacters bound rest

def skipString (text : List Char) : Except Stop (List Char) :=
  skipCharacters (text.length + 1) text

/-- The text stands after the letter of the exponent. -/
def skipExponent (text : List Char) : Except Stop (List Char) :=
  let digits :=
    match text with
    | c :: rest => if c = '+' || c = '-' then rest else text
    | [] => []
  match digits with
  | [] => stopAt .invalidNumber []
  | c :: rest =>
      if Decimal.isDigit c then .ok (rest.dropWhile Decimal.isDigit)
      else stopAfter .invalidNumber digits

/-- The text stands after the point. -/
def skipFraction (text : List Char) : Except Stop (List Char) :=
  if startsWithDigit text then
    match text.dropWhile Decimal.isDigit with
    | [] => .ok []
    | c :: rest => if isExponentMark c then skipExponent rest else .ok (c :: rest)
  else stopAfter .invalidNumber text

/-- What may follow the integer part of a number. -/
def skipAfterWhole (text : List Char) : Except Stop (List Char) :=
  match text with
  | [] => .ok []
  | c :: rest =>
      if c = '.' then skipFraction rest
      else if isExponentMark c then skipExponent rest
      else .ok text

/-- The text stands after the sign. The size of the number does not count. -/
def skipUnsigned (text : List Char) : Except Stop (List Char) :=
  match text with
  | [] => stopAt .invalidNumber []
  | c :: rest =>
      if c = '0' then
        if startsWithDigit rest then stopAfter .invalidNumber rest else skipAfterWhole rest
      else if Decimal.isDigit c then skipAfterWhole (rest.dropWhile Decimal.isDigit)
      else stopAfter .invalidNumber text

/-- A key and its colon. -/
def skipKey (text : List Char) : Except Stop (List Char) :=
  match skipBlanks text with
  | [] => stopAfter .endOfObject []
  | c :: rest =>
      if c = '"' then (skipString rest).bind readColon
      else stopAfter .keyNotString (c :: rest)

/-- The items of an array whose opening bracket is read. -/
def skipItems (value : List Char → Except Stop (List Char)) : Nat → Bool → List Char →
    Except Stop (List Char)
  | 0, _, _ => stopAt .endOfList []
  | bound + 1, first, text =>
      match skipBlanks text with
      | [] => stopAfter .endOfList []
      | c :: rest =>
          if c = ']' then .ok rest
          else if first then (value (c :: rest)).bind (skipItems value bound false)
          else if c = ',' then (value rest).bind (skipItems value bound false)
          else stopAfter .expectedListEnd (c :: rest)

/-- The members of an object whose opening brace is read. -/
def skipMembers (value : List Char → Except Stop (List Char)) : Nat → Bool → List Char →
    Except Stop (List Char)
  | 0, _, _ => stopAt .endOfObject []
  | bound + 1, first, text =>
      let member (text : List Char) : Except Stop (List Char) := do
        let rest ← skipKey text
        let rest ← value rest
        skipMembers value bound false rest
      match skipBlanks text with
      | [] => stopAfter .endOfObject []
      | c :: rest =>
          if c = '\x7d' then .ok rest
          else if first then member (c :: rest)
          else if c = ',' then member rest
          else stopAfter .expectedObjectEnd (c :: rest)

/-- Brackets may be opened to any depth, which the length of the text bounds. -/
def skipValueWithin : Nat → List Char → Except Stop (List Char)
  | depth, text =>
      match skipBlanks text with
      | [] => stopAfter .endOfValue []
      | c :: rest =>
          if c = 'n' then scanWord ['u', 'l', 'l'] rest
          else if c = 't' then scanWord ['r', 'u', 'e'] rest
          else if c = 'f' then scanWord ['a', 'l', 's', 'e'] rest
          else if c = '"' then skipString rest
          else if c = '-' then skipUnsigned rest
          else if Decimal.isDigit c then skipUnsigned (c :: rest)
          else if c = '[' then
            match depth with
            | 0 => stopAt .endOfList []
            | depth + 1 => skipItems (skipValueWithin depth) (rest.length + 1) true rest
          else if c = '\x7b' then
            match depth with
            | 0 => stopAt .endOfObject []
            | depth + 1 => skipMembers (skipValueWithin depth) (rest.length + 1) true rest
          else stopAfter .expectedValue (c :: rest)

def skipValue (text : List Char) : Except Stop (List Char) := skipValueWithin text.length text

end HostBridge.Json
