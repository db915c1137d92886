/-
This file describes where and why a text is not the JSON that is read from it.
-/
import HostBridge.Text.Utf8

namespace HostBridge

inductive Json.Cause where
  | endOfValue
  | endOfString
  | endOfList
  | endOfObject
  | expectedValue
  | expectedIdent
  | expectedColon
  | expectedListEnd
  | expectedObjectEnd
  | keyNotString
  | trailingComma
  | trailingCharacters
  | invalidNumber
  | numberOutOfRange
  | invalidEscape
  | controlCharacter
  | loneSurrogate
  | endOfEscape
  | tooDeep
  | unfit (text : String)
deriving DecidableEq

def Json.Cause.message : Json.Cause → String
  | .endOfValue => "EOF while parsing a value"
  | .endOfString => "EOF while parsing a string"
  | .endOfList => "EOF while parsing a list"
  | .endOfObject => "EOF while parsing an object"
  | .expectedValue => "expected value"
  | .expectedIdent => "expected ident"
  | .expectedColon => "expected `:`"
  | .expectedListEnd => "expected `,` or `]`"
  | .expectedObjectEnd => "expected `,` or `\x7d`"
  | .keyNotString => "key must be a string"
  | .trailingComma => "trailing comma"
  | .trailingCharacters => "trailing characters"
  | .invalidNumber => "invalid number"
  | .numberOutOfRange => "number out of range"
  | .invalidEscape => "invalid escape"
  | .controlCharacter => "control character (\\u0000-\\u001F) found while parsing a string"
  | .loneSurrogate => "lone leading surrogate in hex escape"
  | .endOfEscape => "unexpected end of hex escape"
  | .tooDeep => "recursion limit exceeded"
  | .unfit text => text

/-- Reading stopped before the rest of the text, or a number of bytes into it. -/
structure Json.Stop where
  cause : Json.Cause
  rest : List Char
  beyond : Nat

/-- The reader stands before the rest. -/
def Json.stopAt {A : Type} (cause : Json.Cause) (rest : List Char) : Except Json.Stop A :=
  .error ⟨cause, rest, 0⟩

/-- The reader has looked at the first byte of the rest. -/
def Json.stopAfter {A : Type} (cause : Json.Cause) (rest : List Char) : Except Json.Stop A :=
  .error ⟨cause, rest, 1⟩

/-- A place in a text, in lines from one and bytes from the beginning of the line. -/
structure Json.Position where
  line : Nat
  column : Nat
deriving DecidableEq

/-- The place a number of bytes after the given one. -/
def Json.Position.advance (place : Json.Position) : List Char → Nat → Json.Position
  | [], count => ⟨place.line, place.column + count⟩
  | _ :: _, 0 => place
  | c :: rest, count + 1 =>
      let size := c.utf8Size
      if count + 1 < size then ⟨place.line, place.column + (count + 1)⟩
      else if c = '\n' then Json.Position.advance ⟨place.line + 1, 0⟩ rest (count + 1 - size)
      else Json.Position.advance ⟨place.line, place.column + size⟩ rest (count + 1 - size)

structure Json.Fault where
  cause : Json.Cause
  position : Json.Position
deriving DecidableEq

def Json.Fault.message (fault : Json.Fault) : String :=
  s!"{fault.cause.message} at line {fault.position.line} column {fault.position.column}"

/-- The place of a stop never lies behind the end of the text. -/
def Json.Stop.fault (stop : Json.Stop) (text : List Char) : Json.Fault :=
  let length := Text.byteLength text
  let offset := min length (length - Text.byteLength stop.rest + stop.beyond)
  ⟨stop.cause, Json.Position.advance ⟨1, 0⟩ text offset⟩

/-- A reader takes what it reads from the beginning of a text and leaves the rest. -/
abbrev Json.Scan (A : Type) := Except Json.Stop (A × List Char)

end HostBridge
