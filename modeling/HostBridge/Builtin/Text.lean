/-
This file defines the object `text`.
-/
import HostBridge.Builtin.Math
import HostBridge.Text.Blank
import HostBridge.Text.Casing
import HostBridge.Text.Lines
import HostBridge.Text.Utf8

namespace HostBridge.Builtin

/-- The argument in a place, which has to be a text. -/
def withText (arguments : List HostValue) (index : Nat) (next : List Char → Outcome) : Outcome :=
  match (arguments[index]?).bind HostValue.string? with
  | some text => next text.toList
  | none => failed s!"argument {index} must be a string"

def textResult (text : List Char) : Outcome := .returned (.string (String.ofList text))

def mapText (function : List Char → List Char) (arguments : List HostValue) : Outcome :=
  withText arguments 0 fun text => textResult (function text)

def length (arguments : List HostValue) : Outcome :=
  withText arguments 0 fun text => .returned (toHost text.length.toUInt64)

def pieces (arguments : List HostValue) : Outcome :=
  withText arguments 0 fun text =>
    withText arguments 1 fun separator =>
      .returned (toHost ((HostBridge.Text.split separator text).map String.ofList))

/-- A text has less than 2^63 bytes. -/
def sizeLimit : Nat := 0x8000000000000000

def repeated (arguments : List HostValue) : Outcome :=
  withText arguments 0 fun text =>
    withArgument arguments 1 fun count =>
      let count := ((count.integer?).getD 0).toInt
      if count < 0 then failed "repeat count must not be negative"
      else if text.isEmpty then textResult []
      else if sizeLimit ≤ HostBridge.Text.byteLength text * count.toNat then
        .panicked (some "capacity overflow")
      else textResult (List.replicate count.toNat text).flatten

def text : HostObject := HostObject.ofMethods "Text" [
  method "upper" [.string] (mapText HostBridge.Text.toUpper),
  method "lower" [.string] (mapText HostBridge.Text.toLower),
  method "trim" [.string] (mapText HostBridge.Text.trim),
  method "len" [.string] length,
  method "split" [.string, .string] pieces,
  method "repeat" [.string, .integer] repeated]

/-- The methods of the builtin objects with a short summary. -/
def catalog : List (String × String) := [
  ("math.add", "Sum of two numbers"),
  ("math.sub", "Difference of two numbers"),
  ("math.mul", "Product of two numbers"),
  ("math.div", "Quotient of two numbers, fails on zero divisor"),
  ("math.abs", "Absolute value"),
  ("math.pow", "Power function"),
  ("math.sqrt", "Square root"),
  ("math.max", "Largest of an array of numbers"),
  ("math.min", "Smallest of an array of numbers"),
  ("text.upper", "Convert to uppercase"),
  ("text.lower", "Convert to lowercase"),
  ("text.trim", "Trim whitespace"),
  ("text.len", "Length in characters"),
  ("text.split", "Split on a separator"),
  ("text.repeat", "Repeat a string n times")]

end HostBridge.Builtin
