/-
This file finds the result of an evaluation in what a script printed.
-/
import HostBridge.Event
import HostBridge.Json.Reader
import HostBridge.Text.Blank
import HostBridge.Text.Lines
import HostBridge.Translated

namespace HostBridge

/-- The failures of the script engine itself. -/
inductive EngineError where
  | start (text : String)
  | exception (text : String)
  | closed
deriving DecidableEq

def EngineError.message : EngineError → String
  | .start text => s!"Engine initialization failed: {text}"
  | .exception text => text
  | .closed => "Runtime is closed"

/-- The reasons for which an evaluation has no value. -/
inductive EvaluationError where
  | noResultMarker (output : String)
  | emptyResult
  | malformedResult (text : String) (fault : Json.Fault)
  | engineFailure (error : EngineError)
  | invalidBytes (fault : Text.Utf8Fault)
  | closed
deriving DecidableEq

def EvaluationError.message : EvaluationError → String
  | .noResultMarker output => s!"No RESULT marker found in JavaScript output: {output}"
  | .emptyResult => "Empty result from JavaScript execution"
  | .malformedResult text fault => s!"JSON parsing error: {fault.message} for input: {text}"
  | .engineFailure error => s!"JavaScript runtime unavailable: {error.message}"
  | .invalidBytes fault => s!"Bytecode is not valid UTF-8 source: {fault.message}"
  | .closed => "Bridge is closed"

def EvaluationError.cause? : EvaluationError → Option String
  | .malformedResult _ fault => some fault.message
  | .engineFailure error => some error.message
  | .invalidBytes fault => some fault.message
  | _ => none

/-- A message and the messages of its causes. -/
def chained (message : String) (causes : List String) : String :=
  separated ": " (message :: causes)

def EvaluationError.chain (error : EvaluationError) : String :=
  chained error.message error.cause?.toList

/-- What follows the sentinel on the first line that begins with it. -/
def payload? (output sentinel : List Char) : Option (List Char) :=
  (Text.lines output).findSome? (Text.afterPrefix? sentinel)

/-- The JSON value on the result line. -/
def resultValue (output sentinel : String) : Except EvaluationError Json :=
  match payload? output.toList sentinel.toList with
  | none => .error (.noResultMarker (String.ofList (Text.trim output.toList)))
  | some payload =>
      let payload := String.ofList (Text.dropEndWhile (· = '\r') payload)
      if payload.isEmpty then .error .emptyResult
      else (Json.ofText payload).mapError (.malformedResult payload)

/-- A record of an array whose elements could not be typed. -/
def mixedEvents (value : Json) : List Event :=
  (mixedFirst? value).toList.map fun first => .mixedArray first.text

def scrape (output sentinel : String) : List Event × Except EvaluationError Translated :=
  match resultValue output sentinel with
  | .error error => ([], .error error)
  | .ok value => (mixedEvents value, .ok (Translated.ofJson value))

end HostBridge
