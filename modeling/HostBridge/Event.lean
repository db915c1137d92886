/-
This file defines the records that the program logs.
-/
import HostBridge.Sentinel

namespace HostBridge

inductive Level where
  | error
  | warn
  | info
  | debug
  | trace
deriving DecidableEq

def Level.name : Level → String
  | .error => "ERROR"
  | .warn => "WARN"
  | .info => "INFO"
  | .debug => "DEBUG"
  | .trace => "TRACE"

/-- A higher rank says more about the details. -/
def Level.rank : Level → Nat
  | .error => 1
  | .warn => 2
  | .info => 3
  | .debug => 4
  | .trace => 5

/-- What is worth a record. -/
inductive Event where
  | mixedArray (first : String)
  | notIdentifier (name : String)
  | rebound (name : String)
  | shadowsBase (typeName method : String)
  | replaced (typeName signature : String)
  | skippedBase (object method : String)
  | dispatching (object signature : String)
  | dispatchFailed (message : String)
  | ready (mode : SentinelMode)
  | composed (text : String)
  | submissionFailed (message : String)
  | evaluated (milliseconds : Nat) (typeName : String)
  | evaluating (file : String)
  | compiling (file : String) (size : Nat)
  | closed (evaluations : Nat)
  | released
deriving DecidableEq

def Event.level : Event → Level
  | .mixedArray _ | .notIdentifier _ | .shadowsBase _ _ | .submissionFailed _ => .warn
  | .ready _ | .closed _ => .info
  | _ => .debug

/-- The part of the program that an event comes from. -/
def Event.source : Event → String
  | .mixedArray _ => "quickjs_bridge::bridge::translate"
  | .notIdentifier _ | .rebound _ => "quickjs_bridge::bridge::registry"
  | .shadowsBase _ _ | .replaced _ _ => "quickjs_bridge::bridge::api"
  | .skippedBase _ _ => "quickjs_bridge::bridge::proxy"
  | .dispatching _ _ | .dispatchFailed _ => "quickjs_bridge::bridge::dispatch"
  | .released => "quickjs_bridge::bridge::runtime"
  | _ => "quickjs_bridge::bridge::engine"

def Event.text : Event → String
  | .mixedArray first => s!"Mixed array starting with {first}, keeping elements untyped"
  | .notIdentifier name =>
      s!"Bound name '{name}' is not a JavaScript identifier, " ++
        "scripts must use globalThis[\"" ++ name ++ "\"]"
  | .rebound name => s!"Rebound '{name}'"
  | .shadowsBase typeName method =>
      s!"{typeName}: '{method}' shadows a base capability and will not be exposed"
  | .replaced typeName signature => s!"{typeName}: replaced {signature}"
  | .skippedBase object method => s!"Skipping base capability {object}.{method}"
  | .dispatching object signature => s!"Dispatching {object}.{signature}"
  | .dispatchFailed message => s!"Dispatch failed: {message}"
  | .ready mode => s!"Bridge ready ({mode.title} sentinel)"
  | .composed text => s!"Composed script:\n{text}"
  | .submissionFailed message => s!"Script submission failed: {message}"
  | .evaluated milliseconds typeName => s!"Evaluated in {milliseconds}ms -> {typeName}"
  | .evaluating file => s!"Evaluating {file}"
  | .compiling file size => s!"Compiling {file} ({size} bytes)"
  | .closed evaluations => s!"Bridge closed after {evaluations} evaluations"
  | .released => "QuickJS runtime released"

end HostBridge
