/-
This file defines what a host method does when it is called.
-/
import HostBridge.HostValue

namespace HostBridge

/-- A failure has a message and the messages of its causes, the nearest first. -/
structure Failure where
  message : String
  causes : List String
deriving DecidableEq

def Failure.plain (message : String) : Failure := ⟨message, []⟩

/-- The failures of a single call. -/
inductive DispatchError where
  | unboundName (name : String)
  | methodNotFound (object method signature : String)
  | dispatchFailure (object method : String) (cause : Failure)
  | badArguments (text : String)
deriving DecidableEq

def DispatchError.kind : DispatchError → String
  | .unboundName _ => "UnboundName"
  | .methodNotFound _ _ _ => "MethodNotFound"
  | .dispatchFailure _ _ _ => "DispatchFailure"
  | .badArguments _ => "BadArguments"

def DispatchError.message : DispatchError → String
  | .unboundName name => s!"No object bound with name: {name}"
  | .methodNotFound object method signature => s!"No method {method}({signature}) on {object}"
  | .dispatchFailure object method cause =>
      s!"Error calling method {method} on {object}: {cause.message}"
  | .badArguments text => s!"Invalid call arguments: {text}"

def DispatchError.cause? : DispatchError → Option Failure
  | .dispatchFailure _ _ cause => some cause
  | _ => none

/-- The failure of a method that passes on the failure of a call. -/
def DispatchError.failure (error : DispatchError) : Failure where
  message := error.message
  causes :=
    match error.cause? with
    | some cause => cause.message :: cause.causes
    | none => []

/-- A method that panics leaves a text or something that is none. -/
inductive Outcome where
  | returned (value : HostValue)
  | failed (failure : Failure)
  | panicked (text : Option String)

/-- A method ends, or it does one thing with the host and goes on with the answer. -/
inductive Action where
  | finish (outcome : Outcome)
  | load (cell : Nat) (next : HostValue → Action)
  | store (cell : Nat) (value : HostValue) (next : Action)
  | call (object method : String) (arguments : List HostValue)
      (next : Except DispatchError HostValue → Action)
  | release (name : String) (next : Bool → Action)

abbrev Handler := List HostValue → Action

/-- A handler that only looks at its arguments. -/
def Handler.pure (function : List HostValue → Outcome) : Handler :=
  fun arguments => .finish (function arguments)

end HostBridge
