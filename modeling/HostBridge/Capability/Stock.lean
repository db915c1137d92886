/-
This file defines handlers for common purposes.
-/
import HostBridge.Capability.Action

namespace HostBridge.Handler

def constant (value : HostValue) : Handler := pure fun _ => .returned value

/-- An absent argument is null. -/
def argument (index : Nat) : Handler :=
  pure fun arguments => .returned ((arguments[index]?).getD .null)

def everyArgument : Handler := pure fun arguments => .returned (.array arguments)

def typeNames : Handler :=
  pure fun arguments => .returned (.array (arguments.map fun value => .string value.hostType.name))

/-- A cell that holds no integer counts from zero. -/
def count (cell : Nat) : Handler := fun _ =>
  .load cell fun value =>
    let next := .integer ((value.integer?).getD 0 + 1)
    .store cell next (.finish (.returned next))

def fail (failure : Failure) : Handler := pure fun _ => .failed failure

def panic (text : Option String) : Handler := pure fun _ => .panicked text

/-- The arguments go to another method, whose failure becomes the failure of this one. -/
def forward (object method : String) : Handler := fun arguments =>
  .call object method arguments fun
    | .ok value => .finish (.returned value)
    | .error error => .finish (.failed error.failure)

def release (name : String) : Handler := fun _ =>
  .release name fun bound => .finish (.returned (.boolean bound))

end HostBridge.Handler
