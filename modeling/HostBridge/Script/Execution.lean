/-
This file runs the scripts of an engine.
-/
import HostBridge.Script.Resumption
import HostBridge.Submission

namespace HostBridge.Script

/-- The name that traces of calls give the scripts of an engine. -/
def scriptFile : String := "eval_script"

/-- Runs a whole script in the strict mode. -/
def runScript (text : String) : Machine Value :=
  runText evaluator scriptFile .whole .strict (Text.units text)

/-- Makes the hook of calls known and runs the prelude. -/
def attachHooks : Machine Value := do
  let hook ← makeObject (hookObject .hostCall 3)
  putMember evaluator.call globalValue (.ofString hostCallName) hook
  runScript dispatchPrelude

/-- Installs the proxies of host objects. -/
def installProxies (proxies : List Proxy) : Machine Value :=
  runScript (String.join (proxies.map Proxy.text))

def runSubmission (submission : Submission) : Machine Value := runScript submission.text

/-- The text of a value that is one. -/
def Value.string? : Value → Option String
  | .text units => (Text.textOfUnits units).toOption
  | _ => none

/-- The message that a thrown object has. -/
def messageOf? (thrown : Value) : Machine (Option String) := do
  match ← attempted (getMember evaluator.call thrown messageKey) with
  | .ok message => return message.string?
  | .error _ => return none

/-- The message of an exception that nothing catches. -/
def exceptionMessage (thrown : Value) : Machine String := do
  let message ← if thrown.isObject then messageOf? thrown else pure thrown.string?
  return message.getD "Exception generated by QuickJS"

/-- The message of what a script throws is found in the world that the script leaves behind. -/
def complaintOf (script : Machine Value) : Machine (Option String) :=
  attempt
    (do
      let _ ← script
      return none)
    fun thrown => do return some (← exceptionMessage thrown)

/-- What scripts leave behind: the world, what is paused, and the message of an exception. -/
structure Aftermath where
  message : Option String
  world : World
  pool : Pool

/-- Runs a script. -/
def execute (script : Machine Value) (world : World) (pool : Pool) : Aftermath :=
  match Progress.advance roundLimit (fun _ => none) pool (complaintOf script world) with
  | .done message world pool => ⟨message, world, pool⟩
  | .thrown _ world pool => ⟨none, world, pool⟩
  | .given _ world pool _ => ⟨none, world, pool⟩

end HostBridge.Script
