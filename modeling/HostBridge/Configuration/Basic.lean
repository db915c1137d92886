/-
This file defines the configuration of a bridge.
-/
import HostBridge.Json.Writer
import HostBridge.Sentinel

namespace HostBridge

/-- Limits are counted in bytes. -/
structure Configuration where
  sentinel : SentinelMode
  memoryLimit : Option UInt64
  maxStackSize : Option UInt64
  logScripts : Bool
deriving DecidableEq

def Configuration.default : Configuration := ⟨.unique, none, none, false⟩

/-- The reason why a configuration cannot be used. -/
inductive Configuration.Defect where
  | zeroMemoryLimit
  | zeroStackSize
deriving DecidableEq

def Configuration.Defect.message : Configuration.Defect → String
  | .zeroMemoryLimit => "memory_limit must be greater than 0"
  | .zeroStackSize => "max_stack_size must be greater than 0"

def Configuration.defect? (configuration : Configuration) : Option Configuration.Defect :=
  if configuration.memoryLimit = some 0 then some .zeroMemoryLimit
  else if configuration.maxStackSize = some 0 then some .zeroStackSize
  else none

def limitText (limit : Option UInt64) : String :=
  match limit with
  | some size => Decimal.digitText size.toNat
  | none => "null"

/-- The JSON text of a configuration, with all of its members. -/
def Configuration.text (configuration : Configuration) : String :=
  "\x7b\"sentinel\":" ++ Text.quote configuration.sentinel.name ++
    ",\"memory_limit\":" ++ limitText configuration.memoryLimit ++
    ",\"max_stack_size\":" ++ limitText configuration.maxStackSize ++
    ",\"log_scripts\":" ++ (if configuration.logScripts then "true" else "false") ++ "\x7d"

end HostBridge
