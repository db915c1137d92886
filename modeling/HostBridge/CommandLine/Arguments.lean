/-
This file defines what the command line asks for.
-/
import HostBridge.Text.Shown

namespace HostBridge.CommandLine

/-- A command with its own arguments. -/
inductive Command where
  | eval (script file : Option String) (builtins : Bool)
  | compile (input output : String)
  | exec (input : String) (builtins : Bool)
  | objects
deriving DecidableEq

def Command.name : Command → String
  | .eval _ _ _ => "eval"
  | .compile _ _ => "compile"
  | .exec _ _ => "exec"
  | .objects => "objects"

structure Arguments where
  command : Command
  logLevel : String
  quiet : Bool
  config : Option String
  json : Bool
deriving DecidableEq

/-- The reasons why a command cannot be carried out. -/
inductive Command.Defect where
  | noScript
  | twoScripts
  | missingScript (path : String)
  | missingInput (path : String)
deriving DecidableEq

def Command.Defect.message : Command.Defect → String
  | .noScript => "Either a script or --file must be specified"
  | .twoScripts => "Cannot specify both a script and --file"
  | .missingScript path => "Script file does not exist: " ++ Text.shown path
  | .missingInput path => "Input file does not exist: " ++ Text.shown path

/-- The file that a command reads first. -/
def Command.source? : Command → Option String
  | .eval none file _ => file
  | .eval (some _) _ _ => none
  | .compile input _ => some input
  | .exec input _ => some input
  | .objects => none

/-- The second argument says whether the file that the command reads exists. -/
def Command.defect? (command : Command) (found : Bool) : Option Command.Defect :=
  match command with
  | .eval none none _ => some .noScript
  | .eval (some _) (some _) _ => some .twoScripts
  | .eval none (some path) _ => if found then none else some (.missingScript path)
  | .eval (some _) none _ => none
  | .compile path _ | .exec path _ => if found then none else some (.missingInput path)
  | .objects => none

end HostBridge.CommandLine
