/-
This file defines what the program prints.
-/
import HostBridge.CommandLine.Arguments
import HostBridge.Event
import HostBridge.Json.Writer
import HostBridge.Text.Casing
import HostBridge.Translated

namespace HostBridge.CommandLine

/-- What is printed on the two channels, and the exit code. -/
structure Report where
  code : Nat
  output : String
  records : String
deriving DecidableEq

/-- What came of a command: the events on the way, the text for the user and a failure. -/
structure Outcome where
  events : List Event
  output : String
  failure : Option String

def Outcome.failed (failure : String) : Outcome := ⟨[], "", some failure⟩

def namedLevels : List Level := [.trace, .debug, .info, .warn, .error]

/-- A level is named in any letter case, and an unknown name stands for `info`. -/
def levelNamed (name : String) : Level :=
  let lower (text : String) := String.ofList (Text.toLower text.toList)
  (namedLevels.find? fun level => lower level.name = lower name).getD .info

/-- A quiet program records only errors. -/
def Arguments.level (arguments : Arguments) : Level :=
  if arguments.quiet then .error else levelNamed arguments.logLevel

/-- The lines after the first one are set in. -/
def indented (text : String) : String := separated "\n    " (text.splitOn "\n")

/-- The name of a level takes five characters. -/
def Level.padded (level : Level) : String :=
  level.name ++ String.ofList (List.replicate (5 - level.name.length) ' ')

def recordLine (event : Event) : String :=
  "[" ++ Level.padded event.level ++ " " ++ event.source ++ "] " ++ indented event.text ++ "\n"

/-- The records of the events that the level lets through. -/
def recordLines (level : Level) (events : List Event) : String :=
  String.join ((events.filter fun event => event.level.rank ≤ level.rank).map recordLine)

def failureLine (failure : String) : String := "[!] " ++ failure ++ "\n"

/-- A failure is recorded at every level. -/
def Outcome.report (outcome : Outcome) (level : Level) : Report where
  code := if outcome.failure.isSome then 1 else 0
  output := outcome.output
  records :=
    recordLines level outcome.events ++ (outcome.failure.elim "" failureLine)

/-- The line for the value of a script. -/
def resultLine (arguments : Arguments) (value : Translated) : String :=
  if arguments.json || arguments.quiet then value.text ++ "\n"
  else "[+] " ++ value.typeName ++ " " ++ value.text ++ "\n"

/-- The value is printed, and an error result is a failure too. -/
def resultOutcome (arguments : Arguments) (events : List Event) (value : Translated) : Outcome where
  events := events
  output := resultLine arguments value
  failure := value.errorMessage?.map fun message => s!"script failed: {message}"

end HostBridge.CommandLine
