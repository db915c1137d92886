/-
This file carries out the commands of the command line.
-/
import HostBridge.CommandLine.Report
import HostBridge.CommandLine.Usage
import HostBridge.Configuration.Reader
import HostBridge.Engine.Interpreter

namespace HostBridge.CommandLine

variable {M : Type → Type} [Monad M] {State : Type}

/-- A bridge over an engine of its own, or the text of the reason why there is none. -/
def openBridge (runtime : Runtime State) (configuration : Configuration) (ambient : Ambient)
    (builtins : Bool) : Except String (Bridge State) :=
  match configuration.defect? with
  | some defect => .error defect.message
  | none =>
      match runtime.bridge? configuration ambient with
      | .error error => .error error.chain
      | .ok bridge => .ok (if builtins then bridge.bindBuiltins else bridge)

/-- The bridge is closed in any case, before anything is printed. -/
def evaluated (engine : Engine State) (arguments : Arguments) (bridge : Bridge State)
    (result : Except String Translated) : Outcome :=
  let events := (bridge.close engine).host.events
  match result with
  | .error failure => ⟨events, "", some failure⟩
  | .ok value => resultOutcome arguments events value

def evaluationResult (result : Except EvaluationError Translated) : Except String Translated :=
  result.mapError EvaluationError.chain

def evaluateText (engine : Engine State) (arguments : Arguments) (bridge : Bridge State)
    (script : String) : Outcome :=
  let (bridge, result) := bridge.evaluate engine script
  evaluated engine arguments bridge (evaluationResult result)

/-- The script in a file, or the failure to read it. -/
def evaluateFile (engine : Engine State) (arguments : Arguments) (bridge : Bridge State)
    (path : String) (content : Except FileError (List UInt8)) : Outcome :=
  match fileText content with
  | .error error => evaluated engine arguments bridge (.error error.message)
  | .ok script =>
      let (bridge, result) := bridge.evaluateNamed engine script path
      evaluated engine arguments bridge (evaluationResult result)

def runEval (runtime : Runtime State) (files : Files M) (arguments : Arguments)
    (configuration : Configuration) (ambient : Ambient) (script file : Option String)
    (builtins : Bool) : M Outcome := do
  match openBridge runtime configuration ambient builtins with
  | .error failure => return .failed failure
  | .ok bridge =>
      match script, file with
      | some script, _ => return evaluateText runtime.engine arguments bridge script
      | none, some path =>
          return evaluateFile runtime.engine arguments bridge path (← files.read path)
      | none, none => return .failed Command.Defect.noScript.message

def writtenLine (arguments : Arguments) (size : Nat) (path : String) : String :=
  if arguments.quiet then ""
  else "[+] Wrote " ++ Decimal.digitText size ++ " bytes to " ++ Text.shown path ++ "\n"

def runCompile (runtime : Runtime State) (files : Files M) (arguments : Arguments)
    (configuration : Configuration) (ambient : Ambient) (input output : String) : M Outcome := do
  match fileText (← files.read input) with
  | .error error => return .failed error.message
  | .ok script =>
      match openBridge runtime configuration ambient false with
      | .error failure => return .failed failure
      | .ok bridge =>
          let (bridge, bytes) := bridge.compile script input
          let events := (bridge.close runtime.engine).host.events
          match ← files.write output bytes with
          | .error error => return ⟨events, "", some error.message⟩
          | .ok () => return ⟨events, writtenLine arguments bytes.length output, none⟩

def executeBytes (engine : Engine State) (arguments : Arguments) (bridge : Bridge State)
    (bytes : List UInt8) : Outcome :=
  let (bridge, result) := bridge.execute engine bytes
  evaluated engine arguments bridge (evaluationResult result)

def runExec (runtime : Runtime State) (files : Files M) (arguments : Arguments)
    (configuration : Configuration) (ambient : Ambient) (input : String) (builtins : Bool) :
    M Outcome := do
  match ← files.read input with
  | .error error => return .failed error.message
  | .ok bytes =>
      match openBridge runtime configuration ambient builtins with
      | .error failure => return .failed failure
      | .ok bridge => return executeBytes runtime.engine arguments bridge bytes

def catalogLine (entry : String × String) : String :=
  "  " ++ entry.1 ++ String.ofList (List.replicate (14 - entry.1.length) ' ') ++ " " ++ entry.2 ++ "\n"

def catalogText : String :=
  "[*] Builtin host objects:\n" ++ String.join (Builtin.catalog.map catalogLine)

def runCommand (runtime : Runtime State) (files : Files M) (arguments : Arguments)
    (configuration : Configuration) (ambient : Ambient) : M Outcome :=
  match arguments.command with
  | .eval script file builtins =>
      runEval runtime files arguments configuration ambient script file builtins
  | .compile input output => runCompile runtime files arguments configuration ambient input output
  | .exec input builtins => runExec runtime files arguments configuration ambient input builtins
  | .objects => return ⟨[], catalogText, none⟩

def loadConfiguration (files : Files M) (path : Option String) :
    M (Except ConfigurationError Configuration) := do
  match path with
  | none => return .ok .default
  | some path => return Configuration.load (← files.read path)

/-- The configuration is loaded first, then the command is looked at and carried out. -/
def Arguments.run (runtime : Runtime State) (files : Files M) (ambient : Ambient)
    (arguments : Arguments) : M Report := do
  let outcome ←
    match ← loadConfiguration files arguments.config with
    | .error error => pure (Outcome.failed (chained error.message error.cause?.toList))
    | .ok configuration =>
        let found ←
          match arguments.command.source? with
          | some path => files.isPresent path
          | none => pure true
        match arguments.command.defect? found with
        | some defect => pure (Outcome.failed defect.message)
        | none => runCommand runtime files arguments configuration ambient
  return outcome.report arguments.level

def versionLine : String := "quickjs-bridge 1.0.0\n"

def helpText : String := String.join ([
  "Evaluate JavaScript against bound host objects",
  "",
  "Usage: quickjs-bridge [OPTIONS] <COMMAND>",
  "",
  "Commands:",
  "  eval     [SCRIPT] [-f, --file <FILE>] [--no-builtins]",
  "  compile  -i, --input <INPUT> -o, --output <OUTPUT>",
  "  exec     -i, --input <INPUT> [--no-builtins]",
  "  objects",
  "  help     [COMMAND]",
  "",
  "Options:",
  "  -l, --log-level <LOG_LEVEL>  [default: info]",
  "  -q, --quiet",
  "  -c, --config <CONFIG>",
  "      --json",
  "  -h, --help",
  "  -V, --version"].map (· ++ "\n"))

def UsageError.report (error : UsageError) : Report where
  code := error.exitCode
  output :=
    match error with
    | .help => helpText
    | .version => versionLine
    | _ => ""
  records := if error.exitCode = 0 then "" else s!"error: {error.message}\n"

/-- The program reads its arguments and does what they ask for, over the interpreter. -/
def run (files : Files M) (ambient : Ambient) (arguments : List String) : M Report :=
  match Arguments.ofList arguments with
  | .error error => return error.report
  | .ok arguments => arguments.run Interpreter.runtime files ambient

end HostBridge.CommandLine
