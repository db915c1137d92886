/-
This file reads the arguments of the command line.
-/
import HostBridge.CommandLine.Arguments
import HostBridge.Table

namespace HostBridge.CommandLine

/-- The options that arguments name. -/
inductive Parameter where
  | logLevel
  | quiet
  | config
  | json
  | file
  | noBuiltins
  | input
  | output
  | help
  | version
deriving DecidableEq

def Parameter.longName : Parameter → String
  | .logLevel => "log-level"
  | .quiet => "quiet"
  | .config => "config"
  | .json => "json"
  | .file => "file"
  | .noBuiltins => "no-builtins"
  | .input => "input"
  | .output => "output"
  | .help => "help"
  | .version => "version"

def Parameter.letter? : Parameter → Option Char
  | .logLevel => some 'l'
  | .quiet => some 'q'
  | .config => some 'c'
  | .file => some 'f'
  | .input => some 'i'
  | .output => some 'o'
  | .help => some 'h'
  | .version => some 'V'
  | .json | .noBuiltins => none

def Parameter.takesValue : Parameter → Bool
  | .logLevel | .config | .file | .input | .output => true
  | .quiet | .json | .noBuiltins | .help | .version => false

/-- A path cannot be empty. -/
def Parameter.isPath : Parameter → Bool
  | .config | .file | .input | .output => true
  | _ => false

/-- Arguments stand before the name of a command or after it. -/
inductive Scope where
  | program
  | eval
  | compile
  | exec
  | objects
deriving DecidableEq

/-- The names of the commands. -/
def Scope.commands : List (String × Scope) :=
  [("eval", .eval), ("compile", .compile), ("exec", .exec), ("objects", .objects)]

/-- The parameters that every scope knows. -/
def sharedParameters : List Parameter := [.logLevel, .quiet, .config, .json, .help]

def Scope.parameters : Scope → List Parameter
  | .program => sharedParameters ++ [.version]
  | .eval => sharedParameters ++ [.file, .noBuiltins]
  | .compile => sharedParameters ++ [.input, .output]
  | .exec => sharedParameters ++ [.input, .noBuiltins]
  | .objects => sharedParameters

/-- Parameters that have to be given. -/
def Scope.required : Scope → List Parameter
  | .compile => [.input, .output]
  | .exec => [.input]
  | _ => []

def Scope.named? (scope : Scope) (name : String) : Option Parameter :=
  scope.parameters.find? fun parameter => parameter.longName = name

def Scope.lettered? (scope : Scope) (letter : Char) : Option Parameter :=
  scope.parameters.find? fun parameter => parameter.letter? = some letter

/-- What ends the reading of arguments early. -/
inductive UsageError where
  | unknownArgument (text : String)
  | unknownCommand (text : String)
  | missingCommand
  | missingParameter (parameter : Parameter)
  | repeated (parameter : Parameter)
  | missingValue (parameter : Parameter)
  | surplusValue (parameter : Parameter)
  /-- No arguments at all. -/
  | nothingGiven
  | help
  | version
deriving DecidableEq

def Parameter.title (parameter : Parameter) : String := "--" ++ parameter.longName

def UsageError.message : UsageError → String
  | .unknownArgument text => s!"unexpected argument '{text}' found"
  | .unknownCommand text => s!"unrecognized subcommand '{text}'"
  | .missingCommand => "a subcommand is required but one was not provided"
  | .missingParameter parameter => s!"the argument {parameter.title} was not provided"
  | .repeated parameter => s!"the argument {parameter.title} cannot be used multiple times"
  | .missingValue parameter => s!"a value is required for {parameter.title} but none was supplied"
  | .surplusValue parameter => s!"no value is allowed for {parameter.title}"
  | .nothingGiven => "a subcommand is required"
  | .help => "help"
  | .version => "version"

/-- A request for help is answered and every other usage error is a failure. -/
def UsageError.exitCode : UsageError → Nat
  | .help | .version => 0
  | _ => 2

/-- An option whose value may still follow. -/
structure Pending where
  parameter : Parameter
  value : Option String

/-- What the arguments of one scope have given so far. -/
structure Given where
  options : Table Parameter String
  script : Option String
  pending : Option Pending

def Given.empty : Given := ⟨[], none, none⟩

/-- An option is given once, and its value has to be usable. -/
def Given.add (given : Given) (parameter : Parameter) (value : String) :
    Except UsageError Given :=
  if Table.contains given.options parameter then .error (.repeated parameter)
  else if parameter.isPath && value.isEmpty then .error (.missingValue parameter)
  else .ok { given with options := Table.put given.options parameter value }

/-- The option that was named last is complete. -/
def Given.settle (given : Given) : Except UsageError Given :=
  match given.pending with
  | none => .ok given
  | some ⟨parameter, none⟩ => .error (.missingValue parameter)
  | some ⟨parameter, some value⟩ => { given with pending := none }.add parameter value

/-- A flag takes effect at once. -/
def Given.raise (given : Given) (parameter : Parameter) : Except UsageError Given := do
  let given ← given.settle
  match parameter with
  | .help => .error .help
  | .version => .error .version
  | _ => given.add parameter ""

/-- An option with a value that is attached to its name, or with one to come. -/
def Given.start (given : Given) (parameter : Parameter) (value : Option String) :
    Except UsageError Given := do
  let given ← given.settle
  match value with
  | some value => given.add parameter value
  | none => return { given with pending := some ⟨parameter, none⟩ }

/-- The option waits for its value. -/
def Given.expecting? (given : Given) : Option Parameter :=
  match given.pending with
  | some ⟨parameter, none⟩ => some parameter
  | _ => none

/-- The text before the first equals sign and the text after it. -/
def splitValue (text : List Char) : List Char × Option (List Char) :=
  match text.span (· ≠ '=') with
  | (name, []) => (name, none)
  | (name, _ :: value) => (name, some value)

/-- An argument that begins with two hyphens. -/
def readLong (scope : Scope) (text : List Char) (given : Given) : Except UsageError Given :=
  let (name, value) := splitValue text
  let value := value.map String.ofList
  match scope.named? (String.ofList name) with
  | none => .error (.unknownArgument ("--" ++ String.ofList text))
  | some parameter =>
      if parameter.takesValue then given.start parameter value
      else if value.isSome then .error (.surplusValue parameter)
      else given.raise parameter

/-- The value that is attached to a letter, with or without an equals sign. -/
def attachedValue : List Char → Option String
  | [] => none
  | '=' :: value => some (String.ofList value)
  | value => some (String.ofList value)

/-- An argument of letters after one hyphen. -/
def readLetters (scope : Scope) : List Char → Given → Except UsageError Given
  | [], given => .ok given
  | letter :: rest, given =>
      match scope.lettered? letter with
      | none => .error (.unknownArgument (String.ofList ['-', letter]))
      | some parameter =>
          if parameter.takesValue then given.start parameter (attachedValue rest)
          else do readLetters scope rest (← given.raise parameter)

/-- An argument that names no option. Only a script can be given so. -/
def readPlain (scope : Scope) (text : String) (given : Given) : Except UsageError Given :=
  if scope = .eval && given.script.isNone then do
    let given ← given.settle
    return { given with script := some text }
  else .error (.unknownArgument text)

/-- An argument before a double hyphen. -/
def readArgument (scope : Scope) (text : String) (given : Given) : Except UsageError Given :=
  match text.toList with
  | '-' :: '-' :: name => readLong scope name given
  | '-' :: letter :: letters => readLetters scope (letter :: letters) given
  | _ =>
      match given.expecting? with
      | some parameter => .ok { given with pending := some ⟨parameter, some text⟩ }
      | none => readPlain scope text given

def readPlainArguments (scope : Scope) : List String → Given → Except UsageError Given
  | [], given => .ok given
  | text :: rest, given => do readPlainArguments scope rest (← readPlain scope text given)

/-- The arguments after the name of a command. -/
def readArguments (scope : Scope) : List String → Given → Except UsageError Given
  | [], given => .ok given
  | text :: rest, given =>
      if text = "--" then readPlainArguments scope rest given
      else do readArguments scope rest (← readArgument scope text given)

/-- Everything that has to be given is. -/
def Given.complete (scope : Scope) (given : Given) : Except UsageError Given := do
  let given ← given.settle
  match scope.required.find? fun parameter => !Table.contains given.options parameter with
  | some parameter => .error (.missingParameter parameter)
  | none => return given

/-- The arguments of a command. -/
def readCommand (scope : Scope) (arguments : List String) : Except UsageError Given := do
  (← readArguments scope arguments .empty).complete scope

/-- Help is given on the program and on each of its commands. -/
def readHelp : List String → UsageError
  | [] => .help
  | [name] =>
      if (Scope.commands.lookup name).isSome || name = "help" then .help else .unknownCommand name
  | name :: next :: _ =>
      if (Scope.commands.lookup name).isSome || name = "help" then .unknownCommand next
      else .unknownCommand name

/-- No command can follow a double hyphen. -/
def afterHyphens (text : String) : UsageError :=
  if (Scope.commands.lookup text).isSome || text = "help" then .unknownArgument text
  else .unknownCommand text

/-- A program needs a command. -/
def withoutCommand (given : Given) : UsageError :=
  match given.settle with
  | .error error => error
  | .ok given => if given.options.isEmpty then .nothingGiven else .missingCommand

/-- The arguments up to the name of a command, the scope of the command and its arguments. -/
def readProgram : List String → Given → Except UsageError (Given × Scope × Given)
  | [], given => .error (withoutCommand given)
  | text :: rest, given =>
      if text = "--" then
        match rest with
        | [] => .error (withoutCommand given)
        | next :: _ => .error (afterHyphens next)
      else if given.expecting?.isSome || (text.startsWith "-" && text ≠ "-") then do
        readProgram rest (← readArgument .program text given)
      else if text = "help" then .error (readHelp rest)
      else
        match Scope.commands.lookup text with
        | none => .error (.unknownCommand text)
        | some scope => do
            let inner ← readCommand scope rest
            return (← given.settle, scope, inner)

/-- An option of the command prevails over one before it. -/
def shared? (outer inner : Given) (parameter : Parameter) : Option String :=
  match Table.lookup? inner.options parameter with
  | some value => some value
  | none => Table.lookup? outer.options parameter

def Given.option? (given : Given) (parameter : Parameter) : Option String :=
  Table.lookup? given.options parameter

/-- The command that the arguments of a scope give. -/
def Given.command (given : Given) : Scope → Command
  | .eval =>
      .eval given.script (given.option? .file) (given.option? .noBuiltins).isNone
  | .compile => .compile ((given.option? .input).getD "") ((given.option? .output).getD "")
  | .exec => .exec ((given.option? .input).getD "") (given.option? .noBuiltins).isNone
  | .objects | .program => .objects

def defaultLogLevel : String := "info"

/-- What the arguments after the name of the program ask for. -/
def Arguments.ofList (arguments : List String) : Except UsageError Arguments := do
  let (outer, scope, inner) ← readProgram arguments .empty
  return {
    command := inner.command scope
    logLevel := (shared? outer inner .logLevel).getD defaultLogLevel
    quiet := (shared? outer inner .quiet).isSome
    config := shared? outer inner .config
    json := (shared? outer inner .json).isSome }

end HostBridge.CommandLine
