/-
This file runs whole scripts.
-/
import HostBridge.Script.Evaluation.Statement
import HostBridge.Script.Reader

namespace HostBridge.Script

/-- A flaw of a text shows where it is. -/
def lineFault {A : Type} (file : String) (line : Nat) (message : Units) : Machine A := do
  let place := "    at " ++ file ++ ":" ++ Decimal.digitText line ++ "\n"
  let trace ← asks? fun world => Text.units place ++ world.trace world.frames
  raise (← makeErrorWith (errorPrototype "SyntaxError") [
    (messageKey, .text (cutMessage message)),
    (.ofString "fileName", .ofString file),
    (.ofString "lineNumber", .ofNat line)] trace)

def complaintFault {A : Type} (file : String) (complaint : Complaint) : Machine A :=
  if complaint.flaw = .tooDeep then tooDeep
  else lineFault file complaint.line (Text.units complaint.flaw.message)

/-- The program that a text is. -/
def parseProgram (file : String) (occasion : Occasion) (units : Units) : Machine Program :=
  match Program.ofText occasion (shownText units) with
  | .ok program => return program
  | .error complaint => complaintFault file complaint

/-- The functions that a program makes before its first statement. -/
def Program.functions (program : Program) : List (String × Expression) :=
  (program.statements.takeWhile isFunctionStatement).filterMap fun statement =>
    match statement with
    | .function name content => some (name, content)
    | _ => none

/-- The last function of a name counts. -/
def Program.function? (program : Program) (name : String) : Option Expression :=
  program.functions.reverse.lookup name

def Program.declaresLexical (program : Program) (name : String) : Bool :=
  program.names.any fun entry => entry.1 = name

/-- The function that a variable of a text begins with. One with a label has a name of its own. -/
def Program.ownFunction? (program : Program) (name : String) : Option Expression :=
  if program.declaresLexical name then none else program.function? name

/-- The lexical names of a whole program. A function with a label is a variable there. -/
def Program.wholeNames (program : Program) : List (String × Bool) :=
  program.names.filter fun entry => (program.function? entry.1).isNone

/-- A variable of a program becomes a member of the global object. -/
def declareVariables (e : Evaluator) (scope : Scope) (program : Program)
    (function? : String → Option Expression) (configurable : Bool) : Machine Unit := do
  for name in program.variableNames do
    match function? name with
    | some content =>
        let value ← e.value scope content
        declareGlobalFunction e.call name value configurable
    | none => declareGlobal name configurable

def checkGlobals (program : Program) (withLexicals : Bool) : Machine Unit := do
  for name in program.variableNames do checkGlobal name false (program.function? name).isSome
  if withLexicals then
    for entry in program.wholeNames do checkGlobal entry.1 true false

/-- A variable that the function around a text has already. -/
def knownAround (name : String) : List Layer → Bool
  | [] => false
  | .locals list :: rest => (findVariable? name list).isSome || knownAround name rest
  | .members _ false :: _ => false
  | .members _ true :: rest => knownAround name rest

/-- The object of the variables that a text may add to the function around it. -/
def addedVariables? : List Layer → Option Reference
  | [] => none
  | .members place false :: _ => some place
  | _ :: rest => addedVariables? rest

/-- The functions with a label that a text begins with. -/
def makeLabelled (e : Evaluator) (scope : Scope) (program : Program) : Machine Unit := do
  for entry in program.functions do
    if program.declaresLexical entry.1 then
      initializeName e.call scope entry.1 (← e.value scope entry.2)

/-- The variables of a text are added to those of the function around it. -/
def addVariables (e : Evaluator) (scope : Scope) (program : Program) (target : Reference) :
    Machine Unit := do
  for name in program.variableNames do
    let known := knownAround name scope.layers
    let isNew := ((← objectAt target).own? (.ofString name)).isNone
    if !known && isNew then
      changeObject target fun object => object.put (.ofString name) (.plain .undefined)
    match program.ownFunction? name with
    | some content =>
        let value ← e.value scope content
        assignName e.call scope name value
    | none => pure ()

/-- The variables of a strict text are its own. -/
def ownVariables (e : Evaluator) (scope : Scope) (program : Program) : Machine Scope := do
  let inner := scope.declare (← undefinedVariables program.variableNames)
  let inner := inner.declare (← newVariables program.names)
  for entry in program.functions do
    initializeName e.call inner entry.1 (← e.value inner entry.2)
  return inner

/-- The scope of a program whose variables and functions are declared. -/
def enterProgram (e : Evaluator) (origin : Origin) (scope : Scope) (program : Program) :
    Machine Scope := do
  match origin with
  | .whole =>
      checkGlobals program true
      let fresh ← newVariables program.wholeNames
      change fun world => { world with lexicals := world.lexicals ++ fresh }
      declareVariables e scope program program.function? false
      return scope
  | _ =>
      if program.mode = .strict then ownVariables e scope program
      else
        let inner := scope.declare (← newVariables program.names)
        makeLabelled e inner program
        match addedVariables? scope.layers with
        | some target => addVariables e inner program target
        | none =>
            checkGlobals program false
            declareVariables e inner program program.ownFunction? true
        return inner

/-- The value of a program is that of its last statement that has one. -/
def runProgram (e : Evaluator) (origin : Origin) (scope : Scope) (program : Program) :
    Machine Value :=
  insideFrame ⟨none, some scope.file, 1⟩ do
    let cell ← newCell (some .undefined)
    let scope := { scope with mode := program.mode, answer := some cell }
    let inner ← enterProgram e origin scope program
    let _ ← runAll e inner (program.statements.dropWhile isFunctionStatement)
    return (← cellValue cell).getD .undefined

/-- The name of a text that a script evaluates. -/
def inputFile : String := "<input>"

/-- Runs a text that sees no variables but the global ones. -/
def runText (e : Evaluator) (file : String) (origin : Origin) (mode : Mode) (units : Units) :
    Machine Value := do
  let program ← parseProgram file (.plain origin mode) units
  runProgram e origin (Scope.top program.mode none file) program

/-- Runs a text that sees the variables around the call. Another value is its own result. -/
def runInner (e : Evaluator) (scope : Scope) (value : Value) : Machine Value := do
  match value with
  | .text units =>
      let isInside := scope.callee.isSome
      let occasion : Occasion := ⟨.inner, scope.mode, scope.home.isSome, false, isInside⟩
      let program ← parseProgram inputFile occasion units
      runProgram e .inner { scope with file := inputFile } program
  | _ => return value

/-- A function whose parameters and body are given as texts. -/
def makeFromTexts (parameters body : Units) (isGenerator isAsynchronous : Bool)
    (prototype : Reference) : Machine Value := do
  match FunctionText.ofText (shownText parameters) (shownText body) isGenerator isAsynchronous with
  | .error complaint => complaintFault inputFile complaint
  | .ok text =>
      let place ← makeClosure ⟨text, Scope.top .loose none inputFile, none, []⟩
        (Text.units "anonymous") prototype
      givePrototype text.heading place
      return .object place

end HostBridge.Script
