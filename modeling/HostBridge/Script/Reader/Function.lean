/-
This file reads functions.
-/
import HostBridge.Script.Reader.Target

namespace HostBridge.Script

/-- A function that is about to be read. A function without a receiver of its own may do what the
function around it may do. -/
def FunctionStart.enclosure (start : FunctionStart) (outer : Enclosure) : Enclosure :=
  let isArrow := start.role = .arrow
  let hasHome := [Role.method, .getter, .setter, .maker, .derivedMaker, .fields].contains start.role
  { mode := outer.mode
    origin := none
    role := start.role
    isGenerator := start.isGenerator
    isAsynchronous := start.isAsynchronous
    inBody := false
    asksStrict := false
    isSimple := true
    parameters := []
    places := []
    levels := []
    nextLevel := 0
    exits := []
    callsEval := false
    usesArguments := false
    allowsSuper := hasHome || (isArrow && outer.allowsSuper)
    allowsParent := start.role = .derivedMaker || (isArrow && outer.allowsParent)
    allowsNewTarget := !isArrow || outer.allowsNewTarget }

/-- The parameters so far, in reverse order, with the number of those before the first one that
can be left out. -/
structure ParameterList where
  targets : List Target
  arity : Nat
  hasOptional : Bool

def notSimple : Reader Unit :=
  changeEnclosure fun enclosure => { enclosure with isSimple := false }

def ParameterList.add (list : ParameterList) (target : Target) (isOptional : Bool) :
    ParameterList :=
  let hasOptional := list.hasOptional || isOptional
  ⟨target :: list.targets, if hasOptional then list.arity else list.arity + 1, hasOptional⟩

/-- A parameter that is a plain name. -/
def readNamedParameter (g : Grammar) (list : ParameterList) (isRest : Bool) :
    Reader ParameterList := do
  let reading ← get
  match reading.name? with
  | none => complain .noParameter
  | some (name, true) => complain (.reservedName name)
  | some (name, false) =>
      bindParameter name
      advance
      if isRest then return list.add (.rest (.place (.name name))) true
      else if ← isMark "=" then
        notSimple
        advance
        let value ← g.assignment true
        return list.add (.given (.place (.name name)) (value.titled name)) true
      else return list.add (.place (.name name)) false

/-- One parameter, and whether another one follows. -/
def readParameter (g : Grammar) (list : ParameterList) : Reader (ParameterList × Bool) := do
  if ← isMark ")" then return (list, false)
  else
    let isRest ← passMark "..."
    if isRest then notSimple
    let list ←
      if (← isMark "[") || (← isMark "\x7b") then do
        notSimple
        let target ← g.target .parameter true false
        let isGiven :=
          match target with
          | .given _ _ => true
          | _ => false
        pure (list.add (if isRest then .rest target else target) isGiven)
      else readNamedParameter g list isRest
    if ← isMark ")" then return (list, false)
    else if isRest then complain (.expecting ")")
    else
      expectMark ","
      return (list, true)

/-- The parameters between parentheses. -/
def readParameters (g : Grammar) : Reader ParameterList := do
  if (← isMark "(") && (← looksThrough).hasAssignment then notSimple
  expectMark "("
  let list ← repeatedly (readParameter g) ⟨[], 0, false⟩
  let role := (← get).enclosure.role
  let count := list.targets.length
  if (role = .getter && count ≠ 0) || (role = .setter && count ≠ 1) then complain .accessorArity
  else
    advance
    return { list with targets := list.targets.reverse }

/-- A text at the beginning of a script or a function, as it is written. -/
def directiveText : Reader (Option String) := do
  let reading ← get
  match reading.token with
  | .text _ =>
      return some (String.ofList ((reading.shown.toList.drop 1).dropLast))
  | _ => return none

/-- Words and literals in front of which a line end ends a directive. -/
def endsDirective : Reader Bool := do
  let reading ← get
  let begins :=
    match reading.token with
    | .number _ | .whole _ | .text _ | .template _ _ => true
    | .word name isEscaped =>
        isEscaped || !reading.reserves name ||
          !(["else", "in", "instanceof", "case", "default", "void", "break", "continue", "catch",
            "finally", "extends", "implements", "yield", "await"].contains name)
    | .mark text => text = "++" || text = "--"
    | _ => false
  return reading.isFinish || reading.isMark "\x7d" || (begins && reading.opensLine)

/-- One directive, and whether another one may follow. -/
def readDirective (_ : Unit) : Reader (Unit × Bool) := do
  match ← directiveText with
  | none => return ((), false)
  | some text =>
      advance
      let ends ← if ← passMark ";" then pure true else endsDirective
      if !ends then return ((), false)
      else
        if text = "use strict" then
          changeEnclosure fun enclosure => { enclosure with mode := .strict, asksStrict := true }
        return ((), true)

/-- The directives set the mode and are read once more as statements. -/
def readDirectives : Reader Unit := do
  let before ← get
  repeatedly readDirective ()
  let after ← get
  if after.enclosure.mode = before.enclosure.mode then set before
  else
    let enclosure := { before.enclosure with
      mode := after.enclosure.mode
      asksStrict := after.enclosure.asksStrict }
    set { before with enclosure := enclosure, next := before.start }
    let reading ← get
    match before.start.readToken .strict reading.size with
    | .ok (token, next) => set { reading with token := token, next := next }
    | .error complaint => fun _ => .error complaint

/-- The names of a function and its parameters are fit for its mode. -/
def checkNames (name : Option String) : Reader Unit := do
  let enclosure := (← get).enclosure
  let names := enclosure.parameters
  let hasTwins := names.eraseDups.length ≠ names.length
  let isPlain := enclosure.isSimple && !enclosure.isStrict &&
    enclosure.role ≠ .arrow && enclosure.role ≠ .method
  if enclosure.isStrict && !enclosure.isSimple && enclosure.asksStrict then complain .strictBody
  else if enclosure.isStrict && name.any strictNames.contains then complain .strictFunctionName
  else if enclosure.isStrict && names.any strictNames.contains then complain .strictParameter
  else if hasTwins && !isPlain then complain .twoPlainParameters
  else return ()

/-- A function without a receiver of its own hands on what it uses. -/
def handOn (inner : Enclosure) : Reader Unit :=
  let usesArguments := inner.role = .arrow && inner.usesArguments
  changeEnclosure fun enclosure => { enclosure with
    callsEval := enclosure.callsEval || inner.callsEval
    usesArguments := enclosure.usesArguments || usesArguments || inner.callsEval }

/-- A function whose body is read. The last number is where its text ends. -/
structure FunctionBody where
  parameters : ParameterList
  names : List (String × Bool)
  statements : List Statement
  last : Nat

/-- The value of a function that is a single expression. -/
def readExpressionBody (g : Grammar) (parameters : ParameterList) : Reader FunctionBody := do
  checkNames none
  let line := (← get).start.line
  let value ← g.assignment true
  let last := (← get).lastEnd
  let level ← leaveLevel
  return ⟨parameters, level.bindings, [.line line (.answer value)], last⟩

/-- The words before the parameters of a function: the keyword and the name. -/
def readFunctionWords (isStatement : Bool) : Reader FunctionStart := do
  let reading ← get
  let isAsynchronous := reading.isPseudo "async"
  if isAsynchronous then advance
  advance
  let isGenerator ← passMark "*"
  let named ← get
  let start (name : Option String) : FunctionStart :=
    ⟨.plain, isGenerator, isAsynchronous, name, isStatement, reading.start⟩
  match named.name? with
  | some (name, true) => complain (.reservedName name)
  | some (name, false) =>
      let clashes := !isStatement &&
        ((isGenerator && name = "yield") || (isAsynchronous && name = "await"))
      if clashes then complain (.reservedName name)
      else
        advance
        return start (some name)
  | none => if isStatement then complain .namelessFunction else return start none

/-- A function with its name. -/
def readFunctionStatement (g : Grammar) : Reader (String × Expression) := do
  let start ← readFunctionWords true
  return (start.name.getD "", ← g.function start)

/-- A statement of a function body or of a script, where functions are made at once. The statements
before it stand in reverse order. -/
def readSourceElement (g : Grammar) (before : List Statement) :
    Reader (List Statement) := do
  let reading ← get
  let isAsynchronous := reading.isPseudo "async" && (← glances true) = "function"
  if reading.isKeyword "function" || isAsynchronous then
    let (name, content) ← readFunctionStatement g
    let enclosure := (← get).enclosure
    if enclosure.isGlobal then addVariable name else declareVariable name
    changeLevel fun level => { level with functions := .function name content :: level.functions }
    return before
  else return (← g.statement .any) :: before

/-- The statements of a function up to its closing brace. -/
def readBlockBody (g : Grammar) (name : Option String) (parameters : ParameterList) :
    Reader FunctionBody := do
  expectMark "\x7b"
  readDirectives
  checkNames name
  let statements ← repeatedly (fun before => do
    if ← isMark "\x7d" then return (before, false)
    else return (← readSourceElement g before, true)) []
  let last := (← get).next.offset
  let level ← leaveLevel
  advance
  return ⟨parameters, level.bindings, level.functions.reverse ++ statements.reverse, last⟩

/-- The parameters and the body of a function. -/
def readFunctionBody (g : Grammar) (start : FunctionStart) : Reader FunctionBody := do
  let reading ← get
  let parameters ←
    match start.role, reading.name? with
    | .arrow, some (name, true) => complain (.reservedName name)
    | .arrow, some (name, false) =>
        bindParameter name
        advance
        pure ⟨[.place (.name name)], 1, false⟩
    | _, _ => readParameters g
  changeEnclosure fun enclosure => { enclosure with inBody := true }
  enterLevel
  if start.role = .arrow && (← isMark "=>") then
    advance
    if ← isMark "\x7b" then readBlockBody g start.name parameters
    else readExpressionBody g parameters
  else readBlockBody g start.name parameters

/-- A function from its parameters on. -/
def readFunction (g : Grammar) (start : FunctionStart) : Reader Expression := do
  let outer := (← get).enclosure
  let (body, inner) ← insideEnclosure (start.enclosure outer) (readFunctionBody g start)
  handOn inner
  let heading : Heading := {
    role := start.role
    mode := inner.mode
    isGenerator := start.isGenerator
    isAsynchronous := start.isAsynchronous
    ownName := if start.isStatement then none else start.name
    title := if start.isStatement then start.name else none
    isSimple := inner.isSimple
    arity := body.parameters.arity
    parameterNames := inner.parameters
    variableNames := inner.variableNames
    names := body.names
    callsEval := inner.callsEval
    usesArguments := inner.usesArguments
    line := start.start.line
    source := sourceFrom start.start body.last }
  return .function heading body.parameters.targets body.statements

def readArrow (g : Grammar) (isAsynchronous : Bool) (start : Cursor) : Reader Expression :=
  g.function ⟨.arrow, false, isAsynchronous, none, false, start⟩

end HostBridge.Script
