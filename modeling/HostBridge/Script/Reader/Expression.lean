/-
This file reads expressions.
-/
import HostBridge.Script.Reader.Class
import HostBridge.Script.Regex.Reader

namespace HostBridge.Script

/-- Expressions between commas. -/
def readSequence (g : Grammar) (allowsIn : Bool) : Reader Expression := do
  let first ← g.assignment allowsIn
  repeatedly (fun before => do
    if ← passMark "," then return (.sequence before (← g.assignment allowsIn), true)
    else return (before, false)) first

def readExpression (g : Grammar) : Reader Expression := readSequence g true

/-- An expression in parentheses. -/
def readEnclosed (g : Grammar) : Reader Expression := do
  expectMark "("
  let inner ← readExpression g
  expectMark ")"
  return inner

/-- The parts of a template so far, in reverse order. -/
structure TemplateDraft where
  texts : List (List Char)
  values : List Expression

/-- A stretch of a template with the value behind it, and whether another stretch follows. -/
def readTemplateParts (g : Grammar) (isTagged : Bool) (draft : TemplateDraft) :
    Reader (TemplateDraft × Bool) := do
  let reading ← get
  match reading.token with
  | .template raw isLast =>
      if !isTagged then
        match cookTemplate raw.length [] raw with
        | .error flaw => complain flaw
        | .ok _ => pure ()
      if isLast then
        advance
        return (⟨raw :: draft.texts, draft.values⟩, false)
      else
        advance
        let value ← readExpression g
        let behind ← get
        if !behind.isMark "\x7d" then complain .openTemplate
        else
          match behind.resumeTemplate with
          | .error complaint => fun _ => .error complaint
          | .ok resumed =>
              set resumed
              return (⟨raw :: draft.texts, value :: draft.values⟩, true)
  | _ => complain .openTemplate

def readTemplate (g : Grammar) (isTagged : Bool) : Reader TemplateDraft := do
  let draft ← repeatedly (readTemplateParts g isTagged) ⟨[], []⟩
  return ⟨draft.texts.reverse, draft.values.reverse⟩

def cookedText? (raw : List Char) : Option Units := (cookTemplate raw.length [] raw).toOption

def readPlainTemplate (g : Grammar) : Reader Expression := do
  let draft ← readTemplate g false
  return .template (draft.texts.map fun raw => (cookedText? raw).getD []) draft.values

def readTagged (g : Grammar) (tag : Expression) : Reader Expression := do
  let draft ← readTemplate g true
  let line := (← get).lastLine
  return .tagged line tag (draft.texts.map cookedText?)
    (draft.texts.map (List.flatMap Text.charUnits)) draft.values

/-- A pattern, which has to make sense. -/
def readPattern : Reader Expression := do
  let reading ← get
  match (reading.start.advance 1).readPattern reading.size with
  | .error complaint => fun _ => .error complaint
  | .ok (body, flags, next) =>
      let source := body.flatMap Text.charUnits
      let letters := flags.flatMap Text.charUnits
      match RegexProgram.ofUnits source letters with
      | .error flaw => complain (.badPattern flaw.message)
      | .ok _ =>
          set { reading with next := next }
          advance
          return .regex source letters

/-- The variables that a name is looked for in are noted. -/
def noteName (name : String) : Reader Unit := do
  if name = "arguments" then
    changeEnclosure fun enclosure => { enclosure with usesArguments := true }
  else return ()

/-- A name, or a function that is announced by a word in front of it. -/
def readName (g : Grammar) (name : String) (isReserved : Bool) : Reader Expression := do
  if isReserved then complain (.reservedName name)
  else if (← isPseudo "async") && (← glances true) = "function" then
    g.function (← readFunctionWords false)
  else
    noteName name
    advance
    return .name name

/-- What is behind the word `new` but its arguments. -/
def readNew (g : Grammar) : Reader (Expression × Bool) := do
  advance
  if ← passMark "." then
    if !(← isPseudo "target") then complain .noTargetOfNew
    else if !(← get).enclosure.allowsNewTarget then complain .looseTargetOfNew
    else
      advance
      return (.newTarget, false)
  else
    let callee ← g.suffixed false
    if ← isMark "(" then return (callee, true)
    else return (.construct (← get).lastLine callee [], false)

/-- One of the arguments of a call, and whether another one may follow. -/
def readArgument (g : Grammar) (before : List Expression) : Reader (List Expression × Bool) := do
  if ← isMark ")" then return (before, false)
  else
    let argument ←
      if ← passMark "..." then do pure (Expression.spread (← g.assignment true))
      else g.assignment true
    if ← isMark ")" then return (argument :: before, false)
    else
      expectMark ","
      return (argument :: before, true)

/-- The arguments behind an opening parenthesis, with the line on which they end. -/
def readArguments (g : Grammar) : Reader (List Expression × Nat) := do
  let arguments ← repeatedly (readArgument g) []
  advance
  return (arguments.reverse, (← get).lastLine)

/-- A member or a call of the class behind the one that is being read. -/
def readSuper (g : Grammar) : Reader Expression := do
  advance
  let reading ← get
  if reading.isMark "(" then
    if !reading.enclosure.allowsParent then complain .looseParent
    else
      advance
      let (arguments, line) ← readArguments g
      return .constructParent line arguments
  else if reading.isMark "." || reading.isMark "[" then
    if !reading.enclosure.allowsSuper then complain .looseSuper
    else if ← passMark "[" then
      let key ← readExpression g
      expectMark "]"
      return .inherited key
    else
      advance
      match (← get).token with
      | .word name _ =>
          advance
          return .inherited (.text (Text.units name))
      | _ => complain .noMember
  else complain .badSuper

/-- No modules can be imported. -/
def readImport (g : Grammar) (allowsCall : Bool) : Reader Expression := do
  advance
  if ← passMark "." then
    if ← isPseudo "meta" then complain .looseMeta else complain .noMeta
  else
    expectMark "("
    if !allowsCall then complain .badImport
    else
      let source ← g.assignment true
      expectMark ")"
      return .call (← get).lastLine (.name "import") [source]

def readKeywordExpression (g : Grammar) (allowsCall : Bool) (word : String) :
    Reader (Expression × Bool) := do
  let constant (value : Expression) : Reader (Expression × Bool) := do
    advance
    return (value, false)
  match word with
  | "null" => constant .null
  | "true" => constant (.boolean true)
  | "false" => constant (.boolean false)
  | "this" => constant .receiver
  | "function" => return (← g.function (← readFunctionWords false), false)
  | "class" => return ((← readClass g false).2, false)
  | "new" => readNew g
  | "super" => return (← readSuper g, false)
  | "import" => return (← readImport g allowsCall, false)
  | _ => complain (.unexpected (← get).shown)

/-- An array or an object, or a pattern that something is assigned to. -/
def readBrackets (g : Grammar) : Reader Expression := do
  if (← looksThrough).mark? = some "=" then
    match ← g.target .assigned true true with
    | .given target value => return .assign target value
    | _ => complain .looseBrackets
  else if ← isMark "[" then readArray g
  else readObject g

/-- An expression without anything behind it, and whether arguments have to follow. -/
def readPrimary (g : Grammar) (allowsCall : Bool) : Reader (Expression × Bool) := do
  let reading ← get
  match reading.token with
  | .number value =>
      advance
      return (.number value, false)
  | .whole value =>
      advance
      return (.whole value, false)
  | .text value =>
      advance
      return (.text value, false)
  | .template _ _ => return (← readPlainTemplate g, false)
  | .word name _ =>
      match reading.keyword?, reading.name? with
      | some word, _ => readKeywordExpression g allowsCall word
      | none, some (_, isReserved) => return (← readName g name isReserved, false)
      | none, none => complain (.unexpected reading.shown)
  | .mark text =>
      match text with
      | "(" => return (← readEnclosed g, false)
      | "[" | "\x7b" => return (← readBrackets g, false)
      | "/" | "/=" => return (← readPattern, false)
      | _ => complain (.unexpected reading.shown)
  | .personal _ | .finish => complain (.unexpected reading.shown)

/-- An expression with what is read behind it so far. -/
structure Suffixed where
  head : Expression
  /-- Arguments of `new` have to follow. -/
  needsArguments : Bool
  allowsCall : Bool
  isChain : Bool

def Suffixed.goOn (suffixed : Suffixed) (head : Expression) : Suffixed :=
  { suffixed with head := head, needsArguments := false }

/-- A name behind a point. -/
def readMemberName (suffixed : Suffixed) : Reader Suffixed := do
  match (← get).token with
  | .word name _ =>
      advance
      return suffixed.goOn (.member suffixed.head (.text (Text.units name)))
  | .personal name => complain (.unknownPrivate name)
  | _ => complain .noMember

/-- A key between brackets, of which the first one is read. -/
def readMemberKey (g : Grammar) (suffixed : Suffixed) : Reader Suffixed := do
  let key ← readExpression g
  expectMark "]"
  return suffixed.goOn (.member suffixed.head key)

/-- A call of `eval` sees the variables around it. -/
def noteCall (callee : Expression) : Reader Unit := do
  match callee with
  | .name "eval" =>
      changeEnclosure fun enclosure => { enclosure with
        callsEval := true
        usesArguments := true }
  | _ => return ()

/-- The arguments of a call behind their opening parenthesis. -/
def readCall (g : Grammar) (suffixed : Suffixed) : Reader Suffixed := do
  noteCall suffixed.head
  let (arguments, line) ← readArguments g
  if suffixed.needsArguments then
    return suffixed.goOn (.construct line suffixed.head arguments)
  else return suffixed.goOn (.call line suffixed.head arguments)

/-- One member or call behind an expression, and whether there was any. -/
def readSuffix (g : Grammar) (suffixed : Suffixed) : Reader (Suffixed × Bool) := do
  let reading ← get
  if reading.isMark "?." then
    advance
    let asked := { suffixed with head := .question suffixed.head, isChain := true }
    if suffixed.allowsCall && (← isMark "(") then
      advance
      return (← readCall g asked, true)
    else if ← passMark "[" then return (← readMemberKey g asked, true)
    else return (← readMemberName asked, true)
  else if reading.isMark "(" && suffixed.allowsCall then
    advance
    return (← readCall g suffixed, true)
  else if reading.isMark "." then
    advance
    return (← readMemberName suffixed, true)
  else if reading.isMark "[" then
    advance
    return (← readMemberKey g suffixed, true)
  else
    match reading.token, suffixed.needsArguments with
    | .template _ _, false =>
        if suffixed.isChain then complain .templateInChain
        else return (suffixed.goOn (← readTagged g suffixed.head), true)
    | _, _ => return (suffixed, false)

/-- An expression with the members and calls behind it. -/
def readSuffixed (g : Grammar) (allowsCall : Bool) : Reader Expression := do
  let (head, needsArguments) ← readPrimary g allowsCall
  let suffixed ← repeatedly (readSuffix g)
    ⟨head, needsArguments, allowsCall || needsArguments, false⟩
  return if suffixed.isChain then .chain suffixed.head else suffixed.head

/-- A removal of a variable is not strict. -/
def readRemoval (g : Grammar) : Reader Expression := do
  advance
  let operand ← g.unary .forbidden
  match operand with
  | .name _ =>
      if (← get).enclosure.isStrict then complain .strictRemoval else return .remove operand
  | _ => return .remove operand

def signOf? (reading : Reading) : Option Sign :=
  if reading.isMark "+" then some .plus
  else if reading.isMark "-" then some .minus
  else if reading.isMark "~" then some .complement
  else if reading.isMark "!" then some .opposite
  else none

/-- The direction of a counting mark. -/
def countOf? (reading : Reading) : Option Bool :=
  if reading.isMark "++" then some true
  else if reading.isMark "--" then some false
  else none

/-- An expression that may be counted up or down behind it. -/
def readCounted (g : Grammar) : Reader Expression := do
  let operand ← g.suffixed true
  let reading ← get
  match countOf? reading with
  | some up =>
      if reading.opensLine then return operand
      else
        requirePlace .noCounter operand
        advance
        return .count up false operand
  | none => return operand

/-- An operand with the signs before it, and the rule for a power behind it. -/
def readSigned (g : Grammar) (rule : PowerRule) : Reader (Expression × PowerRule) := do
  let reading ← get
  match signOf? reading, countOf? reading with
  | some sign, _ =>
      advance
      return (.signed sign (← g.unary .forbidden), .ignored)
  | none, some up =>
      advance
      let operand ← g.unary .ignored
      requirePlace .noCounter operand
      return (.count up true operand, rule)
  | none, none =>
      match reading.keyword? with
      | some "void" =>
          advance
          return (.void (← g.unary .forbidden), .ignored)
      | some "typeof" =>
          advance
          return (.typeOf (← g.unary .forbidden), .ignored)
      | some "delete" => return (← readRemoval g, .ignored)
      | some "await" =>
          advance
          return (.await (← g.unary .forbidden), .ignored)
      | _ => return (← readCounted g, rule)

/-- A power binds its right operand first. -/
def readUnary (g : Grammar) (rule : PowerRule) : Reader Expression := do
  let (operand, rule) ← readSigned g rule
  if rule ≠ .ignored && (← isMark "**") then
    if rule = .forbidden then complain .signedPower
    else
      advance
      return .binary .power operand (← g.unary .allowed)
  else return operand

/-- The operators of one rank. A higher number binds less. -/
def operatorsOf (level : Nat) : List (String × Operator) :=
  match level with
  | 1 => [("*", .multiply), ("/", .divide), ("%", .remainder)]
  | 2 => [("+", .add), ("-", .subtract)]
  | 3 => [("<<", .shiftLeft), (">>", .shiftRight), (">>>", .shiftPlain)]
  | 4 => [("<", .less), (">", .greater), ("<=", .atMost), (">=", .atLeast)]
  | 5 => [("==", .alike), ("!=", .unlike), ("===", .same), ("!==", .different)]
  | 6 => [("&", .bitAnd)]
  | 7 => [("^", .bitXor)]
  | 8 => [("|", .bitOr)]
  | _ => []

/-- The operator of a rank that stands here. -/
def Reading.operator? (reading : Reading) (level : Nat) (allowsIn : Bool) : Option Operator :=
  match reading.token with
  | .mark text => (operatorsOf level).lookup text
  | .word _ _ =>
      if level = 4 && reading.isKeyword "instanceof" then some .instanceOf
      else if level = 4 && allowsIn && reading.isKeyword "in" then some .among
      else none
  | _ => none

/-- Operands between operators up to a rank. -/
def readBinary (g : Grammar) (allowsIn : Bool) : Nat → Reader Expression
  | 0 => g.unary .allowed
  | level + 1 => do
      let first ← readBinary g allowsIn level
      repeatedly (fun left => do
        match (← get).operator? (level + 1) allowsIn with
        | some operator =>
            advance
            return (.binary operator left (← readBinary g allowsIn level), true)
        | none => return (left, false)) first

def highestRank : Nat := 8

/-- Operands of which all have to hold. -/
def readConjunction (g : Grammar) (allowsIn : Bool) : Reader Expression := do
  let first ← readBinary g allowsIn highestRank
  repeatedly (fun left => do
    if ← passMark "&&" then
      let joined := Expression.connect .both left (← readBinary g allowsIn highestRank)
      if ← isMark "??" then complain .mixedFallback else return (joined, true)
    else return (left, false)) first

/-- Operands of which one has to hold. -/
def readDisjunction (g : Grammar) (allowsIn : Bool) : Reader Expression := do
  let first ← readConjunction g allowsIn
  repeatedly (fun left => do
    if ← passMark "||" then
      let joined := Expression.connect .either left (← readConjunction g allowsIn)
      if ← isMark "??" then complain .mixedFallback else return (joined, true)
    else return (left, false)) first

/-- Operands that stand in for absent ones. -/
def readFallback (g : Grammar) (allowsIn : Bool) : Reader Expression := do
  let first ← readDisjunction g allowsIn
  repeatedly (fun left => do
    if ← passMark "??" then
      return (.connect .fallback left (← readBinary g allowsIn highestRank), true)
    else return (left, false)) first

/-- An expression that may choose between two others. -/
def readChoice (g : Grammar) (allowsIn : Bool) : Reader Expression := do
  let test ← readFallback g allowsIn
  if ← passMark "?" then
    let yes ← g.assignment true
    expectMark ":"
    return .choose test yes (← g.assignment allowsIn)
  else return test

/-- The operators that stand before the sign of an assignment. -/
def assignmentOperators : List (String × Operator) := [
  ("*=", .multiply), ("/=", .divide), ("%=", .remainder), ("+=", .add), ("-=", .subtract),
  ("<<=", .shiftLeft), (">>=", .shiftRight), (">>>=", .shiftPlain), ("&=", .bitAnd),
  ("^=", .bitXor), ("|=", .bitOr), ("**=", .power)]

def assignmentConnectives : List (String × Connective) := [
  ("&&=", .both), ("||=", .either), ("??=", .fallback)]

/-- The value has the name of the variable that it is assigned to, if the statement begins with
that name. -/
def titledFor (first : Option String) (target value : Expression) : Expression :=
  match target with
  | .name name => if first = some name then value.titled name else value
  | _ => value

/-- An assignment behind its target. -/
def readAssigned (g : Grammar) (allowsIn : Bool) (first : Option String) (target : Expression) :
    Reader Expression := do
  match (← get).token with
  | .mark text =>
      if text = "=" then
        advance
        requirePlace .noTarget target
        return .assign (.place target) (titledFor first target (← g.assignment allowsIn))
      else
        match assignmentOperators.lookup text, assignmentConnectives.lookup text with
        | some operator, _ =>
            advance
            requirePlace .noTarget target
            return .modify operator target (← g.assignment allowsIn)
        | none, some connective =>
            advance
            requirePlace .noTarget target
            return .settle connective target (titledFor first target (← g.assignment allowsIn))
        | none, none => return target
  | _ => return target

/-- A value that a function hands out one at a time. -/
def readYield (g : Grammar) (allowsIn : Bool) : Reader Expression := do
  let reading ← get
  if !reading.enclosure.isGenerator then complain .looseYield
  else
    advance
    let behind ← get
    let isEmpty := behind.opensLine || behind.isFinish ||
      [";", ")", "]", "\x7d", ",", ":"].any behind.isMark
    if isEmpty then return .yield false .nothing
    else
      let isDelegate ← passMark "*"
      return .yield isDelegate (← g.assignment allowsIn)

/-- An asynchronous function without a receiver of its own begins here. -/
def opensAsynchronousArrow : Reader Bool := do
  if !(← isPseudo "async") then return false
  else
    let behind ← glances true
    if behind = "function" || behind = "\n" then return false
    else
      match (← get).advance with
      | .error complaint => fun _ => .error complaint
      | .ok next =>
          if next.isMark "(" then
            return (next.lookThrough next.size [] true ⟨none, false, false, false⟩).hasArrow
          else
            match next.name? with
            | some (_, false) => return glance true next.size next.next.rest = "=>"
            | _ => return false

/-- An expression without a comma outside of brackets. -/
def readAssignment (g : Grammar) (allowsIn : Bool) : Reader Expression := do
  let reading ← get
  if reading.isKeyword "yield" then readYield g allowsIn
  else if reading.isMark "(" && (← looksThrough).hasArrow then readArrow g false reading.start
  else if ← opensAsynchronousArrow then
    advance
    readArrow g true reading.start
  else if reading.name?.isSome && (← glances true) = "=>" then readArrow g false reading.start
  else
    let target ← readChoice g allowsIn
    readAssigned g allowsIn (reading.name?.map Prod.fst) target

end HostBridge.Script
