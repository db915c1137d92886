/-
This file reads statements.
-/
import HostBridge.Script.Reader.Expression

namespace HostBridge.Script

def Place.allowsFunction : Place → Bool
  | .single => false
  | _ => true

def Place.allowsOther : Place → Bool
  | .any => true
  | _ => false

/-- The statements with the functions that are made before them. -/
def Level.block (level : Level) (statements : List Statement) : Statement :=
  .block level.bindings (level.functions.reverse ++ statements)

/-- A statement with declarations of its own is a block. -/
def Level.wrap (level : Level) (statement : Statement) : Statement :=
  if level.names.isEmpty then statement else level.block [statement]

/-- Statements between braces. -/
def readBlock (g : Grammar) : Reader Statement := do
  expectMark "\x7b"
  enterLevel
  let statements ← repeatedly (fun before => do
    if ← isMark "\x7d" then return (before, false)
    else return ((← g.statement .any) :: before, true)) []
  let level ← leaveLevel
  advance
  return level.block statements.reverse

/-- The word `let` begins a declaration. -/
def opensLet (place : Place) : Reader Bool := do
  if !(← isPseudo "let") then return false
  else
    match (← get).advance with
    | .error complaint => fun _ => .error complaint
    | .ok next =>
        let isWord :=
          match next.name? with
          | some (_, isReserved) => !isReserved
          | none => ["let", "yield", "await"].any next.isKeyword
        if next.isMark "[" then return true
        else
          return (next.isMark "\x7b" || isWord) &&
            (next.lastLine = next.start.line || place.allowsOther)

/-- The manner of declaration that a statement begins with. -/
def declaration? (place : Place) : Reader (Option Declared) := do
  let reading ← get
  match reading.keyword? with
  | some "var" => return some .variable
  | some "const" => return some .constant
  | some "let" => return some .changeable
  | _ => if ← opensLet place then return some .changeable else return none

/-- A name or a pattern with the value that it is declared with. -/
def readDeclarator (g : Grammar) (declared : Declared) (allowsIn : Bool) : Reader Target := do
  let reading ← get
  match reading.name? with
  | some (name, true) => complain (.reservedName name)
  | some (name, false) =>
      if name = "let" && declared ≠ .variable then complain .lexicalLet
      else
        advance
        declareName declared name
        if ← passMark "=" then
          let value ← g.assignment allowsIn
          return .given (.place (.name name)) (value.titled name)
        else if declared = .constant then complain .noInitializer
        else return .place (.name name)
  | none =>
      if reading.isMark "[" || reading.isMark "\x7b" then
        if (← looksThrough).mark? = some "=" then g.target (.declared declared) true false
        else complain .namelessVariable
      else complain .namelessVariable

def readDeclaration (g : Grammar) (declared : Declared) (allowsIn : Bool) : Reader Statement := do
  advance
  let parts ← repeatedly (fun before => do
    let part ← readDeclarator g declared allowsIn
    if ← passMark "," then return (part :: before, true)
    else return (part :: before, false)) []
  return .declare declared parts.reverse

/-- A choice between two statements. -/
def readBranch (g : Grammar) : Reader Statement := do
  advance
  enterLevel
  let test ← readEnclosed g
  let place := if (← get).enclosure.isStrict then Place.single else .singleOrFunction
  let yes ← g.statement place
  let no ←
    if ← isKeyword "else" then do
      advance
      g.statement place
    else pure .empty
  let level ← leaveLevel
  return level.wrap (.branch test yes no)

def loopExit (label : Option String) : Exit := ⟨label, true, true⟩

def readWhile (g : Grammar) (label : Option String) : Reader Statement := do
  advance
  insideExit (loopExit label) do
    let test ← readEnclosed g
    return .whileLoop test (← g.statement .single)

def readUntil (g : Grammar) (label : Option String) : Reader Statement := do
  advance
  insideExit (loopExit label) do
    let body ← g.statement .single
    if !(← isKeyword "while") then complain .expectingKeyword
    else
      advance
      let test ← readEnclosed g
      let _ ← passMark ";"
      return .untilLoop body test

/-- An expression up to a mark, unless the mark stands here. -/
def readUpTo (g : Grammar) (closing : String) : Reader Expression := do
  let part ← if ← isMark closing then pure .nothing else readExpression g
  expectMark closing
  return part

/-- A loop with a start, a test and a step. -/
def readCountedLoop (g : Grammar) (label : Option String) : Reader Statement := do
  enterLevel
  let start ←
    if ← isMark ";" then pure Statement.empty
    else do
      match ← declaration? .any with
      | some declared => readDeclaration g declared false
      | none => pure (.value (← readSequence g false))
  expectMark ";"
  let test ← readUpTo g ";"
  let step ← readUpTo g ")"
  let body ← insideExit (loopExit label) (g.statement .single)
  let level ← leaveLevel
  return .countedLoop level.bindings start test step body

/-- The target of a loop that declares it. The flag says whether it is a pattern. -/
def readLoopDeclaration (g : Grammar) (declared : Declared) : Reader (Target × Bool) := do
  advance
  let reading ← get
  match reading.name? with
  | some (name, false) =>
      advance
      declareName declared name
      return (.place (.name name), false)
  | _ =>
      if reading.isMark "[" || reading.isMark "\x7b" then
        return (← g.target (.declared declared) false false, true)
      else complain .namelessVariable

/-- The target of a loop that assigns to it. -/
def readLoopTarget (g : Grammar) : Reader Target := do
  let opensBracket := (← isMark "[") || (← isMark "\x7b")
  if opensBracket && (← looksThrough).hasLoopWord then g.target .assigned true false
  else
    let place ← g.suffixed true
    requirePlace .noLoopTarget place
    return .place place

/-- The word between the target and the source of a loop. The answer says whether the loop runs over
values. -/
def readLoopWord (declared : Option Declared) (hasValue isPattern : Bool) : Reader Bool := do
  let reading ← get
  if reading.isPseudo "of" then
    if hasValue then complain (.loopInitializer "of")
    else
      advance
      return true
  else if reading.isKeyword "in" then
    let isAllowed := declared = some .variable && !reading.enclosure.isStrict && !isPattern
    if hasValue && !isAllowed then complain (.loopInitializer "in")
    else
      advance
      return false
  else complain .noLoopWord

/-- A loop over keys or values. -/
def readMemberLoop (g : Grammar) (label : Option String) : Reader Statement := do
  enterLevel
  let declared ← declaration? .any
  let (target, isPattern) ←
    match declared with
    | some kind => readLoopDeclaration g kind
    | none => do pure (← readLoopTarget g, false)
  let hasValue ← isMark "="
  let before ←
    if ← passMark "=" then g.assignment false else pure .nothing
  let ofValues ← readLoopWord declared hasValue isPattern
  let source ← if ofValues then g.assignment true else readExpression g
  expectMark ")"
  let body ← insideExit (loopExit label) (g.statement .single)
  let level ← leaveLevel
  return .memberLoop level.bindings ofValues declared target before source body

def readFor (g : Grammar) (label : Option String) : Reader Statement := do
  advance
  if ← isKeyword "await" then advance
  else if ← isPseudo "await" then complain .awaitLoop
  let hasSemicolon ← if ← isMark "(" then do pure (← looksThrough).hasSemicolon else pure false
  expectMark "("
  if hasSemicolon then readCountedLoop g label else readMemberLoop g label

/-- A way out of a statement. -/
def readExit (proceeds : Bool) : Reader Statement := do
  advance
  let reading ← get
  let label :=
    match reading.name?, reading.opensLine with
    | some (name, false), false => some name
    | _, _ => none
  match reading.enclosure.flawOfExit? label proceeds with
  | some flaw => complain flaw
  | none =>
      if label.isSome then advance
      endStatement
      return if proceeds then .proceed label else .leave label

/-- The parts of a choice between many values, the last one first. -/
structure SelectDraft where
  statements : List Statement
  hasDefault : Bool

/-- A case or a statement of a choice, and whether another one may follow. -/
def readSelectPart (g : Grammar) (draft : SelectDraft) : Reader (SelectDraft × Bool) := do
  let reading ← get
  if reading.isMark "\x7d" then return (draft, false)
  else if reading.isKeyword "case" then
    advance
    let test ← readExpression g
    expectMark ":"
    return ({ draft with statements := .case test :: draft.statements }, true)
  else if reading.isKeyword "default" then
    advance
    expectMark ":"
    if draft.hasDefault then complain .twoDefaults
    else return (⟨.case .nothing :: draft.statements, true⟩, true)
  else if draft.statements.isEmpty then complain .strayCase
  else
    let statement ← g.statement .any
    return ({ draft with statements := statement :: draft.statements }, true)

def readSelect (g : Grammar) (label : Option String) : Reader Statement := do
  advance
  let subject ← readEnclosed g
  enterLevel
  let draft ← insideExit ⟨label, true, false⟩ do
    expectMark "\x7b"
    repeatedly (readSelectPart g) ⟨[], false⟩
  let level ← leaveLevel
  advance
  return .select subject level.bindings (level.functions.reverse ++ draft.statements.reverse)

/-- The name or the pattern for a caught value. -/
def readCaught (g : Grammar) : Reader Target := do
  expectMark "("
  let reading ← get
  let target ←
    match reading.name? with
    | some (name, false) => do
        advance
        if (← get).enclosure.isStrict && strictNames.contains name then complain .strictVariable
        else
          declareLexical name .caught
          pure (Target.place (.name name))
    | _ =>
        if reading.isMark "[" || reading.isMark "\x7b" then
          g.target (.declared .changeable) true false
        else complain .noName
  expectMark ")"
  return target

/-- What is done with a value that is thrown. -/
def readHandler (g : Grammar) (body : Statement) : Reader Statement := do
  advance
  enterLevel
  let caught ← if ← isMark "\x7b" then pure Target.gap else readCaught g
  let handler ← readBlock g
  let level ← leaveLevel
  return .attempt body (level.names.map fun entry => (entry.1, false)) caught handler

def readAttempt (g : Grammar) : Reader Statement := do
  advance
  let body ← readBlock g
  let hasHandler ← isKeyword "catch"
  let guarded ← if hasHandler then readHandler g body else pure body
  if ← isKeyword "finally" then
    advance
    return .final guarded (← readBlock g)
  else if hasHandler then return guarded
  else complain .noHandler

def readWith (g : Grammar) : Reader Statement := do
  if (← get).enclosure.isStrict then complain .strictWith
  else
    advance
    let object ← readEnclosed g
    enterLevel
    let body ← g.statement .single
    let _ ← leaveLevel
    return .within object body

def readReturn (g : Grammar) : Reader Statement := do
  if (← get).enclosure.origin.isSome then complain .looseReturn
  else
    advance
    let reading ← get
    let isEmpty := reading.isMark ";" || reading.isMark "\x7d" || reading.opensLine
    let value ← if isEmpty then pure Expression.nothing else readExpression g
    endStatement
    return .answer value

def readThrow (g : Grammar) : Reader Statement := do
  advance
  if (← get).opensLine then complain .brokenThrow
  else
    let value ← readExpression g
    endStatement
    return .raise value

/-- A function in a block. A loose one becomes a variable of the function around the block too. -/
def readBlockFunction (g : Grammar) : Reader Statement := do
  let start ← readFunctionWords true
  let name := start.name.getD ""
  let enclosure := (← get).enclosure
  let isPlain := !start.isGenerator && !start.isAsynchronous
  let isPublished := !enclosure.isStrict && isPlain && !enclosure.declares name false &&
    !enclosure.parameters.contains name
  declareLexical name (if isPlain then .function else .special)
  let content ← g.function start
  changeLevel fun level => { level with functions := .function name content :: level.functions }
  if isPublished then
    addVariable name
    return .publish name
  else return .empty

/-- A statement that begins with no word of its own. -/
def readValue (g : Grammar) : Reader Statement := do
  let value ← readExpression g
  endStatement
  return .value value

/-- A loop may have a label. -/
def readLoop? (g : Grammar) (label : Option String) : Reader (Option Statement) := do
  match (← get).keyword? with
  | some "while" => return some (← readWhile g label)
  | some "do" => return some (← readUntil g label)
  | some "for" => return some (← readFor g label)
  | _ => return none

/-- The label of a statement that stands here. -/
def label? : Reader (Option String) := do
  match (← get).name? with
  | some (name, false) => if (← glances false) = ":" then return some name else return none
  | _ => return none

def readLabelled (g : Grammar) (place : Place) (label : String) : Reader Statement := do
  if (← get).enclosure.exits.any fun exit => exit.label = some label then complain .twoLabels
  else
    advance
    expectMark ":"
    match ← readLoop? g (some label) with
    | some loop => return .labelled label loop
    | none =>
        let isOpen := !(← get).enclosure.isStrict && (place = .any || place = .labelled)
        let body ← insideExit ⟨some label, false, false⟩
          (g.statement (if isOpen then .labelled else .single))
        return .labelled label body

/-- A statement that begins with a keyword. -/
def readKeywordStatement (g : Grammar) (place : Place) (word : String) : Reader Statement := do
  match word with
  | "return" => readReturn g
  | "throw" => readThrow g
  | "if" => readBranch g
  | "while" | "do" | "for" => return (← readLoop? g none).getD .empty
  | "break" => readExit false
  | "continue" => readExit true
  | "switch" => readSelect g none
  | "try" => readAttempt g
  | "with" => readWith g
  | "function" =>
      let isGenerator := (← glances false) = "*"
      if !place.allowsFunction || (!place.allowsOther && isGenerator) then
        complain .lonelyFunction
      else readBlockFunction g
  | "class" =>
      if !place.allowsOther then complain .lonelyClass
      else
        let (name, content) ← readClass g true
        return .blueprint (name.getD "") content
  | "debugger" =>
      advance
      endStatement
      return .empty
  | "enum" | "export" | "extends" => complain (.unsupported word)
  | _ => readValue g

/-- A statement that begins with a name. -/
def readNameStatement (g : Grammar) (place : Place) (name : String) (isReserved : Bool) :
    Reader Statement := do
  if isReserved then complain (.reservedName name)
  else if (← isPseudo "async") && (← glances true) = "function" then
    if place.allowsOther then readBlockFunction g else complain .lonelyFunction
  else readValue g

/-- A statement without a label. -/
def readPlainStatement (g : Grammar) (place : Place) : Reader Statement := do
  let reading ← get
  match ← declaration? place with
  | some declared =>
      if declared ≠ .variable && !place.allowsOther then complain .lonelyDeclaration
      else
        let statement ← readDeclaration g declared true
        endStatement
        return statement
  | none =>
      match reading.keyword?, reading.name? with
      | some word, _ => readKeywordStatement g place word
      | none, some (name, isReserved) => readNameStatement g place name isReserved
      | none, none =>
          if reading.isMark "\x7b" then readBlock g
          else if ← passMark ";" then return .empty
          else readValue g

/-- A statement with the line on which it begins. -/
def readStatement (g : Grammar) (place : Place) : Reader Statement := do
  let line := (← get).start.line
  match ← label? with
  | some label => return .line line (← readLabelled g place label)
  | none => return .line line (← readPlainStatement g place)

end HostBridge.Script
