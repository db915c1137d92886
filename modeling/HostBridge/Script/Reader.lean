/-
This file reads the texts of scripts as programs.
-/
import HostBridge.Script.Reader.Statement

namespace HostBridge.Script

/-- Readings of texts that are nested less deep than the argument says. -/
def grammarWithin : Nat → Grammar
  | 0 => {
      assignment := fun _ => complain .tooDeep
      unary := fun _ => complain .tooDeep
      suffixed := fun _ => complain .tooDeep
      target := fun _ _ _ => complain .tooDeep
      function := fun _ => complain .tooDeep
      statement := fun _ => complain .tooDeep }
  | depth + 1 => {
      assignment := fun allowsIn reading => readAssignment (grammarWithin depth) allowsIn reading
      unary := fun rule reading => readUnary (grammarWithin depth) rule reading
      suffixed := fun allowsCall reading => readSuffixed (grammarWithin depth) allowsCall reading
      target := fun binder allowsValue needsValue reading =>
        readTarget (grammarWithin depth) binder allowsValue needsValue reading
      function := fun start reading => readFunction (grammarWithin depth) start reading
      statement := fun place reading => readStatement (grammarWithin depth) place reading }

/-- Texts are not nested deeper than this. -/
def deepestNesting : Nat := 2500

/-- What the text of a script may refer to. -/
structure Occasion where
  origin : Origin
  mode : Mode
  allowsSuper : Bool
  allowsParent : Bool
  allowsNewTarget : Bool

def Occasion.plain (origin : Origin) (mode : Mode) : Occasion := ⟨origin, mode, false, false, false⟩

def Occasion.enclosure (occasion : Occasion) : Enclosure :=
  { (default : Enclosure) with
    mode := occasion.mode
    origin := some occasion.origin
    allowsSuper := occasion.allowsSuper
    allowsParent := occasion.allowsParent
    allowsNewTarget := occasion.allowsNewTarget }

/-- A script may begin with a line for the system that it is run on. -/
def Cursor.skipInterpreter (cursor : Cursor) : Cursor :=
  match cursor.rest with
  | '#' :: '!' :: _ => cursor.skipLine
  | _ => cursor

/-- The reading at the beginning of a text. -/
def Reading.ofText (enclosure : Enclosure) (text : String) : Reading :=
  let characters := text.toList
  let start : Cursor := ⟨characters, 0, 1⟩
  { size := characters.length
    start := start
    token := .finish
    opensLine := false
    next := start.skipInterpreter
    lastEnd := 0
    lastLine := 1
    enclosure := enclosure
    outer := [] }

/-- A whole text. Functions are made before the first statement. -/
def readProgram (g : Grammar) : Reader Program := do
  advance
  readDirectives
  enterLevel
  let statements ← repeatedly (fun before => do
    if ← asks Reading.isFinish then return (before, false)
    else return (← readSourceElement g before, true)) []
  let level ← leaveLevel
  let enclosure := (← get).enclosure
  return {
    mode := enclosure.mode
    variableNames := enclosure.variableNames
    names := level.bindings
    statements := level.functions.reverse ++ statements.reverse
    callsEval := enclosure.callsEval }

/-- The program that a text is. -/
def Program.ofText (occasion : Occasion) (text : String) : Except Complaint Program :=
  ((readProgram (grammarWithin deepestNesting)).run
    (Reading.ofText occasion.enclosure text)).map Prod.fst

/-- A text that is written as the body of a function, with the texts of its parameters. -/
def FunctionText.ofText (parameters body : String) (isGenerator isAsynchronous : Bool) :
    Except Complaint FunctionText :=
  let word := (if isAsynchronous then "async " else "") ++ "function" ++
    (if isGenerator then "*" else "")
  let text := "(" ++ word ++ " anonymous(" ++ parameters ++ "\n) \x7b\n" ++ body ++ "\n\x7d)"
  match Program.ofText (.plain .evaluated .loose) text with
  | .error complaint => .error complaint
  | .ok program =>
      match program.statements with
      | [.line _ (.value (.function heading targets statements))] =>
          .ok ⟨heading, targets, statements⟩
      | _ => .error ⟨.noParameter, 1⟩

end HostBridge.Script
