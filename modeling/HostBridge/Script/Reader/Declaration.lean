/-
This file keeps account of the names that a script declares while it is read.
-/
import HostBridge.Script.Reader.Basic

namespace HostBridge.Script

/-- Names that no strict script assigns to. -/
def strictNames : List String := ["eval", "arguments"]

def Enclosure.isStrict (enclosure : Enclosure) : Bool := enclosure.mode = .strict

/-- The variables of a script are global ones. A strict script that another one evaluates keeps them
to itself. -/
def Enclosure.isGlobal (enclosure : Enclosure) : Bool :=
  match enclosure.origin with
  | none => false
  | some .whole => true
  | some _ => !enclosure.isStrict

def enterLevel : Reader Unit :=
  changeEnclosure fun enclosure => { enclosure with
    levels := ⟨enclosure.nextLevel, [], []⟩ :: enclosure.levels
    nextLevel := enclosure.nextLevel + 1 }

/-- The declarations of the level that ends. -/
def leaveLevel : Reader Level := do
  let reading ← get
  match reading.enclosure.levels with
  | [] => complain .tooDeep
  | level :: outer =>
      changeEnclosure fun enclosure => { enclosure with levels := outer }
      return level

def changeLevel (change : Level → Level) : Reader Unit :=
  changeEnclosure fun enclosure =>
    match enclosure.levels with
    | [] => enclosure
    | level :: outer => { enclosure with levels := change level :: outer }

/-- The names of a level, of which the constants are marked. -/
def Level.bindings (level : Level) : List (String × Bool) :=
  (level.names.filter fun entry => entry.2 ≠ .caught).map fun entry =>
    (entry.1, entry.2 = .constant)

/-- The name is declared at a level of its own. The flag says whether caught values count. -/
def Enclosure.declares (enclosure : Enclosure) (name : String) (withCaught : Bool) : Bool :=
  enclosure.levels.any fun level =>
    match level.names.lookup name with
    | some .caught => withCaught
    | some _ => true
    | none => false

/-- What is wrong with one more declaration of a name at the innermost level. -/
def Enclosure.flawOfLexical? (enclosure : Enclosure) (name : String) (naming : Naming) :
    Option Flaw :=
  match enclosure.levels with
  | [] => none
  | level :: outer =>
      let isFunction := naming = .function || naming = .special
      match level.names.lookup name with
      | some old =>
          if enclosure.isStrict || naming ≠ .function || old ≠ .function then some .secondLexical
          else none
      | none =>
          let isCaught := (outer.head?.bind (List.lookup name ·.names)) = some .caught
          if isCaught then some .secondLexical
          else if !isFunction && outer.isEmpty && enclosure.parameters.contains name then
            some .secondParameter
          else if enclosure.places.any fun entry =>
              entry.1 = name && entry.2.contains level.number then
            some (if enclosure.isGlobal then .secondGlobal else .secondVariable)
          else none

/-- Declares a name at the innermost level. -/
def declareLexical (name : String) (naming : Naming) : Reader Unit := do
  match (← get).enclosure.flawOfLexical? name naming with
  | some flaw => complain flaw
  | none =>
      changeLevel fun level =>
        if (level.names.lookup name).isSome then level
        else { level with names := level.names ++ [(name, naming)] }

/-- Adds a variable without any question. -/
def addVariable (name : String) : Reader Unit :=
  changeEnclosure fun enclosure => { enclosure with
    places := enclosure.places ++ [(name, enclosure.levels.map Level.number)] }

def declareVariable (name : String) : Reader Unit := do
  if (← get).enclosure.declares name false then complain .secondLexical
  else addVariable name

/-- Declares a name as a statement does. -/
def declareName (declared : Declared) (name : String) : Reader Unit := do
  let isLexical := declared ≠ .variable
  if (← get).enclosure.isStrict && strictNames.contains name then complain .strictVariable
  else if isLexical && (name = "let" || name = "undefined") then complain .badLexical
  else
    match declared with
    | .variable => declareVariable name
    | .changeable => declareLexical name .changeable
    | .constant => declareLexical name .constant

/-- The variables of a function, each once and without its parameters. -/
def Enclosure.variableNames (enclosure : Enclosure) : List String :=
  (enclosure.places.map Prod.fst).eraseDups

def enterExit (exit : Exit) : Reader Unit :=
  changeEnclosure fun enclosure => { enclosure with exits := exit :: enclosure.exits }

def leaveExit : Reader Unit :=
  changeEnclosure fun enclosure => { enclosure with exits := enclosure.exits.drop 1 }

/-- Reads inside a statement that can be left. -/
def insideExit {A : Type} (exit : Exit) (read : Reader A) : Reader A := do
  enterExit exit
  let found ← read
  leaveExit
  return found

/-- What is wrong with a way out of a statement. -/
def Enclosure.flawOfExit? (enclosure : Enclosure) (label : Option String) (proceeds : Bool) :
    Option Flaw :=
  let fits (exit : Exit) : Bool :=
    (if label.isNone then proceeds || exit.canLeave else exit.label = label) &&
      (!proceeds || exit.canProceed)
  if enclosure.exits.any fits then none
  else if label.isSome then some .noLabel
  else if proceeds then some .looseContinue
  else some .looseBreak

/-- Reads a function inside the one that is being read. -/
def insideEnclosure {A : Type} (enclosure : Enclosure) (read : Reader A) :
    Reader (A × Enclosure) := do
  modify fun reading => { reading with
    enclosure := enclosure
    outer := reading.enclosure :: reading.outer }
  let found ← read
  let reading ← get
  match reading.outer with
  | [] => complain .tooDeep
  | outer :: rest =>
      set { reading with enclosure := outer, outer := rest }
      return (found, reading.enclosure)

end HostBridge.Script
