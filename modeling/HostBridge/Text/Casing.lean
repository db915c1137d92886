/-
This file maps texts to upper case and to lower case.
-/
import HostBridge.Text.CaseTable

namespace HostBridge.Text

def moved (code : Nat) (shift : Int) : Char :=
  Char.ofNat (Int.ofNat code + shift).toNat

/-- A letter outside both tables stays as it is. -/
def mapCase (runs : List CaseRun) (expansions : List (Nat × List Nat)) (c : Char) : List Char :=
  match expansions.lookup c.toNat with
  | some codes => codes.map Char.ofNat
  | none =>
      match runs.find? (CaseRun.has · c.toNat) with
      | some run => [moved c.toNat run.shift]
      | none => [c]

def upperChar (c : Char) : List Char :=
  if c.toNat < 0x80 then [c.toUpper] else mapCase upperRuns upperExpansions c

def lowerChar (c : Char) : List Char :=
  if c.toNat < 0x80 then [c.toLower] else mapCase lowerRuns lowerExpansions c

def isCased (c : Char) : Bool := inRanges casedRanges c.toNat

def isCaseIgnorable (c : Char) : Bool := inRanges caseIgnorableRanges c.toNat

/-- The nearest character that does not lie between words of one letter case is cased. -/
def nextIsCased (text : List Char) : Bool :=
  match text.dropWhile isCaseIgnorable with
  | [] => false
  | c :: _ => isCased c

def toUpper (text : List Char) : List Char := text.flatMap upperChar

/-- A capital sigma at the end of a word has a lower case of its own. The first argument is the
text before, the nearest character first. -/
def lowerAfter : List Char → List Char → List Char
  | _, [] => []
  | before, c :: rest =>
      let mapped :=
        if c = 'Σ' then
          if nextIsCased before && !nextIsCased rest then ['ς'] else ['σ']
        else lowerChar c
      mapped ++ lowerAfter (c :: before) rest

def toLower (text : List Char) : List Char := lowerAfter [] text

end HostBridge.Text
