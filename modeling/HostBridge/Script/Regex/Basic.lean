/-
This file defines the patterns that scripts look for in texts.
-/
import HostBridge.Script.Syntax

namespace HostBridge.Script

structure RegexFlags where
  hasIndices : Bool
  isGlobal : Bool
  ignoresCase : Bool
  isMultiline : Bool
  dotAll : Bool
  isUnicode : Bool
  isSticky : Bool

def RegexFlags.unset : RegexFlags := ⟨false, false, false, false, false, false, false⟩

/-- A flag is set at most once. -/
def RegexFlags.set? (flags : RegexFlags) (letter : Nat) : Option RegexFlags :=
  if letter = 'd'.toNat && !flags.hasIndices then some { flags with hasIndices := true }
  else if letter = 'g'.toNat && !flags.isGlobal then some { flags with isGlobal := true }
  else if letter = 'i'.toNat && !flags.ignoresCase then some { flags with ignoresCase := true }
  else if letter = 'm'.toNat && !flags.isMultiline then some { flags with isMultiline := true }
  else if letter = 's'.toNat && !flags.dotAll then some { flags with dotAll := true }
  else if letter = 'u'.toNat && !flags.isUnicode then some { flags with isUnicode := true }
  else if letter = 'y'.toNat && !flags.isSticky then some { flags with isSticky := true }
  else none

def RegexFlags.ofUnits? (letters : Units) : Option RegexFlags :=
  letters.foldlM (fun flags letter => flags.set? letter.toNat) RegexFlags.unset

/-- The code points or code units of a text are matched one by one. -/
inductive Regex where
  | empty
  | code (value : Nat)
  /-- Any character, line ends only if the flags say so. -/
  | any
  | set (isNegative : Bool) (ranges : List (Nat × Nat))
  | sequence (first second : Regex)
  | either (first second : Regex)
  /-- The groups from the first one up to the last one begin anew in every round. -/
  | repeated (least : Nat) (most : Option Nat) (isGreedy : Bool) (first last : Nat) (body : Regex)
  | group (index : Nat) (body : Regex)
  /-- The text of a group once more. -/
  | reference (index : Nat)
  | start
  | finish
  | boundary (isNegative : Bool)
  /-- A look ahead or behind, which moves nothing. -/
  | look (isBehind isNegative : Bool) (body : Regex)

instance : Inhabited Regex := ⟨.empty⟩

/-- A pattern that can be matched. -/
structure RegexProgram where
  flags : RegexFlags
  body : Regex
  /-- The number of groups, of which the first is the whole match. -/
  groups : Nat
  names : List (Units × Nat)

instance : Inhabited RegexProgram := ⟨⟨.unset, .empty, 1, []⟩⟩

/-- The reason why a text is no pattern. -/
inductive RegexFlaw where
  | badFlags
  | expecting (text : String)
  | nothingRepeated
  | badCount
  | strayMark
  | badGroup
  | badGroupName
  | secondGroupName
  | noGroupName
  | unknownGroupName
  | tooManyGroups
  | noGroup
  | badDecimal
  | badEscape
  | badRange
  | ended
  | trailing
  | noBrace
  | unknownProperty
  | tooDeep

def RegexFlaw.message : RegexFlaw → String
  | .badFlags => "invalid regular expression flags"
  | .expecting text => s!"expecting '{text}'"
  | .nothingRepeated => "nothing to repeat"
  | .badCount => "invalid repetition count"
  | .strayMark => "syntax error"
  | .badGroup => "invalid group"
  | .badGroupName => "invalid group name"
  | .secondGroupName => "duplicate group name"
  | .noGroupName => "expecting group name"
  | .unknownGroupName => "group name not defined"
  | .tooManyGroups => "too many captures"
  | .noGroup => "back reference out of range in regular expression"
  | .badDecimal => "invalid decimal escape in regular expression"
  | .badEscape => "invalid escape sequence in regular expression"
  | .badRange => "invalid class range"
  | .ended => "unexpected end"
  | .trailing => "extraneous characters at the end"
  | .noBrace => "expecting '\x7b' after \\p"
  | .unknownProperty => "unknown unicode property name"
  | .tooDeep => "stack overflow"

end HostBridge.Script
