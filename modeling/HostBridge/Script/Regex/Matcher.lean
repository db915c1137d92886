/-
This file finds the places in a text at which a pattern matches.
-/
import HostBridge.Script.Regex.Basic
import HostBridge.Text.Casing

namespace HostBridge.Script

/-- What a pattern is looked for in. -/
structure RegexSubject where
  units : Array UInt16
  flags : RegexFlags

/-- The groups that are matched so far, each from its first place up to its end. -/
abbrev RegexGroups := Array (Option (Nat × Nat))

/-- What is still to be matched. -/
inductive RegexTask where
  | part (regex : Regex) (isBack : Bool)
  /-- A group ends whose match began at this place. -/
  | close (index start : Nat)
  /-- A round of a repetition is over. The place at which it began is given where the round has
  to move on. -/
  | again (least : Nat) (most : Option Nat) (isGreedy : Bool) (first last : Nat) (body : Regex)
      (isBack : Bool) (began : Option Nat)

/-- One way of matching. -/
structure RegexAttempt where
  tasks : List RegexTask
  place : Nat
  groups : RegexGroups

def RegexSubject.unit? (subject : RegexSubject) (place : Nat) : Option Nat :=
  subject.units[place]?.map UInt16.toNat

/-- The character behind a place and the place after it. -/
def RegexSubject.forward? (subject : RegexSubject) (place : Nat) : Option (Nat × Nat) :=
  match subject.units[place]?, subject.units[place + 1]? with
  | none, _ => none
  | some high, some low =>
      if subject.flags.isUnicode && Text.isHighSurrogate high && Text.isLowSurrogate low then
        some ((Text.pairedChar high low).toNat, place + 2)
      else some (high.toNat, place + 1)
  | some unit, none => some (unit.toNat, place + 1)

/-- The character before a place and the place before it. -/
def RegexSubject.backward? (subject : RegexSubject) (place : Nat) : Option (Nat × Nat) :=
  match place with
  | 0 => none
  | 1 => (subject.unit? 0).map fun code => (code, 0)
  | before + 2 =>
      match subject.units[before]?, subject.units[before + 1]? with
      | some high, some low =>
          if subject.flags.isUnicode && Text.isHighSurrogate high && Text.isLowSurrogate low then
            some ((Text.pairedChar high low).toNat, before)
          else some (low.toNat, before + 1)
      | _, _ => none

def RegexSubject.next? (subject : RegexSubject) (isBack : Bool) (place : Nat) :
    Option (Nat × Nat) :=
  if isBack then subject.backward? place else subject.forward? place

/-- The code of a mapped character, if it is a single one. -/
def singleCode (code : Nat) (mapped : List Char) : Nat :=
  match mapped with
  | [c] => c.toNat
  | _ => code

def isSurrogateCode (code : Nat) : Bool := 0xD800 ≤ code && code < 0xE000

def upperCode (code : Nat) : Nat :=
  if isSurrogateCode code then code else singleCode code (Text.upperChar (Char.ofNat code))

def lowerCode (code : Nat) : Nat :=
  if isSurrogateCode code then code else singleCode code (Text.lowerChar (Char.ofNat code))

/-- Characters that differ in their case only have one form. -/
def RegexSubject.fold (subject : RegexSubject) (code : Nat) : Nat :=
  if !subject.flags.ignoresCase then code
  else if subject.flags.isUnicode then lowerCode code
  else
    let upper := upperCode code
    if 0x80 ≤ code && upper < 0x80 then code else upper

def inCodeRanges (ranges : List (Nat × Nat)) (code : Nat) : Bool :=
  ranges.any fun range => range.1 ≤ code && code ≤ range.2

/-- A character or one that differs in its case only lies in the ranges. -/
def RegexSubject.holds (subject : RegexSubject) (ranges : List (Nat × Nat)) (code : Nat) : Bool :=
  inCodeRanges ranges code ||
    (subject.flags.ignoresCase &&
      [upperCode code, lowerCode code].any fun other =>
        subject.fold other = subject.fold code && inCodeRanges ranges other)

def isLineEndCode (code : Nat) : Bool :=
  code = 10 || code = 13 || code = 0x2028 || code = 0x2029

def isWordCode (code : Nat) : Bool :=
  (0x30 ≤ code && code ≤ 0x39) || (0x41 ≤ code && code ≤ 0x5A) || code = 0x5F ||
    (0x61 ≤ code && code ≤ 0x7A)

/-- The pattern matches a single character here. -/
def RegexSubject.accepts (subject : RegexSubject) (regex : Regex) (code : Nat) : Bool :=
  match regex with
  | .code value => subject.fold value = subject.fold code
  | .any => subject.flags.dotAll || !isLineEndCode code
  | .set isNegative ranges => subject.holds ranges code != isNegative
  | _ => false

/-- The line begins at a place. -/
def RegexSubject.isStart (subject : RegexSubject) (place : Nat) : Bool :=
  place = 0 ||
    (subject.flags.isMultiline && ((subject.unit? (place - 1)).map isLineEndCode).getD false)

def RegexSubject.isFinish (subject : RegexSubject) (place : Nat) : Bool :=
  place = subject.units.size ||
    (subject.flags.isMultiline && ((subject.unit? place).map isLineEndCode).getD false)

/-- A word begins or ends at a place. -/
def RegexSubject.isBoundary (subject : RegexSubject) (place : Nat) : Bool :=
  let before := place ≠ 0 && ((subject.unit? (place - 1)).map isWordCode).getD false
  let behind := ((subject.unit? place).map isWordCode).getD false
  before != behind

/-- The place after the text between two places once more. The first argument counts the units. -/
def RegexSubject.repeatText? (subject : RegexSubject) (isBack : Bool) :
    Nat → Nat → Nat → Nat → Option Nat
  | 0, _, _, place => some place
  | bound + 1, first, last, place =>
      if last ≤ first then some place
      else
        match subject.next? isBack (if isBack then last else first), subject.next? isBack place with
        | some (wanted, reached), some (found, place) =>
            if subject.fold wanted ≠ subject.fold found then none
            else if isBack then subject.repeatText? isBack bound first reached place
            else subject.repeatText? isBack bound reached last place
        | _, _ => none

def RegexGroups.clear (groups : RegexGroups) (first last : Nat) : RegexGroups :=
  (List.range (last - first)).foldl (fun groups offset => groups.set! (first + offset) none) groups

/-- Another round of a repetition, the way on without one, or both in the order in which they are
tried. -/
def RegexAttempt.branch (attempt : RegexAttempt) (rest : List RegexTask) (least : Nat)
    (most : Option Nat) (isGreedy : Bool) (first last : Nat) (body : Regex) (isBack : Bool) :
    List RegexAttempt :=
  let began := if least = 0 then some attempt.place else none
  let round : RegexAttempt := { attempt with
    tasks := .part body isBack ::
      .again (least - 1) (most.map (· - 1)) isGreedy first last body isBack began :: rest
    groups := attempt.groups.clear first last }
  let finished : RegexAttempt := { attempt with tasks := rest }
  if most = some 0 then [finished]
  else if 0 < least then [round]
  else if isGreedy then [round, finished]
  else [finished, round]

/-- The ways on from a part of the pattern. The search looks ahead or behind. -/
def RegexSubject.enter (subject : RegexSubject) (search : RegexAttempt → Option RegexAttempt)
    (attempt : RegexAttempt) (rest : List RegexTask) (regex : Regex) (isBack : Bool) :
    List RegexAttempt :=
  let onward : RegexAttempt := { attempt with tasks := rest }
  let only (holds : Bool) : List RegexAttempt := if holds then [onward] else []
  match regex with
  | .empty => [onward]
  | .code _ | .any | .set _ _ =>
      match subject.next? isBack attempt.place with
      | some (code, place) =>
          if subject.accepts regex code then [{ onward with place := place }] else []
      | none => []
  | .sequence first second =>
      let parts := if isBack then [second, first] else [first, second]
      [{ attempt with tasks := parts.map (RegexTask.part · isBack) ++ rest }]
  | .either first second => [
      { attempt with tasks := .part first isBack :: rest },
      { attempt with tasks := .part second isBack :: rest }]
  | .repeated least most isGreedy first last body =>
      attempt.branch rest least most isGreedy first last body isBack
  | .group index body =>
      [{ attempt with tasks := .part body isBack :: .close index attempt.place :: rest }]
  | .reference index =>
      match attempt.groups[index]?.join with
      | none => [onward]
      | some (first, last) =>
          match subject.repeatText? isBack (last - first) first last attempt.place with
          | some place => [{ onward with place := place }]
          | none => []
  | .start => only (subject.isStart attempt.place)
  | .finish => only (subject.isFinish attempt.place)
  | .boundary isNegative => only (subject.isBoundary attempt.place != isNegative)
  | .look isBehind isNegative body =>
      match search { attempt with tasks := [.part body isBehind] }, isNegative with
      | some found, false => [{ onward with groups := found.groups }]
      | none, true => [onward]
      | _, _ => []

/-- The ways on from an attempt, the first one first. -/
def RegexSubject.step (subject : RegexSubject) (search : RegexAttempt → Option RegexAttempt)
    (attempt : RegexAttempt) : List RegexAttempt :=
  match attempt.tasks with
  | [] => [attempt]
  | .part regex isBack :: rest => subject.enter search attempt rest regex isBack
  | .close index start :: rest =>
      let group := (min start attempt.place, max start attempt.place)
      [{ attempt with tasks := rest, groups := attempt.groups.set! index (some group) }]
  | .again least most isGreedy first last body isBack began :: rest =>
      if began = some attempt.place then []
      else attempt.branch rest least most isGreedy first last body isBack

/-- The first attempt that leaves nothing to be matched. The first argument bounds the steps. -/
def RegexSubject.run (subject : RegexSubject) : Nat → List RegexAttempt → Option RegexAttempt
  | 0, _ => none
  | _, [] => none
  | bound + 1, attempt :: others =>
      if attempt.tasks.isEmpty then some attempt
      else
        let search (inner : RegexAttempt) := RegexSubject.run subject bound [inner]
        RegexSubject.run subject bound (subject.step search attempt ++ others)

/-- No search takes more steps than this. -/
def regexSteps : Nat := 10000000

/-- The groups of a match that begins at a place. -/
def RegexProgram.matchAt? (program : RegexProgram) (subject : RegexSubject) (place : Nat) :
    Option RegexGroups :=
  let groups : RegexGroups := Array.replicate program.groups none
  (subject.run regexSteps [⟨[.part program.body false], place, groups⟩]).map fun found =>
    found.groups.set! 0 (some (place, found.place))

/-- The groups of the first match from a place on. The first argument counts the places. -/
def RegexProgram.search? (program : RegexProgram) (subject : RegexSubject) :
    Nat → Nat → Option RegexGroups
  | 0, place => program.matchAt? subject place
  | bound + 1, place =>
      match program.matchAt? subject place with
      | some groups => some groups
      | none =>
          if program.flags.isSticky || subject.units.size ≤ place then none
          else program.search? subject bound (((subject.forward? place).map Prod.snd).getD (place + 1))

def RegexProgram.match? (program : RegexProgram) (text : Array UInt16) (place : Nat) :
    Option RegexGroups :=
  program.search? ⟨text, program.flags⟩ (text.size - place) place

end HostBridge.Script
