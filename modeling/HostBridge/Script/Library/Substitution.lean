/-
This file puts texts together in which parts are replaced.
-/
import HostBridge.Script.Library.Basic

namespace HostBridge.Script

/-- A part of a text that is to be replaced. -/
structure Match where
  text : Units
  place : Nat
  part : Units
  /-- The texts of the groups, the whole part first. -/
  groups : List Value
  names : Value

/-- The text of a group, which is empty where the group took no part in the match. -/
def groupText (call : Caller) (value : Value) : Machine Units := do
  if value.isUndefined then return [] else toText call value

def digitOfUnit? (unit : UInt16) : Option Nat :=
  if 48 ≤ unit && unit ≤ 57 then some (unit.toNat - 48) else none

/-- The number of a group of one or two digits, with the rest. -/
def Match.groupNumber? (found : Match) (digit : Nat) (rest : Units) : Option (Nat × Units) :=
  let isGroup (number : Nat) : Bool := 0 < number && number < found.groups.length
  let single : Option (Nat × Units) := if isGroup digit then some (digit, rest) else none
  match rest with
  | next :: behind =>
      match digitOfUnit? next with
      | some second =>
          let number := digit * 10 + second
          if isGroup number then some (number, behind) else single
      | none => single
  | [] => single

/-- What a mark behind a dollar sign stands for, with the rest. Other marks stand for
themselves. -/
def Match.expand? (call : Caller) (found : Match) (mark : UInt16) (rest : Units) :
    Machine (Option (Units × Units)) := do
  match digitOfUnit? mark with
  | some digit =>
      match found.groupNumber? digit rest with
      | some (number, rest) =>
          return some (← groupText call (argumentAt found.groups number), rest)
      | none => return none
  | none =>
      if mark = 36 then return some ([36], rest)
      else if mark = 38 then return some (found.part, rest)
      else if mark = 96 then return some (found.text.take found.place, rest)
      else if mark = 39 then
        return some (found.text.drop (found.place + found.part.length), rest)
      else if mark = 60 && !found.names.isUndefined && rest.contains 62 then
        let name := rest.takeWhile (· != 62)
        let value ← getMember call found.names (.ofUnits name)
        return some (← groupText call value, rest.drop (name.length + 1))
      else return none

/-- A text in which dollar signs stand for parts of the match. The first argument counts the
units. -/
def Match.substitute (call : Caller) (found : Match) : Nat → Units → Machine Units
  | bound + 1, unit :: mark :: rest => do
      if unit != 36 then return unit :: (← found.substitute call bound (mark :: rest))
      else
        match ← found.expand? call mark rest with
        | some (text, rest) => return text ++ (← found.substitute call bound rest)
        | none => return unit :: mark :: (← found.substitute call bound rest)
  | _, rest => return rest

/-- A function or a text that replaces parts of a text. -/
inductive Replacement where
  | function (value : Value)
  | text (units : Units)

def toReplacement (call : Caller) (value : Value) : Machine Replacement := do
  if ← lookUp fun memory => memory.isFunction value then return .function value
  else return .text (← toText call value)

/-- What takes the place of a match. -/
def Replacement.apply (call : Caller) (replacement : Replacement) (found : Match) :
    Machine Units := do
  match replacement with
  | .function value =>
      let names := if found.names.isUndefined then [] else [found.names]
      toText call (← call (.on .undefined) value
        (found.groups ++ [.ofNat found.place, .text found.text] ++ names))
  | .text units => found.substitute call (units.length + 1) units

/-- The text up to a match, what takes its place and the text behind it, from match to match. The
second argument is the place up to which the text is done. -/
def replaceMatches (call : Caller) (text : Units) :
    Nat → List (Match × Machine Units) → Machine Units
  | done, [] => return text.drop done
  | done, (found, replacement) :: rest => do
      let replacement ← replacement
      if done ≤ found.place then
        let between := (text.drop done).take (found.place - done)
        let behind ← replaceMatches call text (found.place + found.part.length) rest
        return between ++ replacement ++ behind
      else replaceMatches call text done rest

end HostBridge.Script
