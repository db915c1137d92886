/-
This file puts together the messages of the errors that scripts run into.
-/
import HostBridge.Script.Syntax

namespace HostBridge.Script

/-- The bytes that a unit takes when surrogates are not paired. -/
def unitWidth (unit : UInt16) : Nat :=
  if unit < 0x80 then 1 else if unit < 0x800 then 2 else 3

/-- The units that fit into a number of bytes. A unit that fits in part is replaced. -/
def fitBytes : Nat → Units → Units
  | _, [] => []
  | room, unit :: rest =>
      if unitWidth unit ≤ room then unit :: fitBytes (room - unitWidth unit) rest
      else if room = 0 then []
      else [0xFFFD]

/-- The bytes that a message can take. -/
def messageRoom : Nat := 255

/-- The bytes after which a name in a message is not continued. -/
def nameRoom : Nat := 58

/-- The units of which each begins within a number of bytes. -/
def beginBytes : Nat → Units → Units
  | _, [] => []
  | room, unit :: rest =>
      if room = 0 then [] else unit :: beginBytes (room - unitWidth unit) rest

/-- A name ends at a null unit, and one that is not plain ASCII is cut. -/
def shownName (name : Units) : Units :=
  (if name.all (· < 0x80) then name else beginBytes nameRoom name).takeWhile (· != 0)

/-- A message that names something in single quotes. -/
def naming (before : String) (name : Units) (after : String) : Units :=
  Text.units before ++ Text.units "'" ++ shownName name ++ Text.units "'" ++ Text.units after

/-- A message is cut where its room ends. -/
def cutMessage (message : Units) : Units := fitBytes messageRoom message

end HostBridge.Script
