/-
This file runs the program on the files of the system.
-/
import HostBridge.CommandLine.Run

namespace HostBridge.CommandLine

/-- The reasons of the system in the words of the program. -/
def fileError : IO.Error → FileError
  | .noFileOrDirectory _ _ _ => .missing
  | .inappropriateType _ code _ => if code = 20 then .notDirectory else .directory
  | .invalidArgument _ code details =>
      if code = 36 then .nameTooLong else .other details code.toNat
  | error => .other (toString error) 0

def attempted {A : Type} (action : IO A) : IO (Except FileError A) := do
  try
    return .ok (← action)
  catch error =>
    return .error (fileError error)

def systemFiles : Files IO where
  isPresent path := do
    try
      return ← (← IO.FS.realPath path).pathExists
    catch _ =>
      return false
  read path := attempted do return (← IO.FS.readBinFile path).toList
  write path content := attempted (IO.FS.writeBinFile path (ByteArray.mk content.toArray))

/-- Every run of the program has tokens of its own. -/
def systemAmbient : IO Ambient := do
  let seed ← IO.rand 0 0xFFFFFFFFFFFFFFFF
  return ⟨fun number => (seed + number).toUInt64, fun _ => 0⟩

end HostBridge.CommandLine

def main (arguments : List String) : IO UInt32 := do
  let ambient ← HostBridge.CommandLine.systemAmbient
  let report ← HostBridge.CommandLine.run HostBridge.CommandLine.systemFiles ambient arguments
  IO.eprint report.records
  IO.print report.output
  return report.code.toUInt32
