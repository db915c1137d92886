/-
This file describes files and the errors of reading and writing them.
-/
import HostBridge.Text.Utf8

namespace HostBridge

/-- The reasons for which a file cannot be read or written. -/
inductive FileError where
  | missing
  | directory
  /-- A part of the path names a file where a directory has to be. -/
  | notDirectory
  /-- A part of the path, or the whole of it, takes too many bytes. -/
  | nameTooLong
  | notText
  /-- Any other reason, with the words and the number of the system. -/
  | other (text : String) (code : Nat)
deriving DecidableEq

def FileError.message : FileError → String
  | .missing => "No such file or directory (os error 2)"
  | .directory => "Is a directory (os error 21)"
  | .notDirectory => "Not a directory (os error 20)"
  | .nameTooLong => "File name too long (os error 36)"
  | .notText => "stream did not contain valid UTF-8"
  | .other text code => s!"{text} (os error {code})"

/-- The text of a file with the given bytes. -/
def fileText (content : Except FileError (List UInt8)) : Except FileError String :=
  content.bind fun bytes => (Text.decodeUtf8 bytes).mapError fun _ => .notText

/-- What a program can do with the files of its surroundings. -/
structure Files (M : Type → Type) where
  isPresent : String → M Bool
  read : String → M (Except FileError (List UInt8))
  write : String → List UInt8 → M (Except FileError Unit)

end HostBridge
