/-
This file defines a working directory without subdirectories as a table of its files, and the
paths that lead into it and out of it.
-/
import HostBridge.File
import HostBridge.Table

namespace HostBridge

/-- The names of files and their contents. -/
abbrev Folder := Table String (List UInt8)

/-- The names from a place up to the root of the file system, the nearest one first. -/
abbrev Route := List String

/-- What stands at a place. -/
inductive Entry where
  | directory
  | file (content : List UInt8)
  | absent
deriving DecidableEq

/-- The working directory lies in the directory for temporary files. -/
def workingRoute : Route := ["work", "tmp"]

/-- The device that is always empty. -/
def emptyDevice : Route := ["null", "dev"]

/-- The directories below the root. -/
def systemDirectories : List String := [
  "bin", "boot", "dev", "etc", "home", "lib", "media", "mnt", "opt", "proc", "root", "run", "sbin",
  "srv", "sys", "tmp", "usr", "var"]

/-- The name of a file that lies in the working directory. -/
def workingName? : Route → Option String
  | [] => none
  | name :: above => if above = workingRoute then some name else none

/-- Nothing else of the surroundings is known. -/
def Folder.entry (folder : Folder) (route : Route) : Entry :=
  match workingName? route with
  | some name =>
      match Table.lookup? folder name with
      | some content => .file content
      | none => .absent
  | none =>
      if route = emptyDevice then .file []
      else if route = workingRoute then .directory
      else
        match route with
        | [] => .directory
        | [name] => if systemDirectories.contains name then .directory else .absent
        | _ => .absent

/-- The bytes that one name may take. -/
def longestName : Nat := 255

/-- The bytes that a path may take. -/
def longestPath : Nat := 4095

/-- The place of a name in a directory. Above the root there is only the root. -/
def Route.step (route : Route) (name : String) : Route :=
  if name = ".." then route.drop 1 else name :: route

/-- The entry of a name in a directory. -/
def Folder.find (folder : Folder) (route : Route) (name : String) : Except FileError Entry :=
  if longestName < name.utf8ByteSize then .error .nameTooLong
  else .ok (folder.entry (route.step name))

/-- Every name leads from a directory to another one. -/
def Folder.walk (folder : Folder) : Route → List String → Except FileError Route
  | route, [] => .ok route
  | route, name :: rest => do
      match ← folder.find route name with
      | .directory => folder.walk (route.step name) rest
      | .file _ => .error .notDirectory
      | .absent => .error .missing

/-- A path is cut into names, between which slashes and single dots do not count. -/
structure Path where
  start : Route
  names : List String
  /-- A slash follows the last name. -/
  slashed : Bool
  /-- A single dot follows the last name. -/
  dotted : Bool

def Path.ofText (text : String) : Path :=
  let parts := text.splitOn "/"
  let named := parts.filter (· ≠ "")
  { start := if parts.head? = some "" then [] else workingRoute
    names := named.filter (· ≠ ".")
    slashed := parts.getLast? = some ""
    dotted := named.getLast? = some "." }

/-- A path that is no text of a place fails at once. -/
def checkedPath (text : String) : Except FileError Path :=
  if text.isEmpty then .error .missing
  else if longestPath < text.utf8ByteSize then .error .nameTooLong
  else .ok (.ofText text)

/-- What is at the end of a path. A path that goes on behind a name asks for a directory there. -/
def Folder.seek (folder : Folder) (text : String) : Except FileError Entry := do
  let path ← checkedPath text
  let route ← folder.walk path.start path.names.dropLast
  match path.names.getLast? with
  | none => return .directory
  | some name =>
      match ← folder.find route name with
      | .file content =>
          if path.slashed || path.dotted then .error .notDirectory else return .file content
      | entry => return entry

def Folder.isPresent (folder : Folder) (path : String) : Bool :=
  match folder.seek path with
  | .ok .directory | .ok (.file _) => true
  | _ => false

def Folder.read (folder : Folder) (path : String) : Except FileError (List UInt8) := do
  match ← folder.seek path with
  | .directory => .error .directory
  | .file content => return content
  | .absent => .error .missing

/-- The place of the file that is made at the end of a path. A path that ends in a slash names no
file, whether there is one or not. -/
def Folder.target (folder : Folder) (text : String) : Except FileError Route := do
  let path ← checkedPath text
  let route ← folder.walk path.start path.names.dropLast
  match path.names.getLast? with
  | none => .error .directory
  | some name =>
      if path.dotted then
        let _ ← folder.walk route [name]
        .error .directory
      else if path.slashed && name ≠ ".." then .error .directory
      else
        match ← folder.find route name with
        | .directory => .error .directory
        | _ => return route.step name

/-- An earlier content is replaced. Outside the working directory nothing is kept. -/
def Folder.write (folder : Folder) (path : String) (content : List UInt8) :
    Folder × Except FileError Unit :=
  match folder.target path with
  | .error error => (folder, .error error)
  | .ok route =>
      match workingName? route with
      | some name => (Table.put folder name content, .ok ())
      | none => (folder, .ok ())

/-- A program works on a folder as its state. -/
def Folder.files : Files (StateM Folder) where
  isPresent path := do return (← get).isPresent path
  read path := do return (← get).read path
  write path content := do
    let (folder, result) := (← get).write path content
    set folder
    return result

end HostBridge
