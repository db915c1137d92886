/-
This file reads configurations from JSON texts and files.
-/
import HostBridge.Configuration.Basic
import HostBridge.File
import HostBridge.Json.Skipper
import HostBridge.Text.Shown

namespace HostBridge.Configuration

open HostBridge.Json

/-- A value of another type stands where one of the expected type has to stand. -/
def unfitCause (found expected : String) : Cause :=
  .unfit s!"invalid type: {found}, expected {expected}"

def numberFound : Number → String
  | .integer value => "integer `" ++ integerText value ++ "`"
  | .float value => "floating point `" ++ Decimal.Layout.json.text value ++ "`"

/-- A scalar is read before it is refused, and a bracket is not. -/
def refuse {A : Type} (expected : String) (text : List Char) : Scan A :=
  match text with
  | [] => stopAfter .expectedValue []
  | c :: rest =>
      let after (found : String) (rest : List Char) : Scan A :=
        stopAt (unfitCause found expected) rest
      if c = 'n' then (scanWord ['u', 'l', 'l'] rest).bind (after "null")
      else if c = 't' then (scanWord ['r', 'u', 'e'] rest).bind (after "boolean `true`")
      else if c = 'f' then (scanWord ['a', 'l', 's', 'e'] rest).bind (after "boolean `false`")
      else if c = '-' || Decimal.isDigit c then
        (scanNumber text).bind fun (value, rest) => after (numberFound value) rest
      else if c = '"' then
        (scanString rest).bind fun (value, rest) => after ("string " ++ Text.shown value) rest
      else if c = '[' then after "sequence" text
      else if c = '\x7b' then after "map" text
      else stopAfter .expectedValue text

/-- The text from the next value on. -/
def beforeValue (text : List Char) : Except Stop (List Char) :=
  match skipBlanks text with
  | [] => stopAfter .endOfValue []
  | rest => .ok rest

def readBoolean (text : List Char) : Scan Bool :=
  (beforeValue text).bind fun text =>
    match text with
    | 't' :: rest => (scanWord ['r', 'u', 'e'] rest).map fun rest => (true, rest)
    | 'f' :: rest => (scanWord ['a', 'l', 's', 'e'] rest).map fun rest => (false, rest)
    | _ => refuse "a boolean" text

/-- A size is an integer literal that is not negative. -/
def readSize (text : List Char) : Scan UInt64 :=
  (beforeValue text).bind fun text =>
    match text with
    | c :: _ =>
        if c = '-' || Decimal.isDigit c then
          (scanNumber text).bind fun (value, rest) =>
            match value with
            | .integer size =>
                if 0 ≤ size then .ok (size.toNat.toUInt64, rest)
                else
                  stopAt (.unfit
                    ("invalid value: integer `" ++ integerText size ++ "`, expected usize")) rest
            | .float size => stopAt (unfitCause (numberFound (.float size)) "usize") rest
        else refuse "usize" text
    | [] => refuse "usize" text

/-- A limit may be absent. -/
def readLimit (text : List Char) : Scan (Option UInt64) :=
  match skipBlanks text with
  | 'n' :: rest => (scanWord ['u', 'l', 'l'] rest).map fun rest => (none, rest)
  | rest => (readSize rest).map fun (size, rest) => (some size, rest)

def readNull (text : List Char) : Except Stop (List Char) :=
  (beforeValue text).bind fun text =>
    match text with
    | 'n' :: rest => scanWord ['u', 'l', 'l'] rest
    | _ => (refuse "unit" text : Scan Unit).map Prod.snd

/-- The name of a mode, whose opening quote is read. -/
def readModeName (text : List Char) : Scan SentinelMode :=
  (scanString text).bind fun (name, rest) =>
    if name = SentinelMode.fixed.name then .ok (.fixed, rest)
    else if name = SentinelMode.unique.name then .ok (.unique, rest)
    else
      stopAt (.unfit ("unknown variant `" ++ name ++ "`, expected `fixed` or `unique`")) rest

/-- A mode that is the key of an object. -/
def readModeKey (text : List Char) : Scan SentinelMode :=
  match text with
  | [] => stopAfter .endOfObject []
  | '"' :: rest => readModeName rest
  | '\x7d' :: _ => stopAfter .expectedValue text
  | _ => stopAfter .keyNotString text

/-- The rest of an object with a mode as its only key, whose opening brace is read. -/
def readModeObject (text : List Char) : Except Stop (SentinelMode × List Char) := do
  let (mode, rest) ← readModeKey (skipBlanks text)
  let rest ← readColon rest
  let rest ← readNull rest
  match skipBlanks rest with
  | [] => stopAt .endOfObject []
  | c :: rest => if c = '\x7d' then return (mode, rest) else stopAt .expectedValue (c :: rest)

/-- A mode is its name, or an object with the name as its key and null as its value. -/
def readMode (text : List Char) : Scan SentinelMode :=
  match skipBlanks text with
  | [] => stopAfter .endOfValue []
  | c :: rest =>
      if c = '"' then readModeName rest
      else if c = '\x7b' then readModeObject rest
      else stopAfter .expectedValue (c :: rest)

/-- The members that are read so far. -/
structure Draft where
  sentinel : Option SentinelMode
  memoryLimit : Option (Option UInt64)
  maxStackSize : Option (Option UInt64)
  logScripts : Option Bool

def Draft.empty : Draft := ⟨none, none, none, none⟩

/-- A missing member has its default value. -/
def Draft.finish (draft : Draft) : Configuration where
  sentinel := draft.sentinel.getD Configuration.default.sentinel
  memoryLimit := draft.memoryLimit.getD Configuration.default.memoryLimit
  maxStackSize := draft.maxStackSize.getD Configuration.default.maxStackSize
  logScripts := draft.logScripts.getD Configuration.default.logScripts

/-- A member that is there already is refused behind its key and what closes the object there. -/
def refuseRepeated {A : Type} (key : String) (rest : List Char) : Except Stop A :=
  let rest :=
    match skipBlanks rest with
    | [] => []
    | c :: rest => if c = '\x7d' then rest else c :: rest
  stopAt (.unfit ("duplicate field `" ++ key ++ "`")) rest

/-- A value behind its colon. -/
def readAfterColon {A : Type} (read : List Char → Scan A) (text : List Char) : Scan A :=
  (readColon text).bind read

/-- The value of one member. Members with other keys are passed over. -/
def readMember (draft : Draft) (key : String) (text : List Char) : Except Stop (Draft × List Char) :=
  if key = "sentinel" then
    if draft.sentinel.isSome then refuseRepeated key text
    else
      (readAfterColon readMode text).map fun (value, rest) =>
        ({ draft with sentinel := some value }, rest)
  else if key = "memory_limit" then
    if draft.memoryLimit.isSome then refuseRepeated key text
    else
      (readAfterColon readLimit text).map fun (value, rest) =>
        ({ draft with memoryLimit := some value }, rest)
  else if key = "max_stack_size" then
    if draft.maxStackSize.isSome then refuseRepeated key text
    else
      (readAfterColon readLimit text).map fun (value, rest) =>
        ({ draft with maxStackSize := some value }, rest)
  else if key = "log_scripts" then
    if draft.logScripts.isSome then refuseRepeated key text
    else
      (readAfterColon readBoolean text).map fun (value, rest) =>
        ({ draft with logScripts := some value }, rest)
  else ((readColon text).bind skipValue).map fun rest => (draft, rest)

/-- The members of a configuration whose opening brace is read. The bound counts them. -/
def readDraft : Nat → Bool → Draft → List Char → Except Stop (Draft × List Char)
  | 0, _, _, _ => stopAt .endOfObject []
  | bound + 1, first, draft, text =>
      let member (text : List Char) : Except Stop (Draft × List Char) := do
        let (key, rest) ← scanString text
        let (draft, rest) ← readMember draft key rest
        readDraft bound false draft rest
      match skipBlanks text with
      | [] => stopAfter .endOfObject []
      | c :: rest =>
          if c = '\x7d' then .ok (draft, rest)
          else if first then
            if c = '"' then member rest else stopAfter .keyNotString (c :: rest)
          else if c = ',' then
            match skipBlanks rest with
            | [] => stopAfter .endOfValue []
            | d :: rest =>
                if d = '"' then member rest
                else if d = '\x7d' then stopAfter .trailingComma (d :: rest)
                else stopAfter .keyNotString (d :: rest)
          else stopAfter .expectedObjectEnd (c :: rest)

/-- The next item of an array, if it has one. -/
def readItem {A : Type} (first : Bool) (read : List Char → Scan A) (text : List Char) :
    Scan (Option A) :=
  let item (text : List Char) : Scan (Option A) :=
    (read text).map fun (value, rest) => (some value, rest)
  match skipBlanks text with
  | [] => stopAfter .endOfList []
  | c :: rest =>
      if c = ']' then .ok (none, c :: rest)
      else if first then item (c :: rest)
      else if c = ',' then
        match skipBlanks rest with
        | [] => stopAfter .endOfValue []
        | d :: rest => if d = ']' then stopAfter .trailingComma (d :: rest) else item (d :: rest)
      else stopAfter .expectedListEnd (c :: rest)

/-- Nothing but the closing bracket may follow the last item. -/
def readArrayEnd (text : List Char) : Except Stop (List Char) :=
  match skipBlanks text with
  | [] => stopAfter .endOfList []
  | c :: rest =>
      if c = ']' then .ok rest
      else if c = ',' then
        match skipBlanks rest with
        | [] => stopAfter .trailingCharacters []
        | d :: rest =>
            if d = ']' then stopAfter .trailingComma (d :: rest)
            else stopAfter .trailingCharacters (d :: rest)
      else stopAfter .trailingCharacters (c :: rest)

/-- The members in the order of their declaration, whose opening bracket is read. -/
def readArray (text : List Char) : Except Stop (Draft × List Char) := do
  let (sentinel, rest) ← readItem true readMode text
  let (memoryLimit, rest) ← readItem sentinel.isNone readLimit rest
  let (maxStackSize, rest) ← readItem memoryLimit.isNone readLimit rest
  let (logScripts, rest) ← readItem maxStackSize.isNone readBoolean rest
  let rest ← readArrayEnd rest
  return (⟨sentinel, memoryLimit, maxStackSize, logScripts⟩, rest)

def readText (text : List Char) : Except Stop Configuration := do
  let start ← beforeValue text
  let (draft, rest) ←
    match start with
    | '[' :: rest => readArray rest
    | '\x7b' :: rest => readDraft (rest.length + 1) true Draft.empty rest
    | _ => refuse "struct BridgeConfig" start
  match skipBlanks rest with
  | [] => return draft.finish
  | rest => stopAfter .trailingCharacters rest

def ofText (text : String) : Except Fault Configuration :=
  (readText text.toList).mapError (·.fault text.toList)

end HostBridge.Configuration

namespace HostBridge

/-- The reasons for which a configuration cannot be loaded. -/
inductive ConfigurationError where
  | file (error : FileError)
  | unreadable (fault : Json.Fault)
  | invalid (defect : Configuration.Defect)
deriving DecidableEq

def ConfigurationError.message : ConfigurationError → String
  | .file error => s!"IO error: {error.message}"
  | .unreadable fault => s!"Parse error: {fault.message}"
  | .invalid defect => s!"Invalid configuration: {defect.message}"

def ConfigurationError.cause? : ConfigurationError → Option String
  | .file error => some error.message
  | .unreadable fault => some fault.message
  | .invalid _ => none

/-- The configuration in a file, which has to be usable. -/
def Configuration.load (content : Except FileError (List UInt8)) :
    Except ConfigurationError Configuration := do
  let text ← (fileText content).mapError .file
  let configuration ← (Configuration.ofText text).mapError .unreadable
  match configuration.defect? with
  | some defect => .error (.invalid defect)
  | none => return configuration

end HostBridge
