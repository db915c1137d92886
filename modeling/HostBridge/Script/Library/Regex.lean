/-
This file defines the functions of patterns.
-/
import HostBridge.Script.Library.Substitution
import HostBridge.Script.Library.Walk
import HostBridge.Script.Regex.Matcher

namespace HostBridge.Script

def lastIndexKey : Key := .ofString "lastIndex"

/-- A pattern: its text, its flags and what they mean. -/
structure RegexParts where
  source : Units
  flags : Units
  program : RegexProgram

def regexOf? (value : Value) : Machine (Option RegexParts) := do
  match value with
  | .object place =>
      match ← kindAt place with
      | .regex source flags program => return some ⟨source, flags, program⟩
      | _ => return none
  | _ => return none

def noRegex {A : Type} : Machine A := typeFaultText "RegExp object expected"

def requireRegex (value : Value) : Machine RegexParts := do
  match ← regexOf? value with
  | some parts => return parts
  | none => noRegex

/-- A value that wants to be treated like a pattern. -/
def isRegex (call : Caller) (value : Value) : Machine Bool := do
  if !value.isObject then return false
  else
    match ← getMember call value (.wellKnown "match") with
    | .undefined => return (← regexOf? value).isSome
    | wish => return wish.truth

def compileRegex (source flags : Units) : Machine RegexProgram :=
  match RegexProgram.ofUnits source flags with
  | .ok program => return program
  | .error flaw => syntaxFault flaw.message

/-- The texts of a pattern and its flags that arguments give. -/
def regexTexts (call : Caller) (pattern flags : Value) : Machine (Units × Units) := do
  let (pattern, flags) ←
    match ← regexOf? pattern with
    | some parts =>
        pure (.text parts.source, if flags.isUndefined then .text parts.flags else flags)
    | none =>
        if ← isRegex call pattern then do
          let source ← getNamed call pattern "source"
          let flags ← if flags.isUndefined then getNamed call pattern "flags" else pure flags
          pure (source, flags)
        else pure (pattern, flags)
  let source ← textOr call pattern []
  return (source, ← textOr call flags [])

def makeRegexOf : NativeAction := fun call given => do
  let own := Value.object given.callee
  let isKnown ←
    if !given.isFresh && given.second.isUndefined && (← isRegex call given.first) then
      pure ((← getMember call given.first constructorKey).same own)
    else pure false
  if isKnown then return given.first
  else
    let (source, flags) ← regexTexts call given.first given.second
    let program ← compileRegex source flags
    let target := (given.target).getD own
    let prototype ← Given.prototype call { given with target := some target } regexPrototype
    makeRegex source flags program prototype

/-- The groups of a match by their numbers. -/
def groupValue (text : Array UInt16) (group : Option (Nat × Nat)) : Value :=
  match group with
  | some (first, last) => .text (text.extract first last).toList
  | none => .undefined

def placesOfGroup (group : Option (Nat × Nat)) : Machine Value :=
  match group with
  | some (first, last) => makeArray [.ofNat first, .ofNat last]
  | none => return .undefined

/-- The named groups as an object without a prototype, if there are any. -/
def namedGroups (names : List (Units × Nat)) (values : Array Value) : Machine Value := do
  if names.isEmpty then return .undefined
  else
    makeObject (names.foldl (fun object (name, index) =>
      object.put (.ofUnits name) (.plain ((values[index]?).getD .undefined)))
      (.bare .plain none))

/-- What is known of a match. -/
def describeMatch (program : RegexProgram) (text : Array UInt16) (groups : RegexGroups) :
    Machine Value := do
  let values := groups.map (groupValue text)
  let index :=
    match groups[0]?.join with
    | some (first, _) => first
    | none => 0
  let object := Object.ofItems values
  let object := object.put (.ofString "index") (.plain (.ofNat index))
  let object := object.put (.ofString "input") (.plain (.text text.toList))
  let object := object.put (.ofString "groups") (.plain (← namedGroups program.names values))
  if program.flags.hasIndices then
    let places ← groups.mapM placesOfGroup
    let indices := (Object.ofItems places).put (.ofString "groups")
      (.plain (← namedGroups program.names places))
    makeObject (object.put (.ofString "indices") (.plain (← makeObject indices)))
  else makeObject object

/-- Looks for a pattern from the last place on, if the flags say so. -/
def execRegex (call : Caller) (regex : Value) (text : Units) : Machine Value := do
  let parts ← requireRegex regex
  let last ← toWhole call (← getMember call regex lastIndexKey)
  let flags := parts.program.flags
  let moves := flags.isGlobal || flags.isSticky
  let start := if moves then last.toNat else 0
  let units := text.toArray
  let found :=
    if units.size < start then none else parts.program.match? units start
  match found with
  | none =>
      if moves then putMember call regex lastIndexKey (.integer 0)
      return .null
  | some groups =>
      match groups[0]?.join, moves with
      | some (_, last), true => putMember call regex lastIndexKey (.ofNat last)
      | _, _ => pure ()
      describeMatch parts.program units groups

/-- Looks for a pattern in the way that it wants. -/
def searchRegex (call : Caller) (regex : Value) (text : Units) : Machine Value := do
  let method ← getNamed call regex "exec"
  if ← lookUp fun memory => memory.isFunction method then
    match ← call (.on regex) method [.text text] with
    | .null => return .null
    | .object place => return .object place
    | _ => typeFaultText "RegExp exec method must return an object or null"
  else execRegex call regex text

/-- The place behind a character. -/
def advanceIndex (text : Units) (index : Nat) (isUnicode : Bool) : Nat :=
  if isUnicode then
    match text.drop index with
    | high :: low :: _ =>
        if Text.isHighSurrogate high && Text.isLowSurrogate low then index + 2 else index + 1
    | _ => index + 1
  else index + 1

/-- A match of nothing moves on by one character. -/
def passEmpty (call : Caller) (regex : Value) (text part : Units) (isUnicode : Bool) :
    Machine Unit := do
  if part.isEmpty then
    let index ← toWhole call (← getMember call regex lastIndexKey)
    putMember call regex lastIndexKey (.ofNat (advanceIndex text index.toNat isUnicode))

def partOfMatch (call : Caller) (found : Value) : Machine Units := do
  toText call (← getMember call found (.index 0))

def hasFlag (flags : Units) (letter : Char) : Bool := flags.contains letter.toNat.toUInt16

def flagsOf (call : Caller) (regex : Value) : Machine Units := do
  toText call (← getNamed call regex "flags")

/-- All matches of a pattern, or the first one if it is not global. -/
def matchesOf (call : Caller) (regex : Value) (text : Units) (isGlobal isUnicode : Bool) :
    Machine (List Value) := do
  if isGlobal then
    putMember call regex lastIndexKey (.integer 0)
    gather regexSteps #[]
  else
    match ← searchRegex call regex text with
    | .null => return []
    | found => return [found]
where
  gather : Nat → Array Value → Machine (List Value)
    | 0, _ => interrupted
    | bound + 1, before => do
        match ← searchRegex call regex text with
        | .null => return before.toList
        | found =>
            passEmpty call regex text (← partOfMatch call found) isUnicode
            gather bound (before.push found)

def regexMatch : NativeAction := fun call given => do
  let _ ← requireObject given.receiver
  let text ← toText call given.first
  let flags ← flagsOf call given.receiver
  if hasFlag flags 'g' then
    let found ← matchesOf call given.receiver text true (hasFlag flags 'u')
    if found.isEmpty then return .null
    else makeArray (← found.mapM fun value => return .text (← partOfMatch call value))
  else searchRegex call given.receiver text

/-- A pattern of the same class with flags of its own. -/
def renewRegex (call : Caller) (regex : Value) (flags : Units) : Machine Value := do
  let maker ← speciesOf call regex regexPlace
  call (.fresh maker) maker [regex, .text flags]

def regexMatchAll : NativeAction := fun call given => do
  let _ ← requireObject given.receiver
  let text ← toText call given.first
  let flags ← flagsOf call given.receiver
  let matcher ← renewRegex call given.receiver flags
  let last ← toWhole call (← getMember call given.receiver lastIndexKey)
  putMember call matcher lastIndexKey (.ofInt (max 0 last))
  makeWalk "RegExp String Iterator"
    (.found (← requireObject matcher) text (hasFlag flags 'g') (hasFlag flags 'u'))

/-- Takes one step from match to match. -/
def stepMatches : NativeAction := fun call given => do
  let name := "RegExp String Iterator"
  let wrong {A : Type} : Machine A := typeFaultText (name ++ " object expected")
  match given.receiver with
  | .object place =>
      match ← kindAt place with
      | .walk _ (.found regex text isGlobal isUnicode) =>
          match ← searchRegex call (.object regex) text with
          | .null =>
              changeKind place (.walk name .ended)
              makeAnswer .undefined true
          | found =>
              if isGlobal then
                passEmpty call (.object regex) text (← partOfMatch call found) isUnicode
              else changeKind place (.walk name .ended)
              makeAnswer found false
      | .walk other .ended => if other = name then makeAnswer .undefined true else wrong
      | _ => wrong
  | _ => wrong

def regexSearch : NativeAction := fun call given => do
  let _ ← requireObject given.receiver
  let text ← toText call given.first
  let before ← getMember call given.receiver lastIndexKey
  if !before.same (.integer 0) then putMember call given.receiver lastIndexKey (.integer 0)
  let found ← searchRegex call given.receiver text
  let behind ← getMember call given.receiver lastIndexKey
  if !behind.same before then putMember call given.receiver lastIndexKey before
  match found with
  | .null => return .integer (-1)
  | found => getNamed call found "index"

/-- The number of parts that a text is cut into at most. -/
def partLimit (call : Caller) (limit : Value) : Machine Nat := do
  if limit.isUndefined then return 0xFFFFFFFF else return (← toBits call limit).toNat

/-- The groups of a match behind the first one. -/
def laterGroups (call : Caller) (found : Value) : Machine (List Value) := do
  let size ← toWhole call (← getMember call found lengthKey)
  (List.range (size.toNat - 1)).mapM fun index => getMember call found (.ofNat (index + 1))

/-- Cuts a text where a pattern matches. The first argument counts the places, and the parts begin
at one place and are looked for from another one on. -/
def cutWithin (call : Caller) (splitter : Value) (text : Units) (isUnicode : Bool) (limit : Nat) :
    Nat → Nat → Nat → Array Value → Machine (Array Value)
  | 0, start, _, parts => return parts.push (.text (text.drop start))
  | bound + 1, start, place, parts => do
      if text.length ≤ place then return parts.push (.text (text.drop start))
      else
        let next := advanceIndex text place isUnicode
        putMember call splitter lastIndexKey (.ofNat place)
        match ← searchRegex call splitter text with
        | .null => cutWithin call splitter text isUnicode limit bound start next parts
        | found =>
            let last ← toWhole call (← getMember call splitter lastIndexKey)
            let last := min last.toNat text.length
            if last = start then
              cutWithin call splitter text isUnicode limit bound start next parts
            else
              let parts := parts.push (.text ((text.drop start).take (place - start)))
              if parts.size = limit then return parts
              else
                let parts := parts ++ (← laterGroups call found).toArray
                if limit ≤ parts.size then return parts.extract 0 limit
                else cutWithin call splitter text isUnicode limit bound last last parts

def regexSplit : NativeAction := fun call given => do
  let _ ← requireObject given.receiver
  let text ← toText call given.first
  let flags ← flagsOf call given.receiver
  let fresh := if hasFlag flags 'y' then flags else flags ++ Text.units "y"
  let splitter ← renewRegex call given.receiver fresh
  let limit ← partLimit call given.second
  if limit = 0 then makeArray []
  else if text.isEmpty then
    match ← searchRegex call splitter text with
    | .null => makeArray [.text text]
    | _ => makeArray []
  else
    let parts ← cutWithin call splitter text (hasFlag flags 'u') limit (2 * text.length + 2) 0 0 #[]
    makeArray parts.toList

/-- A match as a part of a text. -/
def readMatch (call : Caller) (text : Units) (found : Value) : Machine Match := do
  let part ← partOfMatch call found
  let place ← toWhole call (← getNamed call found "index")
  let later ← (← laterGroups call found).mapM fun value => do
    if value.isUndefined then return .undefined else return .text (← toText call value)
  let names ← getNamed call found "groups"
  return ⟨text, min place.toNat text.length, part, .text part :: later, names⟩

def regexReplace : NativeAction := fun call given => do
  let _ ← requireObject given.receiver
  let text ← toText call given.first
  let replacement ← toReplacement call given.second
  let flags ← flagsOf call given.receiver
  let found ← matchesOf call given.receiver text (hasFlag flags 'g') (hasFlag flags 'u')
  let parts ← found.mapM fun value => do
    let found ← readMatch call text value
    return (found, ← replacement.apply call found)
  return .text (← replaceMatches call text 0 (parts.map fun part => (part.1, return part.2)))

/-- The text of a pattern between slashes. -/
def escapeSource : Bool → Units → Units
  | _, [] => []
  | inClass, unit :: rest =>
      if unit = 92 then
        match rest with
        | next :: behind => unit :: next :: escapeSource inClass behind
        | [] => [unit]
      else if unit = 10 then 92 :: 110 :: escapeSource inClass rest
      else if unit = 13 then 92 :: 114 :: escapeSource inClass rest
      else if unit = 47 && !inClass then 92 :: 47 :: escapeSource inClass rest
      else if unit = 91 then unit :: escapeSource true rest
      else if unit = 93 then unit :: escapeSource false rest
      else unit :: escapeSource inClass rest

def regexSource : NativeAction := fun _ given => do
  let place ← requireObject given.receiver
  if place = regexPrototype then return .ofString "(?:)"
  else
    let parts ← requireRegex given.receiver
    if parts.source.isEmpty then return .ofString "(?:)"
    else return .text (escapeSource false parts.source)

/-- The letters of the flags and the members that tell of them. -/
def flagNames : List (Char × String) := [
  ('d', "hasIndices"), ('g', "global"), ('i', "ignoreCase"), ('m', "multiline"), ('s', "dotAll"),
  ('u', "unicode"), ('y', "sticky")]

def regexFlags : NativeAction := fun call given => do
  let _ ← requireObject given.receiver
  let letters ← flagNames.filterMapM fun (letter, name) => do
    if (← getNamed call given.receiver name).truth then return some letter else return none
  return .ofString (String.ofList letters)

/-- Tells whether a pattern has a flag. -/
def shelvedFlag (name : String) (flag : RegexFlags → Bool) : Article :=
  shelvedGetter (.ofString name) fun _ given => do
    let place ← requireObject given.receiver
    match ← regexOf? given.receiver with
    | some parts => return .boolean (flag parts.program.flags)
    | none => if place = regexPrototype then return .undefined else noRegex

def regexText : NativeAction := fun call given => do
  let _ ← requireObject given.receiver
  let source ← toText call (← getNamed call given.receiver "source")
  let flags ← flagsOf call given.receiver
  return .text (47 :: source ++ 47 :: flags)

/-- A pattern becomes another one. -/
def recompile : NativeAction := fun call given => do
  let place ← requireObject given.receiver
  let _ ← requireRegex given.receiver
  if (← regexOf? given.first).isSome && !given.second.isUndefined then
    typeFaultText "flags must be undefined"
  let (source, flags) ← regexTexts call given.first given.second
  let program ← compileRegex source flags
  changeKind place (.regex source flags program)
  putMember call given.receiver lastIndexKey (.integer 0)
  return given.receiver

def regexShelf : Shelf := [
  shelvedGetter (.ofString "flags") regexFlags,
  shelvedGetter (.ofString "source") regexSource,
  shelvedFlag "global" RegexFlags.isGlobal,
  shelvedFlag "ignoreCase" RegexFlags.ignoresCase,
  shelvedFlag "multiline" RegexFlags.isMultiline,
  shelvedFlag "dotAll" RegexFlags.dotAll,
  shelvedFlag "unicode" RegexFlags.isUnicode,
  shelvedFlag "sticky" RegexFlags.isSticky,
  shelvedFlag "hasIndices" RegexFlags.hasIndices,
  shelved "exec" 1 fun call given => do
    let _ ← requireRegex given.receiver
    execRegex call given.receiver (← toText call given.first),
  shelved "compile" 2 recompile,
  shelved "test" 1 fun call given => do
    let _ ← requireObject given.receiver
    match ← searchRegex call given.receiver (← toText call given.first) with
    | .null => return .boolean false
    | _ => return .boolean true,
  shelved "toString" 0 regexText,
  shelvedSymbol (.wellKnown "replace") 2 regexReplace,
  shelvedSymbol (.wellKnown "match") 1 regexMatch,
  shelvedSymbol (.wellKnown "matchAll") 1 regexMatchAll,
  shelvedSymbol (.wellKnown "search") 1 regexSearch,
  shelvedSymbol (.wellKnown "split") 2 regexSplit]

/-- The walk from match to match. -/
def matchWalkShelf : Shelf := [
  shelved "next" 0 stepMatches,
  shelvedTag "RegExp String Iterator"]

end HostBridge.Script
