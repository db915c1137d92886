/-
This file reads JSON texts as values of scripts.
-/
import HostBridge.Script.Evaluation.Program
import HostBridge.Script.Library.Array.Basic

namespace HostBridge.Script

/-- A part of a JSON text. -/
inductive JsonToken where
  | finish
  | text (units : Units)
  | number (value : Float)
  | word (name : String)
  | mark (c : Char)

/-- A token with the characters that stand for it and what is behind it. -/
structure JsonCursor where
  token : JsonToken
  shown : List Char
  rest : List Char
  line : Nat

def jsonFault {A : Type} (line : Nat) (message : String) : Machine A :=
  lineFault inputFile line (Text.units message)

/-- The text behind blanks, and its line. -/
def skipJsonBlanks : Nat → List Char → Nat × List Char
  | line, [] => (line, [])
  | line, '\r' :: '\n' :: rest => skipJsonBlanks (line + 1) rest
  | line, c :: rest =>
      if c = '\n' || c = '\r' then skipJsonBlanks (line + 1) rest
      else if c = ' ' || c = '\t' then skipJsonBlanks line rest
      else (line, c :: rest)

/-- What a backslash and the characters behind it stand for: units and the number of characters,
nothing if they stand for no character, or an error. -/
def jsonEscape (text : List Char) : Except Unit (Units × Nat) :=
  match text with
  | [] => .ok ([], 0)
  | '\r' :: '\n' :: _ => .ok ([], 2)
  | c :: _ =>
      if isLineEnd c then .ok ([], 1)
      else if isDigit c then .error ()
      else
        match readEscape text with
        | .bad => .error ()
        | .code value count => .ok (Text.codeUnits value, count)
        | .plain => .ok (Text.charUnits c, 1)

/-- A text up to its quote. The first argument counts the characters. -/
def readJsonText : Nat → Nat → Units → List Char → Machine (Units × Nat × List Char)
  | 0, line, _, _ | _, line, _, [] => jsonFault line "unexpected end of string"
  | bound + 1, line, before, c :: rest => do
      if c.toNat < 32 then jsonFault line "invalid character in a JSON string"
      else if c = '"' then return (before.reverse, line, rest)
      else if c = '\\' then
        match jsonEscape rest with
        | .error () => jsonFault line "malformed escape sequence in string literal"
        | .ok (units, count) =>
            let isLine := (rest.head?.map fun d => d = '\n' || d = '\r').getD false
            readJsonText bound (if isLine then line + 1 else line) (units.reverse ++ before)
              (rest.drop count)
      else readJsonText bound line ((Text.charUnits c).reverse ++ before) rest

def isJsonLetter (c : Char) : Bool := c.isAlpha || c = '_' || c = '$'

/-- The number at the beginning of a text that begins with one. -/
def jsonNumber? (text : List Char) : Option (Float × List Char) :=
  match text with
  | '-' :: rest =>
      if (rest.head?.map isDigit).getD false then
        (Decimal.spanNumber? rest).map fun (value, behind) => (-value, behind)
      else none
  | '0' :: next :: _ => if isDigit next then none else Decimal.spanNumber? text
  | c :: _ => if isDigit c then Decimal.spanNumber? text else none
  | [] => none

/-- The next token. -/
def JsonCursor.next (cursor : JsonCursor) : Machine JsonCursor := do
  let (line, text) := skipJsonBlanks cursor.line cursor.rest
  let upTo (rest : List Char) : List Char := text.take (text.length - rest.length)
  match text with
  | [] => return ⟨.finish, [], [], line⟩
  | c :: rest =>
      if c = '"' then
        let (units, last, rest) ← readJsonText (rest.length + 1) line [] rest
        return ⟨.text units, upTo rest, rest, last⟩
      else if isJsonLetter c then
        let word := text.takeWhile fun d => isJsonLetter d || isDigit d
        return ⟨.word (String.ofList word), word, text.drop word.length, line⟩
      else
        match jsonNumber? text with
        | some (value, rest) => return ⟨.number value, upTo rest, rest, line⟩
        | none =>
            if 128 ≤ c.toNat then jsonFault line "unexpected character"
            else return ⟨.mark c, [c], rest, line⟩

def JsonCursor.isMark (cursor : JsonCursor) (c : Char) : Bool :=
  match cursor.token with
  | .mark found => found = c
  | _ => false

def JsonCursor.expect (cursor : JsonCursor) (c : Char) : Machine JsonCursor := do
  if cursor.isMark c then cursor.next
  else jsonFault cursor.line ("expecting '" ++ String.singleton c ++ "'")

/-- What cannot begin a value is shown. -/
def JsonCursor.refuse {A : Type} (cursor : JsonCursor) : Machine A :=
  match cursor.token with
  | .finish => jsonFault cursor.line "unexpected end of input"
  | _ =>
      let shown := String.ofList (cursor.shown.takeWhile (·.toNat != 0))
      jsonFault cursor.line ("unexpected token: '" ++ shown ++ "'")

/-- Reads a value and what is behind it. -/
abbrev JsonReading := JsonCursor → Machine (Value × JsonCursor)

/-- The first argument bounds the number of items. -/
def readJsonItems (read : JsonReading) :
    Nat → Array Value → JsonCursor → Machine (Array Value × JsonCursor)
  | 0, _, _ => interrupted
  | bound + 1, before, cursor => do
      let (value, cursor) ← read cursor
      if cursor.isMark ',' then readJsonItems read bound (before.push value) (← cursor.next)
      else return (before.push value, cursor)

def readJsonMembers (read : JsonReading) (place : Reference) :
    Nat → JsonCursor → Machine JsonCursor
  | 0, _ => interrupted
  | bound + 1, cursor => do
      match cursor.token with
      | .text name =>
          let (value, cursor) ← read (← (← cursor.next).expect ':')
          changeObject place fun object => object.put (.ofUnits name) (.plain value)
          if cursor.isMark ',' then readJsonMembers read place bound (← cursor.next)
          else return cursor
      | _ => jsonFault cursor.line "expecting property name"

def readJsonArray (read : JsonReading) (cursor : JsonCursor) : Machine (Value × JsonCursor) := do
  let cursor ← cursor.next
  let (items, cursor) ←
    if cursor.isMark ']' then pure (#[], cursor)
    else readJsonItems read (cursor.rest.length + 1) #[] cursor
  let cursor ← cursor.expect ']'
  return (← makeObject (.ofItems items), cursor)

def readJsonObject (read : JsonReading) (cursor : JsonCursor) : Machine (Value × JsonCursor) := do
  let cursor ← cursor.next
  let place ← allocate (.bare .plain (some objectPrototype))
  let cursor ←
    if cursor.isMark '\x7d' then pure cursor
    else readJsonMembers read place (cursor.rest.length + 1) cursor
  return (.object place, ← cursor.expect '\x7d')

/-- The first argument bounds how deep values are nested. -/
def readJsonWithin : Nat → JsonReading
  | 0, _ => tooDeep
  | depth + 1, cursor => do
      match cursor.token with
      | .text units => return (.text units, ← cursor.next)
      | .number value => return (.ofFloat value, ← cursor.next)
      | .word "true" => return (.boolean true, ← cursor.next)
      | .word "false" => return (.boolean false, ← cursor.next)
      | .word "null" => return (.null, ← cursor.next)
      | .mark '[' => readJsonArray (readJsonWithin depth) cursor
      | .mark '\x7b' => readJsonObject (readJsonWithin depth) cursor
      | _ => cursor.refuse

/-- The value that a JSON text stands for. -/
def parseJson (text : List Char) : Machine Value := do
  let start : JsonCursor := ⟨.finish, [], text, 1⟩
  let (value, cursor) ← readJsonWithin deepestNesting (← start.next)
  match cursor.token with
  | .finish => return value
  | _ => jsonFault cursor.line "unexpected data at the end"

/-- The keys of the parts of an object. -/
def revivedKeys (call : Caller) (place : Reference) : Machine (List Key) := do
  if ← isArrayValue (.object place) then
    return (List.range (← lengthOf call (.object place))).map .ofNat
  else listedKeysOf call place

/-- A function decides on every value, on those inside of it first. The first argument bounds how
deep values are nested. -/
def reviveWithin (call : Caller) (reviver : Value) : Nat → Reference → Key → Machine Value
  | 0, _, _ => tooDeep
  | depth + 1, holder, key => do
      let value ← getMember call (.object holder) key
      match value with
      | .object place =>
          for inner in ← revivedKeys call place do
            match ← reviveWithin call reviver depth place inner with
            | .undefined =>
                let _ ← removeMember call .loose place inner
            | fresh =>
                let _ ← createMember call .loose place inner fresh
      | _ => pure ()
      call (.on (.object holder)) reviver [key.value, value]

def readJson : NativeAction := fun call given => do
  let text ← toText call given.first
  let value ← parseJson (characters text)
  if ← lookUp fun memory => memory.isFunction given.second then
    let root ← allocate ((Object.bare .plain (some objectPrototype)).put (.text []) (.plain value))
    reviveWithin call given.second deepestNesting root (.text [])
  else return value

end HostBridge.Script
