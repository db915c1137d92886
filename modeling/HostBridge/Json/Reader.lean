/-
This file decodes JSON texts.
-/
import HostBridge.Json.Scanner

namespace HostBridge.Json

/-- The items of an array whose opening bracket is read. The bound counts the items. -/
def readItems (value : List Char → Scan Json) : Nat → Bool → List Char → Scan (List Json)
  | 0, _, _ => stopAt .endOfList []
  | bound + 1, first, text =>
      let item (text : List Char) : Except Stop (List Json × List Char) := do
        let (head, rest) ← value text
        let (tail, rest) ← readItems value bound false rest
        return (head :: tail, rest)
      match skipBlanks text with
      | [] => stopAfter .endOfList []
      | c :: rest =>
          if c = ']' then .ok ([], rest)
          else if first then item (c :: rest)
          else if c = ',' then
            match skipBlanks rest with
            | [] => stopAfter .endOfValue []
            | d :: rest =>
                if d = ']' then stopAfter .trailingComma (d :: rest) else item (d :: rest)
          else stopAfter .expectedListEnd (c :: rest)

/-- The colon between a key and its value. -/
def readColon (text : List Char) : Except Stop (List Char) :=
  match skipBlanks text with
  | [] => stopAfter .endOfObject []
  | c :: rest => if c = ':' then .ok rest else stopAfter .expectedColon (c :: rest)

/-- The members of an object whose opening brace is read, as they are written. -/
def readMembers (value : List Char → Scan Json) : Nat → Bool → List Char → Scan (List (String × Json))
  | 0, _, _ => stopAt .endOfObject []
  | bound + 1, first, text =>
      let member (text : List Char) : Except Stop (List (String × Json) × List Char) := do
        let (key, rest) ← scanString text
        let rest ← readColon rest
        let (head, rest) ← value rest
        let (tail, rest) ← readMembers value bound false rest
        return ((key, head) :: tail, rest)
      match skipBlanks text with
      | [] => stopAfter .endOfObject []
      | c :: rest =>
          if c = '\x7d' then .ok ([], rest)
          else if first then
            if c = '"' then member rest else stopAfter .keyNotString (c :: rest)
          else if c = ',' then
            match skipBlanks rest with
            | [] => stopAfter .endOfValue []
            | d :: rest =>
                if d = '"' then member rest
                else if d = '\x7d' then stopAfter .trailingComma (d :: rest)
                else stopAfter .keyNotString (d :: rest)
          else stopAfter .expectedObjectEnd (c :: rest)

/-- The first argument counts the brackets that may still be opened. -/
def readValue : Nat → List Char → Scan Json
  | depth, text =>
      match skipBlanks text with
      | [] => stopAfter .endOfValue []
      | c :: rest =>
          if c = 'n' then (scanWord ['u', 'l', 'l'] rest).map fun rest => (.null, rest)
          else if c = 't' then
            (scanWord ['r', 'u', 'e'] rest).map fun rest => (.boolean true, rest)
          else if c = 'f' then
            (scanWord ['a', 'l', 's', 'e'] rest).map fun rest => (.boolean false, rest)
          else if c = '"' then (scanString rest).map fun (text, rest) => (.string text, rest)
          else if c = '-' || Decimal.isDigit c then
            (scanNumber (c :: rest)).map fun (value, rest) => (.number value, rest)
          else if c = '[' then
            match depth with
            | 0 => stopAfter .tooDeep (c :: rest)
            | depth + 1 =>
                (readItems (readValue depth) (rest.length + 1) true rest).map
                  fun (items, rest) => (.array items, rest)
          else if c = '\x7b' then
            match depth with
            | 0 => stopAfter .tooDeep (c :: rest)
            | depth + 1 =>
                (readMembers (readValue depth) (rest.length + 1) true rest).map
                  fun (members, rest) => (.object (Members.ofPairs members), rest)
          else stopAfter .expectedValue (c :: rest)

/-- Brackets may be opened inside 126 others. -/
def depthLimit : Nat := 127

/-- A text is one value between blanks. -/
def readText (text : List Char) : Except Stop Json := do
  let (value, rest) ← readValue depthLimit text
  match skipBlanks rest with
  | [] => return value
  | rest => stopAfter .trailingCharacters rest

def ofText (text : String) : Except Fault Json :=
  (readText text.toList).mapError (·.fault text.toList)

end HostBridge.Json
