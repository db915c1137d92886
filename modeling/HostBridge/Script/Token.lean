/-
This file cuts the text of a script into tokens.
-/
import HostBridge.Decimal.Nearest
import HostBridge.Script.Flaw
import HostBridge.Script.Syntax
import HostBridge.Text.Blank
import HostBridge.Text.Hex
import HostBridge.Text.Identifier

namespace HostBridge.Script

inductive Token where
  /-- A word can be written with escapes, and then it is no keyword. -/
  | word (name : String) (isEscaped : Bool)
  | personal (name : String)
  | text (value : Units)
  /-- A stretch of a template up to a value or up to its end. -/
  | template (raw : List Char) (isLast : Bool)
  | number (value : Float)
  | whole (value : Int)
  | mark (text : String)
  | finish

instance : Inhabited Token := ⟨.finish⟩

/-- A place in the text of a script. -/
structure Cursor where
  rest : List Char
  offset : Nat
  line : Nat

instance : Inhabited Cursor := ⟨⟨[], 0, 1⟩⟩

def Cursor.advance (cursor : Cursor) (count : Nat) : Cursor :=
  { cursor with rest := cursor.rest.drop count, offset := cursor.offset + count }

/-- The place behind a line end. -/
def Cursor.nextLine (cursor : Cursor) (count : Nat) : Cursor :=
  { cursor.advance count with line := cursor.line + 1 }

variable {A : Type}

def Cursor.complain (cursor : Cursor) (flaw : Flaw) : Except Complaint A :=
  .error ⟨flaw, cursor.line⟩

/-- White space of scripts. -/
def isScriptBlank (c : Char) : Bool := (Text.isBlank c && c.toNat ≠ 0x85) || c.toNat = 0xFEFF

/-- The line ends that Unicode adds to those of ASCII. -/
def isWideLineEnd (c : Char) : Bool := c.toNat = 0x2028 || c.toNat = 0x2029

def isLineEnd (c : Char) : Bool := c = '\n' || c = '\r' || isWideLineEnd c

/-- The rest of the line is passed over. -/
def Cursor.skipLine (cursor : Cursor) : Cursor :=
  cursor.advance (cursor.rest.takeWhile fun c => !isLineEnd c).length

/-- A comment ends where two characters stand. The answer says whether a line ends in it. The
first argument counts the characters. -/
def Cursor.skipComment : Nat → Bool → Cursor → Except Complaint (Bool × Cursor)
  | 0, _, cursor => cursor.complain .openComment
  | bound + 1, opens, cursor =>
      match cursor.rest with
      | [] => cursor.complain .openComment
      | '*' :: '/' :: _ => .ok (opens, cursor.advance 2)
      | '\n' :: _ => skipComment bound true (cursor.nextLine 1)
      | c :: _ => skipComment bound (opens || isLineEnd c) (cursor.advance 1)

/-- The place after blanks and comments, and whether a line ends among them. A comment can begin
with an arrow where no other token stands on the line. The first argument counts the characters. -/
def Cursor.skipBlanks (lastLine : Nat) : Nat → Bool → Cursor → Except Complaint (Bool × Cursor)
  | 0, opens, cursor => .ok (opens, cursor)
  | bound + 1, opens, cursor =>
      match cursor.rest with
      | [] => .ok (opens, cursor)
      | '/' :: '/' :: _ => skipBlanks lastLine bound opens cursor.skipLine
      | '<' :: '!' :: '-' :: '-' :: _ => skipBlanks lastLine bound opens cursor.skipLine
      | '/' :: '*' :: _ => do
          let (opens, cursor) ← Cursor.skipComment bound opens (cursor.advance 2)
          skipBlanks lastLine bound opens cursor
      | '-' :: '-' :: '>' :: _ =>
          if lastLine = cursor.line then .ok (opens, cursor)
          else skipBlanks lastLine bound opens cursor.skipLine
      | '\r' :: '\n' :: _ => skipBlanks lastLine bound true (cursor.nextLine 2)
      | c :: _ =>
          if isLineEnd c then skipBlanks lastLine bound true (cursor.nextLine 1)
          else if isScriptBlank c then skipBlanks lastLine bound opens (cursor.advance 1)
          else .ok (opens, cursor)

/-- What stands behind a backslash. -/
inductive Escape where
  /-- A code point and the number of characters that stand for it. -/
  | code (value count : Nat)
  | bad
  /-- The character stands for itself. -/
  | plain

/-- The value of digits between braces, with their number. -/
def readBraced : Nat → Nat → List Char → Escape
  | _, _, [] => .bad
  | value, count, c :: rest =>
      match Text.hexValue? c with
      | none => .bad
      | some digit =>
          let value := value * 16 + digit
          if 0x10FFFF < value then .bad
          else if rest.head? = some '\x7d' then .code value (count + 2)
          else readBraced value (count + 1) rest

/-- The value of a number of digits. The last argument counts the characters before them. -/
def readHex (width before : Nat) (text : List Char) : Escape :=
  let digits := (text.take width).map Text.hexValue?
  if digits.length < width then .bad
  else if digits.all Option.isSome then
    .code ((digits.filterMap id).foldl (fun value digit => value * 16 + digit) 0) (before + width)
  else .bad

def octalValue? (c : Char) : Option Nat :=
  if '0' ≤ c && c ≤ '7' then some (c.toNat - 48) else none

/-- At most three octal digits, of which the first is read. -/
def readOctal (first : Nat) (rest : List Char) : Escape :=
  match rest with
  | c :: rest =>
      match octalValue? c with
      | none => .code first 1
      | some second =>
          let value := first * 8 + second
          if 32 ≤ value then .code value 2
          else
            match rest.head?.bind octalValue? with
            | some third => .code (value * 8 + third) 3
            | none => .code value 2
  | [] => .code first 1

def readEscape : List Char → Escape
  | [] => .plain
  | c :: rest =>
      if c = 'b' then .code 8 1
      else if c = 'f' then .code 12 1
      else if c = 'n' then .code 10 1
      else if c = 'r' then .code 13 1
      else if c = 't' then .code 9 1
      else if c = 'v' then .code 11 1
      else if c = 'u' || c = 'x' then
        match rest with
        | '\x7b' :: digits => readBraced 0 2 digits
        | _ => if c = 'x' then readHex 2 1 rest else readHex 4 1 rest
      else
        match octalValue? c with
        | some first => readOctal first rest
        | none => .plain

def isDigit (c : Char) : Bool := Decimal.isDigit c

/-- A digit behind a backslash, where octal digits do not count. Only a lone zero is allowed. -/
def readLoneZero (c : Char) (rest : List Char) : Option Escape :=
  if c = '0' && !((rest.head?.map isDigit).getD false) then some (.code 0 1) else none

/-- What a backslash and the characters behind it stand for: a code point, nothing but a line
end, or the character itself. -/
def escapeIn (mode : Mode) (isTemplate : Bool) (text : List Char) : Except Flaw Escape :=
  match text with
  | [] => .error .openText
  | c :: rest =>
      if isDigit c && (mode = .strict || isTemplate) then
        match readLoneZero c rest with
        | some escape => .ok escape
        | none => .error (if isTemplate || '8' ≤ c then .badEscape else .octalEscape)
      else
        match readEscape text with
        | .bad => .error .badEscape
        | escape => .ok escape

/-- A text literal up to its closing quote. The first argument counts the characters, and the
units that are read so far stand in reverse order. -/
def Cursor.readQuoted (mode : Mode) (quote : Char) :
    Nat → Units → Cursor → Except Complaint (Units × Cursor)
  | 0, _, cursor => cursor.complain .openText
  | bound + 1, before, cursor =>
      match cursor.rest with
      | [] => cursor.complain .openText
      | c :: rest =>
          if c = quote then .ok (before.reverse, cursor.advance 1)
          else if c = '\n' || c = '\r' then cursor.complain .openText
          else if c = '\\' then
            match rest with
            | '\r' :: '\n' :: _ => readQuoted mode quote bound before (cursor.nextLine 3)
            | d :: _ =>
                if d = '\n' || d = '\r' then
                  readQuoted mode quote bound before (cursor.nextLine 2)
                else if isWideLineEnd d then
                  readQuoted mode quote bound before (cursor.advance 2)
                else
                  match escapeIn mode false rest with
                  | .error flaw => cursor.complain flaw
                  | .ok (.code value count) =>
                      readQuoted mode quote bound ((Text.codeUnits value).reverse ++ before)
                        (cursor.advance (count + 1))
                  | .ok _ =>
                      readQuoted mode quote bound ((Text.charUnits d).reverse ++ before)
                        (cursor.advance 2)
            | [] => cursor.complain .openText
          else
            readQuoted mode quote bound ((Text.charUnits c).reverse ++ before) (cursor.advance 1)

/-- A stretch of a template. A line end becomes one line feed. The first argument counts the
characters. -/
def Cursor.readTemplate : Nat → List Char → Cursor → Except Complaint (Token × Cursor)
  | 0, _, cursor => cursor.complain .openText
  | bound + 1, before, cursor =>
      match cursor.rest with
      | [] => cursor.complain .openText
      | '$' :: '\x7b' :: _ => .ok (.template before.reverse false, cursor.advance 2)
      | '\\' :: '\r' :: '\n' :: _ =>
          readTemplate bound ('\n' :: '\\' :: before) (cursor.nextLine 3)
      | '\\' :: c :: _ =>
          if c = '\n' || c = '\r' then
            readTemplate bound ('\n' :: '\\' :: before) (cursor.nextLine 2)
          else readTemplate bound (c :: '\\' :: before) (cursor.advance 2)
      | '\r' :: '\n' :: _ => readTemplate bound ('\n' :: before) (cursor.nextLine 2)
      | c :: _ =>
          if c.toNat = 0x60 then .ok (.template before.reverse true, cursor.advance 1)
          else if c = '\n' || c = '\r' then readTemplate bound ('\n' :: before) (cursor.nextLine 1)
          else readTemplate bound (c :: before) (cursor.advance 1)

/-- The text that a stretch of a template stands for. The first argument counts the characters. -/
def cookTemplate : Nat → Units → List Char → Except Flaw Units
  | 0, before, _ => .ok before.reverse
  | _, before, [] => .ok before.reverse
  | bound + 1, before, c :: rest =>
      if c = '\\' then
        match rest with
        | [] => .error .openText
        | d :: more =>
            if d = '\n' || isWideLineEnd d then cookTemplate bound before more
            else
              match escapeIn .loose true rest with
              | .error flaw => .error flaw
              | .ok (.code value count) =>
                  cookTemplate bound ((Text.codeUnits value).reverse ++ before) (rest.drop count)
              | .ok _ => cookTemplate bound ((Text.charUnits d).reverse ++ before) more
      else cookTemplate bound ((Text.charUnits c).reverse ++ before) rest

/-- The code point of an escape in a word, with the number of characters behind the backslash. -/
def wordEscape? (text : List Char) : Option (Char × Nat) :=
  match text with
  | 'u' :: _ =>
      match readEscape text with
      | .code value count => some (Char.ofNat value, count)
      | _ => none
  | _ => none

/-- The next character of a word, with the number of characters that stand for it. -/
def wordChar? (test : Char → Bool) : List Char → Option (Char × Nat)
  | '\\' :: rest =>
      match wordEscape? rest with
      | some (c, count) => if test c then some (c, count + 1) else none
      | none => none
  | c :: _ => if test c then some (c, 1) else none
  | [] => none

/-- The characters of a word, and whether one of them is escaped. The first argument counts the
characters. -/
def Cursor.readWord : Nat → List Char → Bool → Cursor → String × Bool × Cursor
  | 0, before, isEscaped, cursor => (String.ofList before.reverse, isEscaped, cursor)
  | bound + 1, before, isEscaped, cursor =>
      match wordChar? Text.isWordPart cursor.rest with
      | some (c, count) =>
          readWord bound (c :: before) (isEscaped || 1 < count) (cursor.advance count)
      | none => (String.ofList before.reverse, isEscaped, cursor)

/-- The value of a digit or a letter, if it is a digit of the base. -/
def baseDigit? (base : Nat) (c : Char) : Option Nat :=
  let value :=
    if '0' ≤ c && c ≤ '9' then c.toNat - 48
    else if 'a' ≤ c && c ≤ 'z' then c.toNat - 87
    else if 'A' ≤ c && c ≤ 'Z' then c.toNat - 55
    else base
  if value < base then some value else none

/-- Digits of a base, with their number of characters. Single underscores may stand between
digits. -/
def readDigits (base : Nat) (parted : Bool) : List Nat → Nat → List Char → List Nat × Nat
  | before, count, [] => (before.reverse, count)
  | before, count, c :: rest =>
      match baseDigit? base c with
      | some digit => readDigits base parted (digit :: before) (count + 1) rest
      | none =>
          if parted && c = '_' && (rest.head?.bind (baseDigit? base)).isSome then
            readDigits base parted before (count + 1) rest
          else (before.reverse, count)

def digitsInBase (base : Nat) (digits : List Nat) : Nat :=
  digits.foldl (fun value digit => value * base + digit) 0

/-- The number of digits of a base other than ten. Digits beyond 64 bits count as zeros. -/
def numberInBase (base : Nat) (digits : List Nat) : Float :=
  let most := (0x10000000000000000 - base) / base
  let (value, zeros) := digits.foldl (fun (value, zeros) digit =>
    if value ≤ most then (value * base + digit, zeros) else (value, zeros + 1)) (0, 0)
  if zeros = 0 then Float.ofNat value
  else Float.ofNat value * (Float.ofNat base).pow (Float.ofNat zeros)

/-- The fraction of a number literal, with its number of characters. -/
def readFraction (base : Nat) (parted hasWhole : Bool) (text : List Char) :
    Except Flaw (Option (List Nat × Nat)) :=
  match text with
  | '.' :: rest =>
      if !hasWhole && (rest.head?.bind (baseDigit? base)).isNone then .ok none
      else if parted && rest.head? = some '_' then .error .badNumber
      else
        let (digits, count) := readDigits base parted [] 0 rest
        .ok (some (digits, count + 1))
  | _ => .ok none

/-- The exponent of a number literal, with its number of characters. -/
def readExponent? (base : Nat) (parted : Bool) (text : List Char) : Option (Int × Nat) :=
  match text with
  | c :: rest =>
      let isMark :=
        if base = 10 then c = 'e' || c = 'E'
        else (c = 'p' || c = 'P') && (base = 2 || base = 8 || base = 16)
      let (isNegative, sign) :=
        match rest with
        | '+' :: _ => (false, 1)
        | '-' :: _ => (true, 1)
        | _ => (false, 0)
      let tail := rest.drop sign
      if isMark && (tail.head?.map isDigit).getD false then
        let (digits, count) := readDigits 10 parted [] 0 tail
        let size := Int.ofNat (digitsInBase 10 digits)
        some (if isNegative then -size else size, count + sign + 1)
      else none
  | [] => none

/-- A number literal in a base whose digits begin after some characters. -/
def readNumberIn (base before : Nat) (parted isOld : Bool) (text : List Char) :
    Except Flaw (Token × Nat) := do
  let start := text.drop before
  let isLoneZero := base = 10 && start.head? = some '0' && (start.drop 1).head? = some '_'
  let (whole, count) := if isLoneZero then ([0], 1) else readDigits base parted [] 0 start
  let fraction ← readFraction base parted (0 < count) (start.drop count)
  let count := count + (fraction.map Prod.snd).getD 0
  let exponent := readExponent? base parted (start.drop count)
  let count := count + (exponent.map Prod.snd).getD 0
  let decimals := (fraction.map Prod.fst).getD []
  if whole.isEmpty && decimals.isEmpty then .error .badNumber
  else if (start.drop count).head? = some 'n' then
    if isOld || fraction.isSome || exponent.isSome then .error .badNumber
    else return (.whole (Int.ofNat (digitsInBase base whole)), before + count + 1)
  else if base = 10 then
    let digits := digitsInBase 10 (whole ++ decimals)
    let power := (exponent.map Prod.fst).getD 0 - Int.ofNat decimals.length
    return (.number (Decimal.nearest digits power), before + count)
  else return (.number (numberInBase base whole), before + count)

/-- The base of a number literal, the number of characters before its digits, whether underscores
may stand between them, and whether the base is shown by a zero alone. -/
def baseOfNumber (text : List Char) : Nat × Nat × Bool × Bool :=
  match text with
  | '0' :: c :: _ =>
      if c = 'x' || c = 'X' then (16, 2, true, false)
      else if c = 'o' || c = 'O' then (8, 2, true, false)
      else if c = 'b' || c = 'B' then (2, 2, true, false)
      else if isDigit c then
        let behind := ((text.drop 1).dropWhile fun c => (octalValue? c).isSome).head?
        if behind = some '8' || behind = some '9' then (10, 0, false, true)
        else (8, 1, false, true)
      else (10, 0, true, false)
  | _ => (10, 0, true, false)

/-- A number ends where no word begins. -/
def Cursor.readNumber (mode : Mode) (cursor : Cursor) : Except Complaint (Token × Cursor) :=
  let text := cursor.rest
  let (base, before, parted, isOld) := baseOfNumber text
  if isOld && mode = .strict then cursor.complain .oldOctal
  else if 0 < before && ((text.drop before).head?.bind (baseDigit? base)).isNone then
    cursor.complain .badNumber
  else
    match readNumberIn base before parted isOld text with
    | .error flaw => cursor.complain flaw
    | .ok (token, count) =>
        if (((text.drop count).head?).map Text.isWordPart).getD false then
          cursor.complain .badNumber
        else .ok (token, cursor.advance count)

/-- Marks of more than one character, the longer ones first. -/
def longMarks : List String := [
  ">>>=", "===", "!==", "**=", "<<=", ">>=", ">>>", "...", "&&=", "||=", "??=", "=>", "==", "!=",
  "<=", ">=", "&&", "||", "??", "?.", "++", "--", "+=", "-=", "*=", "/=", "%=", "&=", "|=", "^=",
  "<<", ">>", "**"]

/-- The mark that a text begins with. A digit behind a question mark and a point belongs to a
number. -/
def markOf? (text : List Char) : Option String :=
  longMarks.find? fun mark =>
    mark.toList.isPrefixOf text &&
      !(mark = "?." && (((text.drop 2).head?).map isDigit).getD false)

def startsNumber : List Char → Bool
  | '.' :: c :: _ => isDigit c
  | c :: _ => isDigit c
  | [] => false

/-- A word, or a mark where no word begins. -/
def Cursor.readWordOrMark (bound : Nat) (cursor : Cursor) : Except Complaint (Token × Cursor) :=
  match wordChar? Text.isWordStart cursor.rest with
  | some _ =>
      let (name, isEscaped, cursor) := cursor.readWord bound [] false
      .ok (.word name isEscaped, cursor)
  | none =>
      match markOf? cursor.rest with
      | some mark => .ok (.mark mark, cursor.advance mark.length)
      | none =>
          match cursor.rest with
          | c :: _ =>
              if c.toNat < 0x80 then .ok (.mark (String.singleton c), cursor.advance 1)
              else cursor.complain .strangeCharacter
          | [] => .ok (.finish, cursor)

/-- The token at a place. The bound counts the characters. -/
def Cursor.readToken (mode : Mode) (bound : Nat) (cursor : Cursor) :
    Except Complaint (Token × Cursor) :=
  match cursor.rest with
  | [] => .ok (.finish, cursor)
  | c :: rest =>
      if c = '"' || c = '\'' then do
        let (units, cursor) ← Cursor.readQuoted mode c bound [] (cursor.advance 1)
        return (.text units, cursor)
      else if c.toNat = 0x60 then Cursor.readTemplate bound [] (cursor.advance 1)
      else if c = '#' then
        match wordChar? Text.isWordStart rest with
        | some _ =>
            let (name, _, cursor) := Cursor.readWord bound ['#'] false (cursor.advance 1)
            .ok (.personal name, cursor)
        | none => cursor.complain .strangePrivate
      else if startsNumber cursor.rest then cursor.readNumber mode
      else cursor.readWordOrMark bound

/-- The body of a pattern up to its slash. The first argument counts the characters. -/
def Cursor.readPatternBody : Nat → Bool → List Char → Cursor →
    Except Complaint (List Char × Cursor)
  | 0, _, _, cursor => cursor.complain .openPattern
  | bound + 1, isInside, before, cursor =>
      match cursor.rest with
      | [] => cursor.complain .openPattern
      | c :: rest =>
          if isLineEnd c then cursor.complain .brokenPattern
          else if c = '/' && !isInside then .ok (before.reverse, cursor.advance 1)
          else if c = '\\' then
            match rest with
            | [] => cursor.complain .openPattern
            | d :: _ =>
                if isLineEnd d then cursor.complain .brokenPattern
                else readPatternBody bound isInside (d :: c :: before) (cursor.advance 2)
          else
            readPatternBody bound ((isInside || c = '[') && c ≠ ']') (c :: before)
              (cursor.advance 1)

/-- A pattern behind its first slash, with its flags. -/
def Cursor.readPattern (bound : Nat) (cursor : Cursor) :
    Except Complaint (List Char × List Char × Cursor) := do
  let (body, cursor) ← Cursor.readPatternBody bound false [] cursor
  let flags := cursor.rest.takeWhile Text.isWordPart
  return (body, flags, cursor.advance flags.length)

end HostBridge.Script
