/-
This file reads patterns from their texts.
-/
import HostBridge.Script.Regex.Basic
import HostBridge.Script.Token

namespace HostBridge.Script

/-- How far a pattern is read. -/
structure RegexReading where
  rest : List Nat
  /-- The number of groups so far, the whole match included. -/
  groups : Nat
  names : List (Units × Nat)
  /-- The groups of the whole pattern, which a reference can point ahead to. -/
  allGroups : Nat
  allNames : List (Units × Nat)
  isUnicode : Bool

abbrev RegexReader := StateT RegexReading (Except RegexFlaw)

variable {A : Type}

def regexFail (flaw : RegexFlaw) : RegexReader A := fun _ => .error flaw

def regexRest : RegexReader (List Nat) := do return (← get).rest

def regexDrop (count : Nat) : RegexReader Unit :=
  modify fun reading => { reading with rest := reading.rest.drop count }

/-- The next character is this one. -/
def regexNext (c : Char) : RegexReader Bool := do return (← regexRest).head? = some c.toNat

def regexExpect (c : Char) : RegexReader Unit := do
  if ← regexNext c then regexDrop 1 else regexFail (.expecting (String.singleton c))

/-- The pattern goes on with these characters. -/
def regexOpens (text : String) : RegexReader Bool := do
  return (text.toList.map Char.toNat).isPrefixOf (← regexRest)

def isDigitCode (code : Nat) : Bool := '0'.toNat ≤ code && code ≤ '9'.toNat

def isOctalCode (code : Nat) : Bool := '0'.toNat ≤ code && code ≤ '7'.toNat

/-- The number that a text begins with, and the rest. -/
def leadingCount (text : List Nat) : Nat × List Nat :=
  let (digits, rest) := text.span isDigitCode
  (digits.foldl (fun value digit => value * 10 + (digit - '0'.toNat)) 0, rest)

/-- The name of a group up to its closing mark. The first argument counts the characters. -/
def groupName? : Nat → List Char → List Char → Option (Units × List Char)
  | 0, _, _ => none
  | bound + 1, before, text =>
      match text with
      | '>' :: rest =>
          if before.isEmpty then none else some (before.reverse.flatMap Text.charUnits, rest)
      | _ =>
          match wordChar? (if before.isEmpty then Text.isWordStart else Text.isWordPart) text with
          | some (c, count) => groupName? bound (c :: before) (text.drop count)
          | none => none

/-- The name of a group behind its opening mark. -/
def leadingName? (text : List Nat) : Option (Units × List Nat) :=
  (groupName? (text.length + 1) [] (text.map Char.ofNat)).map fun (name, rest) =>
    (name, text.drop (text.length - rest.length))

/-- All groups of a pattern are counted before it is read. The first argument counts the
characters. -/
def countGroups : Nat → Bool → Nat → List (Units × Nat) → List Nat → Nat × List (Units × Nat)
  | 0, _, groups, names, _ => (groups, names.reverse)
  | _, _, groups, names, [] => (groups, names.reverse)
  | bound + 1, isInside, groups, names, c :: rest =>
      if c = '\\'.toNat then countGroups bound isInside groups names (rest.drop 1)
      else if isInside then countGroups bound (c ≠ ']'.toNat) groups names rest
      else if c = '['.toNat then countGroups bound true groups names rest
      else if c = '('.toNat then
        if rest.head? ≠ some '?'.toNat then countGroups bound false (groups + 1) names rest
        else
          let opensName := (rest.drop 1).head? = some '<'.toNat &&
            (rest.drop 2).head? ≠ some '='.toNat && (rest.drop 2).head? ≠ some '!'.toNat
          if opensName then
            match leadingName? (rest.drop 2) with
            | some (name, _) => countGroups bound false (groups + 1) ((name, groups) :: names) rest
            | none => countGroups bound false (groups + 1) names rest
          else countGroups bound false groups names rest
      else countGroups bound false groups names rest

/-- A character of a set, or a set of its own. -/
inductive RegexAtom where
  | code (value : Nat)
  | set (ranges : List (Nat × Nat))

def largestCode : Nat := 0x10FFFF

/-- All characters outside of ascending ranges. -/
def outsideFrom : Nat → List (Nat × Nat) → List (Nat × Nat)
  | start, [] => [(start, largestCode)]
  | start, (low, high) :: rest =>
      if start < low then (start, low - 1) :: outsideFrom (high + 1) rest
      else outsideFrom (high + 1) rest

def digitRanges : List (Nat × Nat) := [(0x30, 0x39)]

def wordRanges : List (Nat × Nat) := [(0x30, 0x39), (0x41, 0x5A), (0x5F, 0x5F), (0x61, 0x7A)]

def blankRanges : List (Nat × Nat) := [
  (0x09, 0x0D), (0x20, 0x20), (0xA0, 0xA0), (0x1680, 0x1680), (0x2000, 0x200A), (0x2028, 0x2029),
  (0x202F, 0x202F), (0x205F, 0x205F), (0x3000, 0x3000), (0xFEFF, 0xFEFF)]

/-- The set that a letter behind a backslash stands for. -/
def classOf? (letter : Nat) : Option (List (Nat × Nat)) :=
  if letter = 'd'.toNat then some digitRanges
  else if letter = 'D'.toNat then some (outsideFrom 0 digitRanges)
  else if letter = 'w'.toNat then some wordRanges
  else if letter = 'W'.toNat then some (outsideFrom 0 wordRanges)
  else if letter = 's'.toNat then some blankRanges
  else if letter = 'S'.toNat then some (outsideFrom 0 blankRanges)
  else none

/-- Characters that stand for themselves behind a backslash. -/
def escapableCodes : List Nat := "^$\\.*+?()[]\x7b\x7d|/".toList.map Char.toNat

/-- The escape that a text without surrogates begins with. -/
def codeEscape (isUnicode : Bool) (text : List Nat) : Escape :=
  let chars := text.map Char.ofNat
  match chars with
  | 'u' :: '\x7b' :: _ => if isUnicode then readEscape chars else .bad
  | 'x' :: '\x7b' :: _ => .bad
  | '0' :: c :: _ => if isUnicode && isDigit c then .bad else readEscape chars
  | c :: _ => if isUnicode && isDigit c && c ≠ '0' then .bad else readEscape chars
  | [] => .plain

/-- Two escapes that form a pair of surrogates stand for one character. -/
def pairedEscape? (high : Nat) (text : List Nat) : Option (Nat × Nat) :=
  match text with
  | slash :: rest =>
      if slash = '\\'.toNat && rest.head? = some 'u'.toNat && 0xD800 ≤ high && high < 0xDC00 then
        match readHex 4 1 ((rest.drop 1).map Char.ofNat) with
        | .code low _ =>
            if 0xDC00 ≤ low && low < 0xE000 then
              some (0x10000 + (high - 0xD800) * 0x400 + (low - 0xDC00), 6)
            else none
        | _ => none
      else none
  | [] => none

/-- The letter of a control character, which may be a digit inside a set. -/
def isControlLetter (isInside : Bool) (code : Nat) : Bool :=
  ('a'.toNat ≤ code && code ≤ 'z'.toNat) || ('A'.toNat ≤ code && code ≤ 'Z'.toNat) ||
    (isInside && (isDigitCode code || code = '_'.toNat))

def readPlainCode : RegexReader RegexAtom := do
  match ← regexRest with
  | [] => regexFail .ended
  | c :: _ =>
      regexDrop 1
      return .code c

/-- An escape that is no set. -/
def readCodeEscape : RegexReader RegexAtom := do
  let isUnicode := (← get).isUnicode
  let text ← regexRest
  match codeEscape isUnicode text with
  | .code value count =>
      regexDrop count
      match if isUnicode then pairedEscape? value (text.drop count) else none with
      | some (pair, more) =>
          regexDrop more
          return .code pair
      | none => return .code value
  | other =>
      let isPlain :=
        match other with
        | .plain => true
        | _ => false
      let isEscapable := (text.head?.map escapableCodes.contains).getD false
      if isUnicode && !(isPlain && (isEscapable || text.head? = some '-'.toNat)) then
        regexFail .badEscape
      else readPlainCode

/-- A character or a set behind a backslash. -/
def readEscapedAtom (isInside : Bool) : RegexReader RegexAtom := do
  let isUnicode := (← get).isUnicode
  match ← regexRest with
  | [] => regexFail .ended
  | letter :: rest =>
      match classOf? letter with
      | some ranges =>
          regexDrop 1
          return .set ranges
      | none =>
          if letter = 'c'.toNat then
            match rest with
            | code :: _ =>
                if isControlLetter (isInside && !isUnicode) code then
                  regexDrop 2
                  return .code (code % 32)
                else if isUnicode then regexFail .badEscape
                else return .code '\\'.toNat
            | [] => if isUnicode then regexFail .badEscape else return .code '\\'.toNat
          else if (letter = 'p'.toNat || letter = 'P'.toNat) && isUnicode then
            if rest.head? = some '\x7b'.toNat then regexFail .unknownProperty
            else regexFail .noBrace
          else readCodeEscape

def readAtom (isInside : Bool) : RegexReader RegexAtom := do
  if ← regexNext '\\' then
    regexDrop 1
    readEscapedAtom isInside
  else readPlainCode

/-- The ranges of a set up to its closing bracket. The first argument counts the characters. -/
def readSet : Nat → List (Nat × Nat) → RegexReader (List (Nat × Nat))
  | 0, _ => regexFail .ended
  | bound + 1, ranges => do
      if ← regexNext ']' then
        regexDrop 1
        return ranges
      else
        let isUnicode := (← get).isUnicode
        let first ← readAtom true
        let text ← regexRest
        let hasRange := text.head? = some '-'.toNat && (text.drop 1).head? ≠ some ']'.toNat
        match first, hasRange with
        | .set inner, true =>
            if isUnicode then regexFail .badRange else readSet bound (ranges ++ inner)
        | .set inner, false => readSet bound (ranges ++ inner)
        | .code low, false => readSet bound ((low, low) :: ranges)
        | .code low, true =>
            let before ← get
            regexDrop 1
            match ← readAtom true with
            | .set _ =>
                if isUnicode then regexFail .badRange
                else
                  set before
                  readSet bound ((low, low) :: ranges)
            | .code high =>
                if high < low then regexFail .badRange
                else readSet bound ((low, high) :: ranges)

def readSetTerm : RegexReader Regex := do
  let isNegative ← regexNext '^'
  if isNegative then regexDrop 1
  let text ← regexRest
  return .set isNegative (← readSet (text.length + 1) [])

def Regex.ofAtom : RegexAtom → Regex
  | .code value => .code value
  | .set ranges => .set false ranges

/-- An old way of writing characters: up to three octal digits behind a backslash. -/
def readOldOctal : RegexReader Regex := do
  match ← regexRest with
  | [] => regexFail .ended
  | c :: rest =>
      if isOctalCode c then
        let most := if c ≤ '3'.toNat then 3 else 2
        let digits := ((c :: rest).take most).takeWhile isOctalCode
        regexDrop digits.length
        return .code (digits.foldl (fun value digit => value * 8 + (digit - '0'.toNat)) 0)
      else
        regexDrop 1
        return .code c

/-- A reference to a group by its number. -/
def readNumberedReference : RegexReader Regex := do
  let reading ← get
  let (index, rest) := leadingCount reading.rest
  if index < max reading.groups reading.allGroups then
    set { reading with rest := rest }
    return .reference index
  else if reading.isUnicode then regexFail .noGroup
  else readOldOctal

/-- A reference to a group by its name. -/
def readNamedReference : RegexReader Regex := do
  let reading ← get
  let isStrict := reading.isUnicode || !reading.allNames.isEmpty
  let plain (flaw : RegexFlaw) : RegexReader Regex := do
    if isStrict then regexFail flaw else return .ofAtom (← readEscapedAtom false)
  if (reading.rest.drop 1).head? ≠ some '<'.toNat then plain .noGroupName
  else
    match leadingName? (reading.rest.drop 2) with
    | none => plain .badGroupName
    | some (name, rest) =>
        match reading.allNames.lookup name with
        | some index =>
            set { reading with rest := rest }
            return .reference index
        | none => plain .unknownGroupName

/-- A zero behind a backslash. -/
def readZero : RegexReader Regex := do
  let reading ← get
  if reading.isUnicode then
    regexDrop 1
    if (reading.rest.drop 1).head?.any isDigitCode then regexFail .badDecimal
    else return .code 0
  else
    let digits := ((reading.rest.drop 1).take 2).takeWhile isOctalCode
    regexDrop (digits.length + 1)
    return .code (digits.foldl (fun value digit => value * 8 + (digit - '0'.toNat)) 0)

/-- What stands behind a backslash outside of sets, and whether it can be repeated. -/
def readEscapedTerm : RegexReader (Regex × Bool) := do
  match ← regexRest with
  | [] => regexFail .ended
  | letter :: _ =>
      if letter = 'b'.toNat || letter = 'B'.toNat then
        regexDrop 1
        return (.boundary (letter = 'B'.toNat), false)
      else if letter = 'k'.toNat then return (← readNamedReference, true)
      else if letter = '0'.toNat then return (← readZero, true)
      else if isDigitCode letter then return (← readNumberedReference, true)
      else return (.ofAtom (← readEscapedAtom false), true)

/-- A brace with counts stands here. -/
def opensCount (text : List Nat) : Bool :=
  match text with
  | brace :: rest =>
      let (_, tail) := leadingCount rest
      let tail := if tail.head? = some ','.toNat then (leadingCount (tail.drop 1)).2 else tail
      brace = '\x7b'.toNat && rest.head?.any isDigitCode && tail.head? = some '\x7d'.toNat
  | [] => false

/-- Counts between braces. -/
def readCounts? : RegexReader (Option (Nat × Option Nat)) := do
  let reading ← get
  if !(reading.rest.drop 1).head?.any isDigitCode then
    if reading.isUnicode then regexFail .badCount else return none
  else
    let (least, rest) := leadingCount (reading.rest.drop 1)
    let (most, rest) : Option Nat × List Nat :=
      if rest.head? = some ','.toNat then
        if (rest.drop 1).head?.any isDigitCode then
          let (most, rest) := leadingCount (rest.drop 1)
          (some most, rest)
        else (none, rest.drop 1)
      else (some least, rest)
    if most.any (· < least) then regexFail .badCount
    else if rest.head? = some '\x7d'.toNat then
      set { reading with rest := rest.drop 1 }
      return some (least, most)
    else if reading.isUnicode then regexFail (.expecting "\x7d")
    else return none

/-- How often a term is repeated. -/
def readRepetition? : RegexReader (Option (Nat × Option Nat)) := do
  match ← regexRest with
  | [] => return none
  | c :: _ =>
      if c = '*'.toNat then
        regexDrop 1
        return some (0, none)
      else if c = '+'.toNat then
        regexDrop 1
        return some (1, none)
      else if c = '?'.toNat then
        regexDrop 1
        return some (0, some 1)
      else if c = '\x7b'.toNat then readCounts?
      else return none

/-- A term with its repetition. The second argument is the number of groups before the term. -/
def readRepeated (term : Regex) (before : Nat) : RegexReader Regex := do
  match ← readRepetition? with
  | none => return term
  | some (least, most) =>
      let isLazy ← regexNext '?'
      if isLazy then regexDrop 1
      return .repeated least most (!isLazy) before (← get).groups term

/-- The next group gets its number before its body is read. -/
def openGroup (name : Option Units) : RegexReader Nat := do
  let reading ← get
  if 255 ≤ reading.groups then regexFail .tooManyGroups
  else
    let names := reading.names ++ (name.map fun name => (name, reading.groups)).toList
    set { reading with groups := reading.groups + 1, names := names }
    return reading.groups

/-- The beginning of a group with a name. -/
def openNamedGroup : RegexReader Nat := do
  let reading ← get
  match leadingName? (reading.rest.drop 3) with
  | none => regexFail .badGroupName
  | some (name, rest) =>
      if (reading.names.lookup name).isSome then regexFail .secondGroupName
      else
        set { reading with rest := rest }
        openGroup (some name)

mutual

/-- The first argument bounds how deep groups are nested. -/
def readAlternatives : Nat → RegexReader Regex
  | 0 => regexFail .tooDeep
  | depth + 1 => do
      let first ← readTerms depth
      if ← regexNext '|' then
        regexDrop 1
        return .either first (← readAlternatives depth)
      else return first

def readTerms : Nat → RegexReader Regex
  | 0 => regexFail .tooDeep
  | depth + 1 => do
      match ← regexRest with
      | [] => return .empty
      | c :: _ =>
          if c = '|'.toNat || c = ')'.toNat then return .empty
          else
            let before := (← get).groups
            let (term, canRepeat) ← readTerm depth
            let term ← if canRepeat then readRepeated term before else pure term
            return .sequence term (← readTerms depth)

/-- A term, and whether it can be repeated. -/
def readTerm : Nat → RegexReader (Regex × Bool)
  | 0 => regexFail .tooDeep
  | depth + 1 => do
      let reading ← get
      match reading.rest with
      | [] => regexFail .ended
      | c :: _ =>
          if c = '^'.toNat then
            regexDrop 1
            return (.start, false)
          else if c = '$'.toNat then
            regexDrop 1
            return (.finish, false)
          else if c = '.'.toNat then
            regexDrop 1
            return (.any, true)
          else if c = '*'.toNat || c = '+'.toNat || c = '?'.toNat then
            regexFail .nothingRepeated
          else if c = '\x7b'.toNat && reading.isUnicode then regexFail .strayMark
          else if c = '\x7b'.toNat && opensCount reading.rest then regexFail .nothingRepeated
          else if (c = ']'.toNat || c = '\x7d'.toNat) && reading.isUnicode then
            regexFail .strayMark
          else if c = '['.toNat then
            regexDrop 1
            return (← readSetTerm, true)
          else if c = '\\'.toNat then
            regexDrop 1
            readEscapedTerm
          else if c = '('.toNat then readGroup depth
          else return (.ofAtom (← readPlainCode), true)

/-- A term in parentheses, and whether it can be repeated. -/
def readGroup : Nat → RegexReader (Regex × Bool)
  | 0 => regexFail .tooDeep
  | depth + 1 => do
      let isUnicode := (← get).isUnicode
      if ← regexOpens "(?:" then
        regexDrop 3
        let body ← readAlternatives depth
        regexExpect ')'
        return (body, true)
      else if (← regexOpens "(?=") || (← regexOpens "(?!") then
        let isNegative ← regexOpens "(?!"
        regexDrop 3
        let body ← readAlternatives depth
        regexExpect ')'
        return (.look false isNegative body, !isUnicode)
      else if (← regexOpens "(?<=") || (← regexOpens "(?<!") then
        let isNegative ← regexOpens "(?<!"
        regexDrop 4
        let body ← readAlternatives depth
        regexExpect ')'
        return (.look true isNegative body, false)
      else if (← regexOpens "(?") && !(← regexOpens "(?<") then regexFail .badGroup
      else
        let index ←
          if ← regexOpens "(?<" then openNamedGroup
          else do
            regexDrop 1
            openGroup none
        let body ← readAlternatives depth
        regexExpect ')'
        return (.group index body, true)

end

/-- The code points of a text, or its code units. -/
def regexCodes (isUnicode : Bool) (source : Units) : List Nat :=
  if isUnicode then Text.codePoints source else source.map UInt16.toNat

/-- Nested groups are not read deeper than this. -/
def regexDepth (text : List Nat) : Nat := min (4 * text.length + 8) 4000

/-- The pattern that a text with flags stands for. -/
def RegexProgram.ofUnits (source flags : Units) : Except RegexFlaw RegexProgram :=
  match RegexFlags.ofUnits? flags with
  | none => .error .badFlags
  | some flags =>
      let text := regexCodes flags.isUnicode source
      let (groups, names) := countGroups (text.length + 1) false 1 [] text
      match (readAlternatives (regexDepth text)).run ⟨text, 1, [], groups, names,
          flags.isUnicode⟩ with
      | .error flaw => .error flaw
      | .ok (body, reading) =>
          if reading.rest.isEmpty then .ok ⟨flags, body, reading.groups, reading.names⟩
          else .error .trailing

end HostBridge.Script
