/-
This file defines what a reader of scripts keeps in mind, and how it goes from token to token.
-/
import HostBridge.Script.Token

namespace HostBridge.Script

/-- A statement that another one inside it can leave or go on with. -/
structure Exit where
  label : Option String
  /-- The statement can be left without its label. -/
  canLeave : Bool
  canProceed : Bool

/-- What kind of declaration gives a name to a block. -/
inductive Naming where
  | changeable
  | constant
  | function
  /-- A function whose name no other declaration of its block may share. -/
  | special
  | caught
deriving DecidableEq

/-- The declarations between braces. -/
structure Level where
  number : Nat
  names : List (String × Naming)
  /-- Functions that are made before the first statement, the last one first. -/
  functions : List Statement

/-- A script is evaluated on its own, or by a call in another script. -/
inductive Origin where
  | whole
  /-- By a function that has no access to the variables around the call. -/
  | evaluated
  /-- By a call that sees the variables around it. -/
  | inner
deriving DecidableEq

/-- The function or script that is being read. -/
structure Enclosure where
  mode : Mode
  origin : Option Origin
  role : Role
  isGenerator : Bool
  isAsynchronous : Bool
  inBody : Bool
  /-- The text asks for the strict mode. -/
  asksStrict : Bool
  isSimple : Bool
  parameters : List String
  /-- The variables, each with the blocks around its declaration. -/
  places : List (String × List Nat)
  levels : List Level
  nextLevel : Nat
  exits : List Exit
  callsEval : Bool
  usesArguments : Bool
  allowsSuper : Bool
  allowsParent : Bool
  allowsNewTarget : Bool

instance : Inhabited Enclosure :=
  ⟨⟨.loose, none, .plain, false, false, true, false, true, [], [], [], 0, [], false, false, false,
    false, false⟩⟩

/-- How far a script is read. -/
structure Reading where
  /-- No more characters than this are left. -/
  size : Nat
  start : Cursor
  token : Token
  /-- A line ends before the token. -/
  opensLine : Bool
  next : Cursor
  /-- Where the token before ends. -/
  lastEnd : Nat
  /-- The line on which the token before begins. -/
  lastLine : Nat
  enclosure : Enclosure
  outer : List Enclosure

abbrev Reader := StateT Reading (Except Complaint)

variable {A : Type}

def complain (flaw : Flaw) : Reader A := do
  let reading ← get
  fun _ => .error ⟨flaw, reading.next.line⟩

/-- Words that are no names. -/
def keywords : List String := [
  "null", "false", "true", "if", "else", "return", "var", "this", "delete", "void", "typeof",
  "new", "in", "instanceof", "do", "while", "for", "break", "continue", "switch", "case",
  "default", "throw", "try", "catch", "finally", "function", "debugger", "with", "class", "const",
  "enum", "export", "extends", "import", "super"]

/-- Words that are no names in a strict script. -/
def strictWords : List String := [
  "implements", "interface", "let", "package", "private", "protected", "public", "static", "yield"]

/-- A word is no name here. -/
def Enclosure.reserves (enclosure : Enclosure) (name : String) : Bool :=
  keywords.contains name || (enclosure.mode = .strict && strictWords.contains name) ||
    (enclosure.isGenerator && name = "yield") || (enclosure.isAsynchronous && name = "await")

def Reading.reserves (reading : Reading) (name : String) : Bool := reading.enclosure.reserves name

/-- The keyword that the token is. -/
def Reading.keyword? (reading : Reading) : Option String :=
  match reading.token with
  | .word name false => if reading.reserves name then some name else none
  | _ => none

/-- The name that the token is, and whether it is a keyword with an escape in it. -/
def Reading.name? (reading : Reading) : Option (String × Bool) :=
  match reading.token with
  | .word name isEscaped =>
      if !reading.reserves name then some (name, false)
      else if isEscaped then some (name, true)
      else none
  | _ => none

def Reading.isMark (reading : Reading) (text : String) : Bool :=
  match reading.token with
  | .mark mark => mark = text
  | _ => false

def Reading.isKeyword (reading : Reading) (word : String) : Bool :=
  match reading.token with
  | .word name false => name = word && reading.reserves name
  | _ => false

/-- The token is a word with a meaning of its own that can be a name too. -/
def Reading.isPseudo (reading : Reading) (word : String) : Bool :=
  match reading.token with
  | .word name false => name = word && !reading.reserves name
  | _ => false

def Reading.isFinish (reading : Reading) : Bool :=
  match reading.token with
  | .finish => true
  | _ => false

/-- The reading of the next token. -/
def Reading.advance (reading : Reading) : Except Complaint Reading := do
  let (opensLine, start) ←
    Cursor.skipBlanks reading.start.line reading.size false reading.next
  let (token, next) ← start.readToken reading.enclosure.mode reading.size
  return { reading with
    start := start
    token := token
    opensLine := opensLine
    next := next
    lastEnd := reading.next.offset
    lastLine := reading.start.line }

def advance : Reader Unit := do
  let reading ← get
  match reading.advance with
  | .ok next => set next
  | .error complaint => fun _ => .error complaint

/-- The requirement of a power, whose base may not have a sign. -/
inductive PowerRule where
  | allowed
  | forbidden
  | ignored
deriving DecidableEq

/-- The manner in which the names of a pattern are bound. -/
inductive Binder where
  | assigned
  | declared (declared : Declared)
  | parameter
deriving DecidableEq

/-- The statements that may stand at a place. -/
inductive Place where
  | any
  /-- Neither declarations nor functions. -/
  | single
  | singleOrFunction
  /-- The function may have a label. -/
  | labelled
deriving DecidableEq

/-- What is known of a function before its parameters. -/
structure FunctionStart where
  role : Role
  isGenerator : Bool
  isAsynchronous : Bool
  /-- The name that the function is written with. -/
  name : Option String
  isStatement : Bool
  start : Cursor

/-- The readings that refer to each other. -/
structure Grammar where
  /-- An expression without a comma outside of brackets. A loop does not allow the word `in`. -/
  assignment : Bool → Reader Expression
  unary : PowerRule → Reader Expression
  /-- An expression with the members behind it. The flag allows calls. -/
  suffixed : Bool → Reader Expression
  /-- A pattern. The flags say whether a value may follow and whether it has to. -/
  target : Binder → Bool → Bool → Reader Target
  /-- A function from its parameters on. -/
  function : FunctionStart → Reader Expression
  statement : Place → Reader Statement

/-- What a reader asks about the token. -/
def asks (question : Reading → A) : Reader A := do return question (← get)

def isMark (text : String) : Reader Bool := asks (Reading.isMark · text)

def isKeyword (word : String) : Reader Bool := asks (Reading.isKeyword · word)

def isPseudo (word : String) : Reader Bool := asks (Reading.isPseudo · word)

def expectMark (text : String) : Reader Unit := do
  if ← isMark text then advance else complain (.expecting text)

/-- Goes on behind a mark, if it stands here. -/
def passMark (text : String) : Reader Bool := do
  if ← isMark text then
    advance
    return true
  else return false

/-- A statement ends at a semicolon, before a closing brace, at the end or where a line begins. -/
def endStatement : Reader Unit := do
  let reading ← get
  if reading.isMark ";" then advance
  else if reading.isFinish || reading.isMark "\x7d" || reading.opensLine then return ()
  else complain (.expecting ";")

/-- The text from a place up to another one. -/
def sourceFrom (start : Cursor) (last : Nat) : String :=
  String.ofList (start.rest.take (last - start.offset))

/-- The token as it is written. -/
def Reading.shown (reading : Reading) : String := sourceFrom reading.start reading.next.offset

/-- The rest of a template behind a value in it. -/
def Reading.resumeTemplate (reading : Reading) : Except Complaint Reading := do
  let (token, next) ← Cursor.readTemplate reading.size [] reading.next
  return { reading with token := token, next := next, opensLine := false,
                        lastLine := reading.start.line }

/-- What stands behind the token: a mark, `word`, a word that matters to the reader, or a line
end. -/
def glanceWord (text : List Char) : String :=
  let word := String.ofList (text.takeWhile Text.isWordPart)
  if ["in", "of", "function"].contains word then word else "word"

/-- The first character or word behind blanks and comments. A line end counts if it is asked for.
The first argument counts the characters. -/
def glance (stopsAtLine : Bool) : Nat → List Char → String
  | 0, _ => ""
  | bound + 1, text =>
      match text with
      | [] => ""
      | '/' :: '/' :: rest =>
          if stopsAtLine then "\n"
          else glance stopsAtLine bound (rest.dropWhile fun c => c ≠ '\n' && c ≠ '\r')
      | '/' :: '*' :: rest => glanceComment stopsAtLine bound rest
      | '=' :: '>' :: _ => "=>"
      | c :: rest =>
          if c = '\n' || c = '\r' then
            if stopsAtLine then "\n" else glance stopsAtLine bound rest
          else if c = ' ' || c = '\t' || c.toNat = 11 || c.toNat = 12 then
            glance stopsAtLine bound rest
          else if Text.isWordStart c then glanceWord text
          else String.singleton c
where
  glanceComment (stopsAtLine : Bool) : Nat → List Char → String
    | 0, _ => ""
    | bound + 1, text =>
        match text with
        | [] => ""
        | '*' :: '/' :: rest => glance stopsAtLine bound rest
        | c :: rest =>
            if stopsAtLine && (c = '\n' || c = '\r') then "\n"
            else glanceComment stopsAtLine bound rest

/-- What stands behind the token. -/
def glances (stopsAtLine : Bool) : Reader String :=
  asks fun reading => glance stopsAtLine reading.size reading.next.rest

/-- What is found between brackets and behind them, before they are read. -/
structure Ahead where
  /-- The reading behind the closing bracket, unless something is wrong with the brackets. -/
  behind : Option Reading
  hasSemicolon : Bool
  hasSpread : Bool
  hasAssignment : Bool

/-- A pattern can begin behind a token. -/
def Reading.allowsPattern (reading : Reading) : Bool :=
  match reading.token with
  | .number _ | .whole _ | .text _ => false
  | .mark text => !(["--", "++", ")", "]", "\x7d"].contains text)
  | .word name isEscaped =>
      if isEscaped then false
      else if reading.reserves name then !(["null", "false", "true", "this"].contains name)
      else name = "of" || name = "yield"
  | _ => true

/-- A pattern is passed over as one token. -/
def Reading.passPattern (reading : Reading) : Option Reading :=
  match (reading.start.advance 1).readPattern reading.size with
  | .ok (_, _, next) => some { reading with token := .text [], next := next }
  | .error _ => none

/-- The brackets that are open behind a token, or nothing where one does not fit. -/
def Reading.nest (reading : Reading) (stack : List Char) : Option (List Char) :=
  match reading.token with
  | .mark "(" => some ('(' :: stack)
  | .mark "[" => some ('[' :: stack)
  | .mark "\x7b" => some ('\x7b' :: stack)
  | .mark ")" => if stack.head? = some '(' then some (stack.drop 1) else none
  | .mark "]" => if stack.head? = some '[' then some (stack.drop 1) else none
  | .mark "\x7d" => if stack.head? = some '\x7b' then some (stack.drop 1) else none
  | .template _ false => some ('$' :: stack)
  | .finish => none
  | _ => some stack

/-- A closing brace goes on with a template when the last thing open is one. -/
def Reading.unfold (reading : Reading) (stack : List Char) : Option (Reading × List Char) :=
  if reading.isMark "\x7d" && stack.head? = some '$' then
    match reading.resumeTemplate with
    | .ok resumed => some (resumed, stack.drop 1)
    | .error _ => none
  else some (reading, stack)

/-- Brackets are not looked through deeper than this. -/
def deepestAhead : Nat := 255

/-- Looks through brackets up to the closing one. The first argument counts the tokens. -/
def Reading.lookThrough : Nat → List Char → Bool → Ahead → Reading → Ahead
  | 0, _, _, ahead, _ => ahead
  | bound + 1, stack, allowsPattern, ahead, reading =>
      let passed :=
        if (reading.isMark "/" || reading.isMark "/=") && allowsPattern then reading.passPattern
        else some reading
      match passed.bind (Reading.unfold · stack) with
      | none => ahead
      | some (reading, stack) =>
          match reading.nest stack with
          | none => ahead
          | some inner =>
              if deepestAhead < inner.length then ahead
              else
                let isTop := stack.length = 1
                let ahead := { ahead with
                  hasSemicolon := ahead.hasSemicolon || (isTop && reading.isMark ";")
                  hasSpread := ahead.hasSpread || (isTop && reading.isMark "...")
                  hasAssignment := ahead.hasAssignment || reading.isMark "=" }
                let allowsNext := reading.allowsPattern
                match reading.advance with
                | .error _ => ahead
                | .ok next =>
                    if inner.isEmpty then { ahead with behind := some next }
                    else Reading.lookThrough bound inner allowsNext ahead next

/-- What is found in the brackets that begin here. -/
def looksThrough : Reader Ahead :=
  asks fun reading => reading.lookThrough reading.size [] true ⟨none, false, false, false⟩

/-- The mark behind the brackets, if there is one. -/
def Ahead.mark? (ahead : Ahead) : Option String :=
  ahead.behind.bind fun reading =>
    match reading.token with
    | .mark text => some text
    | _ => none

/-- An arrow on the same line stands behind the brackets. -/
def Ahead.hasArrow (ahead : Ahead) : Bool :=
  match ahead.behind with
  | some reading => reading.isMark "=>" && reading.lastLine = reading.start.line
  | none => false

/-- The brackets are followed by a word that a loop goes on with. -/
def Ahead.hasLoopWord (ahead : Ahead) : Bool :=
  match ahead.behind with
  | some reading => reading.isPseudo "of" || reading.isKeyword "in"
  | none => false

def changeEnclosure (change : Enclosure → Enclosure) : Reader Unit :=
  modify fun reading => { reading with enclosure := change reading.enclosure }

/-- Repeats a step until it has nothing to go on with. The first argument bounds the steps. -/
def repeated (step : A → Reader (A × Bool)) : Nat → A → Reader A
  | 0, _ => complain .tooDeep
  | bound + 1, state => do
      let (state, goesOn) ← step state
      if goesOn then repeated step bound state else return state

/-- Repeats a step as often as the text allows. -/
def repeatedly (step : A → Reader (A × Bool)) (state : A) : Reader A := do
  repeated step ((← get).size + 2) state

end HostBridge.Script
