/-
This file reads the keys of members and the targets of assignments.
-/
import HostBridge.Decimal.Layout
import HostBridge.Script.Reader.Declaration

namespace HostBridge.Script

/-- What a key announces. -/
inductive KeyKind where
  | plain
  /-- The name of a variable that is also the key. -/
  | shorthand
  | getter
  | setter
  | generator
  | asynchronous
  | asynchronousGenerator
deriving DecidableEq

/-- The key of a member. -/
structure MemberKey where
  kind : KeyKind
  expression : Expression
  isComputed : Bool
  /-- The name that the key is, if it is written as one. -/
  name : String

/-- A key goes on as one of these marks say, so that the word before them is the key itself. -/
def endsKey : Reader Bool :=
  asks fun reading => [":", ",", "\x7d", "(", "="].any reading.isMark

/-- The value of a number literal as a key. -/
def numberKey (number : Float) : Units := Text.units (Decimal.Layout.script.text number)

def wholeKey (number : Int) : Units :=
  Text.units ((if number < 0 then "-" else "") ++ Decimal.digitText number.natAbs)

/-- Words before a key. The answer is the word itself if it turns out to be the key. -/
def readKeyKind : Reader (KeyKind × Option String) := do
  let reading ← get
  if reading.isPseudo "get" || reading.isPseudo "set" then
    let isGetter := reading.isPseudo "get"
    advance
    if ← endsKey then return (.plain, some (if isGetter then "get" else "set"))
    else return (if isGetter then .getter else .setter, none)
  else if reading.isMark "*" then
    advance
    return (.generator, none)
  else if reading.isPseudo "async" && (← glances true) ≠ "\n" then
    advance
    if ← endsKey then return (.plain, some "async")
    else if ← passMark "*" then return (.asynchronousGenerator, none)
    else return (.asynchronous, none)
  else return (.plain, none)

/-- The key behind the words before it, and whether it can be the name of a variable. -/
def readKeyText (g : Grammar) : Reader (MemberKey × Bool) := do
  let reading ← get
  match reading.token with
  | .word name _ =>
      advance
      return (⟨.plain, .text (Text.units name), false, name⟩, !reading.reserves name)
  | .text units =>
      advance
      return (⟨.plain, .text units, false, String.ofList (units.map fun unit =>
        Char.ofNat unit.toNat)⟩, false)
  | .number number =>
      advance
      return (⟨.plain, .text (numberKey number), false, ""⟩, false)
  | .whole number =>
      advance
      return (⟨.plain, .text (wholeKey number), false, ""⟩, false)
  | .mark "[" =>
      advance
      let key ← g.assignment true
      expectMark "]"
      return (⟨.plain, key, true, ""⟩, false)
  | _ => complain .badMember

/-- The key of a member. The flags say whether the member may be a method and whether the key may
be the name of a variable too. -/
def readKey (g : Grammar) (allowsMethod allowsName : Bool) : Reader MemberKey := do
  let (kind, word) ← if allowsMethod then readKeyKind else pure (.plain, none)
  let (key, isName) ←
    match word with
    | some word => pure (⟨.plain, .text (Text.units word), false, word⟩, true)
    | none => readKeyText g
  let reading ← get
  let isShorthand := isName && kind = .plain && allowsName &&
    !(reading.isMark ":" || (reading.isMark "(" && allowsMethod))
  if kind ≠ .plain && !reading.isMark "(" then complain .badMember
  else return { key with kind := if isShorthand then .shorthand else kind }

/-- A function without a name takes the name of what it is assigned to. -/
def Expression.titled (name : String) : Expression → Expression
  | .function heading parameters statements =>
      if heading.ownName.isNone && heading.title.isNone then
        .function { heading with title := some name } parameters statements
      else .function heading parameters statements
  | .blueprint none none parent maker parts source =>
      .blueprint none (some name) parent maker parts source
  | other => other

/-- Something can be assigned to the expression. -/
def requirePlace (flaw : Flaw) (expression : Expression) : Reader Unit := do
  match expression with
  | .name name =>
      if (← get).enclosure.isStrict && strictNames.contains name then complain .strictTarget
      else return ()
  | .member _ _ | .inherited _ => return ()
  | _ => complain flaw

/-- A parameter has a name of its own where parameters are more than plain names. -/
def bindParameter (name : String) : Reader Unit := do
  let enclosure := (← get).enclosure
  if !enclosure.isSimple && enclosure.parameters.contains name then complain .twoParameters
  else
    changeEnclosure fun enclosure => { enclosure with
      parameters := enclosure.parameters ++ [name] }

def Binder.bind (binder : Binder) (name : String) : Reader Unit :=
  match binder with
  | .assigned => return ()
  | .declared kind => declareName kind name
  | .parameter => bindParameter name

/-- A place in a pattern: a name that is declared, or any place. -/
def readTargetPlace (g : Grammar) (binder : Binder) : Reader Expression := do
  match binder with
  | .assigned =>
      let place ← g.suffixed true
      requirePlace .noPatternTarget place
      return place
  | _ =>
      let reading ← get
      match reading.name? with
      | some (name, false) =>
          if reading.enclosure.isStrict && strictNames.contains name then
            complain .noPatternTarget
          else
            advance
            binder.bind name
            return .name name
      | _ => complain .noPatternTarget

/-- A place gets a value of its own if it would be undefined. -/
def readDefault (g : Grammar) (place : Expression) : Reader Target := do
  if ← passMark "=" then
    let value ← g.assignment true
    match place with
    | .name name => return .given (.place place) (value.titled name)
    | _ => return .given (.place place) value
  else return .place place

/-- A pattern inside another one begins here. -/
def opensPattern (closing : String) : Reader Bool := do
  if (← isMark "[") || (← isMark "\x7b") then
    let ahead ← looksThrough
    return [",", "=", closing].any fun mark => ahead.mark? = some mark
  else return false

/-- A member of the object that a pattern takes apart. -/
def readObjectTarget (g : Grammar) (binder : Binder) : Reader Target := do
  let key ← readKey g false true
  if key.kind = .shorthand then
    if (← get).enclosure.isStrict && strictNames.contains key.name then complain .noPatternTarget
    else
      binder.bind key.name
      return .member key.expression (← readDefault g (.name key.name))
  else
    advance
    if ← opensPattern "\x7d" then return .member key.expression (← g.target binder true false)
    else return .member key.expression (← readDefault g (← readTargetPlace g binder))

/-- The targets between the braces of a pattern, in reverse order. -/
def readObjectTargets (g : Grammar) (binder : Binder) (before : List Target) :
    Reader (List Target × Bool) := do
  if ← isMark "\x7d" then return (before, false)
  else if ← passMark "..." then
    let place ← readTargetPlace g binder
    if ← isMark "\x7d" then return (.rest (.place place) :: before, false)
    else complain .lastRestMember
  else
    let target ← readObjectTarget g binder
    if ← isMark "\x7d" then return (target :: before, false)
    else
      expectMark ","
      return (target :: before, true)

/-- The item of a pattern between brackets. -/
def readItemTarget (g : Grammar) (binder : Binder) (isRest : Bool) : Reader Target := do
  if ← opensPattern "]" then
    if isRest && (← looksThrough).mark? = some "=" then complain .restDefault
    else g.target binder true false
  else
    let place ← readTargetPlace g binder
    if isRest then return .place place else readDefault g place

/-- The targets between the brackets of a pattern, in reverse order. -/
def readItemTargets (g : Grammar) (binder : Binder) (before : List Target) :
    Reader (List Target × Bool) := do
  if ← isMark "]" then return (before, false)
  else if ← isMark "," then
    advance
    return (.gap :: before, true)
  else
    let isRest ← passMark "..."
    let target ← readItemTarget g binder isRest
    let target := if isRest then Target.rest target else target
    if ← isMark "]" then return (target :: before, false)
    else if isRest then complain .lastRestItem
    else
      expectMark ","
      return (target :: before, true)

/-- A pattern. -/
def readTarget (g : Grammar) (binder : Binder) (allowsValue needsValue : Bool) :
    Reader Target := do
  let target ←
    if ← passMark "\x7b" then
      let targets ← repeatedly (readObjectTargets g binder) []
      pure (Target.object targets.reverse)
    else if ← passMark "[" then
      let targets ← repeatedly (readItemTargets g binder) []
      pure (Target.array targets.reverse)
    else complain .strangePattern
  advance
  if allowsValue && (← isMark "=") then
    advance
    return .given target (← g.assignment true)
  else if needsValue then complain .looseBrackets
  else return target

end HostBridge.Script
