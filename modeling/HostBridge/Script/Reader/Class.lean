/-
This file reads object literals and classes.
-/
import HostBridge.Script.Reader.Function

namespace HostBridge.Script

/-- The role of a method with such a key. -/
def KeyKind.role : KeyKind → Role
  | .getter => .getter
  | .setter => .setter
  | _ => .method

/-- A method behind its key. -/
def readMethod (g : Grammar) (kind : KeyKind) (role : Role) (start : Cursor) : Reader Expression :=
  let isGenerator := kind = .generator || kind = .asynchronousGenerator
  let isAsynchronous := kind = .asynchronous || kind = .asynchronousGenerator
  g.function ⟨role, isGenerator, isAsynchronous, none, false, start⟩

/-- The members of an object literal so far, in reverse order, and whether one of them is the object
behind the literal. -/
structure MemberList where
  members : List Member
  hasPrototype : Bool

def MemberList.add (list : MemberList) (member : Member) : MemberList :=
  { list with members := member :: list.members }

/-- The name under which a literal gives the object behind it. -/
def prototypeName : Units := Text.units "__proto__"

/-- The key is written as the name of the object behind a literal. -/
def MemberKey.isPrototype (key : MemberKey) : Bool :=
  match key.expression with
  | .text units => !key.isComputed && units = prototypeName
  | _ => false

/-- A member behind its key. -/
def readMemberValue (g : Grammar) (list : MemberList) (key : MemberKey) (start : Cursor) :
    Reader MemberList := do
  if key.kind = .shorthand then
    return list.add (.value key.expression false (.name key.name))
  else if ← isMark "(" then
    let method ← readMethod g key.kind key.kind.role start
    return list.add (.function key.expression method)
  else
    expectMark ":"
    let value ← g.assignment true
    if key.isPrototype then
      if list.hasPrototype then complain .twoPrototypes
      else return ⟨.prototype value :: list.members, true⟩
    else
      let isNamed := !key.isComputed
      let named :=
        match key.expression, isNamed with
        | .text units, true =>
            match Text.textOfUnits units with
            | .ok name => value.titled name
            | .error _ => value
        | _, _ => value
      return list.add (.value key.expression key.isComputed named)

/-- One member of an object literal, and whether another one may follow. -/
def readMember (g : Grammar) (list : MemberList) : Reader (MemberList × Bool) := do
  if ← isMark "\x7d" then return (list, false)
  else
    let start := (← get).start
    let list ←
      if ← passMark "..." then do pure (list.add (.spread (← g.assignment true)))
      else do
        let key ← readKey g true true
        readMemberValue g list key start
    if ← passMark "," then return (list, true)
    else return (list, false)

def readObject (g : Grammar) : Reader Expression := do
  advance
  let list ← repeatedly (readMember g) ⟨[], false⟩
  expectMark "\x7d"
  return .object list.members.reverse

/-- The items of an array literal so far, in reverse order. A gap is at the end only where another
comma follows it. -/
def readItem (g : Grammar) (before : List Expression) : Reader (List Expression × Bool) := do
  if ← isMark "]" then return (before, false)
  else if ← passMark "," then return (.nothing :: before, true)
  else
    let item ←
      if ← passMark "..." then do pure (Expression.spread (← g.assignment true))
      else g.assignment true
    if ← passMark "," then return (item :: before, true)
    else return (item :: before, false)

def readArray (g : Grammar) : Reader Expression := do
  advance
  let items ← repeatedly (readItem g) []
  expectMark "]"
  return .array items.reverse

/-- A class so far: the function that makes its objects and the other members in reverse order. -/
structure ClassDraft where
  maker : Option Expression
  parts : List Member

/-- A member of a class is one of the class itself. -/
def placePart (isFixed : Bool) (part : Member) : Member := if isFixed then .fixed part else part

/-- The value of a field is computed for every object. -/
def readField (g : Grammar) (key : MemberKey) (start : Cursor) : Reader Expression := do
  let outer := (← get).enclosure
  let enclosure := FunctionStart.enclosure ⟨.fields, false, false, none, false, start⟩ outer
  let (value, inner) ← insideEnclosure { enclosure with inBody := true } do
    enterLevel
    if ← passMark "=" then g.assignment true else pure (.void .null)
  handOn inner
  let value := if key.isComputed then value else value.titled key.name
  let heading : Heading := {
    role := .fields
    mode := .strict
    isGenerator := false
    isAsynchronous := false
    ownName := none
    title := none
    isSimple := true
    arity := 0
    parameterNames := []
    variableNames := []
    names := []
    callsEval := inner.callsEval
    usesArguments := false
    line := start.line
    source := "" }
  return .function heading [] [.answer value]

/-- A field or a method of a class. -/
def readPart (g : Grammar) (isDerived : Bool) (draft : ClassDraft) (isFixed : Bool) :
    Reader ClassDraft := do
  let start := (← get).start
  let key ← readKey g true false
  let isMaker := !key.isComputed && key.name = "constructor" && !isFixed
  if (isMaker && key.kind ≠ .plain) || (key.name = "prototype" && isFixed && !key.isComputed) then
    complain .badMethod
  else if !(← isMark "(") then
    if !key.isComputed && (key.name = "constructor" || key.name = "prototype") then
      complain .badField
    else
      let value ← readField g key start
      endStatement
      let part := placePart isFixed (.value key.expression key.isComputed value)
      return { draft with parts := part :: draft.parts }
  else if isMaker then
    if draft.maker.isSome then complain .twoMakers
    else
      let maker ← readMethod g .plain (if isDerived then .derivedMaker else .maker) start
      return { draft with maker := some maker }
  else
    let method ← readMethod g key.kind key.kind.role start
    return { draft with parts := placePart isFixed (.function key.expression method) :: draft.parts }

/-- A part of a class, and whether another one may follow. -/
def readClassPart (g : Grammar) (isDerived : Bool) (draft : ClassDraft) :
    Reader (ClassDraft × Bool) := do
  if ← passMark ";" then return (draft, true)
  else if ← isMark "\x7d" then return (draft, false)
  else
    let isFixed ←
      if ← isKeyword "static" then do
        let behind ← glances true
        pure !([";", "\x7d", "(", "="].contains behind)
      else pure false
    if isFixed then advance
    return (← readPart g isDerived draft isFixed, true)

/-- The name of a class. A statement needs one. -/
def readClassName (isStatement : Bool) : Reader (Option String) := do
  match (← get).name? with
  | some (name, true) => complain (.reservedName name)
  | some (name, false) =>
      advance
      return some name
  | none => if isStatement then complain .namelessClass else return none

/-- A class is always strict. -/
def readClass (g : Grammar) (isStatement : Bool) : Reader (Option String × Expression) := do
  let start := (← get).start
  let mode := (← get).enclosure.mode
  changeEnclosure fun enclosure => { enclosure with mode := .strict }
  advance
  let name ← readClassName isStatement
  enterLevel
  let parent ←
    if ← isKeyword "extends" then do
      advance
      g.suffixed true
    else pure Expression.nothing
  match name with
  | some name => declareLexical name .constant
  | none => pure ()
  expectMark "\x7b"
  let isDerived :=
    match parent with
    | .nothing => false
    | _ => true
  let draft ← repeatedly (readClassPart g isDerived) ⟨none, []⟩
  let last := (← get).next.offset
  let _ ← leaveLevel
  changeEnclosure fun enclosure => { enclosure with mode := mode }
  advance
  if isStatement then declareLexical (name.getD "") .special
  let maker := draft.maker.getD .nothing
  return (name,
    .blueprint name none parent maker draft.parts.reverse (sourceFrom start last))

end HostBridge.Script
