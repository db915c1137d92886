/-
This file defines the world that scripts act on and the computations that change it.
-/
import HostBridge.Dispatch
import HostBridge.Script.Fault
import HostBridge.Script.Memory

namespace HostBridge.Script

/-- A function that is being called, or a script. A function of the language has no file. -/
structure Frame where
  function : Option Reference
  file : Option String
  line : Nat

structure World where
  memory : Memory
  /-- The values of variables. A variable that is not set up yet has none. -/
  cells : Array (Option Value)
  /-- The global names that are no members of the global object. -/
  lexicals : List Variable
  printed : String
  host : Host
  /-- The number of the next symbol. -/
  symbols : Nat
  /-- Symbols that all scripts share, by their descriptions. -/
  shared : List (Units × Nat)
  /-- The number of the next computation that is put aside. -/
  tickets : Nat
  /-- What is being called, the innermost call first. -/
  frames : List Frame
  depth : Nat

/-- What a computation is told when it goes on: a value, something thrown, or that it is over. -/
inductive Word where
  | proceed (value : Value)
  | fail (thrown : Value)
  | finish (value : Value)

/-- What a computation that pauses asks for. -/
inductive Wish where
  /-- Somebody takes a value. -/
  | give (value : Value)
  /-- A computation that was put aside goes on. -/
  | resume (generator : Reference) (word : Word)
  /-- Somebody waits for a promise. -/
  | wait (value : Value)

/-- How far a computation has come. -/
inductive Progress (A : Type) where
  | done (value : A) (world : World)
  | thrown (value : Value) (world : World)
  /-- Nothing more is to be done, and nothing went wrong. -/
  | stopped (value : Value) (world : World)
  | paused (wish : Wish) (world : World) (next : Word → World → Progress A)

/-- A computation changes the world, also when it throws a value in the end. -/
def Machine (A : Type) := World → Progress A

variable {A B : Type}

/-- What follows a computation follows its rest. -/
def Progress.bind : Progress A → (A → World → Progress B) → Progress B
  | .done value world, follow => follow value world
  | .thrown value world, _ => .thrown value world
  | .stopped value world, _ => .stopped value world
  | .paused wish world next, follow =>
      .paused wish world fun word world => (next word world).bind follow

/-- Something that is thrown by the rest of a computation is caught too. -/
def Progress.recover : Progress A → (Value → World → Progress A) → Progress A
  | .done value world, _ => .done value world
  | .thrown value world, handler => handler value world
  | .stopped value world, _ => .stopped value world
  | .paused wish world next, handler =>
      .paused wish world fun word world => (next word world).recover handler

@[inline] def Machine.bind (first : Machine A) (follow : A → Machine B) : Machine B :=
  fun world =>
    match first world with
    | .done value world => follow value world
    | .thrown value world => .thrown value world
    | .stopped value world => .stopped value world
    | .paused wish world next =>
        .paused wish world fun word world => (next word world).bind follow

@[inline] def Machine.pure (value : A) : Machine A := fun world => .done value world

instance : Monad Machine where
  pure := Machine.pure
  bind := Machine.bind

instance : Inhabited (Machine A) := ⟨fun world => .thrown .undefined world⟩

def raise (thrown : Value) : Machine A := fun world => .thrown thrown world

/-- Leaves a computation that was put aside and is not needed any more. -/
def stop (value : Value) : Machine A := fun world => .stopped value world

/-- What a computation throws is handled in the world that it leaves. -/
@[inline] def attempt (body : Machine A) (handler : Value → Machine A) : Machine A :=
  fun world =>
    match body world with
    | .done value world => .done value world
    | .thrown value world => handler value world
    | .stopped value world => .stopped value world
    | .paused wish world next =>
        .paused wish world fun word world => (next word world).recover handler

/-- Something is done before a computation is left for good. -/
def Progress.beforeStop : Progress A → (Value → World → Progress A) → Progress A
  | .stopped value world, handler => handler value world
  | .paused wish world next, handler =>
      .paused wish world fun word world => (next word world).beforeStop handler
  | other, _ => other

def beforeStop (body : Machine A) (handler : Value → Machine A) : Machine A :=
  fun world => (body world).beforeStop handler

/-- Runs a computation up to a value that is thrown or found. -/
def attempted (body : Machine A) : Machine (Except Value A) :=
  attempt (do return .ok (← body)) fun thrown => return .error thrown

/-- Pauses and goes on with the word that is given. -/
def askFor (wish : Wish) : Machine Word := fun world => .paused wish world .done

@[inline] def asks? (view : World → A) : Machine A := fun world => .done (view world) world

@[inline] def change (step : World → World) : Machine Unit := fun world => .done () (step world)

@[inline] def lookUp (view : Memory → A) : Machine A := fun world => .done (view world.memory) world

def objectAt (place : Reference) : Machine Object := lookUp fun memory => memory.object place

def kindAt (place : Reference) : Machine Kind := lookUp fun memory => (memory.object place).kind

/-- The member of the object at a place. -/
def ownAt (place : Reference) (key : Key) : Machine (Option Property) :=
  lookUp fun memory => (memory.object place).own? key

/-- The object at a place is changed where it stands. -/
@[noinline] def World.changeObject (world : World) (place : Reference) (step : Object → Object) :
    World :=
  { world with memory := world.memory.modify place step }

def changeObject (place : Reference) (step : Object → Object) : Machine Unit :=
  change fun world => world.changeObject place step

def changeKind (place : Reference) (kind : Kind) : Machine Unit :=
  changeObject place fun object => { object with kind := kind }

/-- A new object takes the next place. -/
def allocate (object : Object) : Machine Reference := fun world =>
  let place := world.memory.size
  .done place { world with memory := world.memory.push object }

def makeObject (object : Object) : Machine Value := do return .object (← allocate object)

/-- A new variable takes the next cell. -/
def newCell (value : Option Value) : Machine Cell := fun world =>
  let cell := world.cells.size
  .done cell { world with cells := world.cells.push value }

def cellValue (cell : Cell) : Machine (Option Value) := fun world =>
  .done ((world.cells[cell]?).getD none) world

def setCell (cell : Cell) (value : Option Value) : Machine Unit :=
  change fun world => { world with cells := world.cells.setIfInBounds cell value }

def World.print (world : World) (line : String) : World :=
  { world with printed := world.printed ++ line ++ "\n" }

/-- An object with members of which no two have one key. -/
def Object.ofMembers (members : List (Key × Value)) : Object :=
  members.foldl (fun object member => object.put member.1 (.plain member.2))
    (.bare .plain (some objectPrototype))

def makePlain (members : List (Key × Value)) : Machine Value := makeObject (.ofMembers members)

def makeEmpty (prototype : Option Reference) : Machine Value := makeObject (.bare .plain prototype)

def Object.ofItems (items : Array Value) : Object :=
  ⟨.array items.size true, some arrayPrototype, true, items, .empty⟩

def makeArray (items : List Value) : Machine Value := makeObject (.ofItems items.toArray)

/-- The name that a trace of calls shows. -/
def World.frameName (world : World) (frame : Frame) : Units :=
  match frame.function with
  | none => Text.units "<eval>"
  | some place =>
      match (world.memory.object place).own? nameKey with
      | some (.data (.text name) _ _ _) =>
          if name.isEmpty then Text.units "<anonymous>" else name.takeWhile (· != 0)
      | _ => Text.units "<anonymous>"

def World.frameText (world : World) (frame : Frame) : Units :=
  let place :=
    match frame.file with
    | some file => " (" ++ file ++ ":" ++ Decimal.digitText frame.line ++ ")"
    | none => " (native)"
  Text.units "    at " ++ world.frameName frame ++ Text.units (place ++ "\n")

/-- The calls around what is being done, one on a line. -/
def World.trace (world : World) (frames : List Frame) : Units :=
  frames.flatMap world.frameText

/-- An error with members of its own and a trace. -/
def makeErrorWith (prototype : Reference) (members : List (Key × Value)) (trace : Units) :
    Machine Value :=
  makeObject ((members ++ [(stackKey, Value.text trace)]).foldl
    (fun object member => object.put member.1 (.hidden member.2))
    (.bare .error (some prototype)))

def errorPrototype (name : String) : Reference := prototypePlace name

/-- Throws an error of a class. -/
def fault (name : String) (message : Units) : Machine A := do
  let trace ← asks? fun world => world.trace world.frames
  raise (← makeErrorWith (errorPrototype name)
    [(messageKey, .text (cutMessage message))] trace)

def typeFault (message : Units) : Machine A := fault "TypeError" message

/-- An error whose message says nothing of the values. -/
def typeFaultText (message : String) : Machine A := typeFault (Text.units message)

def rangeFault (message : String) : Machine A := fault "RangeError" (Text.units message)

def syntaxFault (message : String) : Machine A := fault "SyntaxError" (Text.units message)

def notFunction : Machine A := typeFaultText "not a function"

def notConstructor : Machine A := typeFaultText "not a constructor"

def notObject : Machine A := typeFaultText "not an object"

def notConvertible : Machine A := typeFaultText "cannot convert to object"

def notDefined (name : Units) : Machine A :=
  fault "ReferenceError" (naming "" name " is not defined")

def readOnly (name : Units) : Machine A := typeFault (naming "" name " is read-only")

def notExtensible : Machine A := typeFaultText "object is not extensible"

def notConfigurable : Machine A := typeFaultText "property is not configurable"

/-- What only a strict script is told. The answer is that nothing was done. -/
def refuse (mode : Mode) (complaint : Machine Unit) : Machine Bool := do
  if mode = .strict then complaint
  return false

/-- What is done where a call says no. -/
def insist (isDone : Bool) (complaint : Machine Unit) : Machine Unit := do
  if !isDone then complaint

def requireFunction (value : Value) : Machine Unit := do
  unless ← lookUp fun memory => memory.isFunction value do notFunction

def requireObject (value : Value) : Machine Reference :=
  match value with
  | .object place => return place
  | _ => notObject

/-- A missing argument is undefined. -/
def argumentAt (arguments : List Value) (index : Nat) : Value := (arguments[index]?).getD .undefined

/-- The line that is being run. -/
def setLine (line : Nat) : Machine Unit :=
  change fun world =>
    match world.frames with
    | frame :: rest => { world with frames := { frame with line := line } :: rest }
    | [] => world

def leaveFrame : Machine Unit :=
  change fun world => { world with frames := world.frames.drop 1, depth := world.depth - 1 }

/-- Calls are not nested deeper than this. -/
def nestingLimit : Nat := 1000

/-- Runs inside a call. -/
def insideFrame (frame : Frame) (body : Machine A) : Machine A := do
  if nestingLimit ≤ (← asks? World.depth) then fault "InternalError" (Text.units "stack overflow")
  else
    change fun world => { world with frames := frame :: world.frames, depth := world.depth + 1 }
    let found ← attempt body fun thrown => do
      leaveFrame
      raise thrown
    leaveFrame
    return found

/-- A function is called on a receiver, or to make a new object. The object is made for another
function where one class is behind another. -/
inductive Manner where
  | on (receiver : Value)
  | fresh (target : Value)

/-- How a function calls another one: the manner, the function and the arguments. -/
abbrev Caller := Manner → Value → List Value → Machine Value

end HostBridge.Script
