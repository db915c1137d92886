/-
This file lets functions go on that were paused.
-/
import HostBridge.Script.Call

namespace HostBridge.Script

/-- A function that is paused, with its frame and what is left of it. -/
structure Paused where
  frame : Frame
  next : Word → World → Progress Value

/-- What is paused, under the numbers of the computations. -/
abbrev Pool := Std.HashMap Nat Paused

/-- How a computation ends that waits for no other one. -/
inductive Outcome (A : Type) where
  | done (value : A) (world : World) (pool : Pool)
  | thrown (value : Value) (world : World) (pool : Pool)
  | given (value : Value) (world : World) (pool : Pool) (next : Word → World → Progress A)

/-- The calls around a computation are those around the one that it goes on for. -/
def World.around (world : World) (outer : World) : World :=
  { world with frames := outer.frames, depth := outer.depth }

/-- The frame of a paused function. -/
def World.topFrame (world : World) : Frame :=
  (world.frames.head?).getD ⟨none, none, 0⟩

/-- The answer to the one that goes on for a value. -/
def answerWith (value : Value) (isDone : Bool) (world : World) : Word × World :=
  match makeAnswer value isDone world with
  | .done answer world => (.proceed answer, world)
  | .thrown thrown world => (.fail thrown, world)
  | .stopped value world => (.proceed value, world)
  | .paused _ world _ => (.proceed .undefined, world)

/-- What a paused function does when it is told a word. -/
def generatorProgress (frame : Frame) (world : World) (start : World → Progress Value) :
    Progress Value :=
  start { world with frames := frame :: world.frames, depth := world.depth + 1 }

def setPace (place function : Reference) (pace : Pace) (world : World) : World :=
  { world with memory := world.memory.modify place fun object =>
    { object with kind := .generator function pace } }

/-- The file and the line of a function that begins. -/
def World.frameOf (world : World) (function : Reference) : Frame :=
  match (world.memory.object function).code? with
  | some (.script closure) =>
      ⟨some function, some closure.scope.file, closure.text.heading.line⟩
  | _ => ⟨some function, none, 0⟩

/-- What a generator that is told a word does, if it can go on. -/
def wakeGenerator (place : Reference) (word : Word) (world : World) (pool : Pool) :
    Option (Reference × Pool × Progress Value) :=
  match (world.memory.object place).kind with
  | .generator function pace =>
      let running := setPace place function .running world
      match pace with
      | .fresh scope statements =>
          some (function, pool, generatorProgress (world.frameOf function) running
            (runBody evaluator scope statements))
      | .paused ticket =>
          match pool[ticket]? with
          | some paused =>
              some (function, pool.erase ticket,
                generatorProgress paused.frame running (paused.next word))
          | none => none
      | _ => none
  | _ => none

/-- What becomes of a generator in the end: the word for the one that it goes on for. -/
def Outcome.settle (place function : Reference) (outer : World) :
    Outcome Value → Word × World × Pool
  | .done value world pool =>
      let (word, world) := answerWith value true
        ((setPace place function .finished world).around outer)
      (word, world, pool)
  | .thrown value world pool =>
      (.fail value, (setPace place function .finished world).around outer, pool)
  | .given value world pool next =>
      let ticket := world.tickets
      let pool := pool.insert ticket ⟨world.topFrame, next⟩
      let world := { setPace place function (.paused ticket) world with tickets := ticket + 1 }
      let (word, world) := answerWith value false (world.around outer)
      (word, world, pool)

/-- Runs a computation up to its end or up to a value that it gives. The generators that it goes on
for run in between. The first argument bounds how often. -/
def Progress.advance : Nat → {A : Type} → (Value → A) → Pool → Progress A → Outcome A
  | _, _, _, pool, .done value world => .done value world pool
  | _, _, _, pool, .thrown value world => .thrown value world pool
  | _, _, ofValue, pool, .stopped value world => .done (ofValue value) world pool
  | _, _, ofValue, pool, .paused (.wait value) world _ => .done (ofValue value) world pool
  | _, _, _, pool, .paused (.give value) world next => .given value world pool next
  | 0, _, ofValue, pool, .paused (.resume _ _) world _ => .done (ofValue .undefined) world pool
  | bound + 1, _, ofValue, pool, .paused (.resume place word) world next =>
      if nestingLimit ≤ world.depth then
        match (tooDeep : Machine Value) world with
        | .thrown value world => Progress.advance bound ofValue pool (next (.fail value) world)
        | _ => Progress.advance bound ofValue pool (next (.proceed .undefined) world)
      else
        match wakeGenerator place word world pool with
        | none => Progress.advance bound ofValue pool (next (.proceed .undefined) world)
        | some (function, pool, progress) =>
            let (word, world, pool) :=
              (Progress.advance bound id pool progress).settle place function world
            Progress.advance bound ofValue pool (next word world)

end HostBridge.Script
