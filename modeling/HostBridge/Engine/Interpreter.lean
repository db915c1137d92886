/-
This file defines the engine that runs scripts.
-/
import HostBridge.Bridge
import HostBridge.Script.Execution

namespace HostBridge

/-- An interpreter keeps its objects and what is paused from script to script. A cramped one has no
room to run any script. -/
structure Interpreter where
  world : Script.World
  pool : Script.Pool
  isOpen : Bool
  cramped : Bool

/-- The bytes that the standard objects take at least. -/
def leastMemory : UInt64 := 65536

/-- The bytes of stack that a script takes at least. -/
def leastStack : UInt64 := 12288

/-- A limit of zero is no limit. -/
def fallsShort (limit : Option UInt64) (least : UInt64) : Bool :=
  match limit with
  | some limit => 0 < limit && limit < least
  | none => false

def Interpreter.start (configuration : Configuration) : Except EngineError Interpreter :=
  if fallsShort configuration.memoryLimit leastMemory then
    .error (.start "Allocation failed while creating object")
  else
    .ok ⟨Script.initialWorld, ∅, true, fallsShort configuration.maxStackSize leastStack⟩

/-- A script acts on the objects and the output of the interpreter and on the host. It adds to the
records and sees none of those that are there. -/
def Interpreter.run (state : Interpreter) (host : Host) (script : Script.Machine Script.Value) :
    Engine.Answer Interpreter :=
  if !state.isOpen then ⟨host, state, some .closed⟩
  else if state.cramped then ⟨host, state, some (.exception "stack overflow")⟩
  else
    let shown := { host with events := [] }
    let left := Script.execute script { state.world with host := shown } state.pool
    let fresh := { state with
      world := { left.world with host := .empty, frames := [], depth := 0 }
      pool := left.pool }
    ⟨left.world.host.behind host.events, fresh, left.message.map .exception⟩

/-- The hooks are attached or the failure is one of the start. The state is kept in both cases. -/
def Interpreter.attachHooks (state : Interpreter) : Interpreter × Option EngineError :=
  let answer := state.run .empty Script.attachHooks
  let error : Option EngineError :=
    match answer.error with
    | some (.exception message) => some (.start message)
    | other => other
  (answer.state, error)

/-- A script of its own runs in the strict mode. -/
def Interpreter.execute (state : Interpreter) (host : Host) (script : String) :
    Engine.Answer Interpreter :=
  state.run host (Script.runScript script)

def Interpreter.install (state : Interpreter) (host : Host) (proxies : List Proxy) :
    Engine.Answer Interpreter :=
  state.run host (Script.installProxies proxies)

def Interpreter.clear (state : Interpreter) : Interpreter :=
  { state with world := { state.world with printed := "" } }

def Interpreter.close (state : Interpreter) : Interpreter × List Event :=
  if state.isOpen then ({ state with isOpen := false }, [.released]) else (state, [])

def Interpreter.engine : Engine Interpreter where
  attach state :=
    match state.attachHooks with
    | (_, some error) => .error error
    | (state, none) => .ok state
  submit submission host state := state.run host (Script.runSubmission submission)
  output state := state.world.printed
  clear state := state.clear
  close state := state.close

def Interpreter.runtime : Runtime Interpreter := ⟨Interpreter.engine, Interpreter.start⟩

end HostBridge
