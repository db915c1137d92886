/-
This file defines the bridge, which binds host objects into an engine and evaluates scripts.
-/
import HostBridge.Builtin.Text
import HostBridge.Configuration.Basic
import HostBridge.Engine.Basic

namespace HostBridge

/-- What the world outside adds to an evaluation of a given number: a token that is hard to guess
and the time it takes. -/
structure Ambient where
  token : Nat → UInt64
  milliseconds : Nat → Nat

/-- A bridge counts its evaluations and remembers the names that were unbound since the last one.
The count of the program is a word of 64 bits and is the one here up to 2 ^ 64 - 1 evaluations, which
no bridge lives to see. -/
structure Bridge (State : Type) where
  configuration : Configuration
  ambient : Ambient
  host : Host
  state : State
  isOpen : Bool
  evaluations : Nat
  retired : List String

/-- An engine, and how it is started with a configuration. -/
structure Runtime (State : Type) where
  engine : Engine State
  start : Configuration → Except EngineError State

variable {State : Type}

def Bridge.log (bridge : Bridge State) (events : List Event) : Bridge State :=
  { bridge with host := bridge.host.log events }

/-- The bridge over an engine, to which the hooks of host calls are attached. -/
def Bridge.start (engine : Engine State) (configuration : Configuration) (ambient : Ambient)
    (state : State) : Except EvaluationError (Bridge State) :=
  match engine.attach state with
  | .error error => .error (.engineFailure error)
  | .ok state =>
      .ok {
        configuration := configuration
        ambient := ambient
        host := Host.empty.log [.ready configuration.sentinel]
        state := state
        isOpen := true
        evaluations := 0
        retired := [] }

/-- A bridge over an engine of its own. -/
def Runtime.bridge? (runtime : Runtime State) (configuration : Configuration) (ambient : Ambient) :
    Except EvaluationError (Bridge State) :=
  match runtime.start configuration with
  | .error error => .error (.engineFailure error)
  | .ok state => Bridge.start runtime.engine configuration ambient state

/-- An earlier object of the same name is replaced. -/
def Bridge.bind (bridge : Bridge State) (name : String) (handle : Handle) : Bridge State :=
  { bridge with host := bridge.host.bind name handle }

/-- Another word for binding. -/
def Bridge.set (bridge : Bridge State) (name : String) (handle : Handle) : Bridge State :=
  bridge.bind name handle

/-- The object of a value is made when the value is bound. -/
def Bridge.bindShared {A : Type} [HostBinding A] (bridge : Bridge State) (name : String)
    (identity : Nat) (value : A) : Bridge State :=
  bridge.bind name ⟨identity, HostBinding.capabilities value⟩

/-- Binds the builtin objects. -/
def Bridge.bindBuiltins (bridge : Bridge State) : Bridge State :=
  (bridge.bind "math" ⟨0, Builtin.math⟩).bind "text" ⟨0, Builtin.text⟩

def Bridge.isBound (bridge : Bridge State) (name : String) : Bool :=
  Table.contains bridge.host.registry name

/-- The proxy of the name is removed by the next evaluation. -/
def Bridge.unbind (bridge : Bridge State) (name : String) : Bridge State :=
  { bridge with
    host := bridge.host.unbind name
    retired :=
      if bridge.isBound name && !bridge.retired.contains name then bridge.retired ++ [name]
      else bridge.retired }

def Bridge.boundNames (bridge : Bridge State) : List String := bridge.host.registry.names

/-- The mark of the next evaluation. -/
def Bridge.nextSentinel (bridge : Bridge State) : String :=
  bridge.configuration.sentinel.sentinel (bridge.ambient.token (bridge.evaluations + 1))

/-- What the next evaluation of a script submits. -/
def Bridge.submission (bridge : Bridge State) (script : String) : Submission where
  retired := bridge.retired
  proxies := bridge.host.registry.proxies
  script := script
  sentinel := bridge.nextSentinel

def Bridge.submissionEvents (bridge : Bridge State) (script : String) : List Event :=
  bridge.host.registry.proxyEvents ++
    if bridge.configuration.logScripts then [.composed (bridge.submission script).text] else []

/-- The result in place of a script that could not be run. -/
def failedSubmission (error : EngineError) : Translated :=
  .ofJson (.object [("error", .string s!"JavaScript execution failed: {error.message}")])

/-- The result of a submission that the engine answered, with the records of it. -/
def submissionResult (engine : Engine State) (sentinel : String) (milliseconds : Nat)
    (answer : Engine.Answer State) : List Event × Except EvaluationError Translated :=
  match answer.error with
  | some error => ([.submissionFailed error.message], .ok (failedSubmission error))
  | none =>
      let (events, result) := scrape (engine.output answer.state) sentinel
      match result with
      | .error error => (events, .error error)
      | .ok value => (events ++ [.evaluated milliseconds value.typeName], .ok value)

/-- The script runs with every bound object in scope, and its value is translated. -/
def Bridge.evaluate (engine : Engine State) (bridge : Bridge State) (script : String) :
    Bridge State × Except EvaluationError Translated :=
  if bridge.isOpen then
    let number := bridge.evaluations + 1
    let submission := bridge.submission script
    let answer := engine.submit submission
      (bridge.host.log (bridge.submissionEvents script)) (engine.clear bridge.state)
    let (events, result) :=
      submissionResult engine submission.sentinel (bridge.ambient.milliseconds number) answer
    ({ bridge with
        host := answer.host.log events
        state := answer.state
        evaluations := number
        retired := [] }, result)
  else (bridge, .error .closed)

/-- The file only names the script in the records. -/
def Bridge.evaluateNamed (engine : Engine State) (bridge : Bridge State) (script file : String) :
    Bridge State × Except EvaluationError Translated :=
  (bridge.log [.evaluating file]).evaluate engine script

/-- A script is encoded as its UTF-8 bytes. -/
def Bridge.compile (bridge : Bridge State) (script file : String) : Bridge State × List UInt8 :=
  let bytes := Text.encodeUtf8 script
  (bridge.log [.compiling file bytes.length], bytes)

/-- Bytes that encode no script change nothing. -/
def Bridge.execute (engine : Engine State) (bridge : Bridge State) (bytes : List UInt8) :
    Bridge State × Except EvaluationError Translated :=
  match Text.decodeUtf8 bytes with
  | .error fault => (bridge, .error (.invalidBytes fault))
  | .ok script => bridge.evaluate engine script

/-- The engine is released once, and later evaluations fail. -/
def Bridge.close (engine : Engine State) (bridge : Bridge State) : Bridge State :=
  if bridge.isOpen then
    let (state, events) := engine.close bridge.state
    { bridge.log (events ++ [.closed bridge.evaluations]) with state := state, isOpen := false }
  else bridge

end HostBridge
