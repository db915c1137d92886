/-
This file runs sequences of commands on a bridge.
-/
import HostBridge.Bridge
import HostBridge.Proofs.Dispatch

namespace HostBridge

variable {State : Type}

/-- What can be asked of a bridge. -/
inductive Bridge.Command : Type 1 where
  | bind (name : String) (handle : Handle)
  | set (name : String) (handle : Handle)
  | bindShared {A : Type} [HostBinding A] (name : String) (identity : Nat) (value : A)
  | unbind (name : String)
  | evaluate (script : String)
  | evaluateNamed (script file : String)
  | execute (bytes : List UInt8)
  | compile (script file : String)
  | close

def Bridge.perform (engine : Engine State) (bridge : Bridge State) :
    Bridge.Command → Bridge State
  | .bind name handle => bridge.bind name handle
  | .set name handle => bridge.set name handle
  | @Bridge.Command.bindShared _ _ name identity value => bridge.bindShared name identity value
  | .unbind name => bridge.unbind name
  | .evaluate script => (bridge.evaluate engine script).1
  | .evaluateNamed script file => (bridge.evaluateNamed engine script file).1
  | .execute bytes => (bridge.execute engine bytes).1
  | .compile script file => (bridge.compile script file).1
  | .close => bridge.close engine

def Bridge.run (engine : Engine State) (bridge : Bridge State) (commands : List Bridge.Command) :
    Bridge State :=
  commands.foldl (Bridge.perform engine) bridge

/-- What a command changes about the names. -/
def Bridge.Command.changes : Bridge.Command → List (Change Handle)
  | .bind name handle => [.bind name handle]
  | .set name handle => [.bind name handle]
  | @Bridge.Command.bindShared _ _ name identity value =>
      [.bind name ⟨identity, HostBinding.capabilities value⟩]
  | .unbind name => [.unbind name]
  | _ => []

/-- The script that a command evaluates. Bytes that encode no script evaluate none. -/
def Bridge.Command.script? : Bridge.Command → Option String
  | .evaluate script => some script
  | .evaluateNamed script _ => some script
  | .execute bytes => (Text.decodeUtf8 bytes).toOption
  | _ => none

/-- The host is what some calls in writing leave behind of another one. -/
inductive Host.Reaches : Host → Host → Prop where
  | stay (host : Host) : Reaches host host
  | call (host left : Host) (object method text : String) :
      Reaches (host.dispatchText object method text).1 left → Reaches host left

/-- The scripts of the engine reach host objects through calls in writing and not otherwise. -/
def Engine.CallsOnly (engine : Engine State) : Prop :=
  ∀ submission host state, Host.Reaches host (engine.submit submission host state).host

/-- Calls leave the registry as it is when no method unbinds a name. -/
theorem Host.Reaches.registry_eq {host left : Host} (reaches : Host.Reaches host left)
    (keeps : host.registry.KeepsBindings) : left.registry = host.registry := by
  induction reaches with
  | stay host => rfl
  | call host left object method text rest ih =>
      have same : (host.dispatchText object method text).1.registry = host.registry := by
        rw [Host.dispatchText_registry]
        cases decodeArguments text with
        | error error => rfl
        | ok arguments => exact Host.dispatchWithin_keeps _ host object method arguments keeps
      rw [ih (same ▸ keeps), same]

/-- An open bridge submits the script together with its proxies and forgets the names to
remove. -/
theorem Bridge.evaluate_open (engine : Engine State) (bridge : Bridge State) (script : String)
    (opened : bridge.isOpen = true) :
    let answer := engine.submit (bridge.submission script)
      (bridge.host.log (bridge.submissionEvents script)) (engine.clear bridge.state)
    let left := (bridge.evaluate engine script).1
    left.state = answer.state ∧ left.host.registry = answer.host.registry ∧
      left.retired = [] ∧ left.isOpen = true := by
  rw [evaluate, if_pos opened]
  exact ⟨rfl, rfl, rfl, opened⟩

/-- On a closed bridge a command with a script is refused and changes nothing. -/
theorem Bridge.evaluate_refused (engine : Engine State) (bridge : Bridge State) (script : String)
    (closed : bridge.isOpen = false) : bridge.evaluate engine script = (bridge, .error .closed) := by
  simp [evaluate, closed]

/-- A closed bridge is not changed by an evaluation. -/
theorem Bridge.evaluate_closed (engine : Engine State) (bridge : Bridge State) (script : String)
    (closed : bridge.isOpen = false) : (bridge.evaluate engine script).1 = bridge := by
  rw [evaluate_refused engine bridge script closed]

/-- An open bridge releases its engine and records how many evaluations there were. -/
theorem Bridge.close_open (engine : Engine State) (bridge : Bridge State)
    (opened : bridge.isOpen = true) :
    bridge.close engine =
      { bridge with
        host := bridge.host.log ((engine.close bridge.state).2 ++ [.closed bridge.evaluations])
        state := (engine.close bridge.state).1
        isOpen := false } := by
  rw [close, if_pos opened]
  rfl

/-- A closed bridge is not changed by closing it again. -/
theorem Bridge.close_closed (engine : Engine State) (bridge : Bridge State)
    (closed : bridge.isOpen = false) : bridge.close engine = bridge := by
  simp [close, closed]

/-- What the caller of a command that evaluates is told. -/
def Bridge.result? (engine : Engine State) (bridge : Bridge State) :
    Bridge.Command → Option (Except EvaluationError Translated)
  | .evaluate script => some (bridge.evaluate engine script).2
  | .evaluateNamed script file => some (bridge.evaluateNamed engine script file).2
  | .execute bytes => some (bridge.execute engine bytes).2
  | _ => none

/-- A closed bridge stays closed, and what the engine keeps is not touched. -/
theorem Bridge.perform_closed (engine : Engine State) (bridge : Bridge State)
    (closed : bridge.isOpen = false) (command : Bridge.Command) :
    (bridge.perform engine command).isOpen = false ∧
      (bridge.perform engine command).state = bridge.state := by
  cases command with
  | evaluate script =>
      rw [perform, evaluate_closed _ bridge script closed]
      exact ⟨closed, rfl⟩
  | evaluateNamed script file =>
      rw [perform, evaluateNamed, evaluate_closed _ (bridge.log _) script closed]
      exact ⟨closed, rfl⟩
  | execute bytes =>
      rw [perform, execute]
      cases Text.decodeUtf8 bytes with
      | error fault => exact ⟨closed, rfl⟩
      | ok script =>
          simp only [evaluate_closed _ bridge script closed]
          exact ⟨closed, trivial⟩
  | close =>
      rw [perform, close_closed engine bridge closed]
      exact ⟨closed, rfl⟩
  | _ => exact ⟨closed, rfl⟩

/-- A closed bridge stays closed and does not use its engine, by induction over the commands. -/
theorem Bridge.run_closed (engine : Engine State) (bridge : Bridge State)
    (closed : bridge.isOpen = false) (commands : List Bridge.Command) :
    (bridge.run engine commands).isOpen = false ∧
      (bridge.run engine commands).state = bridge.state := by
  induction commands generalizing bridge with
  | nil => exact ⟨closed, rfl⟩
  | cons command commands ih =>
      obtain ⟨still, same⟩ := perform_closed engine bridge closed command
      rw [run, List.foldl_cons, ← run, ← same]
      exact ih _ still

end HostBridge
