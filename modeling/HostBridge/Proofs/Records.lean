/-
This file shows that what a bridge does is independent of the records that are there already.
-/
import HostBridge.Engine.Interpreter
import HostBridge.Engine.Planned
import HostBridge.Proofs.Trace

namespace HostBridge

variable {State : Type}

section Calls

@[simp] theorem Host.log_behind (earlier events : List Event) (host : Host) :
    (host.behind earlier).log events = (host.log events).behind earlier := by
  simp [behind, log]

@[simp] theorem Host.registry_behind (earlier : List Event) (host : Host) :
    (host.behind earlier).registry = host.registry := rfl

/-- Records can be put in front in two steps. -/
theorem Host.behind_behind (first second : List Event) (host : Host) :
    (host.behind second).behind first = host.behind (first ++ second) := by
  simp [behind]

/-- Calls do the same whatever was recorded before them. -/
def Call.IgnoresRecords (call : Call) : Prop :=
  ∀ earlier host object method arguments,
    call (host.behind earlier) object method arguments =
      (call host object method arguments).map (Host.behind earlier) id

/-- An action does the same behind other records, by induction over its steps. -/
theorem Action.run_behind {call : Call} (ignores : call.IgnoresRecords) (action : Action)
    (earlier : List Event) (host : Host) :
    action.run call (host.behind earlier) =
      (action.run call host).map (Host.behind earlier) id := by
  induction action generalizing host with
  | finish outcome => rfl
  | load cell next ih => exact ih (host.load cell) host
  | store cell value next ih => exact ih (host.store cell value)
  | call object method arguments next ih =>
      rw [run, run, ignores]
      exact ih _ _
  | release name next ih => exact ih _ (host.unbind name)

/-- Calls do the same behind other records, by induction on their depth. -/
theorem Host.dispatchWithin_ignoresRecords (depth : Nat) :
    Call.IgnoresRecords (Host.dispatchWithin depth) := by
  induction depth with
  | zero => exact fun _ _ _ _ _ => rfl
  | succ depth ih =>
      intro earlier host object method arguments
      rw [dispatchWithin, dispatchWithin, registry_behind]
      cases host.registry.resolve object with
      | error error => rfl
      | ok handle =>
          cases found : handle.object.select? method (arguments.map HostValue.hostType) with
          | none => simp [found]
          | some entry =>
              simp only [found, log_behind, Action.run_behind ih]
              rfl

/-- A call by texts does the same behind other records. -/
theorem Host.dispatchText_behind (earlier : List Event) (host : Host)
    (object method text : String) :
    (host.behind earlier).dispatchText object method text =
      (host.dispatchText object method text).map (Host.behind earlier) id := by
  rw [dispatchText, dispatchText]
  cases decodeArguments text with
  | error error => simp [log_behind]
  | ok arguments =>
      simp [dispatch, dispatchWithin_ignoresRecords callDepth earlier host object method arguments]

end Calls

section Engines

def Engine.Answer.behind (earlier : List Event) (answer : Engine.Answer State) :
    Engine.Answer State :=
  { answer with host := answer.host.behind earlier }

/-- Scripts do the same whatever was recorded before them. -/
def Engine.IgnoresRecords (engine : Engine State) : Prop :=
  ∀ earlier submission host state,
    engine.submit submission (host.behind earlier) state =
      (engine.submit submission host state).behind earlier

/-- The engine that follows a plan does not look at records. -/
theorem Planned.ignoresRecords : Planned.engine.IgnoresRecords := by
  intro earlier submission host state
  show Planned.follow submission.sentinel state.plan (host.behind earlier)
      { state with submission := some submission } =
    (Planned.follow submission.sentinel state.plan host
      { state with submission := some submission }).behind earlier
  generalize ({ state with submission := some submission } : Planned) = state'
  generalize state.plan = plan
  induction plan generalizing host state' with
  | nil => rfl
  | cons step plan ih =>
      cases step with
      | print parts => exact ih host _
      | call object method text =>
          rw [Planned.follow, Planned.follow, Host.dispatchText_behind]
          exact ih _ _
      | printReply => exact ih host _
      | fail error => rfl

/-- A script does the same behind other records. -/
theorem Interpreter.run_behind (state : Interpreter) (earlier : List Event) (host : Host)
    (script : Script.Machine Script.Value) :
    state.run (host.behind earlier) script = (state.run host script).behind earlier := by
  rw [run, run]
  split
  · rfl
  · split
    · rfl
    · have shown : ({ host.behind earlier with events := [] } : Host) = { host with events := [] } :=
        rfl
      simp only [shown]
      generalize Script.execute script _ state.pool = left
      exact congrArg (fun host => Engine.Answer.mk host _ _) (Host.behind_behind _ _ _).symm

/-- The interpreter does not look at records. -/
theorem Interpreter.ignoresRecords : Interpreter.engine.IgnoresRecords :=
  fun earlier submission host state =>
    state.run_behind earlier host (Script.runSubmission submission)

end Engines

section Bridges

def Bridge.behind (earlier : List Event) (bridge : Bridge State) : Bridge State :=
  { bridge with host := bridge.host.behind earlier }

/-- The bridge without its records. -/
def Bridge.unrecorded (bridge : Bridge State) : Bridge State :=
  { bridge with host := { bridge.host with events := [] } }

/-- A bridge with more records is the one without any behind them. -/
theorem Bridge.log_eq_behind (bridge : Bridge State) (events : List Event) :
    bridge.log events = bridge.unrecorded.behind (bridge.host.events ++ events) := by
  simp [log, behind, unrecorded, Host.log, Host.behind]

@[simp] theorem Bridge.log_nil (bridge : Bridge State) : bridge.log [] = bridge := by
  simp [log, Host.log]

variable {engine : Engine State}

/-- An engine that ignores records answers alike behind other ones. -/
theorem Bridge.answer_behind (ignores : engine.IgnoresRecords) (earlier : List Event)
    (bridge : Bridge State) (script : String) :
    ((bridge.behind earlier).evaluation engine script).answer =
      (bridge.evaluation engine script).answer.behind earlier := by
  rw [evaluation, evaluation, ← ignores, ← Host.log_behind]
  rfl

/-- An answer is settled alike behind other records. -/
theorem Bridge.settle_behind (engine : Engine State) (earlier : List Event) (bridge : Bridge State)
    (answer : Engine.Answer State) :
    (bridge.behind earlier).settle engine (answer.behind earlier) =
      (bridge.settle engine answer).map (Bridge.behind earlier) id := by
  simp only [settle, Engine.Answer.behind, Host.log_behind]
  rfl

/-- An evaluation does the same whatever was recorded before it. -/
theorem Bridge.evaluate_behind (ignores : engine.IgnoresRecords) (earlier : List Event)
    (bridge : Bridge State) (script : String) :
    (bridge.behind earlier).evaluate engine script =
      (bridge.evaluate engine script).map (Bridge.behind earlier) id := by
  cases opened : bridge.isOpen with
  | false =>
      have closed : (bridge.behind earlier).isOpen = false := opened
      simp [evaluate, opened, closed]
  | true =>
      have alike : (bridge.behind earlier).isOpen = true := opened
      rw [evaluate_eq_settle _ _ _ alike, evaluate_eq_settle _ _ _ opened, answer_behind ignores,
        settle_behind]

/-- What is recorded in front of an evaluation makes no difference to it. -/
theorem Bridge.evaluate_log (ignores : engine.IgnoresRecords) (bridge : Bridge State)
    (events : List Event) (script : String) :
    (bridge.log events).evaluate engine script =
      (bridge.unrecorded.evaluate engine script).map
        (Bridge.behind (bridge.host.events ++ events)) id := by
  rw [log_eq_behind, evaluate_behind ignores]

/-- A record in front of an evaluation does not change its result. -/
theorem Bridge.result_log (ignores : engine.IgnoresRecords) (bridge : Bridge State)
    (events : List Event) (script : String) :
    ((bridge.log events).evaluate engine script).2 = (bridge.evaluate engine script).2 := by
  have once := bridge.evaluate_log ignores [] script
  rw [log_nil] at once
  rw [evaluate_log ignores, once]
  rfl

end Bridges

end HostBridge
