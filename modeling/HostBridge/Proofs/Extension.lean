/-
This file shows that a bridge does the same over an engine that keeps more.
-/
import HostBridge.Proofs.Trace

namespace HostBridge

variable {State Part : Type}

def Engine.Answer.inner (part : State → Part) (answer : Engine.Answer State) :
    Engine.Answer Part :=
  ⟨answer.host, part answer.state, answer.error⟩

/-- The engine does what another one does with a part of what it keeps. -/
structure Engine.Extends (engine : Engine State) (inner : Engine Part) (part : State → Part) :
    Prop where
  attach : ∀ state, (engine.attach state).map part = inner.attach (part state)
  submit : ∀ submission host state,
    (engine.submit submission host state).inner part = inner.submit submission host (part state)
  output : ∀ state, engine.output state = inner.output (part state)
  clear : ∀ state, part (engine.clear state) = inner.clear (part state)
  close : ∀ state, (engine.close state).map part id = inner.close (part state)

/-- The bridge over the inner engine. -/
def Bridge.inner (part : State → Part) (bridge : Bridge State) : Bridge Part where
  configuration := bridge.configuration
  ambient := bridge.ambient
  host := bridge.host
  state := part bridge.state
  isOpen := bridge.isOpen
  evaluations := bridge.evaluations
  retired := bridge.retired

section

variable {engine : Engine State} {inner : Engine Part} {part : State → Part}
  (same : engine.Extends inner part)

include same

/-- A bridge starts alike over both engines. -/
theorem Engine.Extends.start (configuration : Configuration) (ambient : Ambient) (state : State) :
    (Bridge.start engine configuration ambient state).map (Bridge.inner part) =
      Bridge.start inner configuration ambient (part state) := by
  rw [Bridge.start, Bridge.start, ← same.attach]
  cases engine.attach state <;> rfl

theorem Engine.Extends.submissionResult (sentinel : String) (milliseconds : Nat)
    (answer : Engine.Answer State) :
    HostBridge.submissionResult engine sentinel milliseconds answer =
      HostBridge.submissionResult inner sentinel milliseconds (answer.inner part) := by
  rw [HostBridge.submissionResult, HostBridge.submissionResult, same.output]
  rfl

/-- An answer is settled alike over both engines. -/
theorem Engine.Extends.settle (bridge : Bridge State) (answer : Engine.Answer State) :
    (bridge.settle engine answer).map (Bridge.inner part) id =
      (bridge.inner part).settle inner (answer.inner part) := by
  rw [Bridge.settle, Bridge.settle, same.submissionResult]
  rfl

/-- Both engines answer alike but for what one of them keeps. -/
theorem Engine.Extends.answer (bridge : Bridge State) (script : String) :
    ((bridge.evaluation engine script).answer).inner part =
      ((bridge.inner part).evaluation inner script).answer := by
  rw [Bridge.evaluation, Bridge.evaluation, same.submit, same.clear]
  rfl

/-- A script is evaluated alike over both engines. -/
theorem Engine.Extends.evaluate (bridge : Bridge State) (script : String) :
    (bridge.evaluate engine script).map (Bridge.inner part) id =
      (bridge.inner part).evaluate inner script := by
  cases opened : bridge.isOpen with
  | false => simp [Bridge.evaluate, Bridge.inner, opened]
  | true =>
      rw [Bridge.evaluate_eq_settle engine bridge script opened,
        Bridge.evaluate_eq_settle inner (bridge.inner part) script opened, same.settle, same.answer]

theorem Engine.Extends.closed (bridge : Bridge State) :
    (bridge.close engine).inner part = (bridge.inner part).close inner := by
  cases opened : bridge.isOpen with
  | false =>
      rw [Bridge.close_closed engine bridge opened,
        Bridge.close_closed inner (bridge.inner part) opened]
  | true =>
      have released : inner.close (part bridge.state) =
          (part (engine.close bridge.state).1, (engine.close bridge.state).2) :=
        (same.close bridge.state).symm
      rw [Bridge.close_open engine bridge opened, Bridge.close_open inner (bridge.inner part) opened]
      simp only [Bridge.inner, released]

/-- A command is carried out alike over both engines. -/
theorem Engine.Extends.perform (bridge : Bridge State) (command : Bridge.Command) :
    (bridge.perform engine command).inner part = (bridge.inner part).perform inner command := by
  have evaluate (bridge : Bridge State) (script : String) :=
    congrArg Prod.fst (same.evaluate bridge script)
  cases command with
  | evaluate script => exact evaluate bridge script
  | evaluateNamed script file => exact evaluate (bridge.log _) script
  | execute bytes =>
      rw [Bridge.perform, Bridge.perform, Bridge.execute, Bridge.execute]
      cases Text.decodeUtf8 bytes with
      | error fault => rfl
      | ok script => exact evaluate bridge script
  | close => exact same.closed bridge
  | _ => rfl

/-- A whole run goes alike over both engines, by induction over its commands. -/
theorem Engine.Extends.run (bridge : Bridge State) (commands : List Bridge.Command) :
    (bridge.run engine commands).inner part = (bridge.inner part).run inner commands := by
  induction commands generalizing bridge with
  | nil => rfl
  | cons command commands ih =>
      rw [Bridge.run, List.foldl_cons, ← Bridge.run, ih, same.perform]
      rfl

end

end HostBridge
