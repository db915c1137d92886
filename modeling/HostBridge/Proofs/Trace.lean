/-
This file records what a run of commands submits and what comes of it.
-/
import HostBridge.Proofs.Run

namespace HostBridge

variable {State : Type}

/-- A bridge starts open and empty. -/
theorem Bridge.eq_of_start {engine : Engine State} {configuration : Configuration}
    {ambient : Ambient} {state : State} {bridge : Bridge State}
    (started : Bridge.start engine configuration ambient state = .ok bridge) :
    ∃ attached, bridge = ⟨configuration, ambient, Host.empty.log [.ready configuration.sentinel],
      attached, true, 0, []⟩ := by
  cases attached : engine.attach state with
  | error error => simp [Bridge.start, attached] at started
  | ok state =>
      simp only [Bridge.start, attached, Except.ok.injEq] at started
      exact ⟨state, started.symm⟩

/-- What was submitted, what the engine answered and what the caller is told. -/
structure Evaluation (State : Type) where
  submission : Submission
  answer : Engine.Answer State
  result : Except EvaluationError Translated

def Evaluation.sentinel (evaluation : Evaluation State) : String := evaluation.submission.sentinel

def Bridge.evaluation (engine : Engine State) (bridge : Bridge State) (script : String) :
    Evaluation State where
  submission := bridge.submission script
  answer := engine.submit (bridge.submission script)
    (bridge.host.log (bridge.submissionEvents script)) (engine.clear bridge.state)
  result := (bridge.evaluate engine script).2

/-- What a bridge makes of the answer of the engine. -/
def Bridge.settle (engine : Engine State) (bridge : Bridge State) (answer : Engine.Answer State) :
    Bridge State × Except EvaluationError Translated :=
  let told := submissionResult engine bridge.nextSentinel
    (bridge.ambient.milliseconds (bridge.evaluations + 1)) answer
  ({ bridge with
      host := answer.host.log told.1
      state := answer.state
      evaluations := bridge.evaluations + 1
      retired := [] }, told.2)

/-- An open bridge settles the answer of its engine. -/
theorem Bridge.evaluate_eq_settle (engine : Engine State) (bridge : Bridge State) (script : String)
    (opened : bridge.isOpen = true) :
    bridge.evaluate engine script = bridge.settle engine (bridge.evaluation engine script).answer := by
  rw [evaluate, if_pos opened]
  rfl

/-- The bridge when the script of a command is submitted. -/
def Bridge.entered (bridge : Bridge State) : Bridge.Command → Bridge State
  | .evaluateNamed _ file => bridge.log [.evaluating file]
  | _ => bridge

/-- Bytes have the script that they are decoded as. -/
theorem Bridge.Command.script?_execute_iff {bytes : List UInt8} {script : String} :
    (Command.execute bytes).script? = some script ↔ Text.decodeUtf8 bytes = .ok script := by
  rw [Command.script?]
  cases Text.decodeUtf8 bytes <;> simp [Except.toOption]

/-- A command with a script leaves the bridge as the evaluation of the script does. -/
theorem Bridge.perform_entered (engine : Engine State) (bridge : Bridge State)
    {command : Bridge.Command} {script : String} (known : command.script? = some script) :
    bridge.perform engine command = ((bridge.entered command).evaluate engine script).1 := by
  cases command with
  | evaluate own | evaluateNamed own file =>
      obtain rfl := Option.some.inj known
      rfl
  | execute bytes =>
      rw [perform, execute, Command.script?_execute_iff.mp known]
      rfl
  | _ => cases known

/-- What the caller of a command with a script is told is the result of the script. -/
theorem Bridge.result?_entered (engine : Engine State) (bridge : Bridge State)
    {command : Bridge.Command} {script : String} (known : command.script? = some script) :
    bridge.result? engine command = some ((bridge.entered command).evaluate engine script).2 := by
  cases command with
  | evaluate own | evaluateNamed own file =>
      obtain rfl := Option.some.inj known
      rfl
  | execute bytes =>
      rw [result?, execute, Command.script?_execute_iff.mp known]
      rfl
  | _ => cases known

/-- A closed bridge evaluates nothing. -/
def Bridge.evaluation? (engine : Engine State) (bridge : Bridge State) (command : Bridge.Command) :
    Option (Evaluation State) :=
  if bridge.isOpen then command.script?.map ((bridge.entered command).evaluation engine) else none

/-- The evaluations of some commands, in order. -/
def Bridge.trace (engine : Engine State) :
    Bridge State → List Bridge.Command → List (Evaluation State)
  | _, [] => []
  | bridge, command :: commands =>
      (bridge.evaluation? engine command).toList ++
        Bridge.trace engine (bridge.perform engine command) commands

/-- The first command comes first in what is recorded. -/
theorem Bridge.trace_cons {engine : Engine State} {bridge : Bridge State}
    {command : Bridge.Command} {evaluation? : Option (Evaluation State)}
    (evaluated : bridge.evaluation? engine command = evaluation?)
    (commands : List Bridge.Command) :
    bridge.trace engine (command :: commands) =
      evaluation?.toList ++ (bridge.perform engine command).trace engine commands := by
  rw [trace, evaluated]

theorem Bridge.trace_evaluate (engine : Engine State) {bridge : Bridge State}
    (opened : bridge.isOpen = true) (script : String) (commands : List Bridge.Command) :
    bridge.trace engine (.evaluate script :: commands) =
      bridge.evaluation engine script ::
        (bridge.evaluate engine script).1.trace engine commands := by
  have evaluated : bridge.evaluation? engine (.evaluate script) =
      some (bridge.evaluation engine script) := by
    rw [evaluation?, if_pos opened]
    rfl
  rw [trace_cons evaluated]
  rfl

/-- What an evaluation takes from a bridge and what it leaves behind. -/
structure Bridge.Evaluates (engine : Engine State) (bridge : Bridge State)
    (evaluation : Evaluation State) (left : Bridge State) : Prop where
  sentinel : evaluation.sentinel = bridge.nextSentinel
  retired : evaluation.submission.retired = bridge.retired
  answered : ∃ host state, host.registry = bridge.host.registry ∧
    evaluation.answer = engine.submit evaluation.submission host state
  scraped : evaluation.answer.error = none → evaluation.result =
    (scrape (engine.output evaluation.answer.state) evaluation.sentinel).2
  registry : left.host.registry = evaluation.answer.host.registry
  emptied : left.retired = []
  counted : left.evaluations = bridge.evaluations + 1
  configuration : left.configuration = bridge.configuration
  ambient : left.ambient = bridge.ambient

/-- The result of an accepted submission is found in the output. -/
theorem submissionResult_of_answered (engine : Engine State) (sentinel : String)
    (milliseconds : Nat) {answer : Engine.Answer State} (answered : answer.error = none) :
    (submissionResult engine sentinel milliseconds answer).2 =
      (scrape (engine.output answer.state) sentinel).2 := by
  simp only [submissionResult, answered]
  generalize scrape (engine.output answer.state) sentinel = scraped
  obtain ⟨events, error | value⟩ := scraped <;> rfl

/-- The result of a rejected submission is its failure. -/
theorem submissionResult_of_rejected (engine : Engine State) (sentinel : String)
    (milliseconds : Nat) {answer : Engine.Answer State} {error : EngineError}
    (rejected : answer.error = some error) :
    (submissionResult engine sentinel milliseconds answer).2 = .ok (failedSubmission error) := by
  simp only [submissionResult, rejected]

/-- An open bridge evaluates a script that it is given. -/
theorem Bridge.evaluates_evaluate (engine : Engine State) (bridge : Bridge State) (script : String)
    (opened : bridge.isOpen = true) :
    bridge.Evaluates engine (bridge.evaluation engine script)
      (bridge.evaluate engine script).1 where
  sentinel := rfl
  retired := rfl
  answered := ⟨bridge.host.log (bridge.submissionEvents script), engine.clear bridge.state,
    rfl, rfl⟩
  scraped noError := by
    rw [← submissionResult_of_answered engine _
      (bridge.ambient.milliseconds (bridge.evaluations + 1)) noError, evaluation, evaluate,
      if_pos opened]
    rfl
  registry := by
    rw [evaluate, if_pos opened]
    rfl
  emptied := by rw [evaluate, if_pos opened]
  counted := by rw [evaluate, if_pos opened]
  configuration := by rw [evaluate, if_pos opened]
  ambient := by rw [evaluate, if_pos opened]

/-- A command that evaluates takes everything from the bridge as it stands. -/
theorem Bridge.evaluates_perform {engine : Engine State} {bridge : Bridge State}
    {command : Bridge.Command} {evaluation : Evaluation State}
    (evaluated : bridge.evaluation? engine command = some evaluation) :
    bridge.Evaluates engine evaluation (bridge.perform engine command) := by
  unfold evaluation? at evaluated
  split at evaluated
  · next opened =>
      cases command with
      | evaluate script =>
          obtain rfl := Option.some.inj evaluated
          exact evaluates_evaluate engine bridge script opened
      | evaluateNamed script file =>
          obtain rfl := Option.some.inj evaluated
          have same := evaluates_evaluate engine (bridge.log [.evaluating file]) script opened
          exact ⟨same.sentinel, same.retired, same.answered, same.scraped, same.registry,
            same.emptied, same.counted, same.configuration, same.ambient⟩
      | execute bytes =>
          obtain ⟨script, known, rfl⟩ := Option.map_eq_some_iff.mp evaluated
          rw [perform, execute, Command.script?_execute_iff.mp known]
          exact evaluates_evaluate engine bridge script opened
      | _ => cases evaluated
  · cases evaluated

/-- A command that evaluates something binds and unbinds nothing itself. -/
theorem Bridge.changes_of_evaluation? {engine : Engine State} {bridge : Bridge State}
    {command : Bridge.Command} {evaluation : Evaluation State}
    (evaluated : bridge.evaluation? engine command = some evaluation) : command.changes = [] := by
  cases command <;> simp [evaluation?, Command.script?, Command.changes] at evaluated ⊢

/-- What a command that evaluates nothing leaves behind of a bridge. -/
structure Bridge.Passes (bridge : Bridge State) (command : Bridge.Command) (left : Bridge State) :
    Prop where
  shown : ∀ bindings, bridge.host.registry.Shows bindings →
    left.host.registry.Shows (bindings.after command.changes)
  retired : ∀ name, bridge.isBound name = false → (name ∈ left.retired ↔ name ∈ bridge.retired)
  counted : left.evaluations = bridge.evaluations
  configuration : left.configuration = bridge.configuration
  ambient : left.ambient = bridge.ambient

/-- Only the name of an object that is bound is remembered. -/
theorem Bridge.mem_retired_unbind (bridge : Bridge State) {name : String}
    (absent : bridge.isBound name = false) (other : String) :
    name ∈ (bridge.unbind other).retired ↔ name ∈ bridge.retired := by
  rw [unbind]
  split
  · next remembered =>
      have different : name ≠ other := by
        rintro rfl
        simp [absent] at remembered
      simp [different]
  · rfl

/-- A command without effects on the bindings is passed. -/
theorem Bridge.passes_unchanged (bridge : Bridge State) {command : Bridge.Command}
    {left : Bridge State} (silent : command.changes = []) (registry : left.host.registry =
      bridge.host.registry) (retired : left.retired = bridge.retired)
    (counted : left.evaluations = bridge.evaluations)
    (configuration : left.configuration = bridge.configuration)
    (ambient : left.ambient = bridge.ambient) : bridge.Passes command left where
  shown bindings shown := by
    rw [silent, registry]
    exact shown
  retired name _ := by rw [retired]
  counted := counted
  configuration := configuration
  ambient := ambient

/-- A script is not evaluated only if the bridge is closed. -/
theorem Bridge.closed_of_evaluation? {engine : Engine State} {bridge : Bridge State}
    {command : Bridge.Command} (silent : bridge.evaluation? engine command = none)
    {script : String} (evaluates : command.script? = some script) : bridge.isOpen = false := by
  cases opened : bridge.isOpen with
  | false => rfl
  | true => simp [evaluation?, opened, evaluates] at silent

/-- A command that evaluates nothing is passed with its changes. -/
theorem Bridge.passes_perform {engine : Engine State} {bridge : Bridge State}
    {command : Bridge.Command} (silent : bridge.evaluation? engine command = none) :
    bridge.Passes command (bridge.perform engine command) := by
  cases command with
  | bind name handle =>
      exact ⟨fun _ shown => shown.bind name handle, fun _ _ => Iff.rfl, rfl, rfl, rfl⟩
  | set name handle =>
      exact ⟨fun _ shown => shown.bind name handle, fun _ _ => Iff.rfl, rfl, rfl, rfl⟩
  | bindShared name identity value =>
      exact ⟨fun _ shown => shown.bind name _, fun _ _ => Iff.rfl, rfl, rfl, rfl⟩
  | unbind name =>
      exact ⟨fun _ shown => shown.unbind name,
        fun _ absent => bridge.mem_retired_unbind absent name, rfl, rfl, rfl⟩
  | evaluate script =>
      have evaluates : (Bridge.Command.evaluate script).script? = some script := rfl
      rw [perform, evaluate_closed engine bridge script (closed_of_evaluation? silent evaluates)]
      exact passes_unchanged bridge rfl rfl rfl rfl rfl rfl
  | evaluateNamed script file =>
      have evaluates : (Bridge.Command.evaluateNamed script file).script? = some script := rfl
      have closed := closed_of_evaluation? silent evaluates
      rw [perform, evaluateNamed, evaluate_closed engine (bridge.log _) script closed]
      exact passes_unchanged bridge rfl rfl rfl rfl rfl rfl
  | execute bytes =>
      rw [perform, execute]
      cases decoded : Text.decodeUtf8 bytes with
      | error fault => exact passes_unchanged bridge rfl rfl rfl rfl rfl rfl
      | ok script =>
          have closed := closed_of_evaluation? silent (Command.script?_execute_iff.mpr decoded)
          simp only [evaluate_closed engine bridge script closed]
          exact passes_unchanged bridge rfl rfl rfl rfl rfl rfl
  | compile script file => exact passes_unchanged bridge rfl rfl rfl rfl rfl rfl
  | close =>
      rw [perform, close]
      split <;> exact passes_unchanged bridge rfl rfl rfl rfl rfl rfl

end HostBridge
