/-
This file shows that an evaluation does not depend on what came of the evaluations before it.
-/
import HostBridge.Proofs.Lifecycle

namespace HostBridge

variable {State : Type}

/-- Clearing empties the captured text, and a submission adds what it prints to it. -/
structure Engine.Captures (engine : Engine State) (printed : Submission → Host → State → String) :
    Prop where
  cleared : ∀ state, engine.output (engine.clear state) = ""
  appended : ∀ submission host state,
    engine.output (engine.submit submission host state).state =
      engine.output state ++ printed submission host state

/-- The text that the submission of a command prints. -/
def Bridge.printed? (engine : Engine State) (printed : Submission → Host → State → String)
    (bridge : Bridge State) (command : Bridge.Command) : Option String :=
  if bridge.isOpen then
    command.script?.map fun script =>
      let entered := bridge.entered command
      printed (entered.submission script) (entered.host.log (entered.submissionEvents script))
        (engine.clear entered.state)
  else none

/-- The failure of the submission of a command, if it failed. -/
def Bridge.rejected? (engine : Engine State) (bridge : Bridge State) (command : Bridge.Command) :
    Option (Option EngineError) :=
  (bridge.evaluation? engine command).map fun evaluation => evaluation.answer.error

section Results

variable {engine : Engine State} {printed : Submission → Host → State → String}
  {bridge : Bridge State}

/-- What a caller is told follows from the sentinel, the failure and the printed text. -/
def resultOf (sentinel : String) (rejected : Option EngineError) (text : String) :
    Except EvaluationError Translated :=
  match rejected with
  | some error => .ok (failedSubmission error)
  | none => (scrape text sentinel).2

/-- A result follows from the answer of the engine and what it printed. -/
theorem submissionResult_eq (engine : Engine State) (sentinel : String) (milliseconds : Nat)
    (answer : Engine.Answer State) :
    (submissionResult engine sentinel milliseconds answer).2 =
      resultOf sentinel answer.error (engine.output answer.state) := by
  cases rejected : answer.error with
  | none => exact submissionResult_of_answered engine sentinel milliseconds rejected
  | some error => exact submissionResult_of_rejected engine sentinel milliseconds rejected

/-- The result of an evaluation depends on its sentinel and on the answer of the engine. -/
theorem Bridge.result_eq_resultOf (engine : Engine State) (opened : bridge.isOpen = true)
    (script : String) :
    (bridge.evaluate engine script).2 =
      resultOf bridge.nextSentinel (bridge.evaluation engine script).answer.error
        (engine.output (bridge.evaluation engine script).answer.state) := by
  rw [evaluate_eq_settle engine bridge script opened]
  exact submissionResult_eq engine _ _ _

/-- An engine that captures its output has what the submission prints. -/
theorem Engine.Captures.output (captures : engine.Captures printed) (submission : Submission)
    (host : Host) (state : State) :
    engine.output (engine.submit submission host (engine.clear state)).state =
      printed submission host (engine.clear state) := by
  rw [captures.appended, captures.cleared, String.empty_append]

/-- The result of an evaluation depends on the text that its own submission prints. -/
theorem Bridge.result_evaluate (captures : engine.Captures printed) (opened : bridge.isOpen = true)
    (script : String) :
    (bridge.evaluate engine script).2 =
      resultOf bridge.nextSentinel (bridge.evaluation engine script).answer.error
        (printed (bridge.submission script) (bridge.host.log (bridge.submissionEvents script))
          (engine.clear bridge.state)) := by
  rw [result_eq_resultOf engine opened, ← captures.output]
  rfl

/-- On an open bridge this goes for every command with a script. -/
theorem Bridge.result?_open (captures : engine.Captures printed) (opened : bridge.isOpen = true)
    {command : Bridge.Command} {script : String} (known : command.script? = some script) :
    bridge.result? engine command =
      (bridge.rejected? engine command).bind fun rejected =>
        (bridge.printed? engine printed command).map fun text =>
          resultOf bridge.nextSentinel rejected text := by
  have entered : (bridge.entered command).isOpen = true := by cases command <;> exact opened
  rw [bridge.result?_entered engine known, Bridge.result_evaluate captures entered, rejected?,
    evaluation?, printed?, if_pos opened, if_pos opened, known]
  cases command <;> rfl

/-- A command without a script has the same result everywhere. -/
theorem Bridge.result?_silent {Other : Type} (engine : Engine State) (other : Engine Other)
    (one : Bridge State) (two : Bridge Other) {command : Bridge.Command}
    (silent : command.script? = none) : one.result? engine command = two.result? other command := by
  cases command with
  | execute bytes =>
      rw [result?, result?, execute, execute]
      cases decoded : Text.decodeUtf8 bytes with
      | error fault => rfl
      | ok text => cases silent.symm.trans (Bridge.Command.script?_execute_iff.mpr decoded)
  | evaluate | evaluateNamed => cases silent
  | _ => rfl

end Results

section Bookkeeping

variable {engine : Engine State} {bridge : Bridge State}

/-- A run of commands that keep bindings leaves a registry that does, by induction. -/
theorem Bridge.keeps_run (calls : engine.CallsOnly)
    (keeps : bridge.host.registry.KeepsBindings) (commands : List Bridge.Command)
    (kept : ∀ command ∈ commands, command.KeepsBindings) :
    (bridge.run engine commands).host.registry.KeepsBindings := by
  induction commands generalizing bridge with
  | nil => exact keeps
  | cons command commands ih =>
      obtain ⟨first, others⟩ := List.forall_mem_cons.mp kept
      exact ih (keeps_perform calls keeps first) others

/-- An evaluation is counted once, changes nothing about the names and leaves the bridge open. -/
theorem Bridge.perform_evaluated (calls : engine.CallsOnly)
    (keeps : bridge.host.registry.KeepsBindings) {command : Bridge.Command}
    {evaluation : Evaluation State}
    (evaluated : bridge.evaluation? engine command = some evaluation) :
    (bridge.perform engine command).evaluations = bridge.evaluations + 1 ∧
      (bridge.perform engine command).host.registry = bridge.host.registry ∧
      (bridge.perform engine command).isOpen = true := by
  have reached : (bridge.isOpen && command.script?.isSome) = true := by
    rw [← isSome_evaluation? engine, evaluated, Option.isSome_some]
  obtain ⟨opened, scripted⟩ := Bool.and_eq_true_iff.mp reached
  have quiet : command.name? = none := by
    cases command <;> first | rfl | cases scripted
  have other : command ≠ .close := by
    rintro rfl
    cases scripted
  refine ⟨(evaluates_perform evaluated).counted, (quiet_perform calls keeps quiet).1, ?_⟩
  rw [isOpen_perform engine bridge other, opened]

end Bookkeeping

/-- Two runs of the same commands may differ in all that earlier scripts printed and in how they
ended: an evaluation with the same sentinel has the same result when its own submission ends in the
same way and prints the same text. Whatever comes of it, it is counted once and changes nothing
about the names. -/
theorem evaluations_isolated {One Two : Type} (first : Engine One) (second : Engine Two)
    (printed : Submission → Host → One → String) (shown : Submission → Host → Two → String)
    (captures : first.Captures printed) (also : second.Captures shown)
    (configuration : Configuration) (ambient around : Ambient) (state : One) (start : Two)
    (one : Bridge One) (two : Bridge Two)
    (started : Bridge.start first configuration ambient state = .ok one)
    (begun : Bridge.start second configuration around start = .ok two)
    (commands : List Bridge.Command) (last : Bridge.Command) :
    ((one.run first commands).nextSentinel = (two.run second commands).nextSentinel →
      (one.run first commands).rejected? first last =
        (two.run second commands).rejected? second last →
      (one.run first commands).printed? first printed last =
        (two.run second commands).printed? second shown last →
      (one.run first commands).result? first last =
        (two.run second commands).result? second last) ∧
    (first.CallsOnly → (∀ command ∈ commands, command.KeepsBindings) → ∀ evaluation,
      (one.run first commands).evaluation? first last = some evaluation →
      ((one.run first commands).perform first last).evaluations =
          (one.run first commands).evaluations + 1 ∧
        ((one.run first commands).perform first last).host.registry =
          (one.run first commands).host.registry ∧
        ((one.run first commands).perform first last).isOpen = true) := by
  obtain ⟨attached, rfl⟩ := Bridge.eq_of_start started
  obtain ⟨connected, rfl⟩ := Bridge.eq_of_start begun
  constructor
  · intro sentinel ended same
    cases known : last.script? with
    | none => exact Bridge.result?_silent first second _ _ known
    | some script =>
        by_cases closing : .close ∈ commands
        · have closed {State : Type} (engine : Engine State) (bridge : Bridge State) :
              (bridge.run engine commands).isOpen = false := by
            rw [← Bool.not_eq_true, Bridge.isOpen_run]
            exact fun reached => reached.2 closing
          rw [(Bridge.closed_refuses first (closed first _) known).2,
            (Bridge.closed_refuses second (closed second _) known).2]
        · rw [Bridge.result?_open captures ((Bridge.isOpen_run _ _ _).mpr ⟨rfl, closing⟩) known,
            Bridge.result?_open also ((Bridge.isOpen_run _ _ _).mpr ⟨rfl, closing⟩) known, sentinel,
            ended, same]
  · intro calls kept evaluation evaluated
    have silent : Registry.KeepsBindings [] := fun _ member => absurd member List.not_mem_nil
    exact Bridge.perform_evaluated calls (Bridge.keeps_run calls silent commands kept) evaluated

/-- An engine that prints the texts of a list one by one, whatever the scripts are, and keeps what is
left of the list beside the captured text. -/
def Engine.reciting : Engine (List (String × Option EngineError) × String) where
  attach state := .ok state
  submit _ host state :=
    match state.1 with
    | [] => ⟨host, state, none⟩
    | (text, error) :: rest => ⟨host, (rest, state.2 ++ text), error⟩
  output state := state.2
  clear state := (state.1, "")
  close state := (state, [])

/-- The reciting engine prints the first of the texts that it still has. -/
theorem Engine.reciting_captures :
    Engine.reciting.Captures fun _ _ state => (state.1.head?.map Prod.fst).getD "" where
  cleared _ := rfl
  appended submission host state := by
    obtain ⟨_ | ⟨text, rest⟩, captured⟩ := state
    · exact String.append_empty.symm
    · rfl

theorem Engine.reciting_callsOnly : Engine.reciting.CallsOnly := by
  intro submission host state
  obtain ⟨_ | ⟨text, rest⟩, captured⟩ := state
  · exact .stay host
  · exact .stay host

/-- A result line that is left over from a failed script does not become the next result, although
its sentinel is the same. -/
theorem evaluations_isolated_stale :
    let commands : List Bridge.Command := [.bind "k" .empty, .evaluate "1"]
    let stale := resultMarker ++ "1\n"
    let fresh := resultMarker ++ "2\n"
    ∃ one two,
      Bridge.start .reciting ⟨.fixed, none, none, false⟩ ⟨fun _ => 0, fun _ => 0⟩
          ([(stale, some (.exception "interrupted")), (fresh, none)], "") = .ok one ∧
        Bridge.start .reciting ⟨.fixed, none, none, false⟩ ⟨fun _ => 1, fun _ => 1⟩
          ([("", none), (fresh, none)], stale) = .ok two ∧
        (one.run .reciting commands).result? .reciting (.evaluate "2") =
          (two.run .reciting commands).result? .reciting (.evaluate "2") ∧
        ((one.run .reciting commands).perform .reciting (.evaluate "2")).evaluations = 2 := by
  intro commands stale fresh
  refine ⟨_, _, rfl, rfl, ?_⟩
  obtain ⟨isolated, counted⟩ := evaluations_isolated .reciting .reciting _ _
    Engine.reciting_captures Engine.reciting_captures ⟨.fixed, none, none, false⟩
    ⟨fun _ => 0, fun _ => 0⟩ ⟨fun _ => 1, fun _ => 1⟩
    ([(stale, some (.exception "interrupted")), (fresh, none)], "")
    ([("", none), (fresh, none)], stale) _ _ rfl rfl commands (.evaluate "2")
  have kept : ∀ command ∈ commands, command.KeepsBindings := by
    intro command member name handle bound
    have bound : .bind name handle ∈ commands.flatMap Bridge.Command.changes :=
      List.mem_flatMap.mpr ⟨command, member, bound⟩
    obtain rfl : handle = .empty := by
      simp [commands, Bridge.Command.changes] at bound
      exact bound.2
    exact fun method among => absurd among List.not_mem_nil
  exact ⟨isolated rfl rfl rfl, (counted Engine.reciting_callsOnly kept _ rfl).1⟩

end HostBridge
