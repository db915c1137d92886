/-
This file follows a bridge from its start to its end and shows what it asks of its engine.
-/
import HostBridge.Proofs.Encoding
import HostBridge.Proofs.Footprint

namespace HostBridge

variable {State : Type}

/-- What a bridge asks of its engine. -/
inductive Engine.Use where
  | attach
  | clear
  | submit (submission : Submission)
  | close

/-- The engine does what it does and keeps a list of what was asked of it. -/
def Engine.recorded (engine : Engine State) : Engine (State × List Engine.Use) where
  attach state := (engine.attach state.1).map fun inner => (inner, state.2 ++ [.attach])
  submit submission host state :=
    let answer := engine.submit submission host state.1
    ⟨answer.host, (answer.state, state.2 ++ [.submit submission]), answer.error⟩
  output state := engine.output state.1
  clear state := (engine.clear state.1, state.2 ++ [.clear])
  close state :=
    let (inner, events) := engine.close state.1
    ((inner, state.2 ++ [.close]), events)

/-- An engine whose uses are recorded is the engine with the record beside it. -/
theorem Engine.recorded_extends (engine : Engine State) :
    engine.recorded.Extends engine Prod.fst where
  attach state := by
    show Except.map _ (Except.map _ (engine.attach state.1)) = engine.attach state.1
    cases engine.attach state.1 <;> rfl
  submit _ _ _ := rfl
  output _ := rfl
  clear _ := rfl
  close _ := rfl

/-- What an evaluation asks of the engine. -/
def Evaluation.uses (evaluation : Evaluation State) : List Engine.Use :=
  [.clear, .submit evaluation.submission]

/-- The commands in front of the first one that closes the bridge. -/
def Bridge.Command.beforeClose : List Bridge.Command → List Bridge.Command
  | [] => []
  | .close :: _ => []
  | command :: commands => command :: Bridge.Command.beforeClose commands

/-- A bridge that goes out of use is closed. -/
def Bridge.drop (engine : Engine State) (bridge : Bridge State) : Bridge State :=
  bridge.close engine

section Commands

theorem Bridge.Command.beforeClose_cons {command : Bridge.Command} (other : command ≠ .close)
    (commands : List Bridge.Command) :
    Bridge.Command.beforeClose (command :: commands) =
      command :: Bridge.Command.beforeClose commands := by
  cases command with
  | close => exact absurd rfl other
  | _ => rfl

/-- Bytes evaluate a script exactly when they are the bytes of a text. -/
theorem Bridge.Command.isSome_script?_execute (bytes : List UInt8) :
    (Bridge.Command.execute bytes).script?.isSome = true ↔
      ∃ text, Text.encodeUtf8 text = bytes := by
  rw [Command.script?]
  constructor
  · intro known
    cases decoded : Text.decodeUtf8 bytes with
    | error fault => simp [decoded, Except.toOption] at known
    | ok text => exact ⟨text, (Text.decodeUtf8_eq_ok_iff bytes text).mp decoded⟩
  · rintro ⟨text, rfl⟩
    rw [Text.decodeUtf8_encodeUtf8]
    rfl

/-- Bytes that are no text are refused without any change. -/
theorem Bridge.execute_invalid (engine : Engine State) (bridge : Bridge State) {bytes : List UInt8}
    (invalid : ∀ text, Text.encodeUtf8 text ≠ bytes) :
    ∃ fault, bridge.execute engine bytes = (bridge, .error (.invalidBytes fault)) := by
  cases decoded : Text.decodeUtf8 bytes with
  | error fault => exact ⟨fault, by rw [execute, decoded]⟩
  | ok text => exact absurd ((Text.decodeUtf8_eq_ok_iff bytes text).mp decoded) (invalid text)

end Commands

section Closing

variable {engine : Engine State} {bridge : Bridge State}

/-- A bridge is open after a run when it was open before and was not closed. -/
theorem Bridge.isOpen_run (engine : Engine State) (bridge : Bridge State)
    (commands : List Bridge.Command) :
    (bridge.run engine commands).isOpen = true ↔ bridge.isOpen = true ∧ .close ∉ commands := by
  induction commands generalizing bridge with
  | nil => simp [run]
  | cons command commands ih =>
      rw [run, List.foldl_cons, ← run, ih, List.mem_cons]
      by_cases last : command = .close
      · simp [last, isOpen_close]
      · rw [isOpen_perform engine bridge last]
        have different : .close ≠ command := Ne.symm last
        simp [different]

/-- A closed bridge counts no more evaluations. -/
theorem Bridge.evaluations_run_closed (closed : bridge.isOpen = false)
    (commands : List Bridge.Command) :
    (bridge.run engine commands).evaluations = bridge.evaluations := by
  induction commands generalizing bridge with
  | nil => rfl
  | cons command commands ih =>
      have silent : (bridge.evaluation? engine command).isSome = false := by
        rw [isSome_evaluation?, closed, Bool.false_and]
      have same := (bridge.settings_perform engine command).2.2
      rw [silent, if_neg Bool.false_ne_true] at same
      rw [run, List.foldl_cons, ← run, ih (bridge.perform_closed engine closed command).1, same]

/-- An open bridge counts every command with a script up to the first one that closes it. -/
theorem Bridge.evaluations_run (opened : bridge.isOpen = true) (commands : List Bridge.Command) :
    (bridge.run engine commands).evaluations = bridge.evaluations +
      (Command.beforeClose commands).countP fun command => command.script?.isSome := by
  induction commands generalizing bridge with
  | nil => rfl
  | cons command commands ih =>
      rw [run, List.foldl_cons, ← run]
      by_cases last : command = .close
      · subst last
        rw [evaluations_run_closed (isOpen_close engine bridge), perform,
          close_open engine bridge opened]
        rfl
      · have counted := (bridge.settings_perform engine command).2.2
        rw [isSome_evaluation?, opened, Bool.true_and] at counted
        have still : (bridge.perform engine command).isOpen = true := by
          rw [isOpen_perform engine bridge last, opened]
        rw [ih still, counted, Command.beforeClose_cons last, List.countP_cons]
        split <;> omega

/-- On a closed bridge nothing depends on the engine. -/
theorem Bridge.closed_independent (engine other : Engine State) (closed : bridge.isOpen = false)
    (command : Bridge.Command) :
    bridge.perform other command = bridge.perform engine command ∧
      bridge.result? other command = bridge.result? engine command := by
  have evaluate (engine : Engine State) (script : String) :=
    bridge.evaluate_refused engine script closed
  have named (engine : Engine State) (script file : String) :=
    (bridge.log [.evaluating file]).evaluate_refused engine script closed
  cases command with
  | evaluate script => simp only [perform, result?, evaluate, and_self]
  | evaluateNamed script file => simp only [perform, result?, evaluateNamed, named, and_self]
  | execute bytes => simp only [perform, result?, execute, evaluate, and_self]
  | close => simp only [perform, close_closed _ bridge closed, result?, and_self]
  | _ => exact ⟨rfl, rfl⟩

/-- On a closed bridge a script is refused, and nothing but a record is left of it. -/
theorem Bridge.closed_refuses (engine : Engine State) (closed : bridge.isOpen = false)
    {command : Bridge.Command} {script : String} (known : command.script? = some script) :
    bridge.perform engine command = bridge.entered command ∧
      bridge.result? engine command = some (.error .closed) := by
  have entered : (bridge.entered command).isOpen = false := by cases command <;> exact closed
  rw [bridge.perform_entered engine known, bridge.result?_entered engine known,
    evaluate_refused _ _ script entered]
  exact ⟨rfl, rfl⟩

end Closing

/-- Before a script is submitted there is a record at most. -/
theorem Bridge.exists_entered (bridge : Bridge State) (command : Bridge.Command) :
    ∃ events, bridge.entered command = bridge.log events := by
  cases command with
  | evaluateNamed script file => exact ⟨_, rfl⟩
  | _ => exact ⟨[], by simp [entered, log, Host.log]⟩

section Uses

variable {engine : Engine State} {bridge : Bridge (State × List Engine.Use)}

/-- An evaluation of an open bridge adds its own uses of the engine. -/
theorem Bridge.uses_evaluate (opened : bridge.isOpen = true) (script : String) :
    (bridge.evaluate engine.recorded script).1.state.2 =
      bridge.state.2 ++ (bridge.evaluation engine.recorded script).uses := by
  rw [evaluate_eq_settle _ bridge script opened]
  exact List.append_assoc bridge.state.2 [.clear] _

/-- A command on an open bridge asks the engine for nothing but its evaluation. -/
theorem Bridge.uses_perform (opened : bridge.isOpen = true) {command : Bridge.Command}
    (other : command ≠ .close) :
    (bridge.perform engine.recorded command).state.2 =
      bridge.state.2 ++ (bridge.evaluation? engine.recorded command).toList.flatMap
        Evaluation.uses := by
  rw [evaluation?, if_pos opened]
  cases command with
  | evaluate script =>
      rw [perform, uses_evaluate opened]
      rfl
  | evaluateNamed script file =>
      have logged : (bridge.log [.evaluating file]).isOpen = true := opened
      rw [perform, evaluateNamed, uses_evaluate logged]
      rfl
  | execute bytes =>
      rw [perform, execute, Command.script?]
      cases Text.decodeUtf8 bytes with
      | error fault => exact (List.append_nil _).symm
      | ok script =>
          simp only [uses_evaluate opened]
          rfl
  | close => exact absurd rfl other
  | _ => exact (List.append_nil _).symm

/-- A closed bridge evaluates nothing. -/
theorem Bridge.trace_closed (engine : Engine State) {bridge : Bridge State}
    (closed : bridge.isOpen = false) (commands : List Bridge.Command) :
    bridge.trace engine commands = [] := by
  induction commands generalizing bridge with
  | nil => rfl
  | cons command commands ih =>
      have silent : bridge.evaluation? engine command = none := by
        rw [evaluation?, if_neg (by simp [closed])]
      rw [trace_cons silent, Option.toList_none, List.nil_append,
        ih (bridge.perform_closed engine closed command).1]

/-- Up to the end of an open bridge the engine is asked for the evaluations, and last to close. -/
theorem Bridge.uses_drop (opened : bridge.isOpen = true) (commands : List Bridge.Command) :
    ((bridge.run engine.recorded commands).drop engine.recorded).state.2 =
      bridge.state.2 ++ (bridge.trace engine.recorded commands).flatMap Evaluation.uses ++
        [.close] := by
  induction commands generalizing bridge with
  | nil =>
      rw [run, List.foldl_nil, drop, close_open _ bridge opened, trace, List.flatMap_nil,
        List.append_nil]
      rfl
  | cons command commands ih =>
      rw [run, List.foldl_cons, ← run]
      by_cases last : command = .close
      · subst last
        have closed := bridge.isOpen_close engine.recorded
        have silent : bridge.evaluation? engine.recorded .close = none := by
          rw [evaluation?, if_pos opened]
          rfl
        obtain ⟨still, same⟩ := run_closed engine.recorded _ closed commands
        rw [drop, close_closed _ _ still, same, trace_cons silent, trace_closed _ closed, perform,
          close_open _ bridge opened]
        simp [Engine.recorded]
      · have still : (bridge.perform engine.recorded command).isOpen = true := by
          rw [isOpen_perform _ bridge last, opened]
        rw [ih still, uses_perform opened last, trace, List.flatMap_append, List.append_assoc,
          List.append_assoc, List.append_assoc, List.append_assoc]

/-- A bridge that starts has attached its engine once. -/
theorem Bridge.start_recorded {engine : Engine State} {configuration : Configuration}
    {ambient : Ambient} {state : State} {bridge : Bridge (State × List Engine.Use)}
    (started : Bridge.start engine.recorded configuration ambient (state, []) = .ok bridge) :
    bridge.isOpen = true ∧ bridge.evaluations = 0 ∧ bridge.state.2 = [.attach] ∧
      Bridge.start engine configuration ambient state = .ok (bridge.inner Prod.fst) := by
  have plain := engine.recorded_extends.start configuration ambient (state, [])
  rw [started] at plain
  have used : bridge.state.2 = [.attach] := by
    cases attached : engine.attach state with
    | error error => simp [Bridge.start, Engine.recorded, attached, Except.map] at started
    | ok inner =>
        simp only [Bridge.start, Engine.recorded, attached, Except.map, Except.ok.injEq] at started
        rw [← started]
        rfl
  obtain ⟨attached, rfl⟩ := eq_of_start started
  exact ⟨rfl, rfl, used, plain.symm⟩

end Uses

/-- Whatever is asked of a bridge, its engine is closed once and asked for nothing later. The bridge
is open up to the first command that closes it and counts the scripts up to there. From then on
scripts are refused, and bytes that are no text are refused at any time. -/
theorem engine_closed_once (engine : Engine State) (configuration : Configuration)
    (ambient : Ambient) (state : State) (bridge : Bridge (State × List Engine.Use))
    (started : Bridge.start engine.recorded configuration ambient (state, []) = .ok bridge)
    (commands : List Bridge.Command) :
    let left := bridge.run engine.recorded commands
    let count := (Bridge.Command.beforeClose commands).countP fun command => command.script?.isSome
    (left.drop engine.recorded).state.2 =
        .attach :: (bridge.trace engine.recorded commands).flatMap Evaluation.uses ++ [.close] ∧
      (left.isOpen = true ↔ .close ∉ commands) ∧
      left.evaluations = count ∧
      (.close ∉ commands → ∃ released,
        (left.close engine.recorded).host.events = left.host.events ++ released ++ [.closed count]) ∧
      (.close ∈ commands → left.close engine.recorded = left ∧
        (∀ other command, left.perform other command = left.perform engine.recorded command ∧
          left.result? other command = left.result? engine.recorded command) ∧
        ∀ command script, command.script? = some script →
          left.result? engine.recorded command = some (.error .closed) ∧
            ∃ events, left.perform engine.recorded command = left.log events) ∧
      (∀ bytes, ((Bridge.Command.execute bytes).script?.isSome = true ↔
          ∃ text, Text.encodeUtf8 text = bytes) ∧
        ((∀ text, Text.encodeUtf8 text ≠ bytes) → ∃ fault,
          left.execute engine.recorded bytes = (left, .error (.invalidBytes fault)))) ∧
      Bridge.start engine configuration ambient state = .ok (bridge.inner Prod.fst) ∧
      left.inner Prod.fst = (bridge.inner Prod.fst).run engine commands := by
  intro left count
  obtain ⟨opened, none, attached, plain⟩ := Bridge.start_recorded started
  have isOpen : left.isOpen = true ↔ .close ∉ commands := by
    rw [Bridge.isOpen_run, and_iff_right opened]
  have counted : left.evaluations = count := by
    rw [Bridge.evaluations_run opened, none, Nat.zero_add]
  refine ⟨?_, isOpen, counted, ?_, ?_, ?_, plain, engine.recorded_extends.run bridge commands⟩
  · rw [Bridge.uses_drop opened, attached]
    rfl
  · intro still
    refine ⟨(engine.recorded.close left.state).2, ?_⟩
    rw [Bridge.close_open _ left (isOpen.mpr still), counted]
    exact (List.append_assoc _ _ _).symm
  · intro closing
    have closed : left.isOpen = false := by
      rw [← Bool.not_eq_true, isOpen, not_not]
      exact closing
    refine ⟨left.close_closed _ closed, fun other => Bridge.closed_independent _ other closed, ?_⟩
    intro command script known
    obtain ⟨same, refused⟩ := left.closed_refuses engine.recorded closed known
    refine ⟨refused, ?_⟩
    rw [same]
    exact left.exists_entered command
  · exact fun bytes => ⟨Bridge.Command.isSome_script?_execute bytes,
      left.execute_invalid engine.recorded⟩

/-- A bridge that is closed twice and dropped has closed its engine once, behind its only
evaluation. -/
theorem engine_closed_once_twice :
    let commands : List Bridge.Command := [.bind "k" .empty, .evaluate "1", .execute [0xFF], .close,
      .unbind "k", .evaluateNamed "2" "later", .close]
    ∃ bridge, Bridge.start Planned.engine.recorded Configuration.default ⟨fun _ => 0, fun _ => 0⟩
        (Planned.ofPlan [.fail (.exception "no")], []) = .ok bridge ∧
      let left := bridge.run Planned.engine.recorded commands
      (∃ submission, (left.drop Planned.engine.recorded).state.2 =
          [.attach, .clear, .submit submission, .close]) ∧
        left.isOpen = false ∧ left.evaluations = 1 ∧
        left.result? Planned.engine.recorded (.evaluate "3") = some (.error .closed) ∧
        ∃ fault, left.execute Planned.engine.recorded [0xFF] =
          (left, .error (.invalidBytes fault)) := by
  intro commands
  refine ⟨_, rfl, ?_⟩
  intro left
  have closing : .close ∈ commands := by simp [commands]
  have invalid : ∀ text, Text.encodeUtf8 text ≠ [0xFF] := by
    intro text same
    have decoded := (Text.decodeUtf8_eq_ok_iff [0xFF] text).mpr same
    cases decoded
  obtain ⟨used, opened, counted, -, closed, refused, -⟩ := engine_closed_once Planned.engine
    Configuration.default ⟨fun _ => 0, fun _ => 0⟩ (Planned.ofPlan [.fail (.exception "no")]) _ rfl
    commands
  refine ⟨⟨_, used⟩, ?_, counted, ?_, (refused [0xFF]).2 invalid⟩
  · rw [← Bool.not_eq_true, opened, not_not]
    exact closing
  · exact ((closed closing).2.2 (.evaluate "3") "3" rfl).1

end HostBridge
