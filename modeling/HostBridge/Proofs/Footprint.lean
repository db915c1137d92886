/-
This file shows which global names are touched by what a script is preceded by.
-/
import HostBridge.Proofs.Removal
import HostBridge.Proofs.Scope

namespace HostBridge

variable {State : Type}

/-- The globals that the code around a script, the functions of proxies and those of the prelude
use. -/
def reliedOn : List String :=
  ["eval", "JSON", "String", "Array", "Error", "globalThis", emitName, invokeName]

section Touched

/-- A name is bound when it is in the registry. -/
theorem Bridge.isBound_iff (bridge : Bridge State) (name : String) :
    bridge.isBound name = true ↔ name ∈ Table.keys bridge.host.registry := by
  rw [isBound, Table.contains, Option.isSome_iff_ne_none, Ne, Table.lookup?_eq_none_iff, not_not]

/-- The directives assign the names that are bound. -/
theorem Bridge.bind_mem_directives_iff (bridge : Bridge State) (script name : String) :
    (∃ table, .bind name table ∈ (bridge.submission script).directives) ↔
      bridge.isBound name = true := by
  rw [isBound_iff, Table.keys, List.mem_map]
  simp only [Submission.directives, submission, Registry.proxies, List.map_map, List.mem_append,
    List.mem_map, Function.comp_apply, reduceCtorEq, and_false, exists_false, false_or]
  constructor
  · rintro ⟨table, entry, member, same⟩
    exact ⟨entry, member, (Change.bind.inj same).1⟩
  · rintro ⟨entry, member, rfl⟩
    exact ⟨_, entry, member, rfl⟩

/-- The directives delete the names that were unbound since the last evaluation. -/
theorem Bridge.unbind_mem_directives_iff (bridge : Bridge State) (script name : String) :
    .unbind name ∈ (bridge.submission script).directives ↔ name ∈ bridge.retired := by
  simp [Submission.directives, submission]

/-- What is submitted is taken from the bridge as it stands. -/
theorem Bridge.submission_of_evaluation? {engine : Engine State} {bridge : Bridge State}
    {command : Bridge.Command} {evaluation : Evaluation State}
    (evaluated : bridge.evaluation? engine command = some evaluation) :
    ∃ script, command.script? = some script ∧ evaluation.submission = bridge.submission script := by
  unfold evaluation? at evaluated
  split at evaluated
  · obtain ⟨script, known, rfl⟩ := Option.map_eq_some_iff.mp evaluated
    refine ⟨script, known, ?_⟩
    cases command <;> rfl
  · cases evaluated

/-- A name that was never bound is neither bound nor remembered. -/
theorem Bridge.Lacks.run {engine : Engine State} (calls : engine.CallsOnly)
    {bridge : Bridge State} {name : String} (lacks : bridge.Lacks name) (commands : List Bridge.Command)
    (fresh : ∀ command ∈ commands, ¬ command.Binds name) :
    (bridge.run engine commands).Lacks name := by
  induction commands generalizing bridge with
  | nil => exact lacks
  | cons command commands ih =>
      obtain ⟨first, others⟩ := List.forall_mem_cons.mp fresh
      exact ih (lacks.perform calls first) others

/-- Only names that some command has bound are bound or retired. -/
theorem Bridge.exists_binds {engine : Engine State} (calls : engine.CallsOnly)
    {configuration : Configuration} {ambient : Ambient} {state : State} {bridge : Bridge State}
    (started : Bridge.start engine configuration ambient state = .ok bridge)
    {commands : List Bridge.Command} {name : String}
    (touched : (bridge.run engine commands).isBound name = true ∨
      name ∈ (bridge.run engine commands).retired) :
    ∃ command ∈ commands, command.Binds name := by
  by_contra none
  have fresh : ∀ command ∈ commands, ¬ command.Binds name :=
    fun command member binds => none ⟨command, member, binds⟩
  obtain ⟨attached, rfl⟩ := eq_of_start started
  have lacks : Bridge.Lacks ⟨configuration, ambient, Host.empty.log [.ready configuration.sentinel],
      attached, true, 0, []⟩ name := ⟨List.nodup_nil, rfl⟩
  rcases touched with bound | remembered
  · rw [(lacks.run calls commands fresh).absent] at bound
    cases bound
  · exact (lacks.settled calls List.not_mem_nil commands fresh).1 remembered

end Touched

section Keeping

/-- A registry keeps its bindings with one more object that does. -/
theorem Registry.KeepsBindings.bind {registry : Registry} (keeps : registry.KeepsBindings)
    (name : String) {handle : Handle} (kept : handle.object.KeepsBindings) :
    (registry.bind name handle).KeepsBindings := by
  intro entry member
  rcases Table.mem_of_put member with known | rfl
  · exact keeps entry known
  · exact kept

theorem Registry.KeepsBindings.unbind {registry : Registry} (keeps : registry.KeepsBindings)
    (name : String) : (registry.unbind name).KeepsBindings :=
  fun entry member => keeps entry (Table.mem_of_remove member)

end Keeping

section Commands

/-- The name that a command binds or unbinds. -/
def Bridge.Command.name? : Bridge.Command → Option String
  | .bind name _ => some name
  | .set name _ => some name
  | @Bridge.Command.bindShared _ _ name _ _ => some name
  | .unbind name => some name
  | _ => none

/-- A command evaluates something exactly when the bridge is open and the command has a script. -/
theorem Bridge.isSome_evaluation? (engine : Engine State) (bridge : Bridge State)
    (command : Bridge.Command) :
    (bridge.evaluation? engine command).isSome = (bridge.isOpen && command.script?.isSome) := by
  rw [evaluation?]
  cases bridge.isOpen <;> simp

/-- A command that binds or unbinds a name evaluates nothing. -/
theorem Bridge.evaluation?_of_name? (engine : Engine State) (bridge : Bridge State)
    {command : Bridge.Command} {name : String} (named : command.name? = some name) :
    bridge.evaluation? engine command = none := by
  have none : command.script? = none := by
    cases command <;> first | rfl | cases named
  simp [evaluation?, none]

/-- Only closing closes a bridge. -/
theorem Bridge.isOpen_perform (engine : Engine State) (bridge : Bridge State)
    {command : Bridge.Command} (other : command ≠ .close) :
    (bridge.perform engine command).isOpen = bridge.isOpen := by
  have evaluated (bridge : Bridge State) (script : String) :
      (bridge.evaluate engine script).1.isOpen = bridge.isOpen := by
    rw [evaluate]
    split <;> rfl
  cases command with
  | evaluate script => exact evaluated bridge script
  | evaluateNamed script file => exact evaluated (bridge.log _) script
  | execute bytes =>
      rw [perform, execute]
      cases Text.decodeUtf8 bytes with
      | error fault => rfl
      | ok script => exact evaluated bridge script
  | close => exact absurd rfl other
  | _ => rfl

theorem Bridge.isOpen_close (engine : Engine State) (bridge : Bridge State) :
    (bridge.perform engine .close).isOpen = false := by
  rw [perform, close]
  split
  · rfl
  · next closed => exact Bool.eq_false_of_not_eq_true closed

/-- A command without a name that evaluates nothing leaves the names as they are. -/
theorem Bridge.still_perform {engine : Engine State} {bridge : Bridge State}
    {command : Bridge.Command} (silent : bridge.evaluation? engine command = none)
    (quiet : command.name? = none) :
    (bridge.perform engine command).host.registry = bridge.host.registry ∧
      (bridge.perform engine command).retired = bridge.retired := by
  have closed {script : String} (evaluates : command.script? = some script) :
      bridge.isOpen = false := closed_of_evaluation? silent evaluates
  cases command with
  | evaluate script =>
      rw [perform, evaluate_closed engine bridge script (closed rfl)]
      exact ⟨rfl, rfl⟩
  | evaluateNamed script file =>
      rw [perform, evaluateNamed, evaluate_closed engine (bridge.log _) script (closed rfl)]
      exact ⟨rfl, rfl⟩
  | execute bytes =>
      rw [perform, execute]
      cases decoded : Text.decodeUtf8 bytes with
      | error fault => exact ⟨rfl, rfl⟩
      | ok script =>
          have evaluates := closed (Command.script?_execute_iff.mpr decoded)
          simp only [evaluate_closed engine bridge script evaluates]
          exact ⟨trivial, trivial⟩
  | compile script file => exact ⟨rfl, rfl⟩
  | close =>
      rw [perform, close]
      split <;> exact ⟨rfl, rfl⟩
  | bind | set | bindShared | unbind => cases quiet

/-- A command without a name leaves the registry as it is, and only an evaluation forgets the names
to remove. -/
theorem Bridge.quiet_perform {engine : Engine State} (calls : engine.CallsOnly)
    {bridge : Bridge State} (keeps : bridge.host.registry.KeepsBindings) {command : Bridge.Command}
    (quiet : command.name? = none) :
    (bridge.perform engine command).host.registry = bridge.host.registry ∧
      (bridge.perform engine command).retired =
        if (bridge.evaluation? engine command).isSome then [] else bridge.retired := by
  cases evaluated : bridge.evaluation? engine command with
  | some evaluation =>
      have evaluates := evaluates_perform evaluated
      obtain ⟨host, state, same, answered⟩ := evaluates.answered
      refine ⟨?_, evaluates.emptied⟩
      rw [evaluates.registry, answered, (calls _ _ _).registry_eq (same ▸ keeps), same]
  | none => exact still_perform evaluated quiet

/-- A command keeps the settings, and the count follows the evaluations. -/
theorem Bridge.settings_perform (engine : Engine State) (bridge : Bridge State)
    (command : Bridge.Command) :
    (bridge.perform engine command).configuration = bridge.configuration ∧
      (bridge.perform engine command).ambient = bridge.ambient ∧
      (bridge.perform engine command).evaluations =
        if (bridge.evaluation? engine command).isSome then bridge.evaluations + 1
        else bridge.evaluations := by
  cases evaluated : bridge.evaluation? engine command with
  | some evaluation =>
      have evaluates := evaluates_perform evaluated
      exact ⟨evaluates.configuration, evaluates.ambient, evaluates.counted⟩
  | none =>
      have passes := passes_perform evaluated
      exact ⟨passes.configuration, passes.ambient, passes.counted⟩

/-- A command that keeps bindings leaves a registry that does. -/
theorem Bridge.keeps_perform {engine : Engine State} (calls : engine.CallsOnly)
    {bridge : Bridge State} (keeps : bridge.host.registry.KeepsBindings) {command : Bridge.Command}
    (kept : command.KeepsBindings) :
    (bridge.perform engine command).host.registry.KeepsBindings := by
  cases named : command.name? with
  | none => exact (quiet_perform calls keeps named).1 ▸ keeps
  | some name =>
      cases command with
      | bind name handle => exact keeps.bind name (kept name handle (List.mem_singleton_self _))
      | set name handle => exact keeps.bind name (kept name handle (List.mem_singleton_self _))
      | bindShared name identity value =>
          exact keeps.bind name (kept name _ (List.mem_singleton_self _))
      | unbind name => exact keeps.unbind name
      | _ => cases named

end Commands

section Frame

/-- Two bridges are alike but for what one name stands for. -/
structure Bridge.AgreesBut (name : String) (one two : Bridge State) : Prop where
  opened : one.isOpen = two.isOpen
  counted : one.evaluations = two.evaluations
  configuration : one.configuration = two.configuration
  ambient : one.ambient = two.ambient
  registry : Table.without one.host.registry name = Table.without two.host.registry name
  retired : one.retired.filter (· ≠ name) = two.retired.filter (· ≠ name)

theorem Bridge.AgreesBut.refl (name : String) (bridge : Bridge State) :
    bridge.AgreesBut name bridge := ⟨rfl, rfl, rfl, rfl, rfl, rfl⟩

/-- What a submission does about the other names, with the script and the mark. -/
def Evaluation.apartFrom (name : String) (evaluation : Evaluation State) :
    Option (List Directive × String) × String :=
  ((readComposed? evaluation.submission.text).map fun composed =>
    (composed.1.filter fun directive => directive.name ≠ name, composed.2), evaluation.sentinel)

theorem Evaluation.apartFrom_eq {evaluation : Evaluation State} {bridge : Bridge State}
    {script : String} (submitted : evaluation.submission = bridge.submission script)
    (name : String) :
    evaluation.apartFrom name =
      (some ((bridge.retired.filter (· ≠ name)).map .unbind ++
        (Table.without bridge.host.registry name).map fun entry =>
          .bind entry.1 (Proxy.ofObject entry.1 entry.2.object).table, script),
        bridge.nextSentinel) := by
  have directives : (bridge.submission script).directives.filter
        (fun directive => directive.name ≠ name) =
      (bridge.retired.filter (· ≠ name)).map .unbind ++
        (Table.without bridge.host.registry name).map fun entry =>
          .bind entry.1 (Proxy.ofObject entry.1 entry.2.object).table := by
    simp only [Submission.directives, Bridge.submission, Registry.proxies, List.map_map,
      List.filter_append, List.filter_map]
    rfl
  rw [apartFrom, Evaluation.sentinel, submitted, Submission.readComposed?_text, Option.map_some,
    directives]
  rfl

variable {engine : Engine State} {name : String} {one two : Bridge State} {command : Bridge.Command}

/-- Bridges that are alike submit the same but for the one name. -/
theorem Bridge.AgreesBut.evaluation? (agrees : one.AgreesBut name two)
    (command : Bridge.Command) :
    (one.evaluation? engine command).map (Evaluation.apartFrom name) =
      (two.evaluation? engine command).map (Evaluation.apartFrom name) := by
  have sentinel : one.nextSentinel = two.nextSentinel := by
    rw [nextSentinel, nextSentinel, agrees.configuration, agrees.ambient, agrees.counted]
  have entered (bridge : Bridge State) (script : String) :
      ((bridge.entered command).evaluation engine script).submission = bridge.submission script := by
    cases command <;> rfl
  rw [Bridge.evaluation?, Bridge.evaluation?, agrees.opened]
  split
  · cases command.script? with
    | none => rfl
    | some script =>
        simp only [Option.map_some, Evaluation.apartFrom_eq (entered one script),
          Evaluation.apartFrom_eq (entered two script), agrees.retired, agrees.registry, sentinel]
  · rfl

/-- Only the one name changes when a command binds or unbinds it. -/
theorem Bridge.AgreesBut.perform_left (agrees : one.AgreesBut name two)
    (named : command.name? = some name) :
    (one.perform engine command).AgreesBut name two := by
  have bound (handle : Handle) : (one.bind name handle).AgreesBut name two :=
    { agrees with registry := (Table.without_put_self _ name handle).trans agrees.registry }
  cases command with
  | bind own handle | set own handle | bindShared own =>
      obtain rfl := Option.some.inj named
      exact bound _
  | unbind own =>
      obtain rfl := Option.some.inj named
      have retired : (one.unbind own).retired.filter (· ≠ own) = one.retired.filter (· ≠ own) := by
        rw [unbind]
        split <;> simp
      exact { agrees with
        registry := (Table.without_remove_self _ own).trans agrees.registry
        retired := retired.trans agrees.retired }
  | _ => cases named

/-- The other names are bound and to be removed alike. -/
theorem Bridge.AgreesBut.others (agrees : one.AgreesBut name two) {other : String}
    (different : other ≠ name) :
    one.isBound other = two.isBound other ∧
      one.retired.contains other = two.retired.contains other := by
  have known : other ∈ one.retired ↔ other ∈ two.retired := by
    have filtered : other ∈ one.retired.filter (· ≠ name) ↔
        other ∈ two.retired.filter (· ≠ name) := by rw [agrees.retired]
    simpa [different] using filtered
  constructor
  · rw [Bridge.isBound, Bridge.isBound, Table.contains, Table.contains,
      ← Table.lookup?_without _ different, ← Table.lookup?_without two.host.registry different,
      agrees.registry]
  · rw [Bool.eq_iff_iff, List.contains_iff_mem, List.contains_iff_mem, known]

/-- A command about another name does the same to both. -/
theorem Bridge.AgreesBut.perform_other (agrees : one.AgreesBut name two) {other : String}
    (named : command.name? = some other) (different : other ≠ name) :
    (one.perform engine command).AgreesBut name (two.perform engine command) := by
  have bound (handle : Handle) : (one.bind other handle).AgreesBut name (two.bind other handle) := by
    have registry : Table.without (one.bind other handle).host.registry name =
        Table.without (two.bind other handle).host.registry name := by
      rw [bind, bind, Host.bind, Host.bind, Registry.bind, Registry.bind,
        Table.without_put _ different, Table.without_put _ different, agrees.registry]
    exact { agrees with registry := registry }
  cases command with
  | bind own handle | set own handle | bindShared own =>
      obtain rfl := Option.some.inj named
      exact bound _
  | unbind own =>
      obtain rfl := Option.some.inj named
      obtain ⟨isBound, contained⟩ := agrees.others different
      have registry : Table.without (one.unbind own).host.registry name =
          Table.without (two.unbind own).host.registry name := by
        rw [unbind, unbind, Host.unbind, Host.unbind, Registry.unbind, Registry.unbind,
          Table.without_remove _ different, Table.without_remove _ different, agrees.registry]
      have retired : (one.unbind own).retired.filter (· ≠ name) =
          (two.unbind own).retired.filter (· ≠ name) := by
        rw [unbind, unbind, isBound, contained]
        split
        · rw [List.filter_append, List.filter_append, agrees.retired]
        · exact agrees.retired
      exact { agrees with registry := registry, retired := retired }
  | _ => cases named

/-- All else is alike behind a command that treats the names alike. -/
theorem Bridge.AgreesBut.perform_alike (agrees : one.AgreesBut name two)
    (registry : Table.without (one.perform engine command).host.registry name =
      Table.without (two.perform engine command).host.registry name)
    (retired : (one.perform engine command).retired.filter (· ≠ name) =
      (two.perform engine command).retired.filter (· ≠ name)) :
    (one.perform engine command).AgreesBut name (two.perform engine command) := by
  have opened : (one.perform engine command).isOpen = (two.perform engine command).isOpen := by
    by_cases last : command = .close
    · rw [last, isOpen_close, isOpen_close]
    · rw [isOpen_perform engine one last, isOpen_perform engine two last, agrees.opened]
  have alike : (one.evaluation? engine command).isSome =
      (two.evaluation? engine command).isSome := by
    rw [isSome_evaluation?, isSome_evaluation?, agrees.opened]
  obtain ⟨configuration, ambient, counted⟩ := one.settings_perform engine command
  obtain ⟨configured, surrounded, numbered⟩ := two.settings_perform engine command
  refine ⟨opened, ?_, ?_, ?_, registry, retired⟩
  · rw [counted, numbered, alike, agrees.counted]
  · rw [configuration, configured, agrees.configuration]
  · rw [ambient, surrounded, agrees.ambient]

/-- A command that does not name the object keeps two bridges in agreement but for it. -/
theorem Bridge.AgreesBut.perform (calls : engine.CallsOnly) (agrees : one.AgreesBut name two)
    (left : one.host.registry.KeepsBindings) (right : two.host.registry.KeepsBindings)
    (apart : command.name? ≠ some name) :
    (one.perform engine command).AgreesBut name (two.perform engine command) := by
  cases named : command.name? with
  | some other => exact agrees.perform_other named fun same => apart (same ▸ named)
  | none =>
      obtain ⟨registry, retired⟩ := quiet_perform calls left named
      obtain ⟨again, forgotten⟩ := quiet_perform calls right named
      have alike : (one.evaluation? engine command).isSome =
          (two.evaluation? engine command).isSome := by
        rw [isSome_evaluation?, isSome_evaluation?, agrees.opened]
      refine agrees.perform_alike (by rw [registry, again, agrees.registry]) ?_
      rw [retired, forgotten, alike]
      split
      · rfl
      · exact agrees.retired

/-- What a run submits about the other names does not depend on the commands about one name. -/
theorem Bridge.AgreesBut.trace (calls : engine.CallsOnly) (agrees : one.AgreesBut name two)
    (left : one.host.registry.KeepsBindings) (right : two.host.registry.KeepsBindings)
    (commands : List Bridge.Command) (keeps : ∀ command ∈ commands, command.KeepsBindings) :
    (one.trace engine commands).map (Evaluation.apartFrom name) =
      (two.trace engine (commands.filter fun command => command.name? ≠ some name)).map
        (Evaluation.apartFrom name) := by
  induction commands generalizing one two with
  | nil => rfl
  | cons command commands ih =>
      obtain ⟨first, others⟩ := List.forall_mem_cons.mp keeps
      by_cases own : command.name? = some name
      · rw [List.filter_cons_of_neg (by simp [own]),
          trace_cons (one.evaluation?_of_name? engine own), Option.toList_none, List.nil_append]
        exact ih (agrees.perform_left own) (keeps_perform calls left first) right others
      · rw [List.filter_cons_of_pos (by simp [own]), Bridge.trace, Bridge.trace, List.map_append,
          List.map_append, ih (agrees.perform calls left right own)
            (keeps_perform calls left first) (keeps_perform calls right first) others,
          ← Option.toList_map, ← Option.toList_map, agrees.evaluation?]

end Frame

/-- The statements before a script assign exactly the names that are bound and delete names that
were bound, so that what scripts rely on is touched only if it was bound by its name. The commands
about one name change nothing else about what a run submits. -/
theorem directives_touch_bound_names (engine : Engine State) (calls : engine.CallsOnly)
    (configuration : Configuration) (ambient : Ambient) (state : State) (bridge : Bridge State)
    (started : Bridge.start engine configuration ambient state = .ok bridge) :
    (∀ earlier next evaluation,
      (bridge.run engine earlier).evaluation? engine next = some evaluation →
      ∃ directives script,
        readComposed? evaluation.submission.text = some (directives, script) ∧
        (∀ name, (∃ table, .bind name table ∈ directives) ↔
          (bridge.run engine earlier).isBound name = true) ∧
        (∀ name, .unbind name ∈ directives ↔ name ∈ (bridge.run engine earlier).retired) ∧
        (∀ directive ∈ directives, ∃ command ∈ earlier, command.Binds directive.name) ∧
        ((∀ name ∈ reliedOn, ∀ command ∈ earlier, ¬ command.Binds name) →
          ∀ directive ∈ directives, directive.name ∉ reliedOn)) ∧
    ∀ name first second, (∀ command ∈ first ++ second, command.KeepsBindings) →
      first.filter (fun command => command.name? ≠ some name) =
        second.filter (fun command => command.name? ≠ some name) →
      (bridge.trace engine first).map (Evaluation.apartFrom name) =
        (bridge.trace engine second).map (Evaluation.apartFrom name) := by
  constructor
  · intro earlier next evaluation evaluated
    obtain ⟨script, -, submitted⟩ := Bridge.submission_of_evaluation? evaluated
    have touched : ∀ directive ∈ ((bridge.run engine earlier).submission script).directives,
        ∃ command ∈ earlier, command.Binds directive.name := by
      intro directive member
      refine Bridge.exists_binds calls started ?_
      cases directive with
      | bind name table =>
          exact .inl ((Bridge.bind_mem_directives_iff _ script name).mp ⟨table, member⟩)
      | unbind name => exact .inr ((Bridge.unbind_mem_directives_iff _ script name).mp member)
    have shown : readComposed? evaluation.submission.text =
        some (((bridge.run engine earlier).submission script).directives, script) := by
      rw [submitted, Submission.readComposed?_text]
      rfl
    refine ⟨_, _, shown, Bridge.bind_mem_directives_iff _ script,
      Bridge.unbind_mem_directives_iff _ script, touched, ?_⟩
    intro spared directive member relied
    obtain ⟨command, earlier, binds⟩ := touched directive member
    exact spared _ relied command earlier binds
  · intro name first second keeps same
    obtain ⟨attached, rfl⟩ := Bridge.eq_of_start started
    have silent : Registry.KeepsBindings [] := fun _ member => absurd member List.not_mem_nil
    have alike (bridge : Bridge State) := Bridge.AgreesBut.refl name bridge
    obtain ⟨left, right⟩ := List.forall_mem_append.mp keeps
    rw [(alike _).trace calls silent silent first left, same,
      ← (alike _).trace calls silent silent second right]

/-- An object is installed under a name that scripts do not rely on, and a second one changes
nothing about it. -/
theorem directives_touch_bound_names_spared :
    ∃ bridge, Bridge.start (Engine.failingAt 0) Configuration.default ⟨fun _ => 0, fun _ => 0⟩ 0 =
        .ok bridge ∧
      let alone : List Bridge.Command := [.bind "j" .empty, .evaluate "1"]
      let together : List Bridge.Command := [.bind "j" .empty, .bind "k" .empty, .evaluate "1"]
      (bridge.trace (Engine.failingAt 0) together).map (Evaluation.apartFrom "k") =
          (bridge.trace (Engine.failingAt 0) alone).map (Evaluation.apartFrom "k") ∧
        ∀ evaluation, (bridge.run (Engine.failingAt 0) [.bind "j" .empty]).evaluation?
            (Engine.failingAt 0) (.evaluate "1") = some evaluation →
          ∃ directives script table,
            readComposed? evaluation.submission.text = some (directives, script) ∧
            .bind "j" table ∈ directives ∧ ∀ directive ∈ directives, directive.name ∉ reliedOn := by
  refine ⟨_, rfl, ?_⟩
  intro alone together
  obtain ⟨touches, frame⟩ := directives_touch_bound_names (Engine.failingAt 0)
    (Engine.failingAt_callsOnly 0) Configuration.default ⟨fun _ => 0, fun _ => 0⟩ 0 _ rfl
  constructor
  · apply frame
    · intro command member name handle bound
      have bound : .bind name handle ∈ (together ++ alone).flatMap Bridge.Command.changes :=
        List.mem_flatMap.mpr ⟨command, member, bound⟩
      obtain rfl : handle = .empty := by
        simp [together, alone, Bridge.Command.changes] at bound
        tauto
      exact fun method among => absurd among List.not_mem_nil
    · rfl
  · intro evaluation evaluated
    obtain ⟨directives, script, shown, assigned, -, -, spared⟩ := touches _ _ evaluation evaluated
    obtain ⟨table, member⟩ := (assigned "j").mpr rfl
    refine ⟨directives, script, table, shown, member, spared ?_⟩
    simp [Bridge.Command.Binds, Bridge.Command.changes, reliedOn, emitName, invokeName]

/-- An object under the name of what scripts rely on is assigned to it before the next script. -/
theorem directives_assign_relied_on :
    ∃ bridge, Bridge.start (Engine.failingAt 0) Configuration.default ⟨fun _ => 0, fun _ => 0⟩ 0 =
        .ok bridge ∧
      ∃ evaluation ∈ bridge.trace (Engine.failingAt 0) [.bind "JSON" .empty, .evaluate "1"],
        ∃ directives table, readComposed? evaluation.submission.text = some (directives, "1") ∧
          .bind "JSON" table ∈ directives ∧ "JSON" ∈ reliedOn :=
  ⟨_, rfl, _, List.mem_singleton_self _, _, _, Submission.readComposed?_text _,
    List.mem_singleton_self _, by decide⟩

end HostBridge
