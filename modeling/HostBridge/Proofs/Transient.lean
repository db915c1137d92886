/-
This file shows what is left of a name that is bound and unbound between two evaluations.
-/
import HostBridge.Proofs.Footprint

namespace HostBridge

variable {State : Type} {engine : Engine State}

section Retired

/-- Only an evaluation forgets the names to remove, and only unbinding adds one. -/
theorem Bridge.retired_perform (bridge : Bridge State) {command : Bridge.Command}
    (other : ∀ own, command ≠ .unbind own) :
    (bridge.perform engine command).retired =
      if (bridge.evaluation? engine command).isSome then [] else bridge.retired := by
  cases evaluated : bridge.evaluation? engine command with
  | some evaluation => exact (evaluates_perform evaluated).emptied
  | none =>
      cases named : command.name? with
      | none => exact (still_perform evaluated named).2
      | some own =>
          cases command with
          | unbind own => exact absurd rfl (other own)
          | bind | set | bindShared => rfl
          | _ => cases named

/-- A name is retired until the next evaluation, or because it was just unbound. -/
theorem Bridge.mem_retired_perform (bridge : Bridge State) (command : Bridge.Command)
    (name : String) :
    name ∈ (bridge.perform engine command).retired ↔
      name ∈ bridge.retired ∧ bridge.evaluation? engine command = none ∨
        command = .unbind name ∧ bridge.isBound name = true := by
  by_cases unbinds : ∃ own, command = .unbind own
  · obtain ⟨own, rfl⟩ := unbinds
    have silent : bridge.evaluation? engine (.unbind own) = none :=
      bridge.evaluation?_of_name? engine (rfl : (Command.unbind own).name? = some own)
    rw [perform, unbind, silent, Command.unbind.injEq]
    rcases eq_or_ne own name with rfl | different
    · by_cases known : own ∈ bridge.retired
      · simp [known]
      · cases bridge.isBound own <;> simp [known]
    · split <;> simp [different, Ne.symm different]
  · have other := not_exists.mp unbinds
    rw [bridge.retired_perform other]
    cases evaluated : bridge.evaluation? engine command <;> simp [other name]

/-- The names to remove are those of the objects that were unbound since the last evaluation. -/
theorem Bridge.mem_retired_run (bridge : Bridge State) (commands : List Bridge.Command)
    (name : String) :
    name ∈ (bridge.run engine commands).retired ↔
      name ∈ bridge.retired ∧ bridge.trace engine commands = [] ∨
        ∃ first last, commands = first ++ .unbind name :: last ∧
          (bridge.run engine first).isBound name = true ∧
          (bridge.run engine (first ++ [.unbind name])).trace engine last = [] := by
  induction commands generalizing bridge with
  | nil => simp [run, trace]
  | cons command commands ih =>
      have silent : bridge.trace engine (command :: commands) = [] ↔
          bridge.evaluation? engine command = none ∧
            (bridge.perform engine command).trace engine commands = [] := by
        rw [trace, List.append_eq_nil_iff, Option.toList_eq_nil_iff]
      rw [run, List.foldl_cons, ← run, ih, mem_retired_perform, silent]
      constructor
      · rintro (⟨⟨member, none⟩ | ⟨rfl, bound⟩, still⟩ | ⟨first, last, rfl, bound, still⟩)
        · exact .inl ⟨member, none, still⟩
        · exact .inr ⟨[], commands, rfl, bound, still⟩
        · exact .inr ⟨command :: first, last, rfl, bound, still⟩
      · rintro (⟨member, none, still⟩ | ⟨first, last, same, bound, still⟩)
        · exact .inl ⟨.inl ⟨member, none⟩, still⟩
        · cases first with
          | nil =>
              obtain ⟨rfl, rfl⟩ := List.cons.inj same
              exact .inl ⟨.inr ⟨rfl, bound⟩, still⟩
          | cons head first =>
              obtain ⟨rfl, rfl⟩ := List.cons.inj same
              exact .inr ⟨first, last, rfl, bound, still⟩

end Retired

section Aside

/-- The command evaluates nothing and is about other names. -/
def Bridge.Command.Aside (name : String) (command : Bridge.Command) : Prop :=
  command.script? = none ∧ command.name? ≠ some name

variable {name : String} {command : Bridge.Command}

/-- A command beside the name evaluates nothing. -/
theorem Bridge.Command.Aside.evaluation? (engine : Engine State) (aside : command.Aside name)
    (bridge : Bridge State) :
    bridge.evaluation? engine command = none := by
  simp [Bridge.evaluation?, aside.1]

/-- The name stands for what it stood for. -/
theorem Bridge.Command.Aside.isBound (engine : Engine State) (aside : command.Aside name)
    {bridge : Bridge State}
    (distinct : (Table.keys bridge.host.registry).Nodup) :
    (Table.keys (bridge.perform engine command).host.registry).Nodup ∧
      (bridge.perform engine command).isBound name = bridge.isBound name := by
  have passes := Bridge.passes_perform (aside.evaluation? engine bridge)
  have shown := passes.shown _ ⟨distinct, fun _ => rfl⟩
  have kept (bindings : Bindings Handle) : bindings.after command.changes name = bindings name := by
    obtain ⟨-, apart⟩ := aside
    cases command with
    | bind own handle | set own handle | bindShared own | unbind own =>
        have different : name ≠ own := fun same => apart (congrArg some same.symm)
        exact Function.update_of_ne different _ _
    | _ => rfl
  refine ⟨shown.distinct, ?_⟩
  rw [Bridge.isBound, Table.contains, shown.lookup, kept]
  rfl

/-- Commands beside a name leave it bound or not. -/
theorem Bridge.isBound_run_aside (engine : Engine State) {bridge : Bridge State}
    (distinct : (Table.keys bridge.host.registry).Nodup) (commands : List Bridge.Command)
    (aside : ∀ command ∈ commands, command.Aside name) :
    (Table.keys (bridge.run engine commands).host.registry).Nodup ∧
      (bridge.run engine commands).isBound name = bridge.isBound name := by
  induction commands generalizing bridge with
  | nil => exact ⟨distinct, rfl⟩
  | cons command commands ih =>
      obtain ⟨first, others⟩ := List.forall_mem_cons.mp aside
      obtain ⟨still, same⟩ := first.isBound engine distinct
      exact same ▸ ih still others

variable {one two : Bridge State}

/-- Two bridges that differ in the name only go on to remember the same other names. -/
theorem Bridge.AgreesBut.perform_aside (engine : Engine State) (agrees : one.AgreesBut name two)
    (aside : command.Aside name) :
    (one.perform engine command).AgreesBut name (two.perform engine command) ∧
      ∃ added, name ∉ added ∧ (one.perform engine command).retired = one.retired ++ added ∧
        (two.perform engine command).retired = two.retired ++ added := by
  cases named : command.name? with
  | none =>
      obtain ⟨registry, retired⟩ := still_perform (aside.evaluation? engine one) named
      obtain ⟨again, remembered⟩ := still_perform (aside.evaluation? engine two) named
      refine ⟨agrees.perform_alike ?_ ?_, [], List.not_mem_nil, ?_⟩
      · rw [registry, again, agrees.registry]
      · rw [retired, remembered, agrees.retired]
      · rw [retired, remembered, List.append_nil, List.append_nil]
        exact ⟨rfl, rfl⟩
  | some own =>
      have different : own ≠ name := fun same => aside.2 (same ▸ named)
      refine ⟨agrees.perform_other named different, ?_⟩
      cases command with
      | bind | set | bindShared =>
          exact ⟨[], List.not_mem_nil, (List.append_nil _).symm, (List.append_nil _).symm⟩
      | unbind other =>
          obtain rfl := Option.some.inj named
          obtain ⟨bound, remembered⟩ := agrees.others different
          rw [Bridge.perform, Bridge.perform, unbind, unbind, bound, remembered]
          split
          · exact ⟨[other], by simpa using different.symm, rfl, rfl⟩
          · exact ⟨[], List.not_mem_nil, (List.append_nil _).symm, (List.append_nil _).symm⟩
      | _ => cases named

/-- Commands beside a name retire the same names on two bridges. -/
theorem Bridge.AgreesBut.run_aside (engine : Engine State) (agrees : one.AgreesBut name two)
    (commands : List Bridge.Command)
    (aside : ∀ command ∈ commands, command.Aside name) :
    (one.run engine commands).AgreesBut name (two.run engine commands) ∧
      ∃ added, name ∉ added ∧ (one.run engine commands).retired = one.retired ++ added ∧
        (two.run engine commands).retired = two.retired ++ added := by
  induction commands generalizing one two with
  | nil =>
      exact ⟨agrees, [], List.not_mem_nil, (List.append_nil _).symm, (List.append_nil _).symm⟩
  | cons command commands ih =>
      obtain ⟨first, others⟩ := List.forall_mem_cons.mp aside
      obtain ⟨still, before, fresh, left, right⟩ := agrees.perform_aside engine first
      obtain ⟨alike, behind, new, last, final⟩ := ih still others
      refine ⟨alike, before ++ behind, by simp [fresh, new], ?_, ?_⟩
      · rw [← List.append_assoc, ← left]
        exact last
      · rw [← List.append_assoc, ← right]
        exact final

end Aside

section Transient

theorem Table.without_of_absent {Key Entry : Type} [DecidableEq Key] {table : Table Key Entry}
    {key : Key} (absent : table.contains key = false) : table.without key = table := by
  rw [Table.contains, Option.isSome_eq_false_iff, Option.isNone_iff_eq_none,
    Table.lookup?_eq_none_iff] at absent
  refine List.filter_eq_self.mpr fun entry member => ?_
  have different : entry.1 ≠ key := by
    rintro rfl
    exact absent (List.mem_map_of_mem member)
  simpa using different

variable {bridge : Bridge State} {name : String}

theorem Bridge.Command.perform_binding (engine : Engine State) {handle : Handle}
    {binding : Bridge.Command} (binds : binding.changes = [.bind name handle])
    (bridge : Bridge State) :
    bridge.perform engine binding = bridge.bind name handle := by
  cases binding with
  | bind own object | set own object | bindShared own =>
      obtain ⟨rfl, rfl⟩ := Change.bind.inj (List.cons.inj binds).1
      rfl
  | _ => cases binds

/-- Unbinding retires a bound name once. -/
theorem Bridge.retired_unbind (engine : Engine State) (bound : bridge.isBound name = true) :
    (bridge.perform engine (.unbind name)).retired =
      if name ∈ bridge.retired then bridge.retired else bridge.retired ++ [name] := by
  rw [perform, unbind, bound]
  by_cases known : name ∈ bridge.retired <;> simp [known]

/-- The two calls leave one name more to be removed, unless it is to be removed anyhow. -/
theorem Bridge.run_bind_unbind (engine : Engine State)
    (distinct : (Table.keys bridge.host.registry).Nodup) (absent : bridge.isBound name = false)
    (handle : Handle) {between behind : List Bridge.Command}
    (inside : ∀ command ∈ between, command.Aside name)
    (after : ∀ command ∈ behind, command.Aside name) :
    let plain := (bridge.run engine between).run engine behind
    let touched := (((bridge.perform engine (.bind name handle)).run engine between).perform engine
      (.unbind name)).run engine behind
    touched.AgreesBut name plain ∧ touched.host.registry = plain.host.registry ∧
      ∃ front rest, name ∉ rest ∧ plain.retired = front ++ rest ∧
        touched.retired = if name ∈ front then front ++ rest else front ++ name :: rest := by
  intro plain touched
  have bound : (bridge.perform engine (.bind name handle)).isBound name = true := by
    rw [perform, isBound, Table.contains, bind, Host.bind, Registry.bind, Table.lookup?_put,
      if_pos rfl, Option.isSome_some]
  have kept : (Table.keys (bridge.perform engine (.bind name handle)).host.registry).Nodup :=
    Table.nodup_put distinct name handle
  have alike : (bridge.perform engine (.bind name handle)).AgreesBut name bridge :=
    (AgreesBut.refl name bridge).perform_left rfl
  obtain ⟨agrees, front, -, remembered, left⟩ := alike.run_aside engine between inside
  obtain ⟨distinct, lacks⟩ := isBound_run_aside engine distinct between inside
  obtain ⟨kept, holds⟩ := isBound_run_aside engine kept between inside
  have same := remembered.trans left.symm
  obtain ⟨gone, -⟩ := lacks_unbind kept (holds.trans bound)
  have apart : (((bridge.perform engine (.bind name handle)).run engine between).perform engine
      (.unbind name)).AgreesBut name (bridge.run engine between) := agrees.perform_left rfl
  obtain ⟨final, rest, fresh, touchedRest, plainRest⟩ := apart.run_aside engine behind after
  have absentPlain : plain.isBound name = false :=
    (isBound_run_aside engine distinct behind after).2.trans (lacks.trans absent)
  have absentTouched : touched.isBound name = false :=
    (isBound_run_aside engine gone.distinct behind after).2.trans gone.absent
  refine ⟨final, ?_, (bridge.run engine between).retired, rest, fresh, plainRest, ?_⟩
  · rw [← Table.without_of_absent absentTouched, ← Table.without_of_absent absentPlain]
    exact final.registry
  · refine touchedRest.trans ?_
    rw [retired_unbind engine (holds.trans bound), same]
    split <;> simp

theorem pieceText_append (first second : List Piece) :
    pieceText (first ++ second) = pieceText first ++ pieceText second := by
  simp [pieceText]

/-- One name more to be removed is one line more in the script. -/
theorem Submission.text_retired (submission : Submission) {front rest : List String}
    (retired : submission.retired = front ++ rest) (name : String) :
    ∃ before behind, submission.text = before ++ behind ∧
      ({ submission with retired := front ++ name :: rest } : Submission).text =
        before ++ retireText [name] ++ behind := by
  obtain ⟨names, proxies, script, sentinel⟩ := submission
  subst retired
  let behind : Submission := ⟨[], proxies, script, sentinel⟩
  refine ⟨pieceText ([.code "try \x7b\n"] ++ front.flatMap retirePieces),
    pieceText (rest.flatMap retirePieces ++ behind.pieces.drop 1), ?_, ?_⟩
  · rw [← pieceText_append]
    simp [text, pieces, behind]
  · rw [retireText, ← pieceText_append, ← pieceText_append]
    simp [text, pieces, behind]

/-- Bridges with the same entries submit the same but for the names to be removed. -/
theorem Bridge.AgreesBut.submission {one two : Bridge State} (agrees : one.AgreesBut name two)
    (registry : one.host.registry = two.host.registry) (script : String) :
    one.submission script = { two.submission script with retired := one.retired } := by
  rw [Bridge.submission, Bridge.submission, nextSentinel, nextSentinel, registry,
    agrees.configuration, agrees.ambient, agrees.counted]

/-- What is evaluated next has the one removal more. -/
theorem Bridge.AgreesBut.adds_removal {one two : Bridge State} (agrees : one.AgreesBut name two)
    (registry : one.host.registry = two.host.registry) {front rest : List String}
    (fresh : name ∉ rest) (retired : two.retired = front ++ rest)
    (remembered : one.retired =
      if name ∈ front then front ++ rest else front ++ name :: rest)
    {next : Bridge.Command} {first second : Evaluation State}
    (evaluated : one.evaluation? engine next = some first)
    (again : two.evaluation? engine next = some second) :
    (name ∈ two.retired → first.submission = second.submission) ∧
      (name ∉ two.retired → ∃ front rest : List String,
        second.submission.retired = front ++ rest ∧
        first.submission = { second.submission with retired := front ++ name :: rest } ∧
        ∃ above below, second.submission.text = above ++ below ∧
          first.submission.text = above ++ retireText [name] ++ below) := by
  obtain ⟨script, known, submitted⟩ := submission_of_evaluation? evaluated
  obtain ⟨other, same, resubmitted⟩ := submission_of_evaluation? again
  obtain rfl : script = other := Option.some.inj (known.symm.trans same)
  have alike := agrees.submission registry script
  rw [submitted, resubmitted]
  constructor
  · intro pending
    have member : name ∈ front := by simpa [retired, fresh] using pending
    rw [remembered, if_pos member, ← retired] at alike
    exact alike
  · intro settled
    have absent : name ∉ front := fun member => settled (by simp [retired, member])
    rw [remembered, if_neg absent] at alike
    obtain ⟨above, below, plain, touched⟩ := (two.submission script).text_retired retired name
    exact ⟨front, rest, retired, alike, above, below, plain, alike ▸ touched⟩

/-- A run can be made in two parts. -/
theorem Bridge.run_append (engine : Engine State) (bridge : Bridge State)
    (first second : List Bridge.Command) :
    bridge.run engine (first ++ second) = (bridge.run engine first).run engine second :=
  List.foldl_append

end Transient

/-- Binding an object under a name that is not bound and unbinding it before the next evaluation
leaves one removal of the name more, unless it is to be removed anyhow, and nothing else. What an
evaluation removes are the names of all objects that were unbound since the last one. -/
theorem transient_binding_adds_removal (engine : Engine State) (calls : engine.CallsOnly)
    (configuration : Configuration) (ambient : Ambient) (state : State) (bridge : Bridge State)
    (started : Bridge.start engine configuration ambient state = .ok bridge)
    (earlier before between behind : List Bridge.Command) (name : String) (handle : Handle)
    (binding : Bridge.Command) (binds : binding.changes = [.bind name handle])
    (absent : (bridge.run engine earlier).isBound name = false)
    (aside : ∀ command ∈ before ++ between ++ behind, command.Aside name) :
    let plain := bridge.run engine (earlier ++ before ++ between ++ behind)
    let touched := bridge.run engine
      (earlier ++ before ++ [binding] ++ between ++ [.unbind name] ++ behind)
    touched.host.registry = plain.host.registry ∧
    (∀ next, (touched.evaluation? engine next).isSome = (plain.evaluation? engine next).isSome ∧
      ∀ one two, touched.evaluation? engine next = some one →
        plain.evaluation? engine next = some two →
        (name ∈ plain.retired → one.submission = two.submission) ∧
        (name ∉ plain.retired → ∃ front rest : List String,
          two.submission.retired = front ++ rest ∧
          one.submission = { two.submission with retired := front ++ name :: rest } ∧
          ∃ above below, two.submission.text = above ++ below ∧
            one.submission.text = above ++ retireText [name] ++ below)) ∧
    ∀ commands next evaluation other,
      (bridge.run engine commands).evaluation? engine next = some evaluation →
      (evaluation.submission.Removes other ↔
        ∃ first last, commands = first ++ .unbind other :: last ∧
          (bridge.run engine first).isBound other = true ∧
          (bridge.run engine (first ++ [.unbind other])).trace engine last = []) := by
  obtain ⟨distinct, empty⟩ : (Table.keys bridge.host.registry).Nodup ∧ bridge.retired = [] := by
    obtain ⟨attached, rfl⟩ := Bridge.eq_of_start started
    exact ⟨List.nodup_nil, rfl⟩
  intro plain touched
  obtain ⟨asideEarly, asideBehind⟩ := List.forall_mem_append.mp aside
  obtain ⟨asideBefore, asideBetween⟩ := List.forall_mem_append.mp asideEarly
  obtain ⟨distinct, still⟩ := Bridge.isBound_run_aside engine
    (Bridge.distinct_run calls bridge distinct earlier) before asideBefore
  obtain ⟨agrees, registry, front, rest, fresh, retired, remembered⟩ :=
    Bridge.run_bind_unbind engine distinct (still.trans absent) handle asideBetween asideBehind
  have plainRun : plain = (((bridge.run engine earlier).run engine before).run engine between).run
      engine behind := by
    simp only [plain, Bridge.run_append]
  have touchedRun : touched =
      (((((bridge.run engine earlier).run engine before).perform engine (.bind name handle)).run
        engine between).perform engine (.unbind name)).run engine behind := by
    have performed : ((bridge.run engine earlier).run engine before).run engine [binding] =
        ((bridge.run engine earlier).run engine before).perform engine (.bind name handle) :=
      Bridge.Command.perform_binding engine binds _
    simp only [touched, Bridge.run_append, performed]
    rfl
  rw [← plainRun, ← touchedRun] at agrees registry
  rw [← plainRun] at retired
  rw [← touchedRun] at remembered
  refine ⟨registry, fun next => ⟨?_, fun one two first second => ?_⟩, ?_⟩
  · rw [Bridge.isSome_evaluation?, Bridge.isSome_evaluation?, agrees.opened]
  · exact agrees.adds_removal registry fresh retired remembered first second
  · intro commands next evaluation other evaluated
    rw [Submission.removes_iff, (Bridge.evaluates_perform evaluated).retired,
      Bridge.mem_retired_run, empty]
    simp only [List.not_mem_nil, false_and, false_or]

/-- Behind an evaluation, and with another name around it, a builtin is deleted by one line more. -/
theorem transient_binding_adds_removal_builtin :
    ∃ bridge, Bridge.start (Engine.failingAt 0) Configuration.default ⟨fun _ => 0, fun _ => 0⟩ 0 =
        .ok bridge ∧
      let plain := bridge.run (Engine.failingAt 0) [.evaluate "1", .bind "k" .empty, .unbind "k"]
      let touched := bridge.run (Engine.failingAt 0)
        [.evaluate "1", .bind "k" .empty, .bind "Math" .empty, .unbind "Math", .unbind "k"]
      (touched.evaluation? (Engine.failingAt 0) (.evaluate "2")).isSome ∧
        ∀ one two, touched.evaluation? (Engine.failingAt 0) (.evaluate "2") = some one →
          plain.evaluation? (Engine.failingAt 0) (.evaluate "2") = some two →
          ∃ above below, two.submission.text = above ++ below ∧
            one.submission.text = above ++ retireText ["Math"] ++ below := by
  refine ⟨_, rfl, rfl, ?_⟩
  intro one two first second
  have aside : ∀ command ∈ [Bridge.Command.bind "k" .empty] ++ [] ++ [.unbind "k"],
      command.Aside "Math" := by
    simp [Bridge.Command.Aside, Bridge.Command.script?, Bridge.Command.name?]
  obtain ⟨-, next, -⟩ := transient_binding_adds_removal (Engine.failingAt 0)
    (Engine.failingAt_callsOnly 0) Configuration.default ⟨fun _ => 0, fun _ => 0⟩ 0 _ rfl
    [.evaluate "1"] [.bind "k" .empty] [] [.unbind "k"] "Math" .empty (.bind "Math" .empty) rfl rfl
    aside
  obtain ⟨-, added⟩ := (next (.evaluate "2")).2 one two first second
  obtain ⟨-, -, -, -, above, below, same, longer⟩ := added (by decide : "Math" ∉ ["k"])
  exact ⟨above, below, same, longer⟩

/-- The script that follows deletes a builtin that no evaluation has replaced. -/
theorem transient_binding_seen :
    ∃ bridge, Bridge.start (Engine.failingAt 0) ⟨.fixed, none, none, false⟩
        ⟨fun _ => 0, fun _ => 0⟩ 0 = .ok bridge ∧
      let touched := bridge.run (Engine.failingAt 0) [.bind "Math" .empty, .unbind "Math"]
      bridge.isBound "Math" = false ∧
        ∃ one two,
          touched.evaluation? (Engine.failingAt 0) (.evaluate "typeof Math") = some one ∧
          bridge.evaluation? (Engine.failingAt 0) (.evaluate "typeof Math") = some two ∧
          one.sentinel = two.sentinel ∧ one.submission.text ≠ two.submission.text ∧
          one.submission.Removes "Math" ∧ ¬ two.submission.Removes "Math" := by
  refine ⟨_, rfl, rfl, _, _, rfl, rfl, rfl, ?_⟩
  have removes : Submission.Removes ⟨["Math"], [], "typeof Math", resultMarker⟩ "Math" :=
    (Submission.removes_iff _ _).mpr (List.mem_singleton_self _)
  have spares : ¬ Submission.Removes ⟨[], [], "typeof Math", resultMarker⟩ "Math" := fun removed =>
    List.not_mem_nil ((Submission.removes_iff _ _).mp removed)
  refine ⟨fun same => spares ?_, removes, spares⟩
  obtain ⟨directives, script, shown, member⟩ := removes
  exact ⟨directives, script, (congrArg readComposed? same).symm.trans shown, member⟩

end HostBridge
