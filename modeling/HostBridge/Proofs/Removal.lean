/-
This file follows the proxy of an unbound name until a submission removes it.
-/
import HostBridge.Proofs.Preamble
import HostBridge.Proofs.Trace

namespace HostBridge

variable {State : Type}

/-- The composed script deletes the proxy of the name. -/
def Submission.Removes (submission : Submission) (name : String) : Prop :=
  ∃ directives script, readComposed? submission.text = some (directives, script) ∧
    .unbind name ∈ directives

/-- A submission removes the proxies of its retired names. -/
theorem Submission.removes_iff (submission : Submission) (name : String) :
    submission.Removes name ↔ name ∈ submission.retired := by
  rw [Removes, readComposed?_text]
  simp [directives]

def Bridge.Command.Binds (command : Bridge.Command) (name : String) : Prop :=
  ∃ handle, .bind name handle ∈ command.changes

/-- A name without an object has none until it is bound. -/
theorem Bindings.after_eq_none {Object : Type} {bindings : Bindings Object}
    {changes : List (Change Object)} {name : String} (absent : bindings name = none)
    (fresh : ∀ object, .bind name object ∉ changes) : bindings.after changes name = none := by
  induction changes generalizing bindings with
  | nil => exact absent
  | cons change changes ih =>
      have still : bindings.apply change name = none := by
        cases change with
        | bind other object =>
            have different : name ≠ other := by
              rintro rfl
              exact fresh object (List.mem_cons_self ..)
            rw [apply, Function.update_of_ne different, absent]
        | unbind other =>
            by_cases same : name = other <;> simp [apply, same, absent]
      exact ih still fun object later => fresh object (List.mem_cons_of_mem _ later)

/-- Calls only unbind names. -/
theorem Host.Reaches.exists_unbindAll {host left : Host} (reaches : Host.Reaches host left) :
    ∃ names, left.registry = host.registry.unbindAll names := by
  induction reaches with
  | stay host => exact ⟨[], rfl⟩
  | call host left object method text rest ih =>
      obtain ⟨later, same⟩ := ih
      have first : ∃ names,
          (host.dispatchText object method text).1.registry = host.registry.unbindAll names := by
        rw [Host.dispatchText_registry]
        cases decodeArguments text with
        | error error => exact ⟨[], rfl⟩
        | ok arguments => exact ⟨_, Host.dispatchWithin_registry _ host object method arguments⟩
      obtain ⟨names, first⟩ := first
      exact ⟨names ++ later, by rw [same, first, Registry.unbindAll_append]⟩

/-- A command changes the names as it says, and the methods that its script calls may unbind
more. -/
theorem Bridge.shown_perform {engine : Engine State} (calls : engine.CallsOnly)
    (bridge : Bridge State) (command : Bridge.Command) :
    ∃ names : List String, ∀ bindings, bridge.host.registry.Shows bindings →
      (bridge.perform engine command).host.registry.Shows
        (bindings.after (command.changes ++ names.map .unbind)) := by
  cases evaluated : bridge.evaluation? engine command with
  | none =>
      refine ⟨[], fun bindings shown => ?_⟩
      rw [List.map_nil, List.append_nil]
      exact (passes_perform evaluated).shown bindings shown
  | some evaluation =>
      have evaluates := evaluates_perform evaluated
      obtain ⟨host, state, same, answered⟩ := evaluates.answered
      obtain ⟨names, left⟩ := (calls evaluation.submission host state).exists_unbindAll
      refine ⟨names, fun bindings shown => ?_⟩
      rw [changes_of_evaluation? evaluated, List.nil_append, evaluates.registry, answered, left,
        same]
      exact shown.unbindAll names

/-- The name stands for nothing, and no other entry takes its place. -/
structure Bridge.Lacks (bridge : Bridge State) (name : String) : Prop where
  distinct : (Table.keys bridge.host.registry).Nodup
  absent : bridge.isBound name = false

/-- A name that stands for nothing stays so until it is bound. -/
theorem Bridge.Lacks.perform {engine : Engine State} (calls : engine.CallsOnly)
    {bridge : Bridge State} {name : String} (lacks : bridge.Lacks name) {command : Bridge.Command}
    (fresh : ¬ command.Binds name) : (bridge.perform engine command).Lacks name := by
  obtain ⟨names, shown⟩ := bridge.shown_perform calls command
  have nothing : Table.lookup? bridge.host.registry name = none := by
    simpa [isBound, Table.contains] using lacks.absent
  have left := shown _ ⟨lacks.distinct, fun _ => rfl⟩
  refine ⟨left.distinct, ?_⟩
  rw [isBound, Table.contains, left.lookup, Bindings.after_eq_none nothing, Option.isSome_none]
  intro handle changed
  rcases List.mem_append.mp changed with bound | unbound
  · exact fresh ⟨handle, bound⟩
  · simp at unbound

/-- A registry has every name once after any run. -/
theorem Bridge.distinct_run {engine : Engine State} (calls : engine.CallsOnly)
    (bridge : Bridge State) (distinct : (Table.keys bridge.host.registry).Nodup)
    (commands : List Bridge.Command) :
    (Table.keys (bridge.run engine commands).host.registry).Nodup := by
  induction commands generalizing bridge with
  | nil => exact distinct
  | cons command commands ih =>
      obtain ⟨names, shown⟩ := bridge.shown_perform calls command
      exact ih _ (shown _ ⟨distinct, fun _ => rfl⟩).distinct

/-- An unbound name is remembered. -/
theorem Bridge.lacks_unbind {bridge : Bridge State} {name : String}
    (distinct : (Table.keys bridge.host.registry).Nodup) (bound : bridge.isBound name = true) :
    (bridge.unbind name).Lacks name ∧ name ∈ (bridge.unbind name).retired := by
  have gone : Table.lookup? (bridge.host.registry.unbind name) name = none := by
    rw [Registry.unbind, Table.lookup?_remove distinct, if_pos rfl]
  refine ⟨⟨Table.nodup_remove distinct name, ?_⟩, ?_⟩
  · rw [isBound, Table.contains]
    exact Option.isSome_eq_false_iff.mpr (Option.isNone_iff_eq_none.mpr gone)
  · by_cases known : name ∈ bridge.retired <;> simp [unbind, bound, known]

/-- A name that is not remembered is removed by no evaluation. -/
theorem Bridge.Lacks.settled {engine : Engine State} (calls : engine.CallsOnly)
    {bridge : Bridge State} {name : String} (lacks : bridge.Lacks name)
    (settled : name ∉ bridge.retired) (commands : List Bridge.Command)
    (fresh : ∀ command ∈ commands, ¬ command.Binds name) :
    name ∉ (bridge.run engine commands).retired ∧
      ∀ evaluation ∈ bridge.trace engine commands, ¬ evaluation.submission.Removes name := by
  induction commands generalizing bridge with
  | nil => exact ⟨settled, by simp [trace]⟩
  | cons command commands ih =>
      obtain ⟨first, others⟩ := List.forall_mem_cons.mp fresh
      have later := ih (lacks.perform calls first)
      cases evaluated : bridge.evaluation? engine command with
      | none =>
          rw [trace_cons evaluated]
          exact later (mt ((passes_perform evaluated).retired name lacks.absent).mp settled) others
      | some evaluation =>
          have evaluates := evaluates_perform evaluated
          obtain ⟨forgotten, silent⟩ := later (by simp [evaluates.emptied]) others
          refine ⟨forgotten, ?_⟩
          rw [trace_cons evaluated]
          refine List.forall_mem_cons.mpr ⟨?_, silent⟩
          rw [Submission.removes_iff, evaluates.retired]
          exact settled

/-- A name that is remembered is removed by the next evaluation and by no other one. -/
theorem Bridge.Lacks.pending {engine : Engine State} (calls : engine.CallsOnly)
    {bridge : Bridge State} {name : String} (lacks : bridge.Lacks name)
    (pending : name ∈ bridge.retired) (commands : List Bridge.Command)
    (fresh : ∀ command ∈ commands, ¬ command.Binds name) :
    (bridge.trace engine commands = [] → name ∈ (bridge.run engine commands).retired) ∧
      ∀ next others, bridge.trace engine commands = next :: others →
        next.submission.Removes name ∧ name ∉ (bridge.run engine commands).retired ∧
          ∀ evaluation ∈ others, ¬ evaluation.submission.Removes name := by
  induction commands generalizing bridge with
  | nil => exact ⟨fun _ => pending, by simp [trace]⟩
  | cons command commands ih =>
      obtain ⟨first, others⟩ := List.forall_mem_cons.mp fresh
      have lacksLater := lacks.perform calls first
      cases evaluated : bridge.evaluation? engine command with
      | none =>
          have still := ((passes_perform evaluated).retired name lacks.absent).mpr pending
          rw [trace_cons evaluated]
          exact ih lacksLater still others
      | some evaluation =>
          -- This evaluation submits the removal, and behind it the name is settled.
          have evaluates := evaluates_perform evaluated
          rw [trace_cons evaluated]
          refine ⟨by simp, ?_⟩
          rintro next later same
          obtain ⟨rfl, rfl⟩ := List.cons.inj same
          refine ⟨?_, lacksLater.settled calls (by simp [evaluates.emptied]) commands others⟩
          rw [Submission.removes_iff, evaluates.retired]
          exact pending

/-- The proxy of an unbound name is removed by the next evaluation and by no other one, whatever
comes of it. Its removal is neither done nor still to come exactly if that evaluation fails. -/
theorem removal_submitted_once (engine : Engine State) (calls : engine.CallsOnly)
    (configuration : Configuration) (ambient : Ambient) (state : State) (bridge : Bridge State)
    (started : Bridge.start engine configuration ambient state = .ok bridge)
    (earlier : List Bridge.Command) (name : String)
    (bound : (bridge.run engine earlier).isBound name = true) (later : List Bridge.Command)
    (fresh : ∀ command ∈ later, ¬ command.Binds name) :
    let unbound := (bridge.run engine earlier).perform engine (.unbind name)
    let trace := unbound.trace engine later
    let left := unbound.run engine later
    (trace = [] → name ∈ left.retired) ∧
    (∀ next others, trace = next :: others →
      next.submission.Removes name ∧ name ∉ left.retired ∧
        ∀ evaluation ∈ others, ¬ evaluation.submission.Removes name) ∧
    ((name ∈ left.retired ∨ ∃ evaluation ∈ trace,
        evaluation.answer.error = none ∧ evaluation.submission.Removes name) ↔
      ∀ next ∈ trace.head?, next.answer.error = none) := by
  intro unbound trace left
  have distinct : (Table.keys bridge.host.registry).Nodup := by
    obtain ⟨state, rfl⟩ := Bridge.eq_of_start started
    exact List.nodup_nil
  obtain ⟨lacks, pending⟩ := Bridge.lacks_unbind (bridge.distinct_run calls distinct earlier) bound
  obtain ⟨waits, submitted⟩ := lacks.pending calls pending later fresh
  refine ⟨waits, submitted, ?_⟩
  cases known : trace with
  | nil =>
      have waiting : name ∈ left.retired := waits known
      simp [waiting]
  | cons next others =>
      obtain ⟨removes, forgotten, silent⟩ := submitted next others known
      simp only [List.head?_cons, Option.mem_some_iff, forall_eq', List.mem_cons]
      constructor
      · rintro (waiting | ⟨evaluation, rfl | member, noError, again⟩)
        · exact absurd waiting forgotten
        · exact noError
        · exact absurd again (silent evaluation member)
      · intro noError
        exact .inr ⟨next, .inl rfl, noError, removes⟩

/-- An engine that runs nothing, prints nothing and fails at one of its submissions. -/
def Engine.failingAt (number : Nat) : Engine Nat where
  attach state := .ok state
  submit _ host state :=
    ⟨host, state + 1, if state + 1 = number then some (.exception "interrupted") else none⟩
  output _ := ""
  clear state := state
  close state := (state, [])

theorem Engine.failingAt_callsOnly (number : Nat) : (Engine.failingAt number).CallsOnly :=
  fun _ host _ => .stay host

def Handle.empty : Handle := ⟨0, HostObject.ofMethods "Empty" []⟩

/-- A failure after the next evaluation does not matter. -/
theorem removal_submitted_once_done :
    ∃ bridge, Bridge.start (Engine.failingAt 3) Configuration.default ⟨fun _ => 0, fun _ => 0⟩ 0 =
        .ok bridge ∧
      let unbound := bridge.run (Engine.failingAt 3)
        [.bind "k" .empty, .evaluate "1", .unbind "k"]
      let trace := unbound.trace (Engine.failingAt 3) [.evaluate "2", .evaluate "3"]
      trace.map (fun evaluation => evaluation.answer.error) =
          [none, some (.exception "interrupted")] ∧
        ∃ evaluation ∈ trace,
          evaluation.answer.error = none ∧ evaluation.submission.Removes "k" := by
  refine ⟨_, rfl, rfl, ?_⟩
  have fresh : ∀ command ∈ [Bridge.Command.evaluate "2", .evaluate "3"], ¬ command.Binds "k" := by
    simp [Bridge.Command.Binds, Bridge.Command.changes]
  obtain ⟨-, -, settled⟩ := removal_submitted_once (Engine.failingAt 3)
    (Engine.failingAt_callsOnly 3) Configuration.default ⟨fun _ => 0, fun _ => 0⟩ 0 _ rfl
    [.bind "k" .empty, .evaluate "1"] "k" rfl [.evaluate "2", .evaluate "3"] fresh
  refine (settled.mpr ?_).resolve_left (List.not_mem_nil)
  rintro next ⟨⟩
  rfl

/-- The removal is lost when the evaluation that submits it fails. -/
theorem removal_lost_by_failure :
    ∃ bridge, Bridge.start (Engine.failingAt 2) Configuration.default ⟨fun _ => 0, fun _ => 0⟩ 0 =
        .ok bridge ∧
      let commands : List Bridge.Command :=
        [.bind "k" .empty, .evaluate "1", .unbind "k", .evaluate "2", .evaluate "3"]
      let left := bridge.run (Engine.failingAt 2) commands
      left.isBound "k" = false ∧ "k" ∉ left.retired ∧
        ∀ evaluation ∈ bridge.trace (Engine.failingAt 2) commands,
          evaluation.answer.error = none → ¬ evaluation.submission.Removes "k" := by
  refine ⟨_, rfl, rfl, List.not_mem_nil, ?_⟩
  intro evaluation member noError
  rw [Submission.removes_iff]
  rcases List.mem_cons.mp member with rfl | member
  · exact List.not_mem_nil
  rcases List.mem_cons.mp member with rfl | member
  · cases noError
  obtain rfl := List.mem_singleton.mp member
  exact List.not_mem_nil

end HostBridge
