/-
This file shows that every script starts with the proxies of the objects that are bound.
-/
import HostBridge.Engine.Planned
import HostBridge.Proofs.Extension
import HostBridge.Proofs.Preamble

namespace HostBridge

variable {State : Type}

/-- The global names of an engine that hold proxies, and what they were whenever a script
started. -/
structure Observed (State : Type) where
  inner : State
  globals : Bindings ProxyTable
  starts : List (String × Bindings ProxyTable)

def Observed.ofState (state : State) : Observed State := ⟨state, Bindings.empty, []⟩

/-- The directives of a composed script come before its own code. -/
def Observed.enter (state : Observed State) (text : String) : Observed State :=
  match readComposed? text with
  | some (directives, script) =>
      let globals := state.globals.after directives
      { state with globals := globals, starts := state.starts ++ [(script, globals)] }
  | none => state

/-- The engine does what it does, and its global names are observed from the texts that it is
given. -/
def Engine.observed (engine : Engine State) : Engine (Observed State) where
  attach state := (engine.attach state.inner).map fun inner => { state with inner := inner }
  submit submission host state :=
    let answer := engine.submit submission host state.inner
    ⟨answer.host, { state.enter submission.text with inner := answer.state }, answer.error⟩
  output state := engine.output state.inner
  clear state := { state with inner := engine.clear state.inner }
  close state :=
    let (inner, events) := engine.close state.inner
    ({ state with inner := inner }, events)

def Bridge.forget (bridge : Bridge (Observed State)) : Bridge State where
  configuration := bridge.configuration
  ambient := bridge.ambient
  host := bridge.host
  state := bridge.state.inner
  isOpen := bridge.isOpen
  evaluations := bridge.evaluations
  retired := bridge.retired

/-- An engine whose globals are observed is the engine with the globals beside it. -/
theorem Engine.observed_extends (engine : Engine State) :
    engine.observed.Extends engine Observed.inner where
  attach state := by
    show Except.map _ (Except.map _ (engine.attach state.inner)) = engine.attach state.inner
    cases engine.attach state.inner <;> rfl
  submit _ _ _ := rfl
  output _ := rfl
  clear _ := rfl
  close _ := rfl

/-- Observing an engine changes nothing about its bridge. -/
theorem Bridge.forget_run (engine : Engine State) (bridge : Bridge (Observed State))
    (commands : List Bridge.Command) :
    (bridge.run engine.observed commands).forget = bridge.forget.run engine commands :=
  engine.observed_extends.run bridge commands

/-- The proxies of the objects that the names stand for. -/
def Bindings.proxies (bindings : Bindings Handle) : Bindings ProxyTable :=
  fun name => (bindings name).map fun handle => (Proxy.ofObject name handle.object).table

/-- The scripts of some commands, each with what the names stand for when it starts. A bridge that
is closed starts none. -/
def Bridge.Command.scopes : Bindings Handle → List Bridge.Command → List (String × Bindings Handle)
  | _, [] => []
  | _, .close :: _ => []
  | bindings, command :: commands =>
      (command.script?.toList.map fun script => (script, bindings)) ++
        Bridge.Command.scopes (bindings.after command.changes) commands

/-- The methods that are bound by a command unbind no names. -/
def Bridge.Command.KeepsBindings (command : Bridge.Command) : Prop :=
  ∀ name handle, .bind name handle ∈ command.changes → handle.object.KeepsBindings

/-- The bridge is open, and every name that has a proxy stands for an object or is removed before
the next script. -/
structure Bridge.Tracks (bridge : Bridge (Observed State)) (bindings : Bindings Handle) : Prop where
  opened : bridge.isOpen = true
  shown : bridge.host.registry.Shows bindings
  keeps : ∀ name handle, bindings name = some handle → handle.object.KeepsBindings
  stale : ∀ name, bindings name = none → bridge.state.globals name ≠ none → name ∈ bridge.retired

/-- Behind the directives of a submission, the proxies are those of the bound objects. -/
theorem Bridge.Tracks.globals {bridge : Bridge (Observed State)} {bindings : Bindings Handle}
    (tracks : bridge.Tracks bindings) (script : String) :
    bridge.state.globals.after (bridge.submission script).directives = bindings.proxies := by
  funext name
  have removed := bridge.state.globals.after_unbinds bridge.retired name
  have installed := (bridge.state.globals.after (bridge.retired.map .unbind)).after_binds
    (fun name handle => (Proxy.ofObject name handle.object).table) bridge.host.registry
    tracks.shown.distinct name
  have split : bridge.state.globals.after (bridge.submission script).directives =
      (bridge.state.globals.after (bridge.retired.map .unbind)).after
        (bridge.host.registry.map fun entry =>
          .bind entry.1 (Proxy.ofObject entry.1 entry.2.object).table) := by
    simp only [Submission.directives, submission, Registry.proxies, List.map_map, Bindings.after,
      List.foldl_append]
    rfl
  rw [split, installed, removed, tracks.shown.lookup, Bindings.proxies]
  cases bound : bindings name with
  | some handle => rfl
  | none =>
      by_cases member : name ∈ bridge.retired
      · simp [member]
      · have absent : bridge.state.globals name = none := by
          by_contra present
          exact member (tracks.stale name bound present)
        simp [member, absent]

theorem Observed.enter_text (state : Observed State) (submission : Submission) :
    state.enter submission.text =
      { state with
        globals := state.globals.after submission.directives
        starts := state.starts ++
          [(submission.script, state.globals.after submission.directives)] } := by
  rw [enter, Submission.readComposed?_text]

/-- A script starts with the proxies of the bound objects and leaves them in their places. -/
theorem Bridge.Tracks.evaluate {engine : Engine State} (calls : engine.CallsOnly)
    {bridge : Bridge (Observed State)} {bindings : Bindings Handle}
    (tracks : bridge.Tracks bindings) (script : String) :
    (bridge.evaluate engine.observed script).1.Tracks bindings ∧
      (bridge.evaluate engine.observed script).1.state.starts =
        bridge.state.starts ++ [(script, bindings.proxies)] := by
  obtain ⟨state, host, retired, opened⟩ :=
    evaluate_open engine.observed bridge script tracks.opened
  have entered := Observed.enter_text (engine.observed.clear bridge.state)
    (bridge.submission script)
  have behind : (engine.observed.clear bridge.state).globals.after
      (bridge.submission script).directives = bindings.proxies := tracks.globals script
  rw [behind] at entered
  have globals : (bridge.evaluate engine.observed script).1.state.globals = bindings.proxies := by
    rw [state, Engine.observed]
    exact congrArg Observed.globals entered
  have registry : (bridge.evaluate engine.observed script).1.host.registry =
      bridge.host.registry := by
    rw [host]
    exact (calls _ _ _).registry_eq (tracks.shown.keepsBindings tracks.keeps)
  refine ⟨⟨opened, registry ▸ tracks.shown, tracks.keeps, ?_⟩, ?_⟩
  · intro name absent present
    rw [globals, Bindings.proxies, absent] at present
    exact absurd rfl present
  · rw [state, Engine.observed]
    exact congrArg Observed.starts entered

/-- Binding an object keeps track of it. -/
theorem Bridge.Tracks.bind {bridge : Bridge (Observed State)} {bindings : Bindings Handle}
    (tracks : bridge.Tracks bindings) (name : String) (handle : Handle)
    (keeps : handle.object.KeepsBindings) :
    (bridge.bind name handle).Tracks (bindings.apply (.bind name handle)) where
  opened := tracks.opened
  shown := tracks.shown.bind name handle
  keeps wanted found bound := by
    by_cases same : wanted = name
    · obtain rfl : handle = found := by simpa [Bindings.apply, same] using bound
      exact keeps
    · rw [Bindings.apply, Function.update_of_ne same] at bound
      exact tracks.keeps wanted found bound
  stale wanted absent present := by
    by_cases same : wanted = name
    · simp [Bindings.apply, same] at absent
    · rw [Bindings.apply, Function.update_of_ne same] at absent
      exact tracks.stale wanted absent present

/-- A name that loses its object is remembered once. -/
theorem Bridge.Tracks.unbind {bridge : Bridge (Observed State)} {bindings : Bindings Handle}
    (tracks : bridge.Tracks bindings) (name : String) :
    (bridge.unbind name).Tracks (bindings.apply (.unbind name)) where
  opened := tracks.opened
  shown := tracks.shown.unbind name
  keeps wanted found bound := by
    by_cases same : wanted = name
    · simp [Bindings.apply, same] at bound
    · rw [Bindings.apply, Function.update_of_ne same] at bound
      exact tracks.keeps wanted found bound
  stale wanted absent present := by
    have remembered : wanted ∈ bridge.retired → wanted ∈ (bridge.unbind name).retired := by
      intro member
      rw [Bridge.unbind]
      split
      · exact List.mem_append_left _ member
      · exact member
    by_cases same : wanted = name
    · subst same
      cases bound : bindings wanted with
      | none => exact remembered (tracks.stale wanted bound present)
      | some handle =>
          have isBound : bridge.isBound wanted = true :=
            (tracks.shown.contains_iff wanted).mpr (by simp [bound])
          by_cases member : wanted ∈ bridge.retired
          · exact remembered member
          · simp [Bridge.unbind, isBound, member]
    · rw [Bindings.apply, Function.update_of_ne same] at absent
      exact remembered (tracks.stale wanted absent present)

/-- A command changes the names as it says and starts its script, if it has one. -/
theorem Bridge.Tracks.perform {engine : Engine State} (calls : engine.CallsOnly)
    {bridge : Bridge (Observed State)} {bindings : Bindings Handle}
    (tracks : bridge.Tracks bindings) (command : Bridge.Command) (keeps : command.KeepsBindings)
    (other : command ≠ .close) :
    (bridge.perform engine.observed command).Tracks (bindings.after command.changes) ∧
      (bridge.perform engine.observed command).state.starts =
        bridge.state.starts ++
          command.script?.toList.map fun script => (script, bindings.proxies) := by
  cases command with
  | bind name handle =>
      exact ⟨tracks.bind name handle (keeps name handle (by simp [Command.changes])),
        (List.append_nil _).symm⟩
  | set name handle =>
      exact ⟨tracks.bind name handle (keeps name handle (by simp [Command.changes])),
        (List.append_nil _).symm⟩
  | bindShared name identity value =>
      exact ⟨tracks.bind name ⟨identity, HostBinding.capabilities value⟩
        (keeps name _ (by simp [Command.changes])), (List.append_nil _).symm⟩
  | unbind name => exact ⟨tracks.unbind name, (List.append_nil _).symm⟩
  | evaluate script => exact tracks.evaluate calls script
  | evaluateNamed script file =>
      have logged : (bridge.log [.evaluating file]).Tracks bindings :=
        ⟨tracks.opened, tracks.shown, tracks.keeps, tracks.stale⟩
      exact logged.evaluate calls script
  | execute bytes =>
      rw [Bridge.perform, Bridge.execute, Command.script?]
      cases Text.decodeUtf8 bytes with
      | error fault => exact ⟨tracks, (List.append_nil _).symm⟩
      | ok script => exact tracks.evaluate calls script
  | compile script file =>
      exact ⟨⟨tracks.opened, tracks.shown, tracks.keeps, tracks.stale⟩, (List.append_nil _).symm⟩
  | close => exact absurd rfl other

/-- The scope of a script is what the commands before it have bound. -/
theorem Bridge.Command.scopes_cons (bindings : Bindings Handle) (command : Bridge.Command)
    (commands : List Bridge.Command) (other : command ≠ .close) :
    Bridge.Command.scopes bindings (command :: commands) =
      (command.script?.toList.map fun script => (script, bindings)) ++
        Bridge.Command.scopes (bindings.after command.changes) commands := by
  cases command with
  | close => exact absurd rfl other
  | _ => rfl

/-- Every script of a run starts with the proxies of what is bound at that time. -/
theorem Bridge.Tracks.run {engine : Engine State} (calls : engine.CallsOnly)
    {bridge : Bridge (Observed State)} {bindings : Bindings Handle}
    (tracks : bridge.Tracks bindings) (commands : List Bridge.Command)
    (keeps : ∀ command ∈ commands, command.KeepsBindings) :
    (bridge.run engine.observed commands).state.starts =
      bridge.state.starts ++ (Bridge.Command.scopes bindings commands).map fun scope =>
        (scope.1, scope.2.proxies) := by
  induction commands generalizing bridge bindings with
  | nil => exact (List.append_nil _).symm
  | cons command commands ih =>
      obtain ⟨first, others⟩ := List.forall_mem_cons.mp keeps
      rw [Bridge.run, List.foldl_cons, ← Bridge.run]
      by_cases last : command = .close
      · subst last
        have closed : (bridge.close engine.observed).isOpen = false := by
          rw [Bridge.close, if_pos tracks.opened]
        have same : (bridge.close engine.observed).state.starts = bridge.state.starts := by
          rw [Bridge.close, if_pos tracks.opened]
          rfl
        rw [Bridge.perform, (Bridge.run_closed _ _ closed commands).2, same]
        exact (List.append_nil _).symm
      · obtain ⟨tracks, starts⟩ := tracks.perform calls command first last
        rw [ih tracks others, starts, Command.scopes_cons _ _ _ last, List.map_append,
          List.map_map, List.append_assoc]
        rfl

/-- Before anything is bound, no name has a proxy. -/
theorem Bridge.tracks_start {engine : Engine State} {configuration : Configuration}
    {ambient : Ambient} {state : State} {bridge : Bridge (Observed State)}
    (started : Bridge.start engine.observed configuration ambient (.ofState state) = .ok bridge) :
    bridge.Tracks Bindings.empty ∧ bridge.state.starts = [] ∧
      Bridge.start engine configuration ambient state = .ok bridge.forget := by
  cases attached : engine.attach state with
  | error error =>
      simp [Bridge.start, Engine.observed, Observed.ofState, attached, Except.map] at started
  | ok inner =>
      simp only [Bridge.start, Engine.observed, Observed.ofState, attached, Except.map,
        Except.ok.injEq] at started
      subst started
      refine ⟨⟨rfl, Registry.shows_empty, ?_, ?_⟩, rfl, ?_⟩
      · intro name handle bound
        cases bound
      · intro name _ present
        exact absurd rfl present
      · rw [Bridge.start, attached]
        rfl

/-- A bridge whose methods cannot reach its registry starts every script with the proxies of the
objects that are bound at that time and with no others, whatever was bound, unbound and evaluated
before. -/
theorem scripts_start_with_bound_proxies (engine : Engine State) (calls : engine.CallsOnly)
    (configuration : Configuration) (ambient : Ambient) (state : State)
    (bridge : Bridge (Observed State))
    (started : Bridge.start engine.observed configuration ambient (.ofState state) = .ok bridge)
    (commands : List Bridge.Command) (keeps : ∀ command ∈ commands, command.KeepsBindings) :
    (bridge.run engine.observed commands).state.starts =
        (Bridge.Command.scopes Bindings.empty commands).map
          (fun scope => (scope.1, scope.2.proxies)) ∧
      Bridge.start engine configuration ambient state = .ok bridge.forget ∧
      (bridge.run engine.observed commands).forget = bridge.forget.run engine commands := by
  obtain ⟨tracks, none, same⟩ := Bridge.tracks_start started
  refine ⟨?_, same, bridge.forget_run engine commands⟩
  rw [tracks.run calls commands keeps, none, List.nil_append]

theorem Planned.callsOnly : Planned.engine.CallsOnly := by
  intro submission host state
  show Host.Reaches host (Planned.follow submission.sentinel state.plan host
    { state with submission := some submission }).host
  generalize ({ state with submission := some submission } : Planned) = state'
  generalize state.plan = plan
  induction plan generalizing host state' with
  | nil => exact .stay host
  | cons step plan ih =>
      cases step with
      | print parts => exact ih host _
      | call object method text => exact .call host _ object method text (ih _ _)
      | printReply => exact ih host _
      | fail error => exact .stay host

/-- A name that was unbound and bound again has the proxy of its second object, and none when it
is unbound once more. -/
theorem scripts_start_with_bound_proxies_again :
    let first : Handle := ⟨1, HostObject.ofMethods "First" [⟨"get", [], "", .constant .null⟩]⟩
    let second : Handle := ⟨2, HostObject.ofMethods "Second" [⟨"put", [], "", .constant .null⟩]⟩
    let commands : List Bridge.Command := [.bind "k" first, .evaluate "1", .unbind "k",
      .bind "k" second, .unbind "k", .set "k" second, .evaluate "2", .unbind "k", .evaluate "3"]
    ∃ bridge, Bridge.start Planned.engine.observed Configuration.default ⟨fun _ => 0, fun _ => 0⟩
        (.ofState (Planned.ofPlan [])) = .ok bridge ∧
      (bridge.run Planned.engine.observed commands).state.starts.map
          (fun start => (start.1, start.2 "k")) =
        [("1", some (Proxy.ofObject "k" first.object).table),
          ("2", some (Proxy.ofObject "k" second.object).table), ("3", none)] := by
  intro first second commands
  refine ⟨_, rfl, ?_⟩
  have constant (typeName name : String) :
      (HostObject.ofMethods typeName [⟨name, [], "", .constant .null⟩]).KeepsBindings := by
    intro method member arguments
    obtain rfl : method = ⟨name, [], "", .constant .null⟩ := List.mem_singleton.mp member
    trivial
  have keeps : ∀ command ∈ commands, command.KeepsBindings := by
    intro command member name handle bound
    have bound : .bind name handle ∈ commands.flatMap Bridge.Command.changes :=
      List.mem_flatMap.mpr ⟨command, member, bound⟩
    have known : handle = first ∨ handle = second := by
      simp [commands, Bridge.Command.changes] at bound
      tauto
    rcases known with rfl | rfl
    · exact constant "First" "get"
    · exact constant "Second" "put"
  rw [(scripts_start_with_bound_proxies Planned.engine Planned.callsOnly _ _
    (Planned.ofPlan []) _ rfl commands keeps).1]
  rfl

end HostBridge
