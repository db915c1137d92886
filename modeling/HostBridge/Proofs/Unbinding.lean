/-
This file shows that calls change the registry only through methods that unbind names.
-/
import HostBridge.Dispatch
import HostBridge.Proofs.History

namespace HostBridge

@[simp] theorem Registry.unbindAll_nil (registry : Registry) :
    registry.unbindAll [] = registry := rfl

@[simp] theorem Registry.unbindAll_cons (registry : Registry) (name : String)
    (names : List String) :
    registry.unbindAll (name :: names) = (registry.unbind name).unbindAll names := rfl

/-- Names can be unbound in two parts. -/
theorem Registry.unbindAll_append (registry : Registry) (first second : List String) :
    registry.unbindAll (first ++ second) = (registry.unbindAll first).unbindAll second :=
  List.foldl_append

/-- The names that the methods behind a call unbind, in order. -/
abbrev Unbinding := Host → String → String → List HostValue → List String

def Action.unbound (call : Call) (unbinding : Unbinding) : Action → Host → List String
  | .finish _, _ => []
  | .load cell next, host => (next (host.load cell)).unbound call unbinding host
  | .store cell value next, host => next.unbound call unbinding (host.store cell value)
  | .call object method arguments next, host =>
      let answer := call host object method arguments
      unbinding host object method arguments ++ (next answer.2).unbound call unbinding answer.1
  | .release name next, host =>
      name :: (next (Table.contains host.registry name)).unbound call unbinding (host.unbind name)

def Host.unboundWithin : Nat → Unbinding
  | 0, _, _, _, _ => []
  | depth + 1, host, object, method, arguments =>
      match host.registry.resolve object with
      | .error _ => []
      | .ok handle =>
          match handle.object.select? method (arguments.map HostValue.hostType) with
          | none => []
          | some found =>
              (found.handler arguments).unbound (Host.dispatchWithin depth)
                (Host.unboundWithin depth) (host.log [.dispatching object found.signature])

/-- The names that the methods behind a call of the host unbind, in order. -/
def Host.unboundBy : Unbinding := Host.unboundWithin callDepth

/-- An action changes the registry by its own unbindings and by those of its calls. -/
theorem Action.run_registry (call : Call) (unbinding : Unbinding)
    (traced : ∀ host object method arguments,
      (call host object method arguments).1.registry =
        host.registry.unbindAll (unbinding host object method arguments))
    (action : Action) (host : Host) :
    (action.run call host).1.registry =
      host.registry.unbindAll (action.unbound call unbinding host) := by
  induction action generalizing host with
  | finish outcome => rfl
  | load cell next ih => exact ih (host.load cell) host
  | store cell value next ih => exact ih (host.store cell value)
  | call object method arguments next ih =>
      rw [run, unbound, Registry.unbindAll_append, ← traced]
      exact ih _ _
  | release name next ih =>
      rw [run, unbound, Registry.unbindAll_cons]
      exact ih _ (host.unbind name)

/-- A call changes the registry by the unbindings of methods and by nothing else. -/
theorem Host.dispatchWithin_registry (depth : Nat) (host : Host) (object method : String)
    (arguments : List HostValue) :
    (Host.dispatchWithin depth host object method arguments).1.registry =
      host.registry.unbindAll (Host.unboundWithin depth host object method arguments) := by
  induction depth generalizing host object method arguments with
  | zero => rfl
  | succ depth ih =>
      cases bound : Table.lookup? host.registry object with
      | none => simp [dispatchWithin, unboundWithin, Registry.resolve, bound]
      | some handle =>
          cases found : handle.object.select? method (arguments.map HostValue.hostType) with
          | none => simp [dispatchWithin, unboundWithin, Registry.resolve, bound, found]
          | some entry =>
              simp only [dispatchWithin, unboundWithin, Registry.resolve, bound, found]
              exact Action.run_registry _ _ ih _ _

/-- The action unbinds no name itself, whatever it is answered. -/
def Action.KeepsBindings : Action → Prop
  | .finish _ => True
  | .load _ next => ∀ value, (next value).KeepsBindings
  | .store _ _ next => next.KeepsBindings
  | .call _ _ _ next => ∀ answer, (next answer).KeepsBindings
  | .release _ _ => False

def HostObject.KeepsBindings (object : HostObject) : Prop :=
  ∀ method ∈ object.methodList, ∀ arguments, (method.handler arguments).KeepsBindings

def Registry.KeepsBindings (registry : Registry) : Prop :=
  ∀ entry ∈ registry, entry.2.object.KeepsBindings

/-- A registry keeps its bindings if all objects that it shows do. -/
theorem Registry.Shows.keepsBindings {registry : Registry} {bindings : Bindings Handle}
    (shown : registry.Shows bindings)
    (keeps : ∀ name handle, bindings name = some handle → handle.object.KeepsBindings) :
    registry.KeepsBindings := by
  rintro ⟨name, handle⟩ member
  have bound := (Table.lookup?_eq_some_iff shown.distinct name handle).mpr member
  rw [shown.lookup] at bound
  exact keeps name handle bound

/-- A method that is selected is declared. -/
theorem HostObject.mem_methodList_of_select? {object : HostObject} {name : String}
    {types : List HostType} {method : Method} (found : object.select? name types = some method) :
    method ∈ object.methodList := by
  unfold select? at found
  split at found
  · cases found
  · obtain ⟨known, -⟩ := Option.filter_eq_some_iff.mp found
    exact List.mem_map.mpr ⟨_, Table.mem_of_lookup? known, rfl⟩

/-- Nothing is unbound if neither the action nor its calls unbind a name. -/
theorem Action.unbound_eq_nil (call : Call) (unbinding : Unbinding)
    (traced : ∀ host object method arguments,
      (call host object method arguments).1.registry =
        host.registry.unbindAll (unbinding host object method arguments))
    (silent : ∀ host object method arguments, host.registry.KeepsBindings →
      unbinding host object method arguments = [])
    (action : Action) (keeps : action.KeepsBindings) (host : Host)
    (kept : host.registry.KeepsBindings) : action.unbound call unbinding host = [] := by
  induction action generalizing host with
  | finish outcome => rfl
  | load cell next ih => exact ih _ (keeps _) host kept
  | store cell value next ih => exact ih keeps _ kept
  | call object method arguments next ih =>
      have none := silent host object method arguments kept
      have same : (call host object method arguments).1.registry = host.registry := by
        rw [traced, none, Registry.unbindAll_nil]
      rw [unbound, none, List.nil_append]
      exact ih _ (keeps _) _ (same ▸ kept)
  | release name next ih => exact keeps.elim

/-- Calls of objects that keep bindings unbind nothing, by induction on their depth. -/
theorem Host.unboundWithin_eq_nil (depth : Nat) (host : Host) (object method : String)
    (arguments : List HostValue) (keeps : host.registry.KeepsBindings) :
    Host.unboundWithin depth host object method arguments = [] := by
  induction depth generalizing host object method arguments with
  | zero => rfl
  | succ depth ih =>
      cases bound : Table.lookup? host.registry object with
      | none => simp [unboundWithin, Registry.resolve, bound]
      | some handle =>
          cases found : handle.object.select? method (arguments.map HostValue.hostType) with
          | none => simp [unboundWithin, Registry.resolve, bound, found]
          | some entry =>
              simp only [unboundWithin, Registry.resolve, bound, found]
              refine Action.unbound_eq_nil _ _ (dispatchWithin_registry depth) ih _ ?_ _ keeps
              exact keeps _ (Table.mem_of_lookup? bound) _
                (HostObject.mem_methodList_of_select? found) arguments

/-- Methods that unbind no name leave the registry as it is. -/
theorem Host.dispatchWithin_keeps (depth : Nat) (host : Host) (object method : String)
    (arguments : List HostValue) (keeps : host.registry.KeepsBindings) :
    (Host.dispatchWithin depth host object method arguments).1.registry = host.registry := by
  rw [dispatchWithin_registry, unboundWithin_eq_nil depth host object method arguments keeps,
    Registry.unbindAll_nil]

end HostBridge
