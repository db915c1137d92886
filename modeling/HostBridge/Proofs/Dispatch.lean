/-
This file shows that a call reaches the object that is bound when it is made.
-/
import HostBridge.Capability.Stock
import HostBridge.Proofs.Declaration
import HostBridge.Proofs.History
import HostBridge.Proofs.Unbinding

namespace HostBridge

/-- A parameter takes the values of its type, and some types take the values of others. -/
inductive HostType.Takes : HostType → HostValue → Prop where
  | own (value : HostValue) : Takes value.hostType value
  | integer (value : Int64) : Takes .number (.integer value)
  | float (value : Float) : Takes .number (.float value)
  | any (value : HostValue) : Takes .any value

/-- The type of a value is accepted exactly when the value is one that the declared type takes. -/
theorem HostType.accepts_iff_takes (declared : HostType) (value : HostValue) :
    declared.accepts value.hostType = true ↔ declared.Takes value := by
  constructor
  · intro accepted
    cases declared with
    | any => exact .any value
    | number =>
        cases value with
        | integer value => exact .integer value
        | float value => exact .float value
        | _ => simp [accepts, HostValue.hostType] at accepted
    | _ =>
        have same := of_decide_eq_true accepted
        exact same ▸ .own value
  · rintro (_ | _ | _ | _)
    · cases value <;> rfl
    all_goals rfl

/-- Every parameter takes the argument in its place and there are no others. -/
theorem Method.accepts_iff (method : Method) (arguments : List HostValue) :
    method.accepts (arguments.map HostValue.hostType) = true ↔
      List.Forall₂ HostType.Takes method.params arguments := by
  rw [accepts, Bool.and_eq_true, beq_iff_eq, List.length_map]
  generalize method.params = params
  induction params generalizing arguments with
  | nil => cases arguments <;> simp
  | cons param params ih =>
      cases arguments with
      | nil => simp
      | cons value arguments =>
          simp only [List.length_cons, List.map_cons, List.zip_cons_cons, List.all_cons,
            Bool.and_eq_true, List.forall₂_cons, ← ih arguments, Nat.add_right_cancel_iff,
            HostType.accepts_iff_takes]
          tauto

/-- An object is what it was declared to be, one method after the other. -/
structure Declared where
  identity : Nat
  typeName : String
  methods : List Method

def Declared.handle (declared : Declared) : Handle :=
  ⟨declared.identity, HostObject.ofMethods declared.typeName declared.methods⟩

/-- The entry is the last declaration for the name and the number of arguments, and it takes
these arguments. -/
structure Declared.Offers (declared : Declared) (method : String) (arguments : List HostValue)
    (entry : Method) : Prop where
  exposed : method ∉ baseCapabilities
  last : LastDeclared declared.methods ⟨method, arguments.length⟩ entry
  takes : List.Forall₂ HostType.Takes entry.params arguments

/-- A call selects a method exactly when the declared object offers it. -/
theorem Declared.select?_iff (declared : Declared) (method : String) (arguments : List HostValue)
    (entry : Method) :
    declared.handle.object.select? method (arguments.map HostValue.hostType) = some entry ↔
      declared.Offers method arguments entry := by
  have exposed : isBaseCapability method = true ↔ method ∈ baseCapabilities := by
    simp [isBaseCapability]
  have found : declared.handle.object.method? method (arguments.map HostValue.hostType).length =
      some entry ↔ LastDeclared declared.methods ⟨method, arguments.length⟩ entry := by
    rw [List.length_map]
    exact HostObject.lookup?_ofMethods_iff _ _ _ _
  unfold HostObject.select?
  split
  · next base =>
      constructor
      · rintro ⟨⟩
      · intro offered
        exact absurd (exposed.mp base) offered.exposed
  · next other =>
      rw [Option.filter_eq_some_iff, found, Method.accepts_iff]
      constructor
      · rintro ⟨last, takes⟩
        exact ⟨fun base => other (exposed.mpr base), last, takes⟩
      · intro offered
        exact ⟨offered.last, offered.takes⟩

/-- What becomes of a call when the name of its object stands for an object or for none. The last
argument is what the call leaves behind and its answer. -/
inductive Dispatched (bound : Option Declared) (nested : Call) (host : Host)
    (object method : String) (arguments : List HostValue) :
    Host × Except DispatchError HostValue → Prop where
  | unbound : bound = none →
      Dispatched bound nested host object method arguments (host, .error (.unboundName object))
  | refused (declared : Declared) : bound = some declared →
      (∀ entry, ¬ declared.Offers method arguments entry) →
      Dispatched bound nested host object method arguments
        (host, .error (.methodNotFound object method
          (separated ", " (arguments.map fun value => value.hostType.name))))
  | returned (declared : Declared) (entry : Method) (left : Host) (value : HostValue) :
      bound = some declared → declared.Offers method arguments entry →
      (entry.handler arguments).run nested (host.log [.dispatching object entry.signature]) =
        (left, .returned value) →
      Dispatched bound nested host object method arguments (left, .ok value)
  | failed (declared : Declared) (entry : Method) (left : Host) (cause : Failure) :
      bound = some declared → declared.Offers method arguments entry →
      (entry.handler arguments).run nested (host.log [.dispatching object entry.signature]) =
        (left, .failed cause) →
      Dispatched bound nested host object method arguments
        (left, .error (.dispatchFailure object method cause))
  | panicked (declared : Declared) (entry : Method) (left : Host) (text : Option String) :
      bound = some declared → declared.Offers method arguments entry →
      (entry.handler arguments).run nested (host.log [.dispatching object entry.signature]) =
        (left, .panicked text) →
      Dispatched bound nested host object method arguments
        (left, .error (.dispatchFailure object method
          (.plain ("host method panicked: " ++ text.getD "unknown panic"))))

section Rules

variable {host : Host} {object method : String} {arguments : List HostValue}

/-- A call of a name that is not bound fails and changes nothing. -/
theorem dispatchWithin_unbound (depth : Nat)
    (absent : Table.lookup? host.registry object = none) :
    Host.dispatchWithin (depth + 1) host object method arguments =
      (host, .error (.unboundName object)) := by
  simp [Host.dispatchWithin, Registry.resolve, absent]

/-- A call that no method is offered for fails and changes nothing. -/
theorem dispatchWithin_refused (depth : Nat) {declared : Declared}
    (present : Table.lookup? host.registry object = some declared.handle)
    (refused : ∀ entry, ¬ declared.Offers method arguments entry) :
    Host.dispatchWithin (depth + 1) host object method arguments =
      (host, .error (.methodNotFound object method
        (separated ", " (arguments.map fun value => value.hostType.name)))) := by
  have missing :
      declared.handle.object.select? method (arguments.map HostValue.hostType) = none := by
    rw [Option.eq_none_iff_forall_ne_some]
    intro entry found
    exact refused entry ((declared.select?_iff method arguments entry).mp found)
  have names : typeNames (arguments.map HostValue.hostType) =
      separated ", " (arguments.map fun value => value.hostType.name) := by
    rw [typeNames, List.map_map]
    rfl
  simp only [Host.dispatchWithin, Registry.resolve, present, missing, names]

/-- The handler of the selected entry runs once, on the arguments as they are. -/
theorem dispatchWithin_selected (depth : Nat) {handle : Handle} {entry : Method}
    (present : Table.lookup? host.registry object = some handle)
    (selected : handle.object.select? method (arguments.map HostValue.hostType) = some entry) :
    Host.dispatchWithin (depth + 1) host object method arguments =
      let answer := (entry.handler arguments).run (Host.dispatchWithin depth)
        (host.log [.dispatching object entry.signature])
      (answer.1, answer.2.result object method) := by
  simp only [Host.dispatchWithin, Registry.resolve, present, selected]

/-- A call runs the method that is offered, and its outcome is that of the call. -/
theorem dispatchWithin_offered (depth : Nat) {declared : Declared} {entry : Method}
    (present : Table.lookup? host.registry object = some declared.handle)
    (offered : declared.Offers method arguments entry) :
    Host.dispatchWithin (depth + 1) host object method arguments =
      let answer := (entry.handler arguments).run (Host.dispatchWithin depth)
        (host.log [.dispatching object entry.signature])
      (answer.1, answer.2.result object method) :=
  dispatchWithin_selected depth present ((declared.select?_iff method arguments entry).mpr offered)

end Rules

/-- Every call is answered by one of the rules. -/
theorem dispatched_dispatchWithin (depth : Nat) (host : Host) (bound : Option Declared)
    (object method : String) (arguments : List HostValue)
    (shown : Table.lookup? host.registry object = bound.map Declared.handle) :
    Dispatched bound (Host.dispatchWithin depth) host object method arguments
      (Host.dispatchWithin (depth + 1) host object method arguments) := by
  cases bound with
  | none =>
      rw [dispatchWithin_unbound depth shown]
      exact .unbound rfl
  | some declared =>
      by_cases offer : ∃ entry, declared.Offers method arguments entry
      · obtain ⟨entry, offered⟩ := offer
        rw [dispatchWithin_offered depth shown offered]
        rcases ran : (entry.handler arguments).run (Host.dispatchWithin depth)
          (host.log [.dispatching object entry.signature]) with ⟨left, outcome⟩
        cases outcome with
        | returned value => exact .returned declared entry left value rfl offered ran
        | failed cause => exact .failed declared entry left cause rfl offered ran
        | panicked text => exact .panicked declared entry left text rfl offered ran
      · rw [dispatchWithin_refused depth shown (not_exists.mp offer)]
        exact .refused declared rfl (not_exists.mp offer)

/-- The rules leave one answer to every call. -/
theorem dispatchWithin_eq_of_dispatched {depth : Nat} {host : Host} {bound : Option Declared}
    {object method : String} {arguments : List HostValue}
    {answer : Host × Except DispatchError HostValue}
    (shown : Table.lookup? host.registry object = bound.map Declared.handle)
    (dispatched :
      Dispatched bound (Host.dispatchWithin depth) host object method arguments answer) :
    Host.dispatchWithin (depth + 1) host object method arguments = answer := by
  cases dispatched with
  | unbound absent =>
      subst absent
      exact dispatchWithin_unbound depth shown
  | refused declared present refused =>
      subst present
      exact dispatchWithin_refused depth shown refused
  | returned declared entry left value present offered ran =>
      subst present
      rw [dispatchWithin_offered depth shown offered, ran]
      rfl
  | failed declared entry left cause present offered ran =>
      subst present
      rw [dispatchWithin_offered depth shown offered, ran]
      rfl
  | panicked declared entry left text present offered ran =>
      subst present
      rw [dispatchWithin_offered depth shown offered, ran]
      rfl

/-- What happens on a registry and the methods behind it. -/
inductive Host.Step where
  | bind (name : String) (object : Declared)
  | unbind (name : String)
  | call (object method : String) (arguments : List HostValue)
  | callText (object method text : String)

def Host.take (host : Host) : Host.Step → Host
  | .bind name object => host.bind name object.handle
  | .unbind name => host.unbind name
  | .call object method arguments => (host.dispatch object method arguments).1
  | .callText object method text => (host.dispatchText object method text).1

/-- The host after some steps, with nothing bound before them. -/
def Host.after (steps : List Host.Step) : Host := steps.foldl Host.take Host.empty

/-- A call counts with the names that the methods behind it unbind. -/
def Host.changes (host : Host) : Host.Step → List (Change Declared)
  | .bind name object => [.bind name object]
  | .unbind name => [.unbind name]
  | .call object method arguments => (host.unboundBy object method arguments).map .unbind
  | .callText object method text =>
      match decodeArguments text with
      | .error _ => []
      | .ok arguments => (host.unboundBy object method arguments).map .unbind

/-- The history that some steps make. -/
def Host.history : List Host.Step → Host → List (Change Declared)
  | [], _ => []
  | step :: rest, host => host.changes step ++ Host.history rest (host.take step)

/-- The history of two runs is that of the first and then that of the second. -/
theorem Host.history_append (first second : List Host.Step) (host : Host) :
    Host.history (first ++ second) host =
      Host.history first host ++ Host.history second (first.foldl Host.take host) := by
  induction first generalizing host with
  | nil => rfl
  | cons step rest ih => simp [Host.history, ih]

theorem Host.dispatchText_registry (host : Host) (object method text : String) :
    (host.dispatchText object method text).1.registry =
      match decodeArguments text with
      | .error _ => host.registry
      | .ok arguments => (host.dispatch object method arguments).1.registry := by
  unfold dispatchText
  cases decodeArguments text <;> rfl

/-- The registry shows what the declared objects of the history are. -/
def Host.Follows (host : Host) (history : List (Change Declared)) : Prop :=
  host.registry.Shows ((Change.current history).map Declared.handle)

/-- A registry follows a longer history when it shows the changes of the rest. -/
theorem Host.follows_iff (host : Host) (history changes : List (Change Declared)) :
    host.Follows (history ++ changes) ↔
      host.registry.Shows (((Change.current history).map Declared.handle).after
        (changes.map (Change.map Declared.handle))) := by
  rw [Follows, Change.current_append, Bindings.map_after]

/-- A call adds to the history what its handlers unbind. -/
theorem Host.follows_call {host : Host} {history : List (Change Declared)}
    (follows : host.Follows history) (object method : String) (arguments : List HostValue)
    (left : Host) (same : left.registry = (host.dispatch object method arguments).1.registry) :
    left.Follows (history ++ (host.unboundBy object method arguments).map .unbind) := by
  have released := Registry.Shows.unbindAll follows (host.unboundBy object method arguments)
  rw [follows_iff, same, dispatch, dispatchWithin_registry, List.map_map]
  exact released

/-- A step changes the registry as it changes the history. -/
theorem Host.follows_take {host : Host} {history : List (Change Declared)}
    (follows : host.Follows history) (step : Host.Step) :
    (host.take step).Follows (history ++ host.changes step) := by
  cases step with
  | bind name object =>
      exact (follows_iff _ _ _).mpr (Registry.Shows.bind follows name object.handle)
  | unbind name => exact (follows_iff _ _ _).mpr (Registry.Shows.unbind follows name)
  | call object method arguments => exact follows_call follows object method arguments _ rfl
  | callText object method text =>
      have left := dispatchText_registry host object method text
      simp only [changes]
      cases decoded : decodeArguments text with
      | error error =>
          rw [decoded] at left
          rw [List.append_nil, Follows, take, left]
          exact follows
      | ok arguments =>
          rw [decoded] at left
          exact follows_call follows object method arguments _ left

/-- A registry follows the history through a whole run. -/
theorem Host.follows_run {host : Host} {history : List (Change Declared)}
    (follows : host.Follows history) (steps : List Host.Step) :
    (steps.foldl Host.take host).Follows (history ++ Host.history steps host) := by
  induction steps generalizing host history with
  | nil => simpa [Host.history] using follows
  | cons step rest ih =>
      rw [Host.history, ← List.append_assoc]
      exact ih (follows_take follows step)

/-- The registry follows the history of any run. -/
theorem Host.follows_after (steps : List Host.Step) :
    (Host.after steps).Follows (Host.history steps Host.empty) :=
  have start : Host.empty.Follows [] := Registry.shows_empty
  follows_run start steps

/-- A name has the object that its history ends with. -/
theorem Host.Follows.lookup {host : Host} {history : List (Change Declared)}
    (follows : host.Follows history) (name : String) :
    Table.lookup? host.registry name = (Change.current history name).map Declared.handle :=
  Registry.Shows.lookup follows name

/-- A registry keeps its bindings if all objects of its history do. -/
theorem Host.Follows.keepsBindings {host : Host} {history : List (Change Declared)}
    (follows : host.Follows history)
    (keeps : ∀ name declared, Change.current history name = some declared →
      declared.handle.object.KeepsBindings) : host.registry.KeepsBindings := by
  apply Registry.Shows.keepsBindings follows
  intro name handle bound
  obtain ⟨declared, current, rfl⟩ := Option.map_eq_some_iff.mp bound
  exact keeps name declared current

/-- A call after any run is answered for the object that its name stands for at that time. It
takes no names away but those that methods unbind, so that all other names still stand for the
same objects in later calls, and methods that unbind nothing take none away. -/
theorem dispatch_current_object (steps : List Host.Step) (object method : String)
    (arguments : List HostValue) :
    let host := Host.after steps
    let bindings := Change.current (Host.history steps Host.empty)
    let later := Change.current
      (Host.history (steps ++ [.call object method arguments]) Host.empty)
    let released := host.unboundBy object method arguments
    (∀ answer, host.dispatch object method arguments = answer ↔
      Dispatched (bindings object) (Host.dispatchWithin (callDepth - 1)) host object method
        arguments answer) ∧
    (host.dispatch object method arguments).1.registry = host.registry.unbindAll released ∧
    (∀ name ∉ released, later name = bindings name) ∧
    ((∀ name declared, bindings name = some declared →
      declared.handle.object.KeepsBindings) → released = []) := by
  intro host bindings later released
  have follows := Host.follows_after steps
  refine ⟨?_, ?_, ?_, ?_⟩
  · intro answer
    constructor
    · rintro rfl
      exact dispatched_dispatchWithin _ host (bindings object) object method arguments
        (follows.lookup object)
    · exact dispatchWithin_eq_of_dispatched (follows.lookup object)
  · exact Host.dispatchWithin_registry callDepth host object method arguments
  · intro name other
    have history : later = bindings.after (released.map .unbind) := by
      simp only [later, Host.history_append, Host.history, List.append_nil,
        Change.current_append]
      rfl
    rw [history, Bindings.after_unbinds, if_neg other]
  · intro keeps
    exact Host.unboundWithin_eq_nil _ host object method arguments (follows.keepsBindings keeps)

/-- A call that is made after its object was replaced reaches the second object, whose last
declaration panics, and takes no name away. -/
theorem dispatch_current_object_replaced :
    let first : Declared := ⟨1, "First", [⟨"get", [], "", Handler.constant .null⟩]⟩
    let second : Declared := ⟨2, "Second", [⟨"get", [], "", Handler.constant .null⟩,
      ⟨"get", [], "", Handler.panic (some "late")⟩]⟩
    let host := Host.after [.bind "k" first, .call "k" "get" [], .unbind "k", .bind "k" second]
    host.dispatch "k" "get" [] = (host.log [.dispatching "k" "get()"],
        .error (.dispatchFailure "k" "get" (.plain "host method panicked: late"))) ∧
      host.unboundBy "k" "get" [] = [] := by
  intro first second host
  let steps : List Host.Step :=
    [.bind "k" first, .call "k" "get" [], .unbind "k", .bind "k" second]
  have bound : Change.current (Host.history steps Host.empty) =
      Function.update (Function.update (Function.update Bindings.empty "k" (some first)) "k" none)
        "k" (some second) := rfl
  have facts := dispatch_current_object steps "k" "get" []
  constructor
  · apply (facts.1 _).mpr
    apply Dispatched.panicked second ⟨"get", [], "", Handler.panic (some "late")⟩ _ (some "late")
    · rw [bound, Function.update_self]
    · refine ⟨by decide, ⟨[⟨"get", [], "", Handler.constant .null⟩], [], rfl, rfl, by simp⟩, .nil⟩
    · rfl
  · apply facts.2.2.2
    intro name declared present
    rw [bound] at present
    by_cases same : name = "k"
    · obtain rfl : second = declared := by simpa [same] using present
      intro method member arguments
      obtain rfl : method = ⟨"get", [], "", Handler.panic (some "late")⟩ :=
        List.mem_singleton.mp member
      trivial
    · simp [Function.update_of_ne same, Bindings.empty] at present

end HostBridge
