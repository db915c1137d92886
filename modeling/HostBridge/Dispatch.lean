/-
This file routes calls to the methods of bound objects.
-/
import HostBridge.Json.Reader
import HostBridge.Registry

namespace HostBridge

/-- What calls act on: the bound objects, the cells of their methods and the records of what
happened, the oldest first. -/
structure Host where
  registry : Registry
  cells : Table Nat HostValue
  events : List Event

def Host.empty : Host := ⟨[], [], []⟩

def Host.log (host : Host) (events : List Event) : Host :=
  { host with events := host.events ++ events }

/-- The host when there are earlier records. -/
def Host.behind (events : List Event) (host : Host) : Host :=
  { host with events := events ++ host.events }

/-- A cell that was never stored holds null. -/
def Host.load (host : Host) (cell : Nat) : HostValue :=
  (Table.lookup? host.cells cell).getD .null

def Host.store (host : Host) (cell : Nat) (value : HostValue) : Host :=
  { host with cells := Table.put host.cells cell value }

def Host.bind (host : Host) (name : String) (handle : Handle) : Host :=
  { host.log (host.registry.bindEvents name) with registry := host.registry.bind name handle }

def Host.unbind (host : Host) (name : String) : Host :=
  { host with registry := host.registry.unbind name }

/-- A call changes the host and has a value or an error. -/
abbrev Call := Host → String → String → List HostValue → Host × Except DispatchError HostValue

def Action.run (call : Call) : Action → Host → Host × Outcome
  | .finish outcome, host => (host, outcome)
  | .load cell next, host => (next (host.load cell)).run call host
  | .store cell value next, host => next.run call (host.store cell value)
  | .call object method arguments next, host =>
      let answer := call host object method arguments
      (next answer.2).run call answer.1
  | .release name next, host =>
      (next (Table.contains host.registry name)).run call (host.unbind name)

/-- A panic is a failure like any other. -/
def Outcome.result (outcome : Outcome) (object method : String) : Except DispatchError HostValue :=
  match outcome with
  | .returned value => .ok value
  | .failed failure => .error (.dispatchFailure object method failure)
  | .panicked text =>
      .error (.dispatchFailure object method
        (.plain ("host method panicked: " ++ text.getD "unknown panic")))

/-- A call finds the bound object, then the method by its name and the types of the arguments. The
first argument bounds how deep methods call each other. The program has no such bound: there the
stack of the process runs out and ends it. The failure at depth zero stands for that end, and its
text is no text of the program. -/
def Host.dispatchWithin : Nat → Call
  | 0, host, object, method, _ =>
      (host, .error (.dispatchFailure object method (.plain "calls nest too deeply")))
  | depth + 1, host, object, method, arguments =>
      match host.registry.resolve object with
      | .error error => (host, .error error)
      | .ok handle =>
          let types := arguments.map HostValue.hostType
          match handle.object.select? method types with
          | none => (host, .error (.methodNotFound object method (typeNames types)))
          | some found =>
              let host := host.log [.dispatching object found.signature]
              let answer := (found.handler arguments).run (Host.dispatchWithin depth) host
              (answer.1, answer.2.result object method)

/-- A depth that stands for the size of the native stack. -/
def callDepth : Nat := 10000

def Host.dispatch : Call := Host.dispatchWithin callDepth

/-- A method is called without a look at the types of the arguments. -/
def Host.invoke (host : Host) (method : Method) (arguments : List HostValue) : Host × Outcome :=
  (method.handler arguments).run Host.dispatch host

/-- Arguments are written as one array. -/
def decodeArguments (text : String) : Except DispatchError (List HostValue) :=
  match Json.ofText text with
  | .error fault => .error (.badArguments fault.message)
  | .ok (.array items) => .ok (HostValue.ofItems items)
  | .ok other => .error (.badArguments s!"expected an argument array, got {other.text}")

/-- A reply has a member `value`, or the members `error` and `kind`. -/
def replyOf : Except DispatchError HostValue → Json
  | .ok value => .object [("value", value.toJson)]
  | .error error => .object [("error", .string error.message), ("kind", .string error.kind)]

def replyEvents : Except DispatchError HostValue → List Event
  | .ok _ => []
  | .error error => [.dispatchFailed error.message]

/-- A call in writing has its reply in writing. -/
def Host.dispatchText (host : Host) (object method text : String) : Host × String :=
  let answer : Host × Except DispatchError HostValue :=
    match decodeArguments text with
    | .error error => (host, .error error)
    | .ok arguments => host.dispatch object method arguments
  (answer.1.log (replyEvents answer.2), (replyOf answer.2).text)

end HostBridge
