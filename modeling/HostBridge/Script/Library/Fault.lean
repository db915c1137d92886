/-
This file defines the functions that make errors and show them.
-/
import HostBridge.Script.Library.Basic

namespace HostBridge.Script

/-- The cause that an error is given, if there is one. -/
def givenCause (call : Caller) (options : Value) : Machine (List (Key × Value)) := do
  match options with
  | .object place =>
      let key := Key.ofString "cause"
      if ← hasMember call place key then return [(key, ← getMember call options key)]
      else return []
  | _ => return []

def givenMessage (call : Caller) (message : Value) : Machine (List (Key × Value)) := do
  if message.isUndefined then return []
  else return [(messageKey, .text (← toText call message))]

/-- An error shows the calls around the one that makes it. -/
def makeError (name : String) : NativeAction := fun call given => do
  let target := (given.target).getD (.object given.callee)
  let prototype ← Given.prototype call { given with target := some target } (errorPrototype name)
  let isAggregate := name = "AggregateError"
  let rest := if isAggregate then given.arguments.drop 1 else given.arguments
  let message ← givenMessage call (argumentAt rest 0)
  let cause ← givenCause call (argumentAt rest 1)
  let several ←
    if isAggregate then do
      let errors ← allValues call given.first
      pure [(Key.ofString "errors", ← makeArray errors.toList)]
    else pure []
  let trace ← asks? fun world => world.trace (world.frames.drop 1)
  makeErrorWith prototype (message ++ cause ++ several) trace

/-- The text of a member, or another text where it is missing. -/
def memberText (call : Caller) (holder : Value) (key : Key) (otherwise : String) :
    Machine Units := do
  match ← getMember call holder key with
  | .undefined => return Text.units otherwise
  | value => toText call value

def errorText : NativeAction := fun call given => do
  let _ ← requireObject given.receiver
  let name ← memberText call given.receiver nameKey "Error"
  let message ← memberText call given.receiver messageKey ""
  let between := if name.isEmpty || message.isEmpty then [] else Text.units ": "
  return .text (name ++ between ++ message)

/-- What the errors of a class inherit. -/
def errorShelf (name : String) : Shelf :=
  (if name = "Error" then [shelved "toString" 0 errorText] else []) ++ [
    .constant nameKey (.hidden (.ofString name)),
    .constant messageKey (.hidden (.text []))]

end HostBridge.Script
