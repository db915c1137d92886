/-
This file defines what the functions of scripts do when they are called.
-/
import HostBridge.Script.Standard

namespace HostBridge.Script

/-- The text that a hook of the host takes from a value. -/
def hookText (value : Value) : Machine String := do
  match value with
  | .text units =>
      match Text.textOfUnits units with
      | .ok text => return text
      | .error valid =>
          typeFaultText ("Conversion from string failed: " ++
            s!"invalid utf-8 sequence of 1 bytes from index {(String.ofList valid).utf8ByteSize}")
  | _ =>
      let kind ← lookUp fun memory => memory.valueKind value
      typeFaultText s!"Error converting from js '{kind}' into type 'string'"

/-- A hook is given all the arguments that it takes. -/
def requireArguments (arguments : List Value) (count : Nat) : Machine Unit :=
  if arguments.length < count then
    typeFaultText
      s!"Error calling function with {arguments.length} argument(s) while {count} where expected"
  else return ()

/-- The hook that prints one line. -/
def runHostPrint (arguments : List Value) : Machine Value := do
  requireArguments arguments 1
  let line ← hookText (argumentAt arguments 0)
  change fun world => world.print line
  return .undefined

/-- The hook that calls a host method, which answers in writing. -/
def runHostCall (arguments : List Value) : Machine Value := do
  requireArguments arguments 3
  let object ← hookText (argumentAt arguments 0)
  let method ← hookText (argumentAt arguments 1)
  let text ← hookText (argumentAt arguments 2)
  let (host, reply) := (← asks? World.host).dispatchText object method text
  change fun world => { world with host := host }
  return .ofString reply

/-- A function of the language is called inside a frame of its own. -/
def callNative (e : Evaluator) (number : Nat) (given : Given) : Machine Value :=
  insideFrame ⟨some given.callee, none, 0⟩
    (match standardNatives[number]? with
    | some native => native.run e given
    | none => return .undefined)

/-- A bound function has a receiver and first arguments already. -/
def callBound (e : Evaluator) (manner : Manner) (callee target : Reference) (receiver : Value)
    (arguments : List Value) : Machine Value :=
  match manner with
  | .on _ => e.call (.on receiver) (.object target) arguments
  | .fresh newTarget =>
      let newTarget := if newTarget.same (.object callee) then .object target else newTarget
      e.call (.fresh newTarget) (.object target) arguments

/-- A handler may answer in the place of the function that a proxy stands for. -/
def callProxy (e : Evaluator) (manner : Manner) (place : Reference) (arguments : List Value) :
    Machine Value := do
  match manner with
  | .on receiver =>
      let trap ← trapOf e.call place "apply"
      if trap.function.isAbsent then e.call manner (.object trap.target) arguments
      else trap.ask e.call [receiver, ← makeArray arguments]
  | .fresh newTarget =>
      let trap ← trapOf e.call place "construct"
      if trap.function.isAbsent then
        let newTarget :=
          if newTarget.same (.object place) then .object trap.target else newTarget
        e.call (.fresh newTarget) (.object trap.target) arguments
      else
        let answer ← trap.ask e.call [← makeArray arguments, newTarget]
        if answer.isObject then return answer else notObject

/-- Calls a function whose code is known. -/
def Code.apply (e : Evaluator) (manner : Manner) (callee : Reference) (arguments : List Value)
    (code : Code) : Machine Value :=
  match code, manner with
  | .standard number _ held, .on receiver =>
      callNative e number ⟨receiver, arguments, none, callee, held⟩
  | .standard number _ held, .fresh target =>
      callNative e number ⟨.undefined, arguments, some target, callee, held⟩
  | .script closure, _ => callClosure e manner callee closure arguments
  | .bound target receiver given, _ =>
      callBound e manner callee target receiver (given ++ arguments)
  | .hostPrint, _ => runHostPrint arguments
  | .hostCall, _ => runHostCall arguments

/-- A value that is no function cannot be called, and not every function makes objects. -/
def runCall (e : Evaluator) : Caller := fun manner callee arguments => do
  match callee with
  | .object place =>
      let object ← objectAt place
      let isFit ←
        match manner with
        | .on _ => pure object.isCallable
        | .fresh _ => lookUp fun memory => memory.isConstructor callee
      match isFit, object.kind, manner with
      | true, .function code, _ => code.apply e manner place arguments
      | true, .proxy _ _ _, _ => callProxy e manner place arguments
      | _, _, .on _ => notFunction
      | _, _, .fresh _ => notConstructor
  | _ => notFunction

/-- The first argument bounds how deep evaluations are nested. -/
def evaluatorWithin : Nat → Evaluator
  | 0 => ⟨fun _ _ => tooDeep, fun _ _ => tooDeep, fun _ _ => tooDeep, fun _ _ _ _ => tooDeep,
      fun _ _ _ => tooDeep⟩
  | depth + 1 => {
      value := fun scope expression =>
        let e := evaluatorWithin depth
        evaluate e (runInner e) scope expression
      link := fun scope expression =>
        let e := evaluatorWithin depth
        evaluateLink e (runInner e) scope expression
      run := fun scope statement => runStatement (evaluatorWithin depth) scope statement
      store := fun scope storing target fetch =>
        storeTarget (evaluatorWithin depth) scope storing target fetch
      call := fun manner callee arguments =>
        runCall (evaluatorWithin depth) manner callee arguments }

/-- Evaluations are not nested deeper than this. -/
def evaluationDepth : Nat := 1000000

def evaluator : Evaluator := evaluatorWithin evaluationDepth

end HostBridge.Script
