/-
This file runs the statements of scripts.
-/
import HostBridge.Script.Evaluation.Expression

namespace HostBridge.Script

/-- What a loop makes of the end of its body: whether it goes on, and how it ends otherwise. -/
def Completion.afterRound (completion : Completion) (label : Option String) :
    Bool × Completion :=
  match completion with
  | .normal | .proceed none => (true, .normal)
  | .proceed (some word) => if label = some word then (true, .normal) else (false, completion)
  | .leave none => (false, .normal)
  | .leave (some word) => if label = some word then (false, .normal) else (false, completion)
  | .answer _ => (false, completion)

/-- A loop runs until a round says that it is over. The first argument bounds the rounds. -/
def loopWithin {A : Type} (round : A → Machine (A × Bool × Completion)) :
    Nat → A → Machine Completion
  | 0, _ => interrupted
  | bound + 1, state => do
      let (state, goesOn, completion) ← round state
      if goesOn then loopWithin round bound state else return completion

/-- The test of a loop may be missing. -/
def testLoop (e : Evaluator) (scope : Scope) (test : Expression) : Machine Bool := do
  match test with
  | .nothing => return true
  | _ => return (← e.value scope test).truth

def runWhile (e : Evaluator) (scope : Scope) (label : Option String) (test : Expression)
    (body : Statement) : Machine Completion :=
  loopWithin (fun () => do
    if ← testLoop e scope test then
      return ((), (← e.run scope body).afterRound label)
    else return ((), false, .normal)) roundLimit ()

def runUntil (e : Evaluator) (scope : Scope) (label : Option String) (body : Statement)
    (test : Expression) : Machine Completion :=
  loopWithin (fun () => do
    let (goesOn, completion) := (← e.run scope body).afterRound label
    if goesOn then return ((), ← testLoop e scope test, .normal)
    else return ((), false, completion)) roundLimit ()

/-- The variables of a loop are new in every round and keep their values. -/
def runCounted (e : Evaluator) (scope : Scope) (label : Option String)
    (names : List (String × Bool)) (start : Statement) (test step : Expression)
    (body : Statement) : Machine Completion := do
  let first ← newVariables names
  let _ ← e.run (scope.declare first) start
  loopWithin (fun (state : List Variable × Bool) => do
    let list ← if state.2 then pure state.1 else renewVariables state.1
    let inner := scope.declare list
    if !state.2 then
      match step with
      | .nothing => pure ()
      | _ =>
          let _ ← e.value inner step
    if ← testLoop e inner test then
      return ((list, false), (← e.run inner body).afterRound label)
    else return ((list, false), false, .normal)) roundLimit (first, true)

/-- The variables of one round of a loop over keys or values, with the value in its place. -/
def enterRound (e : Evaluator) (scope : Scope) (names : List (String × Bool))
    (declared : Option Declared) (target : Target) (value : Value) : Machine Scope := do
  let inner := scope.declare (← newVariables names)
  let storing :=
    match declared with
    | some .changeable | some .constant => Storing.first
    | _ => Storing.other
  e.store inner storing target (return value)
  return inner

/-- The listed keys of an object and of the objects behind it, each once. The first argument bounds
the objects. -/
def walkedKeys (call : Caller) : Nat → List Key → Option Reference → Machine (List Key)
  | _, _, none => return []
  | 0, _, some _ => return []
  | bound + 1, seen, some place => do
      let keys := (← ownKeysOf call place).filter fun key => !key.isSymbol
      let fresh := if seen.isEmpty then keys else keys.filter fun key => !seen.contains key
      let listed ← fresh.filterM fun key => do
        return ((← ownMember? call place key).map Property.isEnumerable).getD false
      let behind ← prototypeOf call place
      return listed ++ (← walkedKeys call bound (keys ++ seen) behind)

/-- A loop over the keys of an object leaves out the members that are removed on the way. -/
def runOverKeys (e : Evaluator) (label : Option String) (enter : Value → Machine Scope)
    (source : Value) (body : Statement) : Machine Completion := do
  if source.isAbsent then return .normal
  else
    let place ← toObject source
    let keys ← walkedKeys e.call (← lookUp Array.size) [] (some place)
    loopWithin (fun (keys : List Key) => do
      match keys with
      | [] => return ([], false, .normal)
      | key :: rest =>
          if ← hasMember e.call place key then
            let inner ← enter key.value
            return (rest, (← e.run inner body).afterRound label)
          else return (rest, true, .normal)) roundLimit keys

/-- A loop over values closes its iterator when it is left. -/
def runOverValues (e : Evaluator) (label : Option String) (enter : Value → Machine Scope)
    (source : Value) (body : Statement) : Machine Completion := do
  let iterator ← openIterator e.call source
  loopWithin (fun () => do
    match ← iterator.step e.call with
    | none => return ((), false, .normal)
    | some value =>
        let (goesOn, completion) ← iterator.guard e.call do
          let inner ← enter value
          return (← e.run inner body).afterRound label
        if goesOn then return ((), true, .normal)
        else
          iterator.close e.call
          return ((), false, completion)) roundLimit ()

def runOver (e : Evaluator) (scope : Scope) (label : Option String) (names : List (String × Bool))
    (ofValues : Bool) (declared : Option Declared) (target : Target)
    (before source : Expression) (body : Statement) : Machine Completion := do
  match before with
  | .nothing => pure ()
  | _ => e.store scope .other target (e.value scope before)
  let unset := scope.declare (← newVariables names)
  let source ← e.value unset source
  let enter := enterRound e scope names declared target
  if ofValues then runOverValues e label enter source body
  else runOverKeys e label enter source body

/-- A loop that may have a label. -/
def runLoop? (e : Evaluator) (scope : Scope) (label : Option String) (statement : Statement) :
    Option (Machine Completion) :=
  match statement with
  | .whileLoop test body => some (runWhile e scope label test body)
  | .untilLoop body test => some (runUntil e scope label body test)
  | .countedLoop names start test step body =>
      some (runCounted e scope label names start test step body)
  | .memberLoop names ofValues declared target before source body =>
      some (runOver e scope label names ofValues declared target before source body)
  | _ => none

def runDeclaration (e : Evaluator) (scope : Scope) (declared : Declared) (part : Target) :
    Machine Unit :=
  match declared, part with
  | .variable, .place _ => return ()
  | .variable, _ => e.store scope .other part (return .undefined)
  | _, _ => e.store scope .first part (return .undefined)

/-- The layers outside the innermost one that has a name. -/
def layersOutside (name : String) : List Layer → List Layer
  | [] => []
  | .locals list :: rest =>
      if (findVariable? name list).isSome then rest else layersOutside name rest
  | .members _ _ :: rest => layersOutside name rest

/-- A function in a block becomes the value of a variable outside of it. -/
def publish (e : Evaluator) (scope : Scope) (name : String) : Machine Unit := do
  let value ← nameValue e.call scope name
  assignName e.call { scope with layers := layersOutside name scope.layers } name value

/-- What is thrown gets names before it is handled. -/
def runHandler (e : Evaluator) (scope : Scope) (names : List (String × Bool)) (caught : Target)
    (handler : Statement) (thrown : Value) : Machine Completion := do
  let inner := scope.declare (← newVariables names)
  match caught with
  | .gap => pure ()
  | _ => e.store inner .first caught (return thrown)
  e.run inner handler

/-- The last block runs however the body ends, and only its own way out is more important. -/
def runFinally (e : Evaluator) (scope : Scope) (body last : Statement) : Machine Completion := do
  let finish : Machine Completion := do
    match scope.answer with
    | none => e.run scope last
    | some cell =>
        let saved ← cellValue cell
        setCell cell (some .undefined)
        let completion ← e.run scope last
        match completion with
        | .normal => setCell cell saved
        | _ => pure ()
        return completion
  let ended ← beforeStop (attempted (e.run scope body)) fun value => do
    match ← finish with
    | .normal => stop value
    | other => return .ok other
  match ← finish with
  | .normal =>
      match ended with
      | .ok completion => return completion
      | .error thrown => raise thrown
  | other => return other

/-- The statements from the case on that has a value, or from the case for all others. -/
def chooseCase (e : Evaluator) (scope : Scope) (value : Value) (others : List Statement) :
    List Statement → Machine (List Statement)
  | [] => return others
  | .case .nothing :: rest => chooseCase e scope value rest rest
  | .case test :: rest => do
      if value.equals (← e.value scope test) then return rest
      else chooseCase e scope value others rest
  | _ :: rest => chooseCase e scope value others rest

def isFunctionStatement : Statement → Bool
  | .function _ _ => true
  | _ => false

def runSelect (e : Evaluator) (scope : Scope) (subject : Expression)
    (names : List (String × Bool)) (statements : List Statement) : Machine Completion := do
  let value ← e.value scope subject
  let inner := scope.declare (← newVariables names)
  let _ ← runAll e inner (statements.takeWhile isFunctionStatement)
  let chosen ← chooseCase e inner value [] (statements.dropWhile isFunctionStatement)
  match ← runAll e inner chosen with
  | .leave none => return .normal
  | other => return other

/-- Some statements leave no value of the script behind. -/
def Statement.clearsAnswer : Statement → Bool
  | .branch _ _ _ | .whileLoop _ _ | .untilLoop _ _ | .countedLoop _ _ _ _ _
  | .memberLoop _ _ _ _ _ _ _ | .select _ _ _ | .attempt _ _ _ _ | .final _ _ | .within _ _ => true
  | _ => false

def runLabelled (e : Evaluator) (scope : Scope) (label : String) (body : Statement) :
    Machine Completion := do
  if body.clearsAnswer then scope.setAnswer .undefined
  let completion ←
    match runLoop? e scope (some label) body with
    | some loop => loop
    | none => e.run scope body
  match completion with
  | .leave (some word) => return if word = label then .normal else completion
  | _ => return completion

/-- Runs a statement. -/
def runStatement (e : Evaluator) (scope : Scope) (statement : Statement) : Machine Completion := do
  if statement.clearsAnswer then scope.setAnswer .undefined
  match statement with
  | .line number inner =>
      setLine number
      e.run scope inner
  | .value expression =>
      scope.setAnswer (← e.value scope expression)
      return .normal
  | .declare declared parts =>
      parts.forM (runDeclaration e scope declared)
      return .normal
  | .answer value => return .answer (← e.value scope value)
  | .block names statements =>
      let inner := scope.declare (← newVariables names)
      runAll e inner statements
  | .branch test yes no =>
      if (← e.value scope test).truth then e.run scope yes else e.run scope no
  | .empty => return .normal
  | .function name content =>
      initializeName e.call scope name (← e.value scope content)
      return .normal
  | .publish name =>
      publish e scope name
      return .normal
  | .blueprint name content =>
      initializeName e.call scope name (← e.value scope content)
      return .normal
  | .leave label => return .leave label
  | .proceed label => return .proceed label
  | .raise value => do raise (← e.value scope value)
  | .attempt body names caught handler =>
      attempt (e.run scope body) (runHandler e scope names caught handler)
  | .final body last => runFinally e scope body last
  | .select subject names statements => runSelect e scope subject names statements
  | .case _ => return .normal
  | .labelled label body => runLabelled e scope label body
  | .within object body =>
      let place ← toObject (← e.value scope object)
      e.run (scope.layer (.members place true)) body
  | .whileLoop _ _ | .untilLoop _ _ | .countedLoop _ _ _ _ _ | .memberLoop _ _ _ _ _ _ _ =>
      (runLoop? e scope none statement).getD (return .normal)

end HostBridge.Script
