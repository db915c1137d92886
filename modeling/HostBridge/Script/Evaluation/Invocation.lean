/-
This file calls the functions of scripts.
-/
import HostBridge.Script.Evaluation.Pattern

namespace HostBridge.Script

/-- The object of the arguments of a call. -/
def makeArguments (items : List Value) : Machine Value :=
  makeObject ((⟨.arguments, some objectPrototype, true, items.toArray, .empty⟩ : Object).put
    lengthKey (.hidden (.ofNat items.length)))

/-- The object of the arguments can be walked through, and it may know the function. -/
def equipArguments (mode : Mode) (callee : Reference) (walk : Value) (place : Reference) :
    Machine Unit :=
  changeObject place fun object =>
    let object := object.put iteratorSymbol (.hidden walk)
    if mode = .loose then object.put (.ofString "callee") (.hidden (.object callee)) else object

/-- The variable of the arguments, if the function looks at them. -/
def argumentsVariable (e : Evaluator) (heading : Heading) (callee : Reference)
    (arguments : List Value) : Machine (List Variable) := do
  let isOwn := heading.usesArguments && heading.role ≠ .arrow && heading.role ≠ .fields
  if isOwn && !heading.parameterNames.contains "arguments" then
    let made ← makeArguments arguments
    let walk ← getNamed e.call (.object arrayPrototype) "values"
    equipArguments heading.mode callee walk (← requireObject made)
    return [← newVariable "arguments" made .changeable]
  else return []

/-- Parameters that are plain names get the arguments one by one. The last one of a name counts. -/
def bindPlain (arguments : List Value) (names : List String) : Machine (List Variable) := do
  let found ← names.mapIdxM fun index name =>
    newVariable name (argumentAt arguments index) .changeable
  return found.reverse

def undefinedVariables (names : List String) : Machine (List Variable) :=
  names.mapM fun name => newVariable name .undefined .changeable

def bindParameters (e : Evaluator) (scope : Scope) (arguments : List Value) :
    Nat → List Target → Machine Unit
  | _, [] => return ()
  | index, .rest target :: _ => e.store scope .first target (makeArray (arguments.drop index))
  | index, target :: rest => do
      e.store scope .first target (return argumentAt arguments index)
      bindParameters e scope arguments (index + 1) rest

/-- The variables that a call of `eval` may add are members of an object. -/
def layerForEval (heading : Heading) (scope : Scope) : Machine Scope := do
  if heading.callsEval && heading.mode = .loose && heading.role ≠ .fields then
    return scope.layer (.members (← allocate (.bare .plain none)) false)
  else return scope

/-- The scope inside a function that is called with arguments. -/
def bindArguments (e : Evaluator) (scope : Scope) (text : FunctionText) (callee : Reference)
    (arguments : List Value) : Machine Scope := do
  let heading := text.heading
  let scope ← layerForEval heading scope
  let given ← argumentsVariable e heading callee arguments
  let names := heading.variableNames.filter fun name =>
    !heading.parameterNames.contains name && !(name = "arguments" && !given.isEmpty)
  let scope ←
    if heading.isSimple then do
      let parameters ← bindPlain arguments heading.parameterNames
      pure (scope.declare (parameters ++ given ++ (← undefinedVariables names)))
    else do
      let unset ← newVariables (heading.parameterNames.map fun name => (name, false))
      let scope := scope.declare (unset ++ given)
      bindParameters e scope arguments 0 text.parameters
      pure (scope.declare (← undefinedVariables names))
  return scope.declare (← newVariables heading.names)

/-- The scope of a function before its parameters. A function without a receiver of its own has
that of the code around it. -/
def Closure.enter (closure : Closure) (callee : Reference) (receiver : Option Value)
    (newTarget : Value) : Machine Scope := do
  let heading := closure.text.heading
  let outer := closure.scope
  if heading.role = .arrow then return { outer with mode := heading.mode, answer := none }
  else
    return {
      mode := heading.mode
      layers := outer.layers
      receiver := some (← newCell receiver)
      newTarget := some (← newCell (some newTarget))
      callee := some callee
      home := closure.home
      answer := none
      file := outer.file }

def Completion.value : Completion → Value
  | .answer value => value
  | _ => .undefined

/-- The statements of a function run, and its value is the one that they answer with. -/
def runBody (e : Evaluator) (scope : Scope) (statements : List Statement) : Machine Value := do
  return (← runAll e scope statements).value

/-- A function of which the values come one at a time starts when the first one is asked for. -/
def makeGenerator (e : Evaluator) (scope : Scope) (closure : Closure) (callee : Reference) :
    Machine Value := do
  let behind := if closure.text.heading.isAsynchronous then prototypePlace "AsyncGenerator"
    else generatorPrototype
  let prototype : Reference :=
    match ← getMember e.call (.object callee) prototypeKey with
    | .object place => place
    | _ => behind
  makeObject (.bare (.generator callee (.fresh scope closure.text.statements)) (some prototype))

/-- A promise is kept or broken by a computation. One that waits for another promise leaves it
pending. -/
def Progress.settle (promise : Reference) (frames : List Frame) (depth : Nat) :
    Progress Value → Progress Value
  | .done value world =>
      (changeKind promise (.promise (.kept value)) world).bind fun _ world =>
        .done (.object promise) world
  | .thrown value world =>
      (changeKind promise (.promise (.broken value)) world).bind fun _ world =>
        .done (.object promise) world
  | .stopped value world => .stopped value world
  | .paused (.wait _) world _ =>
      .done (.object promise) { world with frames := frames, depth := depth }
  | .paused wish world next =>
      .paused wish world fun word world => (next word world).settle promise frames depth

/-- Runs up to the first promise that is waited for. -/
def runAsynchronous (body : Machine Value) : Machine Value := do
  let promise ← allocate (.bare (.promise .pending) (some (prototypePlace "Promise")))
  fun world => (body world).settle promise world.frames world.depth

/-- The function runs with its arguments. -/
def runFunction (e : Evaluator) (closure : Closure) (callee : Reference) (receiver : Option Value)
    (newTarget : Value) (arguments : List Value) : Machine (Scope × Value) := do
  let heading := closure.text.heading
  let outer ← closure.enter callee receiver newTarget
  if heading.isAsynchronous && !heading.isGenerator then
    let value ← runAsynchronous do
      let scope ← bindArguments e outer closure.text callee arguments
      runBody e scope closure.text.statements
    return (outer, value)
  else
    let scope ← bindArguments e outer closure.text callee arguments
    if heading.isGenerator then return (outer, ← makeGenerator e scope closure callee)
    else return (outer, ← runBody e scope closure.text.statements)

/-- A function that is not strict is always called on an object. -/
def receiverIn (heading : Heading) (receiver : Value) : Machine Value := do
  if heading.mode = .strict || heading.role = .arrow then return receiver
  else if receiver.isAbsent then return globalValue
  else return .object (← toObject receiver)

/-- The object that new objects of a function inherit from. -/
def prototypeFor (call : Caller) (target : Value) (otherwise : Reference) : Machine Reference := do
  match target with
  | .object _ =>
      match ← getMember call target prototypeKey with
      | .object place => return place
      | _ => return otherwise
  | _ => return otherwise

/-- The fields of a class are set up in a new object. -/
def setFields (e : Evaluator) (made : Reference) (fields : List Field) : Machine Unit := do
  for field in fields do
    let value ← e.call (.on (.object made)) (.object field.compute) []
    let _ ← createMember e.call .strict made field.key value

/-- A new object is what the function answers with, or one that inherits from its prototype. -/
def constructPlain (e : Evaluator) (closure : Closure) (callee : Reference) (target : Value)
    (arguments : List Value) : Machine Value := do
  let made ← allocate (.bare .plain (some (← prototypeFor e.call target objectPrototype)))
  setFields e made closure.fields
  let (_, answer) ← runFunction e closure callee (some (.object made)) target arguments
  return if answer.isObject then answer else .object made

/-- The object is made by the class behind the one of the function. -/
def constructDerived (e : Evaluator) (closure : Closure) (callee : Reference) (target : Value)
    (arguments : List Value) : Machine Value := do
  let (scope, answer) ← runFunction e closure callee none target arguments
  if answer.isObject then return answer
  else if !answer.isUndefined then
    typeFaultText "derived class constructor must return an object or undefined"
  else receiverOf scope

/-- Calls a function of a script. -/
def callClosure (e : Evaluator) (manner : Manner) (callee : Reference) (closure : Closure)
    (arguments : List Value) : Machine Value := do
  let heading := closure.text.heading
  let isMaker := heading.role = .maker || heading.role = .derivedMaker
  insideFrame ⟨some callee, some closure.scope.file, heading.line⟩ do
    match manner with
    | .on receiver =>
        if isMaker then typeFaultText "class constructors must be invoked with 'new'"
        else
          let receiver ← receiverIn heading receiver
          return (← runFunction e closure callee (some receiver) .undefined arguments).2
    | .fresh target =>
        if heading.role = .derivedMaker then constructDerived e closure callee target arguments
        else constructPlain e closure callee target arguments

/-- The class behind another one makes the object of a new one, which then gets its fields. -/
def constructParent (e : Evaluator) (scope : Scope) (arguments : Machine (List Value)) :
    Machine Value := do
  let callee := scope.callee.getD globalPlace
  let parent ← prototypeOf e.call callee
  let arguments ← arguments
  let parent := functionValue parent
  unless ← lookUp fun memory => memory.isConstructor parent do notConstructor
  let made ← e.call (.fresh (← newTargetOf scope)) parent arguments
  match scope.receiver with
  | none => return made
  | some cell =>
      if (← cellValue cell).isSome then
        fault "ReferenceError" (Text.units "'this' can be initialized only once")
      else
        setCell cell (some made)
        match (← kindAt callee), made with
        | .function (.script closure), .object place => setFields e place closure.fields
        | _, _ => pure ()
        return made

end HostBridge.Script
