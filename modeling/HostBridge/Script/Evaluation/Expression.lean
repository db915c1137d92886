/-
This file evaluates the expressions of scripts.
-/
import HostBridge.Script.Evaluation.Class
import HostBridge.Script.Regex.Reader

namespace HostBridge.Script

/-- The values of arguments or items, of which some stand for all values of an object. -/
def evaluateArguments (e : Evaluator) (scope : Scope) : List Expression → Machine (List Value)
  | [] => return []
  | .spread operand :: rest => do
      let values ← allValues e.call (← e.value scope operand)
      return values.toList ++ (← evaluateArguments e scope rest)
  | argument :: rest => do
      let value ← e.value scope argument
      return value :: (← evaluateArguments e scope rest)

/-- The items of an array one after the other. A gap only makes it longer. -/
def evaluateItems (e : Evaluator) (scope : Scope) (place : Reference) :
    Nat → List Expression → Machine Unit
  | index, [] => changeObject place fun object => object.resize index true
  | index, .nothing :: rest => evaluateItems e scope place (index + 1) rest
  | index, .spread operand :: rest => do
      let values ← allValues e.call (← e.value scope operand)
      changeObject place fun object =>
        (values.foldl (fun (object, index) value =>
          (Object.putIndex object index (.plain value), index + 1)) (object, index)).1
      evaluateItems e scope place (index + values.size) rest
  | index, item :: rest => do
      let value ← e.value scope item
      changeObject place fun object => object.putIndex index (.plain value)
      evaluateItems e scope place (index + 1) rest

def evaluateArray (e : Evaluator) (scope : Scope) (items : List Expression) : Machine Value := do
  let place ← allocate (.ofItems #[])
  evaluateItems e scope place 0 items
  return .object place

/-- The texts and values of a template take turns. Empty texts behind the first one do not count. -/
def templateArguments (e : Evaluator) (scope : Scope) :
    List Units → List Expression → Machine (List Value)
  | texts, value :: values => do
      let value ← e.value scope value
      let text := (texts.head?).getD []
      let rest ← templateArguments e scope (texts.drop 1) values
      return value :: if text.isEmpty then rest else .text text :: rest
  | _, [] => return []

/-- The first text of a template is joined with all that follows. -/
def evaluateTemplate (e : Evaluator) (scope : Scope) (texts : List Units)
    (values : List Expression) : Machine Value := do
  let first := Value.text ((texts.head?).getD [])
  if values.isEmpty then return first
  else
    let method ← getNamed e.call first "concat"
    e.call (.on first) method (← templateArguments e scope (texts.drop 1) values)

/-- An array that no script can change. -/
def frozenItems (items : List Value) : Object :=
  items.mapIdx (fun index item => (index, item)) |>.foldl
    (fun object entry => object.put (.index entry.1) (.data entry.2 false true false))
    (.ofItems #[])

/-- The texts of a template, as they are meant and as they are written. -/
def makeTexts (texts : List (Option Units)) (raw : List Units) : Machine Value := do
  let close (object : Object) : Object := { object.resize texts.length false with extensible := false }
  let written ← allocate (close (frozenItems (raw.map .text)))
  let meant := frozenItems (texts.map fun text => (text.map Value.text).getD .undefined)
  makeObject (close (meant.put (.ofString "raw") (.locked (.object written))))

/-- A pattern with its flags becomes an object. -/
def makeRegex (source flags : Units) (program : RegexProgram) (prototype : Reference) :
    Machine Value :=
  makeObject ((Object.bare (.regex source flags program) (some prototype)).put
    (.ofString "lastIndex") (.data (.integer 0) true false false))

def evaluateRegex (source flags : Units) : Machine Value :=
  match RegexProgram.ofUnits source flags with
  | .ok program => makeRegex source flags program regexPrototype
  | .error flaw => syntaxFault flaw.message

/-- The value of a call, whose function and receiver are known. -/
def callLink (e : Evaluator) (scope : Scope) (line : Nat) (link : Value × Value)
    (arguments : List Expression) : Machine Value := do
  let arguments ← evaluateArguments e scope arguments
  setLine line
  e.call (.on link.2) link.1 arguments

/-- What a call of a script's own text does. -/
abbrev InnerText := Scope → Value → Machine Value

/-- A call of the function that evaluates texts sees the variables around it. -/
def evaluateCall (e : Evaluator) (inner : InnerText) (scope : Scope) (line : Nat)
    (callee : Expression) (arguments : List Expression) : Machine (Option (Value × Value)) := do
  match ← e.link scope callee with
  | none => return none
  | some link =>
      match callee, link.1 with
      | .name "eval", .object place =>
          if place = evalPlace then
            let arguments ← evaluateArguments e scope arguments
            setLine line
            return some (← inner scope (argumentAt arguments 0), .undefined)
          else return some (← callLink e scope line link arguments, .undefined)
      | _, _ => return some (← callLink e scope line link arguments, .undefined)

/-- A value with the receiver of a call of it. -/
def evaluateLink (e : Evaluator) (inner : InnerText) (scope : Scope) (expression : Expression) :
    Machine (Option (Value × Value)) := do
  match expression with
  | .name word => return some (← readCallee e.call scope word)
  | .member holder key =>
      match ← e.link scope holder with
      | none => return none
      | some (holder, _) =>
          let key ← evaluateKey e scope key
          return some (← getMember e.call holder key, holder)
  | .inherited key =>
      let receiver ← receiverOf scope
      let key ← evaluateKey e scope key
      return some (← getBehind e.call (← parentOf e scope) key receiver, receiver)
  | .question operand =>
      match ← e.link scope operand with
      | some (value, receiver) =>
          return if value.isAbsent then none else some (value, receiver)
      | none => return none
  | .chain operand =>
      match ← e.link scope operand with
      | some found => return some found
      | none => return some (.undefined, .undefined)
  | .call line callee arguments => evaluateCall e inner scope line callee arguments
  | _ => return some (← e.value scope expression, .undefined)

def evaluateTypeName (e : Evaluator) (scope : Scope) (operand : Expression) : Machine Value := do
  let value ←
    match operand with
    | .name word => readNameOrNothing e.call scope word
    | _ => e.value scope operand
  return .ofString (← lookUp fun memory => memory.typeName value)

/-- Removes what an expression stands for. -/
def evaluateRemoval (e : Evaluator) (scope : Scope) (operand : Expression) : Machine Bool := do
  match operand with
  | .name word => removeName e.call scope word
  | .member holder key =>
      let holder ← e.value scope holder
      deleteMember e.call scope.mode holder (← evaluateKey e scope key)
  | .chain (.member holder key) =>
      match ← e.link scope holder with
      | none => return true
      | some (holder, _) => deleteMember e.call scope.mode holder (← evaluateKey e scope key)
  | .inherited _ => fault "ReferenceError" (Text.units "unsupported reference to 'super'")
  | _ =>
      let _ ← e.value scope operand
      return true

def evaluateCount (e : Evaluator) (scope : Scope) (up isNew : Bool) (operand : Expression) :
    Machine Value := do
  let slot ← slotOf e scope operand
  let old ← toNumeric e.call (← slot.read e.call)
  let fresh := counted up old
  slot.write e.call scope.mode fresh
  return if isNew then fresh else old

/-- The first operand settles the value of some connections. -/
def Connective.isSettled (connective : Connective) (value : Value) : Bool :=
  match connective with
  | .both => !value.truth
  | .either => value.truth
  | .fallback => !value.isAbsent

def evaluateAssignment (e : Evaluator) (scope : Scope) (target : Target) (value : Expression) :
    Machine Value := do
  match target with
  | .place (.name word) =>
      let site ← findName e.call word scope.layers
      let value ← e.value scope value
      site.assign e.call scope.mode word value
      return value
  | .place (.member holder key) =>
      let holder ← e.value scope holder
      let name ←
        match key with
        | .text units => pure (Value.text units)
        | _ => e.value scope key
      let value ← e.value scope value
      let key ← toKey e.call name
      let _ ← setMember e.call scope.mode holder key value
      return value
  | .place place =>
      let slot ← slotOf e scope place
      let value ← e.value scope value
      slot.write e.call scope.mode value
      return value
  | _ =>
      let value ← e.value scope value
      e.store scope .other target (return value)
      return value

def evaluateChange (e : Evaluator) (scope : Scope) (operator : Operator)
    (operand value : Expression) : Machine Value := do
  let slot ← slotOf e scope operand
  let old ← slot.read e.call
  let fresh ← runOperator e.call operator old (← e.value scope value)
  slot.write e.call scope.mode fresh
  return fresh

/-- Assigns only if the old value does not settle it. -/
def evaluateSettling (e : Evaluator) (scope : Scope) (connective : Connective)
    (operand value : Expression) : Machine Value := do
  let slot ← slotOf e scope operand
  let old ← slot.read e.call
  if connective.isSettled old then return old
  else
    let fresh ← e.value scope value
    slot.write e.call scope.mode fresh
    return fresh

/-- Goes on with the word that a paused function is given. -/
def obey (word : Word) : Machine Value :=
  match word with
  | .proceed value => return value
  | .fail thrown => raise thrown
  | .finish value => stop value

/-- A method of an iterator is told a word, if the iterator has it. -/
def tellIterator (e : Evaluator) (iterator : Iterator) (name : String) (value : Value) :
    Machine (Option Value) := do
  let method ← getNamed e.call iterator.source name
  if method.isAbsent then return none
  else return some (← e.call (.on iterator.source) method [value])

/-- An iterator is told a word and answers. -/
def relay (e : Evaluator) (iterator : Iterator) (word : Word) : Machine Value := do
  match word with
  | .proceed value => e.call (.on iterator.source) iterator.next [value]
  | .fail thrown =>
      match ← tellIterator e iterator "throw" thrown with
      | some answer => return answer
      | none =>
          iterator.close e.call
          typeFaultText "iterator does not have a throw method"
  | .finish value =>
      match ← tellIterator e iterator "return" value with
      | some answer => return answer
      | none => stop value

def Word.isFinish : Word → Bool
  | .finish _ => true
  | _ => false

/-- All values of an iterator are given one by one. The first argument bounds their number. -/
def delegate (e : Evaluator) (iterator : Iterator) : Nat → Word → Machine Value
  | 0, _ => interrupted
  | bound + 1, word => do
      let answer ← relay e iterator word
      if !answer.isObject then typeFaultText "iterator must return an object"
      else if (← getMember e.call answer doneKey).truth then
        let value ← getMember e.call answer valueKey
        if word.isFinish then stop value else return value
      else
        let word ← askFor (.give (← getMember e.call answer valueKey))
        delegate e iterator bound word

def evaluateYield (e : Evaluator) (scope : Scope) (isDelegate : Bool) (operand : Expression) :
    Machine Value := do
  let value ← e.value scope operand
  if isDelegate then delegate e (← openIterator e.call value) roundLimit (.proceed .undefined)
  else obey (← askFor (.give value))

/-- The value of an expression. -/
def evaluate (e : Evaluator) (inner : InnerText) (scope : Scope) (expression : Expression) :
    Machine Value := do
  match expression with
  | .nothing => return .undefined
  | .null => return .null
  | .boolean truth => return .boolean truth
  | .number size => return .ofFloat size
  | .whole size => return .big size
  | .text units => return .text units
  | .name word => nameValue e.call scope word
  | .member holder key =>
      let holder ← e.value scope holder
      getMember e.call holder (← evaluateKey e scope key)
  | .call line callee arguments =>
      return ((← evaluateCall e inner scope line callee arguments).getD (.undefined, .undefined)).1
  | .binary operator left right =>
      let left ← e.value scope left
      runOperator e.call operator left (← e.value scope right)
  | .assign target value => evaluateAssignment e scope target value
  | .receiver => receiverOf scope
  | .array items => evaluateArray e scope items
  | .object members => evaluateObject e scope members
  | .function heading parameters statements =>
      makeFunction scope ⟨heading, parameters, statements⟩
  | .connect connective left right =>
      let left ← e.value scope left
      if connective.isSettled left then return left else e.value scope right
  | .choose test yes no =>
      if (← e.value scope test).truth then e.value scope yes else e.value scope no
  | .signed sign operand => do runSign e.call sign (← e.value scope operand)
  | .count up isNew operand => evaluateCount e scope up isNew operand
  | .modify operator operand value => evaluateChange e scope operator operand value
  | .settle connective operand value => evaluateSettling e scope connective operand value
  | .sequence left right =>
      let _ ← e.value scope left
      e.value scope right
  | .regex source flags => evaluateRegex source flags
  | .template texts values => evaluateTemplate e scope texts values
  | .tagged line tag texts raw values =>
      match ← e.link scope tag with
      | none => return .undefined
      | some (function, receiver) =>
          let given ← makeTexts texts raw
          let values ← evaluateArguments e scope values
          setLine line
          e.call (.on receiver) function (given :: values)
  | .newTarget => newTargetOf scope
  | .spread operand => e.value scope operand
  | .blueprint ownName title parent maker parts source =>
      evaluateClass e scope ownName title parent maker parts source
  | .typeOf operand => evaluateTypeName e scope operand
  | .void operand =>
      let _ ← e.value scope operand
      return .undefined
  | .remove operand => return .boolean (← evaluateRemoval e scope operand)
  | .inherited _ =>
      return ((← e.link scope expression).getD (.undefined, .undefined)).1
  | .construct line callee arguments =>
      let callee ← e.value scope callee
      let arguments ← evaluateArguments e scope arguments
      setLine line
      e.call (.fresh callee) callee arguments
  | .constructParent line arguments =>
      constructParent e scope do
        let arguments ← evaluateArguments e scope arguments
        setLine line
        return arguments
  | .chain _ | .question _ =>
      return ((← e.link scope expression).getD (.undefined, .undefined)).1
  | .await operand => do obey (← askFor (.wait (← e.value scope operand)))
  | .yield isDelegate operand => evaluateYield e scope isDelegate operand

end HostBridge.Script
