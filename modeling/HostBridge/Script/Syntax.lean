/-
This file defines the scripts that an engine runs.
-/
import HostBridge.Text.Units

namespace HostBridge.Script

/-- The texts of scripts are sequences of 16-bit code units. -/
abbrev Units := List UInt16

/-- A strict script may not make variables by assignment or act on locked members. -/
inductive Mode where
  | strict
  | loose
deriving DecidableEq, Inhabited

/-- The operators between two values. -/
inductive Operator where
  | add
  | subtract
  | multiply
  | divide
  | remainder
  | power
  | shiftLeft
  | shiftRight
  /-- Moves the bits of a number without a sign. -/
  | shiftPlain
  | bitAnd
  | bitOr
  | bitXor
  | less
  | greater
  | atMost
  | atLeast
  /-- Equality after conversion. -/
  | alike
  | unlike
  /-- Equality without conversion. -/
  | same
  | different
  | instanceOf
  /-- A key is among the keys of an object. -/
  | among
deriving DecidableEq

/-- The operators that evaluate their second operand only when the first one does not settle the
value. -/
inductive Connective where
  | both
  | either
  /-- The second operand stands in for an absent first one. -/
  | fallback
deriving DecidableEq

/-- The operators before a single value. -/
inductive Sign where
  | plus
  | minus
  | complement
  | opposite
deriving DecidableEq

/-- A function is called in one of these roles. -/
inductive Role where
  | plain
  /-- The receiver and the arguments are those of the function around it. -/
  | arrow
  | method
  | getter
  | setter
  /-- Makes the objects of a class. -/
  | maker
  /-- Leaves the making of the object to the class behind its own. -/
  | derivedMaker
  /-- Sets up the fields of a class or of an object of it. -/
  | fields
deriving DecidableEq

/-- The manner in which a statement declares names. -/
inductive Declared where
  | variable
  | changeable
  | constant
deriving DecidableEq

/-- What is known of a function before its parameters and its statements. -/
structure Heading where
  role : Role
  mode : Mode
  /-- The values of the function come one at a time. -/
  isGenerator : Bool
  isAsynchronous : Bool
  /-- The name under which the function knows itself. -/
  ownName : Option String
  /-- The name that the function shows. -/
  title : Option String
  /-- All parameters are plain names. -/
  isSimple : Bool
  /-- The parameters before the first one that can be left out. -/
  arity : Nat
  /-- The names that the parameters bind. -/
  parameterNames : List String
  /-- The variables of the function. -/
  variableNames : List String
  /-- The names that the statements declare. A constant is marked as one. -/
  names : List (String × Bool)
  /-- A call of `eval` in the function sees its variables. -/
  callsEval : Bool
  usesArguments : Bool
  line : Nat
  source : String

mutual

inductive Expression where
  /-- No expression stands here. -/
  | nothing
  | null
  | boolean (value : Bool)
  | number (value : Float)
  | whole (value : Int)
  | text (value : Units)
  /-- A pattern with its flags. -/
  | regex (source flags : Units)
  /-- The texts of values with fixed texts around them. -/
  | template (texts : List Units) (values : List Expression)
  /-- A function is called with texts and the values between them. -/
  | tagged (line : Nat) (tag : Expression) (texts : List (Option Units)) (raw : List Units)
      (values : List Expression)
  | name (name : String)
  /-- The value that a function is called on. -/
  | receiver
  /-- The function that `new` is applied to. -/
  | newTarget
  | array (items : List Expression)
  /-- All values of an iterable one stand here. -/
  | spread (operand : Expression)
  | object (members : List Member)
  | function (heading : Heading) (parameters : List Target) (statements : List Statement)
  /-- A class is made of its parent and the function that makes its objects. -/
  | blueprint (ownName title : Option String) (parent maker : Expression) (parts : List Member)
      (source : String)
  | signed (sign : Sign) (operand : Expression)
  | typeOf (operand : Expression)
  /-- An operand whose value is of no use. -/
  | void (operand : Expression)
  /-- Removes a member, and answers whether it is gone. -/
  | remove (operand : Expression)
  /-- Adds one or subtracts it. The value is the new number or the old one. -/
  | count (up isNew : Bool) (operand : Expression)
  | binary (operator : Operator) (left right : Expression)
  | connect (connective : Connective) (left right : Expression)
  | choose (test yes no : Expression)
  | assign (target : Target) (value : Expression)
  | modify (operator : Operator) (operand value : Expression)
  | settle (connective : Connective) (operand value : Expression)
  | sequence (left right : Expression)
  | member (object key : Expression)
  /-- A member of the object behind the one that the method belongs to. -/
  | inherited (key : Expression)
  | call (line : Nat) (callee : Expression) (arguments : List Expression)
  | construct (line : Nat) (callee : Expression) (arguments : List Expression)
  | constructParent (line : Nat) (arguments : List Expression)
  /-- Undefined as soon as a value in question is absent. -/
  | chain (inner : Expression)
  /-- A value in question. -/
  | question (inner : Expression)
  | await (operand : Expression)
  | yield (isDelegate : Bool) (operand : Expression)

/-- A member of an object literal or of a class. -/
inductive Member where
  | value (key : Expression) (isComputed : Bool) (content : Expression)
  /-- The object behind the literal. -/
  | prototype (content : Expression)
  | function (key content : Expression)
  /-- All members of another object. -/
  | spread (content : Expression)
  /-- A member of a class is one of the class itself. -/
  | fixed (inner : Member)

/-- What values are assigned to. -/
inductive Target where
  | place (expression : Expression)
  /-- A target that gets the value of an expression in place of an undefined one. -/
  | given (target : Target) (value : Expression)
  | array (items : List Target)
  | gap
  /-- All that is left. -/
  | rest (target : Target)
  | object (members : List Target)
  /-- A member of the object that is taken apart. -/
  | member (key : Expression) (target : Target)

inductive Statement where
  | value (expression : Expression)
  | declare (declared : Declared) (parts : List Target)
  /-- A function is made before the statements of its block. -/
  | function (name : String) (content : Expression)
  /-- A function in a block becomes a variable of the function around the block. -/
  | publish (name : String)
  | blueprint (name : String) (content : Expression)
  | block (names : List (String × Bool)) (statements : List Statement)
  | empty
  | branch (test : Expression) (yes no : Statement)
  | whileLoop (test : Expression) (body : Statement)
  | untilLoop (body : Statement) (test : Expression)
  /-- The names are new in every round. -/
  | countedLoop (names : List (String × Bool)) (start : Statement) (test step : Expression)
      (body : Statement)
  /-- The body runs for every key, or for every value. -/
  | memberLoop (names : List (String × Bool)) (ofValues : Bool) (declared : Option Declared)
      (target : Target) (before source : Expression) (body : Statement)
  | leave (label : Option String)
  | proceed (label : Option String)
  | answer (value : Expression)
  | raise (value : Expression)
  | attempt (body : Statement) (names : List (String × Bool)) (caught : Target)
      (handler : Statement)
  | final (body last : Statement)
  /-- The cases stand among the statements. -/
  | select (subject : Expression) (names : List (String × Bool)) (statements : List Statement)
  /-- Without a test this is the case for all other values. -/
  | case (test : Expression)
  | labelled (label : String) (body : Statement)
  /-- The members of an object are variables of the body. -/
  | within (object : Expression) (body : Statement)
  | line (number : Nat) (inner : Statement)

end

instance : Inhabited Expression := ⟨.null⟩

instance : Inhabited Statement := ⟨.empty⟩

/-- What a function is written as. -/
structure FunctionText where
  heading : Heading
  parameters : List Target
  statements : List Statement

/-- A whole script. -/
structure Program where
  mode : Mode
  variableNames : List String
  names : List (String × Bool)
  statements : List Statement
  callsEval : Bool

end HostBridge.Script
