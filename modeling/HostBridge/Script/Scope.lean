/-
This file defines what the code of a script finds around it.
-/
import HostBridge.Script.Syntax

namespace HostBridge.Script

/-- The place of an object in the memory. -/
abbrev Reference := Nat

/-- The place of the value of a variable. -/
abbrev Cell := Nat

/-- How a name reacts to an assignment. -/
inductive Binding where
  | changeable
  | constant
  /-- The name of a function inside of it. Only a strict script is told that it stays. -/
  | fixed
deriving DecidableEq

structure Variable where
  name : String
  cell : Cell
  binding : Binding

/-- Names are looked for from layer to layer. -/
inductive Layer where
  | locals (list : List Variable)
  /-- The members of an object are variables. The flag says that a script asked for it, so that the
  object is the receiver of functions that are found in it. -/
  | members (object : Reference) (isAsked : Bool)

structure Scope where
  mode : Mode
  layers : List Layer
  /-- The cell of the receiver. A whole script is received by the global object. -/
  receiver : Option Cell
  /-- The cell of the function that `new` was applied to. -/
  newTarget : Option Cell
  /-- The function around the code that has a receiver of its own. -/
  callee : Option Reference
  /-- The object that the function belongs to. -/
  home : Option Reference
  /-- The cell of the value of the script that is evaluated. -/
  answer : Option Cell
  /-- The name of the script for traces of calls. -/
  file : String

instance : Inhabited Scope := ⟨⟨.loose, [], none, none, none, none, none, ""⟩⟩

/-- The scope of a whole script. -/
def Scope.top (mode : Mode) (answer : Option Cell) (file : String) : Scope :=
  ⟨mode, [], none, none, none, none, answer, file⟩

def Scope.layer (scope : Scope) (layer : Layer) : Scope :=
  { scope with layers := layer :: scope.layers }

/-- A scope with variables of its own. -/
def Scope.declare (scope : Scope) (list : List Variable) : Scope :=
  if list.isEmpty then scope else scope.layer (.locals list)

end HostBridge.Script
