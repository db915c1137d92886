/-
This file defines what the functions of the language are and how they are listed.
-/
import HostBridge.Script.Evaluation.Basic

namespace HostBridge.Script

/-- What a function of the language is given. -/
structure Given where
  receiver : Value
  arguments : List Value
  /-- What `new` was applied to, if the function is to make an object. -/
  target : Option Value
  callee : Reference
  /-- The values that the function holds. -/
  held : List Value

def Given.argument (given : Given) (index : Nat) : Value := argumentAt given.arguments index

def Given.first (given : Given) : Value := given.argument 0

def Given.second (given : Given) : Value := given.argument 1

def Given.third (given : Given) : Value := given.argument 2

def Given.count (given : Given) : Nat := given.arguments.length

def Given.isFresh (given : Given) : Bool := given.target.isSome

/-- What a function of the language does. -/
abbrev NativeAction := Caller → Given → Machine Value

/-- A function of the language. -/
structure Native where
  name : String
  arity : Nat
  /-- Objects can be made by the function. -/
  isClass : Bool
  run : Evaluator → Given → Machine Value

def Native.plain (name : String) (arity : Nat) (action : NativeAction) : Native :=
  ⟨name, arity, false, fun e given => action e.call given⟩

/-- What an object of the language holds. -/
inductive Article where
  | function (key : Key) (native : Native)
  | accessor (key : Key) (getter : Native) (setter : Option Native)
  | constant (key : Key) (property : Property)
  /-- What is under one key stands under another one too. -/
  | again (key : Key) (source : Key)
  /-- A global variable stands here too. -/
  | global (key : Key)

/-- The members of an object of the language in their order. -/
abbrev Shelf := List Article

/-- A function under its name. -/
def shelved (name : String) (arity : Nat) (action : NativeAction) : Article :=
  .function (.ofString name) (.plain name arity action)

/-- A function under a symbol. -/
def shelvedSymbol (key : Key) (arity : Nat) (action : NativeAction) : Article :=
  .function key (.plain (shownText key.title) arity action)

def shelvedGetter (key : Key) (action : NativeAction) : Article :=
  .accessor key (.plain ("get " ++ shownText key.title) 0 action) none

def shelvedAccessor (name : String) (getter setter : NativeAction) : Article :=
  .accessor (.ofString name) (.plain ("get " ++ name) 0 getter)
    (some (.plain ("set " ++ name) 1 setter))

def shelvedAgain (name source : String) : Article := .again (.ofString name) (.ofString source)

/-- The name that the text of an object shows. -/
def shelvedTag (tag : String) : Article := .constant tagSymbol (.replaceable (.ofString tag))

def shelvedConstant (name : String) (value : Value) : Article :=
  .constant (.ofString name) (.locked value)

/-- A class names itself as the maker of what is like its objects. -/
def shelvedSpecies : Article := shelvedGetter speciesSymbol fun _ given => return given.receiver

/-- The functions that other functions of the language make. -/
inductive Helper where
  /-- Keeps a promise. -/
  | keep
  /-- Breaks a promise. -/
  | deny
  /-- Takes down the functions that keep and break a promise. -/
  | capture
  /-- Takes from a proxy what it stands for. -/
  | revoke
deriving DecidableEq

/-- All helpers, which come first among the functions of the language. -/
def Helper.all : List Helper := [.keep, .deny, .capture, .revoke]

def Helper.number (helper : Helper) : Nat := Helper.all.idxOf helper

/-- A helper with values that it holds has no name. -/
def makeHelper (helper : Helper) (arity : Nat) (held : List Value) : Machine Value :=
  makeObject (((Object.bare (.function (.standard helper.number false held))
    (some functionPrototype)).put lengthKey (.replaceable (.ofNat arity))).put
      nameKey (.replaceable (.text [])))

/-- A function that makes objects, when `new` is applied to it or always. -/
def Native.maker (name : String) (arity : Nat) (action : NativeAction) : Native :=
  ⟨name, arity, true, fun e given => action e.call given⟩

/-- A function that makes objects only when `new` is applied to it. -/
def Native.newMaker (name : String) (arity : Nat) (action : NativeAction) : Native :=
  .maker name arity fun call given =>
    if given.isFresh then action call given else typeFaultText "must be called with new"

/-- A truth value as the value of a function. -/
def truthOf (computation : Machine Bool) : Machine Value := do return .boolean (← computation)

/-- The text of an argument, or another one where there is no argument. -/
def textOr (call : Caller) (value : Value) (otherwise : Units) : Machine Units := do
  if value.isUndefined then return otherwise else toText call value

/-- An index counted from the start, or from the end where it is negative. -/
def clampIndex (place : Int) (size : Nat) : Nat :=
  if place < 0 then (place + size).toNat else min place.toNat size

/-- The index that an argument gives, if there is one. -/
def indexOr (call : Caller) (argument : Value) (size otherwise : Nat) : Machine Nat := do
  if argument.isUndefined then return otherwise else return clampIndex (← toWhole call argument) size

def indexValue (found : Option Nat) : Value :=
  match found with
  | some index => .ofNat index
  | none => .integer (-1)

/-- The class that makes new objects like an object. -/
def speciesOf (call : Caller) (holder : Value) (otherwise : Reference) : Machine Value := do
  match ← getMember call holder constructorKey with
  | .undefined => return .object otherwise
  | .object place =>
      let species ← getMember call (.object place) speciesSymbol
      return if species.isAbsent then .object otherwise else species
  | _ => notObject

/-- The prototype that a new object gets from what `new` was applied to. -/
def Given.prototype (call : Caller) (given : Given) (otherwise : Reference) :
    Machine Reference := do
  match given.target with
  | some target =>
      match ← getMember call target prototypeKey with
      | .object place => return place
      | _ => return otherwise
  | none => return otherwise

/-- Keys as an array of their values. -/
def makeKeys (keys : List Key) : Machine Value := makeArray (keys.map Key.value)

/-- An array of a key and a value. -/
def makePair (key value : Value) : Machine Value := makeArray [key, value]

end HostBridge.Script
