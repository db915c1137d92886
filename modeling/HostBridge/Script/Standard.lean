/-
This file defines the objects that scripts find before anything is attached.
-/
import HostBridge.Proxy
import HostBridge.Script.Library.Array
import HostBridge.Script.Library.Collection
import HostBridge.Script.Library.Date
import HostBridge.Script.Library.Fault
import HostBridge.Script.Library.Global
import HostBridge.Script.Library.JsonWriter
import HostBridge.Script.Library.Mathematics
import HostBridge.Script.Library.Promise
import HostBridge.Script.Library.Reflection
import HostBridge.Script.Library.Text

namespace HostBridge.Script

/-- The objects of the language while they are made, and the functions by their numbers. -/
structure DraftedLibrary where
  memory : Memory
  natives : Array Native

abbrev Drafting := StateM DraftedLibrary

def draftObject (object : Object) : Drafting Reference :=
  modifyGet fun draft =>
    (draft.memory.size, { draft with memory := draft.memory.push object })

def changeDraft (place : Reference) (step : Object → Object) : Drafting Unit :=
  modify fun draft => { draft with memory := draft.memory.modify place step }

def draftMember (place : Reference) (key : Key) (property : Property) : Drafting Unit :=
  changeDraft place fun object => object.put key property

/-- A function with a new number. -/
def functionObject (native : Native) (behind : Reference) : Drafting Object :=
  modifyGet fun draft =>
    let code := Code.standard draft.natives.size native.isClass []
    let object := ((Object.bare (.function code) (some behind)).put lengthKey
      (.replaceable (.ofNat native.arity))).put nameKey (.replaceable (.ofString native.name))
    (object, { draft with natives := draft.natives.push native })

def draftFunction (native : Native) (behind : Reference) : Drafting Reference := do
  draftObject (← functionObject native behind)

/-- A function at a place that is known. -/
def draftFunctionAt (place : Reference) (native : Native) (behind : Reference) :
    Drafting Unit := do
  let object ← functionObject native behind
  changeDraft place fun _ => object

/-- What stands under a key of an object already. -/
def draftedMember (place : Reference) (key : Key) : Drafting Property := do
  return (((← get).memory.object place).own? key).getD default

def draftArticle (place : Reference) (article : Article) : Drafting Unit := do
  match article with
  | .function key native =>
      let function ← draftFunction native functionPrototype
      draftMember place key (.hidden (.object function))
  | .accessor key getter setter =>
      let getter ← draftFunction getter functionPrototype
      let setter ← setter.mapM fun native => draftFunction native functionPrototype
      draftMember place key (.accessor (some getter) setter false true)
  | .constant key property => draftMember place key property
  | .again key source => do draftMember place key (← draftedMember place source)
  | .global key => do draftMember place key (← draftedMember globalPlace key)

def draftShelf (place : Reference) (shelf : Shelf) : Drafting Unit :=
  shelf.forM (draftArticle place)

/-- A class and its prototype know each other. -/
def linkClass (constructor prototype : Reference) : Drafting Unit := do
  draftMember constructor prototypeKey (.locked (.object prototype))
  draftMember prototype constructorKey (.hidden (.object constructor))

/-- A class of the language: the function that makes its objects, the place for it if that is known,
what it has itself and what its objects inherit. -/
structure StandardClass where
  native : Native
  place : Option Reference
  prototype : Reference
  own : Shelf
  shared : Shelf
  /-- The objects can tell their class before anything else. -/
  linksFirst : Bool

def StandardClass.named (native : Native) (own shared : Shelf) : StandardClass :=
  ⟨native, none, prototypePlace native.name, own, shared, false⟩

/-- A class is a global variable. -/
def draftClass (entry : StandardClass) (behind : Reference) : Drafting Reference := do
  if !entry.linksFirst then draftShelf entry.prototype entry.shared
  let constructor ←
    match entry.place with
    | some place => do
        draftFunctionAt place entry.native behind
        pure place
    | none => draftFunction entry.native behind
  draftMember globalPlace (.ofString entry.native.name) (.hidden (.object constructor))
  linkClass constructor entry.prototype
  draftShelf constructor entry.own
  if entry.linksFirst then draftShelf entry.prototype entry.shared
  return constructor

def draftClasses (entries : List StandardClass) : Drafting Unit :=
  entries.forM fun entry => do
    let _ ← draftClass entry functionPrototype

/-- An object of functions that is no class. -/
def draftLibrary (name : String) (shelf : Shelf) : Drafting Unit := do
  let place ← draftObject (.bare .plain (some objectPrototype))
  draftShelf place shelf
  draftMember globalPlace (.ofString name) (.hidden (.object place))

/-- A class of errors. All but the first one inherit from it. -/
def errorClass (name : String) : StandardClass :=
  .named (.maker name (if name = "AggregateError" then 2 else 1) (makeError name)) []
    (errorShelf name)

def draftErrors : Drafting Unit := do
  let first ← draftClass (errorClass "Error") functionPrototype
  (errorClasses.drop 1).forM fun name => do
    let _ ← draftClass (errorClass name) first

def objectClass : StandardClass :=
  { StandardClass.named (.maker "Object" 1 makeAnyObject) objectShelf inheritedShelf with
    linksFirst := true }

def functionClass : StandardClass :=
  .named (.maker "Function" 1 (makeFunctionOfTexts false false functionPrototype)) [] functionShelf

def arrayClass : StandardClass := .named (.maker "Array" 1 makeArrayOf) arrayClassShelf arrayShelf

def textClass : StandardClass :=
  { StandardClass.named (.maker "String" 1 makeText) textClassShelf textShelf with
    linksFirst := true }

def primitiveClasses : List StandardClass := [
  .named (.maker "Number" 1 makeNumber) numberClassShelf numberShelf,
  .named (.maker "Boolean" 1 makeTruth) [] truthShelf,
  textClass]

def symbolClass : StandardClass :=
  .named (.maker "Symbol" 0 makeSymbol) symbolClassShelf symbolShelf

def dateClass : StandardClass := .named (.maker "Date" 7 makeDate) dateClassShelf dateShelf

def regexClass : StandardClass :=
  { StandardClass.named (.maker "RegExp" 2 makeRegexOf) [shelvedSpecies] regexShelf with
    place := some regexPlace }

def collectionClass (holding : Holding) : StandardClass :=
  .named (.newMaker holding.name 0 holding.make) holding.classShelf holding.shelf

def collectionClasses : List StandardClass :=
  [⟨true, false⟩, ⟨false, false⟩, ⟨true, true⟩, ⟨false, true⟩].map collectionClass

def promiseClass : StandardClass :=
  { StandardClass.named (.newMaker "Promise" 1 makePromise) promiseClassShelf promiseShelf with
    place := some promisePlace }

def bigClass : StandardClass := .named (.maker "BigInt" 1 makeBig) bigClassShelf bigShelf

/-- Classes of raw data of which scripts know little more than the names. -/
def dataClasses : List (String × Nat) := [
  ("ArrayBuffer", 1), ("SharedArrayBuffer", 1), ("Uint8ClampedArray", 3), ("Int8Array", 3),
  ("Uint8Array", 3), ("Int16Array", 3), ("Uint16Array", 3), ("Int32Array", 3), ("Uint32Array", 3),
  ("BigInt64Array", 3), ("BigUint64Array", 3), ("Float32Array", 3), ("Float64Array", 3),
  ("DataView", 1)]

def draftDataClass (name : String) (arity : Nat) : Drafting Unit := do
  let prototype ← draftObject (.bare .plain (some objectPrototype))
  let native := Native.newMaker name arity fun call given => do
    makeEmpty (some (← given.prototype call prototype))
  let _ ← draftClass ⟨native, none, prototype, [], [shelvedTag name], false⟩ functionPrototype

/-- Functions do not tell who calls them. -/
def draftCallers : Drafting Unit := do
  let guardian ← draftFunction (.plain "" 0 guardCallers) functionPrototype
  changeDraft guardian fun object =>
    let object := (object.put lengthKey (.locked (.integer 0))).put nameKey (.locked (.text []))
    { object with extensible := false }
  let guarded := Property.accessor (some guardian) (some guardian) false true
  draftMember functionPrototype (.ofString "caller") guarded
  draftMember functionPrototype (.ofString "arguments") guarded

/-- The classes of special functions are no global variables. -/
def draftFunctionClass (name : String) (isGenerator isAsynchronous : Bool) : Drafting Unit := do
  let prototype := prototypePlace name
  let native := Native.maker name 1 (makeFunctionOfTexts isGenerator isAsynchronous prototype)
  let constructor ← draftFunction native functionPrototype
  draftMember prototype tagSymbol (.replaceable (.ofString name))
  draftMember constructor prototypeKey (.locked (.object prototype))
  draftMember prototype constructorKey (.replaceable (.object constructor))

/-- What special functions make inherits from a prototype that they share. -/
def linkMade (functionName madeName : String) : Drafting Unit := do
  let function := prototypePlace functionName
  let made := prototypePlace madeName
  draftMember function prototypeKey (.replaceable (.object made))
  draftMember made constructorKey (.replaceable (.object function))

def draftWalks : Drafting Unit := do
  draftShelf (prototypePlace "Iterator") iteratorShelf
  ["Array Iterator", "String Iterator", "Map Iterator", "Set Iterator"].forM fun name =>
    draftShelf (prototypePlace name) (walkShelf name)
  draftShelf (prototypePlace "RegExp String Iterator") matchWalkShelf
  draftShelf (prototypePlace "AsyncIterator")
    [shelvedSymbol (.wellKnown "asyncIterator") 0 fun _ given => return given.receiver]

def draftGenerators : Drafting Unit := do
  draftShelf generatorPrototype generatorShelf
  draftShelf (prototypePlace "AsyncGenerator") asynchronousShelf
  draftFunctionClass "GeneratorFunction" true false
  draftFunctionClass "AsyncFunction" false true
  draftFunctionClass "AsyncGeneratorFunction" true true
  linkMade "GeneratorFunction" "Generator"
  linkMade "AsyncGeneratorFunction" "AsyncGenerator"

/-- Some members of arrays are no variables where an array is asked for them. -/
def draftHiddenItems : Drafting Unit := do
  let names := hiddenItemNames.map fun name => (Key.ofString name, Property.plain (.boolean true))
  let place ← draftObject (names.foldl (fun object entry => object.put entry.1 entry.2)
    (.bare .plain none))
  draftMember arrayPrototype unscopableSymbol (.replaceable (.object place))

def draftFundamentals : Drafting Unit := do
  draftCallers
  draftClasses [objectClass, functionClass]
  draftErrors
  draftWalks
  draftClasses [arrayClass]
  draftHiddenItems
  draftShelf globalPlace globalShelf
  draftClasses primitiveClasses
  draftLibrary "Math" mathematicsShelf
  draftLibrary "Reflect" reflectShelf
  draftClasses [symbolClass]
  draftGenerators
  draftFunctionAt evalPlace evalNative functionPrototype
  draftMember globalPlace (.ofString "eval") (.hidden (.object evalPlace))
  draftMember globalPlace (.ofString "globalThis") (.hidden (.object globalPlace))

def draftProxyClass : Drafting Unit := do
  let constructor ← draftFunction (.newMaker "Proxy" 2 makeProxy) functionPrototype
  draftShelf constructor proxyClassShelf
  draftMember globalPlace (.ofString "Proxy") (.hidden (.object constructor))

def draftExtras : Drafting Unit := do
  draftClasses [dateClass, regexClass]
  draftLibrary "JSON" jsonShelf
  draftProxyClass
  draftClasses collectionClasses
  dataClasses.forM fun entry => draftDataClass entry.1 entry.2
  draftLibrary "Atomics" [shelvedTag "Atomics"]
  draftClasses [promiseClass, bigClass]

/-- A hook of the host is a function without a name. -/
def hookObject (code : Code) (arity : Nat) : Object :=
  (Object.bare (.function code) (some functionPrototype)).put lengthKey
    (.replaceable (.ofNat arity))

/-- What scripts find. The hook that prints is known from the start. -/
def draftAll : Drafting Unit := do
  draftFundamentals
  draftExtras
  let hook ← draftObject (hookObject .hostPrint 1)
  draftMember globalPlace (.ofString hostPrintName) (.plain (.object hook))

/-- What the function of a helper does. -/
def Helper.native : Helper → Native
  | .keep => .plain "" 1 runKeep
  | .deny => .plain "" 1 runDeny
  | .capture => .plain "" 2 runCapture
  | .revoke => .plain "" 0 revokeProxy

/-- The functions whose numbers are known. -/
def knownNatives : Array Native :=
  (Helper.all.map Helper.native ++ [Native.plain "" 0 fun _ _ => return .undefined]).toArray

/-- The prototype of all functions is a function that does nothing. -/
def functionFoundation : Object :=
  ((Object.bare (.function (.standard Helper.all.length false [])) (some objectPrototype)).put
    lengthKey (.replaceable (.integer 0))).put nameKey (.replaceable (.text []))

/-- What a prototype inherits from. -/
def prototypeBehind (name : String) : Reference :=
  if ["Array Iterator", "String Iterator", "Map Iterator", "Set Iterator",
      "RegExp String Iterator", "Generator"].contains name then prototypePlace "Iterator"
  else if name = "AsyncGenerator" then prototypePlace "AsyncIterator"
  else if ["GeneratorFunction", "AsyncFunction", "AsyncGeneratorFunction"].contains name then
    functionPrototype
  else if (errorClasses.drop 1).contains name then errorPrototype "Error"
  else objectPrototype

/-- A prototype before it has members. -/
def prototypeFoundation (name : String) : Object :=
  let behind := some (prototypeBehind name)
  match name with
  | "Object" => .bare .plain none
  | "Function" => functionFoundation
  | "Array" => .bare (.array 0 true) behind
  | "String" => .bare (.boxed (.text [])) behind
  | "Number" => .bare (.boxed (.integer 0)) behind
  | "Boolean" => .bare (.boxed (.boolean false)) behind
  | _ => .bare .plain behind

/-- The objects with places of their own, before they have members. -/
def foundation : Memory :=
  let plain := Object.bare .plain (some objectPrototype)
  ((plain :: prototypeNames.map prototypeFoundation) ++ [plain, plain, plain]).toArray

def initialDraft : DraftedLibrary := (draftAll.run ⟨foundation, knownNatives⟩).2

/-- The functions of the language by their numbers. -/
def standardNatives : Array Native := initialDraft.natives

def initialWorld : World where
  memory := initialDraft.memory
  cells := #[]
  lexicals := []
  printed := ""
  host := .empty
  symbols := wellKnownNames.length
  shared := []
  tickets := 0
  frames := []
  depth := 0

end HostBridge.Script
