/-
This file defines the objects that stand for host objects in scripts.
-/
import HostBridge.Registry
import HostBridge.Text.Quoted

namespace HostBridge

/-- The function of scripts that every method of a proxy calls. -/
def invokeName : String := "__bridgeInvoke"

/-- The hook that takes the names of an object and a method and the text of the arguments. -/
def hostCallName : String := "__bridge_call"

/-- The hook that prints one line. -/
def hostPrintName : String := "__bridge_print"

/-- The function of scripts that prints the line of the result. -/
def emitName : String := "__bridgeEmit"

/-- The function of the prelude that prints the texts of its arguments on one line. -/
def printText : String := String.intercalate "\n" [
  "function () \x7b",
  "    hostPrint(Array.prototype.map.call(arguments, function (a) \x7b return String(a); \x7d).join(\" \"));",
  "  \x7d"]

/-- The function of the prelude that prints one line. -/
def emitText : String := "function (line) \x7b hostPrint(line); \x7d"

/-- The function of the prelude that calls a method of a host object. -/
def invokeText : String := String.intercalate "\n" [
  "function (objectName, methodName, args) \x7b",
  "    var reply = JSON.parse(hostCall(objectName, methodName, JSON.stringify(args)));",
  "    if (reply.error !== undefined) \x7b",
  "      throw new Error(reply.error);",
  "    \x7d",
  "    return reply.value;",
  "  \x7d"]

/-- The script that an engine runs once before any proxy is installed. -/
def dispatchPrelude : String := "\n" ++ String.join ([
  "(function (global) \x7b",
  "  var hostPrint = __bridge_print;",
  "  var hostCall = __bridge_call;",
  "  var print = " ++ printText ++ ";",
  "  var locked = function (name, value) \x7b",
  "    Object.defineProperty(global, name, \x7b value: value, writable: false, configurable: false, enumerable: false \x7d);",
  "  \x7d;",
  "  global.console = \x7b log: print, info: print, warn: print, error: print, debug: print \x7d;",
  "  global.print = print;",
  "  locked(\"__bridgeEmit\", " ++ emitText ++ ");",
  "  locked(\"__bridgeInvoke\", " ++ invokeText ++ ");",
  "\x7d)(globalThis);"].map (· ++ "\n"))

/-- A script is put together from code and from texts that it holds as literals. -/
inductive Piece where
  | code (text : String)
  | literal (text : String)
deriving DecidableEq

def Piece.text : Piece → String
  | .code text => text
  | .literal text => Text.quote text

def pieceText (pieces : List Piece) : String := String.join (pieces.map Piece.text)

/-- A method with one arity takes that many arguments, and an overloaded one takes any number. -/
inductive Shape where
  | fixed (arity : Nat)
  | variadic
deriving DecidableEq

def Shape.ofArities : List Nat → Shape
  | [arity] => .fixed arity
  | _ => .variadic

/-- Arguments too many are dropped and missing ones are filled in. -/
def Shape.fit {A : Type} (absent : A) (shape : Shape) (arguments : List A) : List A :=
  match shape with
  | .fixed arity => arguments.take arity ++ List.replicate (arity - arguments.length) absent
  | .variadic => arguments

def Shape.parameters : Shape → String
  | .fixed arity => separated ", " ((List.range arity).map fun index => s!"arg{index}")
  | .variadic => ""

/-- The array of the arguments that are passed on. -/
def Shape.forwarded : Shape → String
  | .fixed arity => s!"[{(Shape.fixed arity).parameters}]"
  | .variadic => "Array.prototype.slice.call(arguments)"

/-- The proxy of an object under a name. -/
structure Proxy where
  name : String
  methods : List (String × Shape)
deriving DecidableEq

/-- Methods with base names are left out. -/
def Proxy.ofObject (name : String) (object : HostObject) : Proxy where
  name := name
  methods :=
    (object.arities.filter fun entry => !isBaseCapability entry.1).map
      fun entry => (entry.1, Shape.ofArities entry.2)

/-- A record for every method that is left out. -/
def proxyEvents (name : String) (object : HostObject) : List Event :=
  ((Table.keys object.arities).filter isBaseCapability).map (.skippedBase name)

/-- The function that a proxy has for a method. -/
def functionPieces (name : String) (method : String × Shape) : List Piece := [
  .code s!"function({method.2.parameters}) \x7b return {invokeName}(",
  .literal name,
  .code ", ",
  .literal method.1,
  .code s!", {method.2.forwarded}); \x7d"]

def methodPieces (name : String) (method : String × Shape) : List Piece :=
  [.code "  ", .literal method.1, .code ": "] ++ functionPieces name method ++ [.code ",\n"]

def Proxy.pieces (proxy : Proxy) : List Piece :=
  [.code "globalThis[", .literal proxy.name, .code "] = \x7b\n"] ++
    proxy.methods.flatMap (methodPieces proxy.name) ++ [.code "\x7d;\n"]

def Proxy.text (proxy : Proxy) : String := pieceText proxy.pieces

/-- The proxies of all bound objects. -/
def Registry.proxies (registry : Registry) : List Proxy :=
  registry.map fun entry => Proxy.ofObject entry.1 entry.2.object

def Registry.proxyEvents (registry : Registry) : List Event :=
  registry.flatMap fun entry => HostBridge.proxyEvents entry.1 entry.2.object

def Registry.proxyText (registry : Registry) : String :=
  String.join (registry.proxies.map Proxy.text)

end HostBridge
