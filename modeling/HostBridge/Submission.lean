/-
This file composes the script that an evaluation submits.
-/
import HostBridge.Proxy

namespace HostBridge

/-- Removes the proxy of a name that is no longer bound. -/
def retirePieces (name : String) : List Piece :=
  [.code "delete globalThis[", .literal name, .code "];\n"]

def retireText (names : List String) : String := pieceText (names.flatMap retirePieces)

/-- What an evaluation submits: names to remove, proxies to install, the script and the mark of
the line that it prints. -/
structure Submission where
  retired : List String
  proxies : List Proxy
  script : String
  sentinel : String

/-- The script is evaluated inside a guarded block that prints its value or its error. -/
def Submission.pieces (submission : Submission) : List Piece :=
  [.code "try \x7b\n"] ++
    submission.retired.flatMap retirePieces ++
    submission.proxies.flatMap Proxy.pieces ++
    [.code "var __json = JSON.stringify((0, eval)(",
      .literal submission.script,
      .code s!"));\n{emitName}(",
      .literal submission.sentinel,
      .code s!" + (__json === undefined ? 'null' : __json));\n\x7d catch (e) \x7b\n{emitName}(",
      .literal submission.sentinel,
      .code (" + JSON.stringify(\x7b error: " ++
        "String(e && e.message !== undefined ? e.message : e) \x7d));\n\x7d\n")]

def Submission.text (submission : Submission) : String := pieceText submission.pieces

end HostBridge
