/-
This file defines the marks that the line of a result begins with.
-/
import HostBridge.Text.Hex

namespace HostBridge

/-- All evaluations share one mark or each has its own. -/
inductive SentinelMode where
  | fixed
  | unique
deriving DecidableEq

def SentinelMode.name : SentinelMode → String
  | .fixed => "fixed"
  | .unique => "unique"

def SentinelMode.title : SentinelMode → String
  | .fixed => "Fixed"
  | .unique => "Unique"

def resultMarker : String := "QUICJS_RESULT:"

/-- A token is written with all of its sixteen digits. -/
def SentinelMode.sentinel (mode : SentinelMode) (token : UInt64) : String :=
  match mode with
  | .fixed => resultMarker
  | .unique => resultMarker ++ String.ofList (Text.hexFixed 16 token.toNat) ++ ":"

end HostBridge
