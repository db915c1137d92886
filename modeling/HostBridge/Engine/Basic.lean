/-
This file defines what a bridge needs of a script engine.
-/
import HostBridge.Dispatch
import HostBridge.ResultLine
import HostBridge.Submission

namespace HostBridge

/-- What a submission leaves behind. -/
structure Engine.Answer (State : Type) where
  host : Host
  state : State
  error : Option EngineError

/-- Scripts reach host objects through the host that a submission is given. -/
structure Engine (State : Type) where
  /-- Makes the hooks of host calls known to scripts. -/
  attach : State → Except EngineError State
  /-- Runs the text of a submission. -/
  submit : Submission → Host → State → Engine.Answer State
  /-- The text printed since it was last cleared. -/
  output : State → String
  clear : State → State
  /-- Releases what the engine holds. -/
  close : State → State × List Event

end HostBridge
