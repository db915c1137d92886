/-
This file defines an engine that runs no scripts and follows a plan instead.
-/
import HostBridge.Engine.Basic

namespace HostBridge

inductive PlanStep where
  /-- Prints the parts with the sentinel between them. -/
  | print (parts : List String)
  /-- Calls a method and keeps the reply. -/
  | call (object method arguments : String)
  /-- Prints a result line with the last reply. -/
  | printReply
  /-- Ends the run. -/
  | fail (error : EngineError)

/-- A planned engine keeps what the last submission was and what came of it. -/
structure Planned where
  attachError : Option EngineError
  plan : List PlanStep
  submission : Option Submission
  replies : List String
  printed : String
  failed : Bool
  closes : Nat

def Planned.ofPlan (plan : List PlanStep) : Planned := ⟨none, plan, none, [], "", false, 0⟩

/-- The state and the plan for the next submission. -/
def Planned.next (state : Planned) (plan : List PlanStep) : Planned :=
  { state with plan := plan, submission := none, replies := [], failed := false }

def Planned.print (state : Planned) (text : String) : Planned :=
  { state with printed := state.printed ++ text }

/-- The steps are taken up to the first one that fails. -/
def Planned.follow (sentinel : String) : List PlanStep → Host → Planned → Engine.Answer Planned
  | [], host, state => ⟨host, state, none⟩
  | .print parts :: rest, host, state =>
      follow sentinel rest host (state.print (separated sentinel parts))
  | .call object method arguments :: rest, host, state =>
      let answer := host.dispatchText object method arguments
      follow sentinel rest answer.1 { state with replies := state.replies ++ [answer.2] }
  | .printReply :: rest, host, state =>
      follow sentinel rest host
        (state.print (sentinel ++ (state.replies.getLast?).getD "" ++ "\n"))
  | .fail error :: _, host, state => ⟨host, { state with failed := true }, some error⟩

def Planned.engine : Engine Planned where
  attach state :=
    match state.attachError with
    | some error => .error error
    | none => .ok state
  submit submission host state :=
    Planned.follow submission.sentinel state.plan host
      { state with submission := some submission }
  output state := state.printed
  clear state := { state with printed := "" }
  close state := ({ state with closes := state.closes + 1 }, [])

end HostBridge
