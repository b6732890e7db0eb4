import BrowserPilot.Duration
import BrowserPilot.Json.Problem

namespace BrowserPilot

/-!
# Failures

Every way an operation on the shared browser can fail, and its wording. Only a
failure caused by the caller's arguments is the caller's error; only the use of a
session that was never started is a fault of the program itself.
-/

/-- Why an operation failed. -/
inductive Failure
  | notStarted
  | session (text : String)
  | invalidArgument (text : String)
  | browser (text : String)
  | sampling (text : String)
  | cancelled
  | timeout (limit : Duration)
  | configuration (text : String)
  | io (text : String)
  | json (problem : Json.Located)
  deriving DecidableEq, Repr

namespace Failure

/-- The wording of a failure. -/
def message : Failure → String
  | notStarted => "Browser session not started"
  | session text => s!"Session error: {text}"
  | invalidArgument text => s!"Invalid argument: {text}"
  | browser text => s!"Browser error: {text}"
  | sampling text => s!"Sampling error: {text}"
  | cancelled => "Operation cancelled"
  | timeout limit => s!"Operation timed out after {limit.text}"
  | configuration text => s!"Configuration error: {text}"
  | io text => s!"IO error: {text}"
  | json problem => s!"Serialization error: {problem.message}"

/-- Whether the program, and not the call, is at fault. -/
def isFatal : Failure → Bool
  | notStarted => true
  | _ => false

/-- Whether the caller's arguments are at fault. -/
def isInvalidArgument : Failure → Bool
  | invalidArgument _ => true
  | _ => false

end Failure

/-- The result of an operation that can fail. -/
abbrev Result (α : Type) := Except Failure α

end BrowserPilot
