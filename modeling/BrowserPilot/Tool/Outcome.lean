import BrowserPilot.Failure
import BrowserPilot.Part

namespace BrowserPilot

/-!
# Outcomes of calls

A call that has run yields a result, which tells the caller whether the tool
failed. A call that could not be run, for its name or its arguments, is an error
of the protocol.
-/

/-- The result of a call that was run. -/
structure CallResult where
  content : List Block
  isError : Bool
  deriving DecidableEq, Repr

/-- A refusal in terms of the protocol. -/
structure ProtocolError where
  code : Int
  message : String
  deriving DecidableEq, Repr

namespace ProtocolError

/-- The code of a refusal for the parameters of a request. -/
def invalidParams (message : String) : ProtocolError := ⟨-32602, message⟩

/-- The code of a refusal of an unknown method. -/
def methodNotFound (message : String) : ProtocolError := ⟨-32601, message⟩

/-- The error on the wire. -/
def toJson (e : ProtocolError) : Json :=
  .object [("code", Json.ofInt e.code), ("message", .string e.message)]

end ProtocolError

namespace CallResult

/-- The result of a tool that succeeded. -/
def ofParts (parts : List Part) : CallResult := ⟨Part.blocks parts, false⟩

/-- The result of a tool that failed, whose only block is the text of the failure. -/
def ofError (message : String) : CallResult := ⟨[.text message], true⟩

/-- The result on the wire. -/
def toJson (r : CallResult) : Json :=
  .object [("content", Json.ofList Block.toJson r.content), ("isError", .bool r.isError)]

end CallResult

/-- How a call ends. -/
abbrev CallOutcome := Except ProtocolError CallResult

/-- A failure caused by the arguments is a refusal, any other is a result. -/
def Failure.outcome (e : Failure) : CallOutcome :=
  if e.isInvalidArgument then .error (.invalidParams e.message) else .ok (.ofError e.message)

end BrowserPilot
