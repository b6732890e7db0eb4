import BrowserPilot.Failure
import BrowserPilot.Protocol.Message
import BrowserPilot.Sampling

namespace BrowserPilot.Protocol

/-!
# Asking the client's model

The request that is sent to the client, numbered from zero, and what its reply
comes to.
-/

/-- The request with the given number. -/
def samplingRequest (n : Nat) (r : SamplingRequest) : Json :=
  let progress : Json := .object [("progressToken", Json.ofNat n)]
  let params : Json := match r.params with
    | .object members => .object (("_meta", progress) :: members)
    | v => v
  .object [("id", Json.ofNat n), ("jsonrpc", .string framing),
    ("method", .string "sampling/createMessage"), ("params", params)]

/-- Whether a member is there and holds a string. -/
def hasText (v : Json) (name : String) : Bool :=
  ((v.get? name).bind Json.asString?).isSome

/-- Whether a member is there and holds an object. -/
def hasObject (v : Json) (name : String) : Bool :=
  match v.get? name with
  | some (.object _) => true
  | _ => false

/-- Whether a block of a reply is well formed. -/
def isBlock (v : Json) : Bool :=
  match v.get? "type" with
  | some (.string "text") => hasText v "text"
  | some (.string "image") | some (.string "audio") => hasText v "data" && hasText v "mimeType"
  | some (.string "tool_use") =>
    hasText v "id" && hasText v "name" && hasObject v "input"
  | some (.string "tool_result") => hasText v "toolUseId"
  | _ => false

/-- Whether a reply is well formed. -/
def isSamplingReply (v : Json) : Bool :=
  let spoken := match v.get? "role" with
    | some (.string "assistant") | some (.string "user") => true
    | _ => false
  let content := match v.get? "content" with
    | some (.array blocks) => blocks.all isBlock
    | some block => isBlock block
    | none => false
  hasText v "model" && spoken && content

/-- The failure of a request that the client could not answer. -/
def samplingFailed (why : String) : Failure := .sampling s!"Sampling request failed: {why}"

/-- What a reply to a request comes to. -/
def sampled : Except ProtocolError Json → Result String
  | .error e => .error (samplingFailed s!"Mcp error: {e.code}: {e.message}")
  | .ok v =>
    if isSamplingReply v then
      match textOfReply? v with
      | some text => .ok text
      | none => .error (.sampling "No text response from model")
    else .error (samplingFailed "Unexpected response type")

end BrowserPilot.Protocol
