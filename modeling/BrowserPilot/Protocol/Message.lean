import BrowserPilot.Json.Parser
import BrowserPilot.Json.Printer
import BrowserPilot.Tool.Outcome

namespace BrowserPilot.Protocol

/-!
# Messages of the protocol

A message is one line with a JSON object that names the edition of the protocol's
framing. It asks for something and is recognised by an id, or only tells something,
or is the reply to what this side asked.
-/

/-- What a request and its answer are recognised by. -/
inductive RequestId
  | number (n : Int)
  | text (s : String)
  deriving DecidableEq, Repr

namespace RequestId

/-- Reads an id: a string, or a whole number that fits 64 bits. -/
def ofJson? : Json → Option RequestId
  | .string s => some (.text s)
  | .number (.int n) =>
    if Int64.minValue.toInt ≤ n ∧ n ≤ Int64.maxValue.toInt then some (.number n) else none
  | _ => none

/-- An id is written as it was read. -/
def toJson : RequestId → Json
  | number n => Json.ofInt n
  | text s => .string s

end RequestId

/-- What a message that is neither refused nor ignored says. -/
inductive Message
  /-- Asks for something. -/
  | request (id : RequestId) (method : String) (params : Json)
  /-- Tells something. -/
  | notice (method : String)
  /-- Replies to a request of this side. -/
  | reply (id : RequestId) (result : Except ProtocolError Json)

/-- The edition of the framing. -/
def framing : String := "2.0"

namespace Message

/-- Reads the error of a reply, whose code has 32 bits. Its data, if any, goes on the message. -/
def errorOf? (v : Json) : Option ProtocolError :=
  let data := match v.get? "data" with
    | none | some .null => ""
    | some d => "(" ++ d.render ++ ")"
  match v.get? "code", v.get? "message" with
  | some (.number (.int code)), some (.string message) =>
    if Int32.minValue.toInt ≤ code ∧ code ≤ Int32.maxValue.toInt then
      some ⟨code, message ++ data⟩
    else none
  | _, _ => none

/-- Reads the reply with the given id. -/
def replyOf? (id : RequestId) (v : Json) : Option Message :=
  match v.get? "result", v.get? "error" with
  | some result, _ => some (.reply id (.ok result))
  | none, some e => (errorOf? e).map fun e ↦ .reply id (.error e)
  | none, none => none

/-- Reads a message. What has a method but no usable id only tells something. -/
def ofJson? (v : Json) : Option Message :=
  if (v.get? "jsonrpc").bind Json.asString? = some framing then
    match v.get? "method", (v.get? "id").bind RequestId.ofJson? with
    | some (.string method), some id =>
      some (.request id method ((v.get? "params").getD .null))
    | some (.string method), none => some (.notice method)
    | _, some id => replyOf? id v
    | _, none => none
  else none

/-- Reads a line. -/
def read? (line : String) : Option Message :=
  match Json.parse line with
  | .ok v => ofJson? v
  | .error _ => none

end Message

/-- The answer to a request. -/
def answer (id : RequestId) : Except ProtocolError Json → Json
  | .ok result =>
    .object [("id", id.toJson), ("jsonrpc", .string framing), ("result", result)]
  | .error e =>
    .object [("error", e.toJson), ("id", id.toJson), ("jsonrpc", .string framing)]

end BrowserPilot.Protocol
