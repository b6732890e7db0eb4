import BrowserPilot.Json.Decoder

namespace BrowserPilot

open Json

/-!
# Sampling

A tool may ask the caller's own model for text. A request is a single user
message; the answer is the first text block of the reply, wherever the reply
keeps its content.
-/

/-- The number of tokens allowed when a request names none. -/
def defaultMaxTokens : UInt32 := 1000000

/-- A request for one text completion. -/
structure SamplingRequest where
  prompt : String
  modelHint : Option String := none
  systemPrompt : Option String := none
  maxTokens : UInt32 := defaultMaxTokens
  deriving DecidableEq, Repr

namespace SamplingRequest

/-- The hint as a list of model preferences. -/
def preferences (hint : String) : Json :=
  .object [("hints", .array [.object [("name", .string hint)]])]

/-- The parameters of the request on the wire. -/
def params (r : SamplingRequest) : Json :=
  let message : Json := .object [
    ("content", .object [("text", .string r.prompt), ("type", .string "text")]),
    ("role", .string "user")]
  let hints := r.modelHint.toList.map fun h ↦ ("modelPreferences", preferences h)
  let system := r.systemPrompt.toList.map fun s ↦ ("systemPrompt", Json.string s)
  .object ([("maxTokens", ofNat r.maxTokens.toNat), ("messages", .array [message])] ++ hints ++
    system)

end SamplingRequest

/-- The text of a block whose type is `text`. -/
def textOfBlock? (block : Json) : Option String :=
  match block.get? "type" with
  | some (.string "text") => (block.get? "text").bind Json.asString?
  | _ => none

/-- The content of a reply: its own, or that of its message. -/
def contentOfReply? (reply : Json) : Option Json :=
  match reply.get? "content" with
  | some content => some content
  | none => (reply.get? "message").bind fun m ↦ m.get? "content"

/-- The text of a reply: that of its block, or of the first text block of its list. -/
def textOfReply? (reply : Json) : Option String :=
  match contentOfReply? reply with
  | some (.array blocks) => blocks.findSome? textOfBlock?
  | some block => textOfBlock? block
  | none => none

end BrowserPilot
