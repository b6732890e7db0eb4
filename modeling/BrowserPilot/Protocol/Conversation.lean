import BrowserPilot.Operation.Alone
import BrowserPilot.Protocol.Demand
import BrowserPilot.Protocol.Sampling
import BrowserPilot.Tool.Arguments
import BrowserPilot.Tool.Call
import BrowserPilot.Tool.Listing

namespace BrowserPilot.Protocol

/-!
# A conversation with a client

A conversation is opened by the client, who says what it is able to do; until then
nothing else is answered but a ping. A line that is not a message ends it.
-/

/-- How far a conversation has come. -/
inductive Stage
  | opening
  | opened (canSample : Bool)
  | closed
  deriving DecidableEq, Repr

/-- What a conversation is about: the tools, and their settings. -/
structure Offer where
  registered : List Tool := Tool.all
  settings : ToolSettings

/-- The editions of the protocol that are spoken, the latest one last. -/
def editions : List String := ["2024-11-05", "2025-03-26", "2025-06-18", "2025-11-25"]

/-- The edition to speak with a client who asks for `wanted`: that one if it is known. -/
def agreedEdition (wanted : String) : String :=
  if editions.contains wanted then wanted else editions.getLastD wanted

/-- What a client is told about the tools as a whole. -/
def instructions : String :=
  "Drive a shared web browser with \x60open_url\x60 and \x60browser\x60 (each browser action " ++
  "returns a fresh screenshot), take a screenshot with \x60screenshot\x60, delegate tasks with " ++
  "\x60browser_agent\x60, and run multi-step web research with \x60research\x60."

/-- What a client is told when the conversation opens. -/
def welcome (edition : String) : Json :=
  .object [
    ("capabilities", .object [("tools", .object [])]),
    ("instructions", .string instructions),
    ("protocolVersion", .string (agreedEdition edition)),
    ("serverInfo", .object [("name", .string "rmcp"), ("version", .string "1.8.0")])]

/-- The tools in the order of their names. -/
def listed (registered : List Tool) : List Tool :=
  registered.mergeSort fun a b ↦ a.name ≤ b.name

namespace Offer

variable {π : Type}

/-- Calls a tool on behalf of a client. All six are known by name, registered or not. -/
def callTool (o : Offer) (canSample : Bool) (name : String) (args : Json) :
    Operation π CallOutcome :=
  match Tool.ofName? Tool.all name with
  | none => pure (.error (.invalidParams "tool not found"))
  | some tool =>
    match tool.forwarded args with
    | .error why =>
      pure (.ok (.ofError s!"failed to deserialize parameters: {why.message}"))
    | .ok forwarded =>
      call o.registered o.settings name { id := "call", canSample := canSample } forwarded

/-- What a demand comes to in an open conversation. -/
def meet (o : Offer) (canSample : Bool) : Demand → Operation π (Except ProtocolError Json)
  | .greet edition _ => pure (.ok (welcome edition))
  | .ping => pure (.ok (.object []))
  | .listTools => pure (.ok (.object [("tools", Json.ofList Tool.entry (listed Tool.all))]))
  | .listResources => pure (.ok (.object [("resources", .array [])]))
  | .listResourceTemplates => pure (.ok (.object [("resourceTemplates", .array [])]))
  | .listPrompts => pure (.ok (.object [("prompts", .array [])]))
  | .callTool name args => do
    return (← o.callTool canSample name args).map CallResult.toJson
  | .other method => pure (.error (.methodNotFound method))

/-- What a line from the client comes to: the next stage, and the answer if there is one. -/
def respond (o : Offer) (stage : Stage) (line : String) : Operation π (Stage × Option Json) :=
  match stage, Message.read? line with
  | .closed, _ => pure (.closed, none)
  | _, none => pure (.closed, none)
  | .opening, some (.request id method params) =>
    match Demand.of method params with
    | .greet edition canSample =>
      pure (.opened canSample, some (answer id (.ok (welcome edition))))
    | .ping => pure (.opening, some (answer id (.ok (.object []))))
    | _ => pure (.closed, none)
  | .opening, some _ => pure (.closed, none)
  | .opened canSample, some (.request id method params) => do
    let result ← o.meet canSample (Demand.of method params)
    return (.opened canSample, some (answer id result))
  | .opened canSample, some _ => pure (.opened canSample, none)

end Offer

/-- A conversation, together with the world its tools work in. -/
structure Conversation (B : Backend) where
  world : World B
  client : Caller
  stage : Stage := .opening

namespace Conversation

variable {B : Backend}

/-- Takes in a line: what is sent to the client, in order, and the conversation after it. A call
that crashes is never answered. -/
def receive (o : Offer) (line : String) (c : Conversation B) : List Json × Conversation B :=
  let before := c.client.asked.length
  let (outcome, world, client) := (o.respond c.stage line).alone c.world c.client
  let asked := (client.asked.drop before).mapIdx fun i r ↦ samplingRequest (before + i) r
  match outcome with
  | .returned (stage, sent) => (asked ++ sent.toList, ⟨world, client, stage⟩)
  | .crashed _ => (asked, ⟨world, client, c.stage⟩)

end Conversation

end BrowserPilot.Protocol
