import BrowserPilot.Tool.Outcome
import BrowserPilot.Tool.Run

namespace BrowserPilot

/-!
# Calls by name

A call names a tool among those registered. Everything the tool does is logged
inside the span of the call; that it failed is logged outside.
-/

/-- Calls a tool by its name. -/
def call {π : Type} (registered : List Tool) (s : ToolSettings) (name : String)
    (ctx : CallContext) (args : Json) : Operation π CallOutcome := do
  match Tool.ofName? registered name with
  | none => return .error (.invalidParams s!"Unknown tool '{name}'")
  | some tool =>
    match ← (Task.inSpan (.tool name ctx.id) (tool.run s ctx args)).run with
    | .ok parts => return .ok (.ofParts parts)
    | .error e =>
      Operation.request (.log ⟨.warn, "tool call failed",
        [("tool", .string name), ("error", .string e.message)]⟩)
      return e.outcome

end BrowserPilot
