import BrowserPilot.Json.Basic

namespace BrowserPilot

/-!
# Log records

A record is written at a level inside the spans that are open at the time, the
outermost first.
-/

/-- How important a record is. -/
inductive LogLevel
  | error
  | warn
  | info
  | debug
  | trace
  deriving DecidableEq, Repr

/-- The name of a level. -/
def LogLevel.name : LogLevel → String
  | error => "ERROR"
  | warn => "WARN"
  | info => "INFO"
  | debug => "DEBUG"
  | trace => "TRACE"

/-- Named values of a record or a span. -/
abbrev LogFields := List (String × Json)

/-- A stretch of work that records refer to. -/
structure Span where
  name : String
  fields : LogFields
  deriving Repr

/-- What is to be logged. -/
structure LogEntry where
  level : LogLevel
  message : String
  fields : LogFields
  deriving Repr

/-- A log record: an entry and the spans it was written in. -/
structure LogRecord where
  entry : LogEntry
  spans : List Span
  deriving Repr

/-- The span of a tool's execution. -/
def Span.tool (name callId : String) : Span :=
  ⟨"tool.execute", [("tool.name", .string name), ("call.id", .string callId)]⟩

/-- The span of a dispatched action. -/
def Span.dispatch (kind : String) : Span := ⟨"browser.dispatch", [("action.kind", .string kind)]⟩

end BrowserPilot
