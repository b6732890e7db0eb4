import BrowserPilot.Json.Basic

namespace BrowserPilot

/-!
# Tools

The six tools, with what a caller is told about each: its name, what it does, and
the arguments it takes.
-/

/-- A tool that can be called by name. -/
inductive Tool
  | openUrl
  | browser
  | browserAgent
  | screenshot
  | research
  | dateTime
  deriving DecidableEq, Repr

namespace Tool

/-- The tools that work on the browser, and then the others. -/
def all : List Tool := [openUrl, browser, browserAgent, screenshot, research, dateTime]

/-- The tools that work on the browser. -/
def ofBrowser : List Tool := [openUrl, browser, browserAgent, screenshot]

/-- The name by which a tool is called. -/
def name : Tool → String
  | openUrl => "open_url"
  | browser => "browser"
  | browserAgent => "browser_agent"
  | screenshot => "screenshot"
  | research => "research"
  | dateTime => "get_date_time"

/-- The tool of the given name among those registered. -/
def ofName? (registered : List Tool) (name : String) : Option Tool :=
  registered.find? fun t ↦ t.name = name

/-- Whether a tool only looks at the page and never acts on it. -/
def isReadOnly : Tool → Bool
  | screenshot | dateTime => true
  | _ => false

/-- What a tool does. -/
def description : Tool → String
  | openUrl => "Open an https URL in the browser."
  | browser => "Perform one action in the browser (click, double_click, drag, keypress, move, " ++
      "screenshot, scroll, type, wait) and return a screenshot of the viewport afterwards. " ++
      "Coordinates are viewport pixels."
  | browserAgent => "Ask the browser agent to carry out a task described in natural language. " ++
      "Returns the agent's answer and a screenshot of the current page."
  | screenshot => "Take a screenshot of the visible part of the current page. Returns a PNG image."
  | research => "Research a topic: plan searches, refine them until the results are sufficient, " ++
      "and write a report."
  | dateTime => "Get the current date and time"

/-! ## Schemas of arguments -/

/-- A property of a type, with its description. -/
def described (type text : String) : Json :=
  .object [("description", .string text), ("type", .string type)]

/-- The schema of an object with some properties, of which some are required. -/
def schemaOf (properties : List (String × Json)) (required : List String) : Json :=
  .object [("properties", Json.ofMembers properties),
    ("required", Json.ofList Json.string required), ("type", .string "object")]

/-- The schema of an object of which nothing is asked. -/
def noArguments : Json := .object [("properties", .object []), ("type", .string "object")]

/-- The kinds of action, in the order in which they are offered. -/
def offeredKinds : List String :=
  ["click", "double_click", "drag", "keypress", "move", "screenshot", "scroll", "type", "wait"]

/-- The schema of an action. -/
def actionSchema : Json :=
  schemaOf [
    ("type", .object [("description", .string "The action to perform"),
      ("enum", Json.ofList Json.string offeredKinds), ("type", .string "string")]),
    ("x", described "integer" "X coordinate"),
    ("y", described "integer" "Y coordinate"),
    ("button", described "string"
      "Mouse button for click: left, right or middle (default: left)"),
    ("path", .object [
      ("description", .string "Drag path as [x, y] pairs or \x7bx, y\x7d objects"),
      ("items", .object []), ("type", .string "array")]),
    ("keys", .object [
      ("description", .string "Keys to press together, e.g. [\"ctrl\", \"a\"]"),
      ("items", .object [("type", .string "string")]), ("type", .string "array")]),
    ("scroll_x", described "integer" "Horizontal scroll delta (default: 0)"),
    ("scroll_y", described "integer" "Vertical scroll delta (default: 0)"),
    ("text", described "string" "Text to type"),
    ("duration_ms", described "integer" "Wait duration in milliseconds (default: 1000)")]
    ["type"]

/-- The schema of a tool's arguments. -/
def schema : Tool → Json
  | openUrl => schemaOf [("url", described "string" "The https URL to open")] ["url"]
  | browser => actionSchema
  | browserAgent =>
    schemaOf [("prompt", described "string" "What the agent should do")] ["prompt"]
  | research => schemaOf [("prompt", described "string" "The research question")] ["prompt"]
  | screenshot | dateTime => noArguments

end Tool

end BrowserPilot
