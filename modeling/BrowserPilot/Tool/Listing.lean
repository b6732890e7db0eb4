import BrowserPilot.Tool.Basic

namespace BrowserPilot

/-!
# The list of tools

What a client is told about each tool: its name, a summary, and a schema of the
arguments that are forwarded to it.
-/

namespace Tool

/-- What a client is told that a tool does. -/
def summary : Tool → String
  | openUrl => "Open an https URL in the browser."
  | browser => "Perform one action in the browser and return a screenshot of the viewport " ++
      "afterwards. Coordinates are viewport pixels."
  | browserAgent => "Ask the browser agent to carry out a task. Returns its answer and a " ++
      "screenshot of the current page."
  | screenshot => "Take a screenshot of the visible part of the current page."
  | research => "Research a topic: plan searches, refine them until the results are " ++
      "sufficient, and write a report."
  | dateTime => "Get the current date and time"

/-- The edition of the language that the schemas are written in. -/
def edition : String := "2020-12"

/-- The address that stands for that language. -/
def dialect : String := "https:" ++ s!"//json-schema.org/draft/{edition}/schema"

/-- A property that may be `null`, with a description and what else is said of it. -/
def nullable (type text : String) (more : List (String × Json)) : Json :=
  Json.ofMembers ([("description", .string text),
    ("type", .array [.string type, .string "null"])] ++ more)

/-- A whole number of the given format. -/
def wholeNumber (format text : String) (more : List (String × Json)) : Json :=
  nullable "integer" text (("format", .string format) :: more)

/-- A schema that names its language. -/
def dialectSchema (properties : List (String × Json)) (required : List String) : Json :=
  Json.ofMembers [("$schema", .string dialect), ("properties", Json.ofMembers properties),
    ("required", Json.ofList Json.string required), ("type", .string "object")]

/-- The schema of the arguments of an action. -/
def actionArgumentSchema : Json :=
  dialectSchema [
    ("type", described "string" ("Action kind: click, double_click, drag, keypress, move, " ++
      "screenshot, scroll, type or wait")),
    ("x", wholeNumber "int64" "X coordinate in viewport pixels" []),
    ("y", wholeNumber "int64" "Y coordinate in viewport pixels" []),
    ("button", nullable "string" "Mouse button for click: left, right or middle" []),
    ("path", nullable "array" "Drag path as [x, y] pairs or \x7bx, y\x7d objects"
      [("items", .bool true)]),
    ("keys", nullable "array" "Keys to press together, e.g. [\"ctrl\", \"c\"]"
      [("items", .object [("type", .string "string")])]),
    ("scroll_x", wholeNumber "int64" "Horizontal scroll delta" []),
    ("scroll_y", wholeNumber "int64" "Vertical scroll delta" []),
    ("text", nullable "string" "Text to type" []),
    ("duration_ms", wholeNumber "uint64" "Wait duration in milliseconds"
      [("minimum", Json.ofNat 0)])]
    ["type"]

/-- The schema of the arguments that are forwarded to a tool. -/
def argumentSchema : Tool → Json
  | openUrl => dialectSchema [("url", described "string" "The https URL to open")] ["url"]
  | browser => actionArgumentSchema
  | browserAgent | research =>
    dialectSchema [("prompt", described "string" "Natural-language task or question")] ["prompt"]
  | screenshot | dateTime => noArguments

/-- An entry of the list. -/
def entry (t : Tool) : Json :=
  .object [("description", .string t.summary), ("inputSchema", t.argumentSchema),
    ("name", .string t.name)]

end Tool

end BrowserPilot
