import BrowserPilot.Json.Decoder
import BrowserPilot.Text.Ascii

namespace BrowserPilot

/-!
# Log formats

Log lines are written for people or as JSON objects.
-/

/-- The format of log lines. -/
inductive LogFormat
  | text
  | json
  deriving DecidableEq, Repr, Inhabited

namespace LogFormat

/-- The name of a format. -/
def name : LogFormat → String
  | text => "text"
  | json => "json"

/-- The format as a log field shows it. -/
def label : LogFormat → String
  | text => "Text"
  | json => "Json"

/-- The format that a word in any ASCII case names; `pretty` is another word for `text`. -/
def ofWord (word : String) : Except String LogFormat :=
  match Text.lower word with
  | "text" => .ok text
  | "pretty" => .ok text
  | "json" => .ok json
  | other => .error s!"unknown log format '{other}' (expected 'text' or 'json')"

/-- The formats by name. -/
def ofName (name : String) : Except Json.Mismatch LogFormat :=
  match name with
  | "text" => .ok text
  | "json" => .ok json
  | other => .error (.unknownVariant other ["text", "json"])

/-- A format is written by its name. -/
def toJson (f : LogFormat) : Json := .string f.name

/-- Reads a format: its name, or an object that gives the name with `null`. -/
def ofJson : Json.Decoder LogFormat
  | .string s => ofName s
  | .object [(name, v)] => do
    let format ← ofName name
    match v with
    | .null => .ok format
    | v => Json.unfit v "unit"
  | .object _ => .error (.invalidValue "map" "map with a single key")
  | v => Json.unfit v "string or map"

end LogFormat

end BrowserPilot
