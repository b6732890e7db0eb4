import BrowserPilot.Json.Decoder
import BrowserPilot.Tool.Basic

namespace BrowserPilot

open Json

/-!
# Arguments of calls

What the protocol lets through to a tool: arguments of other names are dropped, so
are those given as `null` where they may be left out, and one of the wrong kind is
refused before the tool sees it.
-/

/-- The arguments of a browser action. -/
structure ActionArguments where
  kind : String
  x : Option Int64 := none
  y : Option Int64 := none
  button : Option String := none
  path : Option (List Json) := none
  keys : Option (List String) := none
  scrollX : Option Int64 := none
  scrollY : Option Int64 := none
  text : Option String := none
  millis : Option UInt64 := none

namespace ActionArguments

/-- An argument that may be left out or `null`. -/
def optional {α : Type} (name : String) (decode : Decoder α) : Members → Reading (Option α) :=
  fieldOr none name (toOptional decode)

/-- The arguments in the order of their declaration. -/
def fields : Members → Reading ActionArguments := fun ms ↦
  let place := both (optional "x" toInt64) (optional "y" toInt64)
  let lists := both (optional "path" (toListOf toAny)) (optional "keys" (toListOf toText))
  let scroll := both (optional "scroll_x" toInt64) (optional "scroll_y" toInt64)
  let rest := both (optional "text" toText) (optional "duration_ms" toUInt64)
  (both (both (field "type" toText) place)
      (both (optional "button" toText) (both lists (both scroll rest))) ms).map
    fun ((kind, x, y), button, (path, keys), (scrollX, scrollY), text, millis) ↦
      { kind, x, y, button, path, keys, scrollX, scrollY, text, millis }

/-- Reads the arguments. -/
def ofJson : Decoder ActionArguments := toRecord "an object" fields

/-- A member, if it has a value. -/
def member {α : Type} (name : String) (f : α → Json) (value : Option α) : Members :=
  value.toList.map fun a ↦ (name, f a)

/-- The arguments as the tool receives them. -/
def toJson (a : ActionArguments) : Json :=
  let whole (n : Int64) := ofInt n.toInt
  .object (member "button" Json.string a.button ++
    member "duration_ms" (fun n : UInt64 ↦ ofNat n.toNat) a.millis ++
    member "keys" (ofList Json.string) a.keys ++
    member "path" Json.array a.path ++
    member "scroll_x" whole a.scrollX ++
    member "scroll_y" whole a.scrollY ++
    member "text" Json.string a.text ++
    [("type", .string a.kind)] ++
    member "x" whole a.x ++
    member "y" whole a.y)

end ActionArguments

/-- Lets a single text through. -/
def forwardText (name : String) (args : Json) : Except Mismatch Json :=
  (toRecord "an object" (field name toText) args).map fun s ↦ .object [(name, .string s)]

/-- What a tool receives of its arguments. -/
def Tool.forwarded (args : Json) : Tool → Except Mismatch Json
  | openUrl => forwardText "url" args
  | browser => (ActionArguments.ofJson args).map ActionArguments.toJson
  | browserAgent | research => forwardText "prompt" args
  | screenshot | dateTime => .ok (.object [])

end BrowserPilot
