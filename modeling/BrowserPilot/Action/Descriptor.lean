import BrowserPilot.Action.Basic
import BrowserPilot.Failure
import BrowserPilot.Json.Decoder

namespace BrowserPilot

open Json

/-!
# Action descriptors

Callers describe an action by a loosely typed object whose `type` names the kind.
Fields that the kind does not use are ignored. `Action.toJson` writes the full
descriptor, `Action.ofDescriptor` reads one.
-/

namespace Point

/-- A point as an object. -/
def toJson (p : Point) : Json :=
  .object [("x", ofInt p.x.toInt), ("y", ofInt p.y.toInt)]

/-- A point is a pair or an object with `x` and `y`; what is wrong with another value is not
said. -/
def ofJson : Decoder Point := fun v ↦
  match v with
  | .array [x, y] =>
    match toInt64 x, toInt64 y with
    | .ok x, .ok y => .ok ⟨x, y⟩
    | _, _ => .error (.noVariant "PointRepr")
  | .object ms =>
    match both (field "x" toInt64) (field "y" toInt64) ms with
    | .value (x, y) => .ok ⟨x, y⟩
    | _ => .error (.noVariant "PointRepr")
  | _ => .error (.noVariant "PointRepr")

end Point

/-- Every value stands for a button: the names of the other buttons for these, all else for the
left one. -/
def Button.ofJson : Decoder Button := fun v ↦ .ok (Button.ofName v.asString?)

namespace Action

/-- The descriptor of an action, with all fields of its kind. -/
def toJson : Action → Json
  | .click x y b => .object [("button", .string b.name), ("type", .string "click"),
      ("x", ofInt x.toInt), ("y", ofInt y.toInt)]
  | .doubleClick x y => .object [("type", .string "double_click"),
      ("x", ofInt x.toInt), ("y", ofInt y.toInt)]
  | .drag path => .object [("path", ofList Point.toJson path), ("type", .string "drag")]
  | .keypress keys => .object [("keys", ofList Json.string keys), ("type", .string "keypress")]
  | .move x y => .object [("type", .string "move"),
      ("x", ofInt x.toInt), ("y", ofInt y.toInt)]
  | .screenshot => .object [("type", .string "screenshot")]
  | .scroll x y dx dy => .object [("scroll_x", ofInt dx.toInt), ("scroll_y", ofInt dy.toInt),
      ("type", .string "scroll"), ("x", ofInt x.toInt), ("y", ofInt y.toInt)]
  | .type text => .object [("text", .string text), ("type", .string "type")]
  | .wait millis => .object [("duration_ms", ofOption (fun n : UInt64 ↦ ofNat n.toNat) millis),
      ("type", .string "wait")]

/-- Reads the kind of an action. -/
def readKind : Decoder String
  | .string s => if kinds.contains s then .ok s else .error (.unknownVariant s kinds)
  | v => unfit v "variant identifier"

/-- The two coordinates of a place. -/
def place : Members → Reading (Int64 × Int64) := both (field "x" toInt64) (field "y" toInt64)

/-- Reads the fields that an action of the given kind uses. -/
def fieldsOf (kind : String) (ms : Members) : Reading Action :=
  match kind with
  | "click" =>
    (both place (fieldOr .left "button" Button.ofJson) ms).map fun ((x, y), b) ↦ .click x y b
  | "double_click" => (place ms).map fun (x, y) ↦ .doubleClick x y
  | "drag" =>
    (fieldOr [] "path" (toDefaulted [] (toListOf Point.ofJson)) ms).map .drag
  | "keypress" => (field "keys" (toListOf toText) ms).map .keypress
  | "move" => (place ms).map fun (x, y) ↦ .move x y
  | "scroll" =>
    (both place (both (fieldOr 0 "scroll_x" (toDefaulted 0 toInt64))
        (fieldOr 0 "scroll_y" (toDefaulted 0 toInt64))) ms).map
      fun ((x, y), dx, dy) ↦ .scroll x y dx dy
  | "type" => (field "text" toText ms).map .type
  | "wait" => (fieldOr none "duration_ms" (toOptional toUInt64) ms).map .wait
  | _ => .value .screenshot

/-- Reads an action from its object form. -/
def ofMembers (ms : Members) : Except Mismatch Action :=
  match find? "type" ms with
  | none => .error (.missing "type")
  | some v => do
    let kind ← readKind v
    (fieldsOf kind ms).result

/-- Reads a descriptor. Anything but an object is refused as a whole. -/
def ofDescriptor (v : Json) : Result Action :=
  match v with
  | .object ms =>
    match ofMembers ms with
    | .ok a => .ok a
    | .error why => .error (.invalidArgument s!"invalid browser action: {why.message}")
  | _ => .error (.invalidArgument s!"action must be a JSON object, got {v.render}")

end Action

end BrowserPilot
