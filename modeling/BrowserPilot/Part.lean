import BrowserPilot.Json.Decoder
import BrowserPilot.Text.Base64

namespace BrowserPilot

/-!
# Tool output

A tool answers with parts, each a text or an image. On the wire a part is a
content block, where the bytes of an image are in base64; as JSON it is tagged by
its type and lists the bytes.
-/

/-- The media type of screenshots. -/
def pngMime : String := "image/png"

/-- One unit of tool output. -/
inductive Part
  | text (text : String)
  | image (mime : String) (bytes : List UInt8)
  deriving DecidableEq, Repr

/-- A content block of a call's result. -/
inductive Block
  | text (text : String)
  | image (data mime : String)
  deriving DecidableEq, Repr

namespace Part

/-- The text of a text part. -/
def text? : Part → Option String
  | text t => some t
  | image .. => none

/-- The media type of an image. -/
def mime? : Part → Option String
  | text _ => none
  | image m _ => some m

/-- The bytes of an image. -/
def bytes? : Part → Option (List UInt8)
  | text _ => none
  | image _ b => some b

/-- The base64 text of an image. -/
def base64? (p : Part) : Option String := p.bytes?.map Text.Base64.encode

/-- The content block of a part. A part that has no base64 text would be an empty image. -/
def block (p : Part) : Block :=
  match p with
  | text t => .text t
  | image m _ => .image (p.base64?.getD "") m

/-- The tagged JSON form. -/
def toJson : Part → Json
  | text t => .object [("text", .string t), ("type", .string "text")]
  | image m b => .object [("data", Json.ofList (fun x : UInt8 ↦ Json.ofNat x.toNat) b),
      ("mime_type", .string m), ("type", .string "image")]

/-- The names of the two types. -/
def types : List String := ["text", "image"]

/-- Reads the type of a part. -/
def readType : Json.Decoder String
  | .string s =>
    if types.contains s then .ok s else .error (.unknownVariant s types)
  | v => Json.unfit v "variant identifier"

/-- A list that is longer than the record read from it. -/
def refuseRest (length count : Nat) : Except Json.Mismatch Unit :=
  if count < length then
    let elements := if count = 1 then "element" else "elements"
    .error (.invalidLength length s!"{count} {elements} in sequence")
  else .ok ()

/-- Reads a part of a known type from the fields of an object. -/
def ofMembers (type : String) (ms : Json.Members) : Except Json.Mismatch Part :=
  if type = "text" then ((Json.field "text" Json.toText ms).map Part.text).result
  else
    ((Json.both (Json.field "mime_type" Json.toText)
        (Json.field "data" (Json.toListOf Json.toUInt8)) ms).map
      fun (m, b) ↦ Part.image m b).result

/-- Reads a part of a known type from the fields listed in order. -/
def ofItems (type : String) (items : List Json) : Except Json.Mismatch Part := do
  if type = "text" then
    let t ← Json.itemAt "struct variant Part::Text with 1 element" items 0 Json.toText
    refuseRest items.length 1
    return .text t
  else
    let expected := "struct variant Part::Image with 2 elements"
    let m ← Json.itemAt expected items 0 Json.toText
    let b ← Json.itemAt expected items 1 (Json.toListOf Json.toUInt8)
    refuseRest items.length 2
    return .image m b

/-- Reads a part from its tagged form: an object, or a list that begins with the type. -/
def ofJson : Json.Decoder Part
  | .object ms =>
    match Json.find? "type" ms with
    | none => .error (.missing "type")
    | some v => do ofMembers (← readType v) ms
  | .array [] => .error (.missing "type")
  | .array (v :: items) => do ofItems (← readType v) items
  | v => Json.unfit v "internally tagged enum Part"

end Part

/-- The JSON form of a content block. -/
def Block.toJson : Block → Json
  | .text t => .object [("text", .string t), ("type", .string "text")]
  | .image data mime => .object [("data", .string data), ("mimeType", .string mime),
      ("type", .string "image")]

/-- The content blocks of a list of parts, in order. -/
def Part.blocks (parts : List Part) : List Block := parts.map Part.block

end BrowserPilot
