import BrowserPilot.Action.Basic
import BrowserPilot.Json.Basic
import BrowserPilot.Key.Definition

namespace BrowserPilot

/-!
# Commands to the browser

What is sent to the browser over its debugging protocol: the name of a method, and
parameters. Events of pointer and keyboard stand alone, so each says which buttons
and modifiers are held.
-/

/-- The kinds of pointer event. -/
inductive PointerKind
  | moved
  | pressed
  | released
  deriving DecidableEq, Repr

/-- The name of a kind on the wire. -/
def PointerKind.name : PointerKind → String
  | moved => "mouseMoved"
  | pressed => "mousePressed"
  | released => "mouseReleased"

/-- A pointer event. A press and a release tell the button and which click in a row it is. -/
structure PointerEvent where
  kind : PointerKind
  x : Int64
  y : Int64
  modifiers : Nat
  buttons : Nat
  button : Option (Button × Nat) := none
  deriving DecidableEq, Repr

/-- The kinds of key event. A raw one types nothing. -/
inductive KeyKind
  | down
  | rawDown
  | up
  deriving DecidableEq, Repr

/-- The name of a kind on the wire. -/
def KeyKind.name : KeyKind → String
  | down => "keyDown"
  | rawDown => "rawKeyDown"
  | up => "keyUp"

/-- A key event. -/
structure KeyEvent where
  kind : KeyKind
  definition : Key.Definition
  modifiers : Nat
  deriving DecidableEq, Repr

/-- A command. -/
inductive Command
  | createTarget (url : String)
  | setMetrics (width height : Nat)
  | navigate (url : String)
  | pointer (event : PointerEvent)
  | key (event : KeyEvent)
  | insertText (text : String)
  | evaluate (expression : String)
  | callFunction (declaration : String)
  | capture (clip : Option (Nat × Nat))
  | closeBrowser
  deriving DecidableEq, Repr

namespace PointerEvent

/-- The parameters of the event. -/
def params (e : PointerEvent) : Json :=
  let coordinate (n : Int64) : Json := .number (.double (.ofInt n.toInt))
  let button := match e.button with
    | some (b, count) => [("button", Json.string b.name), ("clickCount", Json.ofNat count)]
    | none => []
  Json.ofMembers ([("type", .string e.kind.name), ("x", coordinate e.x), ("y", coordinate e.y),
    ("modifiers", Json.ofNat e.modifiers), ("buttons", Json.ofNat e.buttons)] ++ button)

end PointerEvent

namespace KeyEvent

/-- The text that the event types. -/
def typed? (e : KeyEvent) : Option String :=
  match e.kind with
  | .down => e.definition.text
  | _ => none

/-- The parameters of the event. -/
def params (e : KeyEvent) : Json :=
  let d := e.definition
  let number := match d.number with
    | some n => [("windowsVirtualKeyCode", Json.ofNat n), ("nativeVirtualKeyCode", Json.ofNat n)]
    | none => []
  let location := d.location.toList.map fun n ↦ ("location", Json.ofNat n)
  let text := match e.typed? with
    | some t => [("text", Json.string t), ("unmodifiedText", Json.string t)]
    | none => []
  Json.ofMembers ([("type", .string e.kind.name), ("key", .string d.key),
    ("code", .string d.code), ("modifiers", Json.ofNat e.modifiers)] ++ number ++ location ++ text)

end KeyEvent

namespace Command

/-- The name of the method. -/
def method : Command → String
  | createTarget _ => "Target.createTarget"
  | setMetrics .. => "Emulation.setDeviceMetricsOverride"
  | navigate _ => "Page.navigate"
  | pointer _ => "Input.dispatchMouseEvent"
  | key _ => "Input.dispatchKeyEvent"
  | insertText _ => "Input.insertText"
  | evaluate _ => "Runtime.evaluate"
  | callFunction _ => "Runtime.callFunctionOn"
  | capture _ => "Page.captureScreenshot"
  | closeBrowser => "Browser.close"

/-- A whole number as a double. -/
def real (n : Nat) : Json := .number (.double (.ofInt n))

/-- The part of a page that is captured. -/
def clipOf (width height : Nat) : Json :=
  Json.ofMembers [("x", real 0), ("y", real 0), ("width", real width), ("height", real height),
    ("scale", real 1)]

/-- The parameters. -/
def params : Command → Json
  | createTarget url => .object [("url", .string url)]
  | setMetrics width height => Json.ofMembers [("width", Json.ofNat width),
      ("height", Json.ofNat height), ("deviceScaleFactor", real 1), ("mobile", .bool false)]
  | navigate url => .object [("url", .string url)]
  | pointer e => e.params
  | key e => e.params
  | insertText text => .object [("text", .string text)]
  | evaluate expression => .object [("expression", .string expression)]
  | callFunction declaration => .object [("functionDeclaration", .string declaration)]
  | capture clip =>
    Json.ofMembers ([("format", .string "png")] ++
      clip.toList.map fun (width, height) ↦ ("clip", clipOf width height))
  | closeBrowser => .object []

end Command

end BrowserPilot
