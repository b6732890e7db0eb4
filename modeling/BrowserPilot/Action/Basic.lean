import BrowserPilot.Text.Ascii

namespace BrowserPilot

/-!
# Actions

One interaction with the page, at the level of viewport coordinates.
-/

/-- A pointer button. -/
inductive Button
  | left
  | right
  | middle
  deriving DecidableEq, Repr, Inhabited

namespace Button

/-- The name of a button. -/
def name : Button → String
  | left => "left"
  | right => "right"
  | middle => "middle"

/-- The button with the given name in any ASCII case; the left one for every other name and for
none. -/
def ofName (name : Option String) : Button :=
  match name.map Text.lower with
  | some "right" => right
  | some "middle" => middle
  | _ => left

@[simp] theorem ofName_name (b : Button) : ofName (some b.name) = b := by
  cases b <;> rfl

end Button

/-- A place in the viewport. -/
structure Point where
  x : Int64
  y : Int64
  deriving DecidableEq, Repr

/-- One browser interaction. -/
inductive Action
  | click (x y : Int64) (button : Button)
  | doubleClick (x y : Int64)
  | drag (path : List Point)
  | keypress (keys : List String)
  | move (x y : Int64)
  | screenshot
  | scroll (x y deltaX deltaY : Int64)
  | type (text : String)
  | wait (millis : Option UInt64)
  deriving DecidableEq, Repr

/-- The name of an action's kind. -/
def Action.kind : Action → String
  | .click .. => "click"
  | .doubleClick .. => "double_click"
  | .drag _ => "drag"
  | .keypress _ => "keypress"
  | .move .. => "move"
  | .screenshot => "screenshot"
  | .scroll .. => "scroll"
  | .type _ => "type"
  | .wait _ => "wait"

/-- The names of the nine kinds. -/
def Action.kinds : List String :=
  ["click", "double_click", "drag", "keypress", "move", "screenshot", "scroll", "type", "wait"]

end BrowserPilot
