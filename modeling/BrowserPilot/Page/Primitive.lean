import BrowserPilot.Action.Basic
import BrowserPilot.Json.Basic

namespace BrowserPilot

/-!
# Page primitives

The low-level operations against one page. What an action does to the page is a
sequence of these.
-/

/-- One low-level operation against a page. -/
inductive Primitive
  | goto (url : String)
  | setViewport (width height : UInt32)
  | move (x y : Int64)
  | down (button : Button)
  | up (button : Button)
  | click (x y : Int64) (button : Button)
  | doubleClick (x y : Int64)
  | keyDown (key : String)
  | keyUp (key : String)
  | releaseAll
  | type (text : String)
  | evaluate (script : String)
  | screenshot (fullPage : Bool)
  | currentUrl
  | close
  deriving DecidableEq, Repr

namespace Primitive

/-- What a primitive returns when it succeeds. -/
def Reply : Primitive → Type
  | evaluate _ => Json
  | screenshot _ => List UInt8
  | currentUrl => Option String
  | _ => Unit

/-- The name of a primitive. -/
def name : Primitive → String
  | goto _ => "goto"
  | setViewport .. => "set_viewport"
  | move .. => "move"
  | down _ => "down"
  | up _ => "up"
  | click .. => "click"
  | doubleClick .. => "double_click"
  | keyDown _ => "key_down"
  | keyUp _ => "key_up"
  | releaseAll => "release_all"
  | type _ => "type"
  | evaluate _ => "evaluate"
  | screenshot _ => "screenshot"
  | currentUrl => "current_url"
  | close => "close"

/-- Whether a primitive acts on the page as a person would, with pointer and keyboard or by a
script. -/
def isInput : Primitive → Bool
  | move .. | down _ | up _ | click .. | doubleClick .. | keyDown _ | keyUp _ | type _
  | evaluate _ => true
  | _ => false

end Primitive

end BrowserPilot
