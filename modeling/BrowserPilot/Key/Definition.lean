import BrowserPilot.Text.Ascii
import BrowserPilot.Text.Numeral

namespace BrowserPilot.Key

/-!
# Key definitions

What the browser is told about a key: the value it produces, the place it has on a
keyboard, its number, the text it types, and which modifier it is.
-/

/-- A key that changes the meaning of others while it is held. -/
inductive Modifier
  | alt
  | control
  | system
  | shift
  deriving DecidableEq, Repr

namespace Modifier

/-- The modifiers in the order in which they are let go. -/
def all : List Modifier := [alt, control, system, shift]

/-- The native name of the key. -/
def name : Modifier → String
  | alt => "Alt"
  | control => "Control"
  | system => "Meta"
  | shift => "Shift"

/-- The bit of the modifier in a mask. -/
def bit : Modifier → Nat
  | alt => 1
  | control => 2
  | system => 4
  | shift => 8

/-- The number of the key. -/
def number : Modifier → Nat
  | alt => 18
  | control => 17
  | system => 91
  | shift => 16

end Modifier

/-- A key as the browser knows it. -/
structure Definition where
  key : String
  code : String
  number : Option Nat := none
  text : Option String := none
  location : Option Nat := none
  modifier : Option Modifier := none
  deriving DecidableEq, Repr

namespace Definition

/-- A modifier, which is the one on the left of the keyboard. -/
def ofModifier (m : Modifier) : Definition :=
  { key := m.name, code := m.name ++ "Left", number := m.number, location := some 1, modifier := m }

/-- A key whose place is called like what it produces. -/
def plain (name : String) (number : Nat) : Definition :=
  { key := name, code := name, number := number }

/-- Keys with a name of their own. -/
def named : List (String × Definition) := [
  ("Alt", ofModifier .alt),
  ("Control", ofModifier .control),
  ("Meta", ofModifier .system),
  ("Shift", ofModifier .shift),
  ("Enter", { plain "Enter" 13 with text := "\r" }),
  ("Tab", plain "Tab" 9),
  ("Backspace", plain "Backspace" 8),
  ("Delete", plain "Delete" 46),
  ("Escape", plain "Escape" 27),
  ("Insert", plain "Insert" 45),
  ("CapsLock", plain "CapsLock" 20),
  ("Home", plain "Home" 36),
  ("End", plain "End" 35),
  ("PageUp", plain "PageUp" 33),
  ("PageDown", plain "PageDown" 34),
  ("ArrowLeft", plain "ArrowLeft" 37),
  ("ArrowUp", plain "ArrowUp" 38),
  ("ArrowRight", plain "ArrowRight" 39),
  ("ArrowDown", plain "ArrowDown" 40),
  (" ", { key := " ", code := "Space", number := some 32, text := some " " }),
  ("Divide", { key := "/", code := "NumpadDivide", number := some 111, text := some "/"
               location := some 3 }),
  ("Backslash", { key := "\\", code := "Backslash", number := some 220, text := some "\\" })]

/-- A function key: an `F` before a numeral between one and twelve, however it is written. -/
def ofFunction? (name : String) : Option Definition :=
  match name.toList with
  | 'F' :: digits =>
    match Text.signed (String.ofList digits) with
    | .ok n => if 1 ≤ n ∧ n ≤ 12 then some (plain name (111 + n.toNat)) else none
    | .error _ => none
  | _ => none

/-- Place and number of the key for a character; other keys than letters and digits have none. -/
def placeOfChar (c : Char) : String × Option Nat :=
  if Text.isLetter c then ("Key" ++ (Text.upperChar c).toString, some (Text.upperChar c).toNat)
  else if Text.isDigit c then ("Digit" ++ c.toString, some c.toNat)
  else ("", none)

/-- The key for a character, which types it; any other name stands for itself and types
nothing. -/
def ofText (name : String) : Definition :=
  match name.toList with
  | [c] => { key := name, code := (placeOfChar c).1, number := (placeOfChar c).2, text := name }
  | _ => { key := name, code := name }

end Definition

/-- The definition of a native key name. -/
def define (name : String) : Definition :=
  match Definition.named.lookup name with
  | some d => d
  | none => (Definition.ofFunction? name).getD (Definition.ofText name)

end BrowserPilot.Key
