import BrowserPilot.Page.Command
import BrowserPilot.Page.Primitive

namespace BrowserPilot

/-!
# Strokes

The browser does not remember what is held down, so the page does. A stroke first
changes what the page remembers and then sends one command, which tells the
browser the new state. An input primitive is a row of strokes.
-/

/-- Which pointer buttons are held. -/
structure HeldButtons where
  left : Bool := false
  right : Bool := false
  middle : Bool := false
  deriving DecidableEq, Repr

namespace HeldButtons

/-- Whether a button is held. -/
def has (h : HeldButtons) : Button → Bool
  | .left => h.left
  | .right => h.right
  | .middle => h.middle

/-- Holds a button or lets it go. -/
def put (h : HeldButtons) (held : Bool) : Button → HeldButtons
  | .left => { h with left := held }
  | .right => { h with right := held }
  | .middle => { h with middle := held }

/-- The bit of a button in a mask. -/
def bit : Button → Nat
  | .left => 1
  | .right => 2
  | .middle => 4

/-- The buttons in the order in which they are let go. -/
def order : List Button := [.left, .right, .middle]

/-- The sum of the bits of the held buttons. -/
def mask (h : HeldButtons) : Nat := (order.filter h.has).foldr (fun b n ↦ bit b + n) 0

@[simp] theorem has_put_self (h : HeldButtons) (held : Bool) (b : Button) :
    (h.put held b).has b = held := by
  cases b <;> rfl

theorem has_put_ne (h : HeldButtons) (held : Bool) {b c : Button} (hne : c ≠ b) :
    (h.put held b).has c = h.has c := by
  cases b <;> cases c <;> first | rfl | exact absurd rfl hne

end HeldButtons

/-- Which modifiers are held. -/
structure HeldModifiers where
  alt : Bool := false
  control : Bool := false
  system : Bool := false
  shift : Bool := false
  deriving DecidableEq, Repr

namespace HeldModifiers

/-- Whether a modifier is held. -/
def has (h : HeldModifiers) : Key.Modifier → Bool
  | .alt => h.alt
  | .control => h.control
  | .system => h.system
  | .shift => h.shift

/-- Holds a modifier or lets it go. -/
def put (h : HeldModifiers) (held : Bool) : Key.Modifier → HeldModifiers
  | .alt => { h with alt := held }
  | .control => { h with control := held }
  | .system => { h with system := held }
  | .shift => { h with shift := held }

/-- The sum of the bits of the held modifiers. -/
def mask (h : HeldModifiers) : Nat :=
  (Key.Modifier.all.filter h.has).foldr (fun m n ↦ m.bit + n) 0

/-- Whether keys mean shortcuts and type nothing. -/
def isShortcut (h : HeldModifiers) : Bool := h.control || h.system

@[simp] theorem has_put_self (h : HeldModifiers) (held : Bool) (m : Key.Modifier) :
    (h.put held m).has m = held := by
  cases m <;> rfl

theorem has_put_ne (h : HeldModifiers) (held : Bool) {m n : Key.Modifier} (hne : n ≠ m) :
    (h.put held m).has n = h.has n := by
  cases m <;> cases n <;> first | rfl | exact absurd rfl hne

end HeldModifiers

/-- Where the pointer is and what is held. -/
structure Hands where
  x : Int64 := 0
  y : Int64 := 0
  buttons : HeldButtons := {}
  modifiers : HeldModifiers := {}
  deriving DecidableEq, Repr

/-- One movement of hand or finger. `count` is which click in a row a press or release is. -/
inductive Stroke
  | move (x y : Int64)
  | press (button : Button) (count : Nat)
  | release (button : Button) (count : Nat)
  | keyDown (key : String)
  | keyUp (key : String)
  | insert (text : String)
  deriving DecidableEq, Repr

namespace Stroke

/-- Holds a key's modifier or lets it go; other keys change nothing. -/
def withKey (h : Hands) (held : Bool) (key : String) : Hands :=
  match (Key.define key).modifier with
  | some m => { h with modifiers := h.modifiers.put held m }
  | none => h

/-- What the page remembers after a stroke. -/
def after (h : Hands) : Stroke → Hands
  | move x y => { h with x := x, y := y }
  | press b _ => { h with buttons := h.buttons.put true b }
  | release b _ => { h with buttons := h.buttons.put false b }
  | keyDown key => withKey h true key
  | keyUp key => withKey h false key
  | insert _ => h

/-- A pointer event that tells what is held. -/
def pointer (h : Hands) (kind : PointerKind) (button : Option (Button × Nat)) : Command :=
  .pointer ⟨kind, h.x, h.y, h.modifiers.mask, h.buttons.mask, button⟩

/-- A key goes down raw if it types nothing or is part of a shortcut. -/
def downKind (h : HeldModifiers) (d : Key.Definition) : KeyKind :=
  if d.text.isSome && !h.isShortcut then .down else .rawDown

/-- The command of a stroke, in the state after it. -/
def command (h : Hands) : Stroke → Command
  | move _ _ => pointer h .moved none
  | press b count => pointer h .pressed (some (b, count))
  | release b count => pointer h .released (some (b, count))
  | keyDown key =>
    .key ⟨downKind h.modifiers (Key.define key), Key.define key, h.modifiers.mask⟩
  | keyUp key => .key ⟨.up, Key.define key, h.modifiers.mask⟩
  | insert text => .insertText text

/-- What is said of a stroke whose command fails. -/
def complaint : Stroke → String
  | move .. | press .. | release .. => "Mouse event failed"
  | keyDown _ | keyUp _ => "Key event failed"
  | insert _ => "Text insertion failed"

/-- A key that goes down and up. -/
def tap (key : String) : List Stroke := [keyDown key, keyUp key]

/-- How a character is typed: line ends and tabs by their keys, visible ASCII characters and the
space by theirs, and any other character as text. -/
def ofChar (c : Char) : List Stroke :=
  if c = '\n' ∨ c = '\r' then tap "Enter"
  else if c = '\t' then tap "Tab"
  else if ' ' ≤ c ∧ c ≤ '~' then tap c.toString
  else [insert c.toString]

/-- The strokes that let go of everything the page remembers. -/
def releases (h : Hands) : List Stroke :=
  (HeldButtons.order.filter h.buttons.has).map (release · 1) ++
    (Key.Modifier.all.filter h.modifiers.has).map fun m ↦ keyUp m.name

/-- The strokes of an input primitive, up to the first whose command fails. -/
def ofPrimitive : Primitive → List Stroke
  | .move x y => [move x y]
  | .down b => [press b 1]
  | .up b => [release b 1]
  | .click x y b => [move x y, press b 1, release b 1]
  | .doubleClick x y =>
    [move x y, press .left 1, release .left 1, press .left 2, release .left 2]
  | .keyDown key => [keyDown key]
  | .keyUp key => [keyUp key]
  | .type text => text.toList.flatMap ofChar
  | _ => []

end Stroke

end BrowserPilot
