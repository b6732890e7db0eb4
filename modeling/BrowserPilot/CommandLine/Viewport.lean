import BrowserPilot.Text.Blank
import BrowserPilot.Text.Numeral

namespace BrowserPilot.CommandLine

/-!
# Viewport sizes

A size is written as width and height with an `x` between them. Blanks around
either number are allowed, and both numbers are positive.
-/

/-- A separator of width and height. -/
def isCross (c : Char) : Bool := c == 'x' || c == 'X'

/-- The characters before and after the first separator, if there is one. -/
def splitCross (cs : List Char) : Option (List Char × List Char) :=
  match cs.dropWhile (!isCross ·) with
  | [] => none
  | _ :: rest => some (cs.takeWhile (!isCross ·), rest)

/-- One side of a size. -/
def side (which : String) (cs : List Char) : Except String UInt32 :=
  match Text.unsigned (UInt32.size - 1) (String.ofList (Text.trimChars cs)) with
  | .ok n => .ok (UInt32.ofNat n)
  | .error e => .error s!"invalid {which}: {e.message}"

/-- Reads a size. -/
def parseViewport (text : String) : Except String (UInt32 × UInt32) :=
  match splitCross text.toList with
  | none => .error s!"expected WIDTHxHEIGHT, got '{text}'"
  | some (left, right) => do
    let width ← side "width" left
    let height ← side "height" right
    if width = 0 ∨ height = 0 then throw "viewport dimensions must be positive"
    return (width, height)

end BrowserPilot.CommandLine
