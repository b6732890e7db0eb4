import BrowserPilot.Part

namespace BrowserPilot

/-!
# Observations

A screenshot of the visible viewport. Its size is read from the header of the
image, if it has one.
-/

/-- One captured image of the viewport. -/
structure Observation where
  bytes : List UInt8
  deriving DecidableEq, Repr

namespace Observation

/-- The eight bytes at the start of an image. -/
def signature : List UInt8 := [0x89, 0x50, 0x4E, 0x47, 0x0D, 0x0A, 0x1A, 0x0A]

/-- The name of the header chunk. -/
def headerName : List UInt8 := [0x49, 0x48, 0x44, 0x52]

/-- A number with its most significant byte first. -/
def bigEndian (bytes : List UInt8) : Nat := bytes.foldl (fun n b ↦ n * 256 + b.toNat) 0

/-- Width and height from the header of the image. -/
def dimensions? (o : Observation) : Option (Nat × Nat) :=
  let b := o.bytes
  if 24 ≤ b.length ∧ b.take 8 = signature ∧ (b.drop 12).take 4 = headerName then
    some (bigEndian ((b.drop 16).take 4), bigEndian ((b.drop 20).take 4))
  else none

/-- The base64 text of the image. -/
def base64 (o : Observation) : String := Text.Base64.encode o.bytes

/-- The observation as tool output. -/
def part (o : Observation) : Part := .image pngMime o.bytes

end Observation

end BrowserPilot
