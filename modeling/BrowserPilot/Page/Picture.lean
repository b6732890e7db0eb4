import BrowserPilot.Observation

namespace BrowserPilot

/-!
# Pictures of a page

A picture has the header of an image with the size of the viewport, followed by
the page's address in place of pixels.
-/

/-- A number as four bytes, the most significant first. -/
def fourBytes (n : Nat) : List UInt8 :=
  [UInt8.ofNat (n / 0x1000000), UInt8.ofNat (n / 0x10000), UInt8.ofNat (n / 0x100), UInt8.ofNat n]

/-- The picture of a page of the given size and address. -/
def picture (width height : UInt32) (url : String) : List UInt8 :=
  Observation.signature ++ fourBytes 13 ++ Observation.headerName ++ fourBytes width.toNat ++
    fourBytes height.toNat ++ [8, 6, 0, 0, 0] ++ url.toUTF8.toList

end BrowserPilot
