import BrowserPilot.Url.Domain.Composition
import BrowserPilot.Url.Domain.Punycode
import BrowserPilot.Url.Domain.Replacement
import BrowserPilot.Url.Domain.Script
import BrowserPilot.Url.Percent

namespace BrowserPilot.Url.Domain

/-!
# Names of hosts

A name is a row of labels between dots. Names in any script are brought into one
form: characters are replaced and composed, and a label that is not ASCII is
written in ASCII letters behind a mark of four characters. A name in ASCII letters
without such a mark is only brought into lower case.
-/

/-- What a label in ASCII letters that stands for other characters begins with. -/
def encodedMark : List Char := ['x', 'n', '-', '-']

/-- The characters that no name holds. -/
def isForbidden (c : Char) : Bool :=
  c ≤ ' ' || c = '\x7f' || "%#/:<>?@[\\]^|".contains c

def isAscii (cs : List Char) : Bool := cs.all (·.toNat < 128)

/-- The zero-width characters that keep letters apart or hold them together. -/
def keepsApart (c : Char) : Bool := c.toNat = 0x200C

def holdsTogether (c : Char) : Bool := c.toNat = 0x200D

/-- Whether each zero-width character stands where it makes a difference: after a mark that
suppresses a vowel, or, if it keeps letters apart, between two that would join. What stands before
`cs` is given in reverse. -/
def joinersFit (before : List Char) : List Char → Bool
  | [] => true
  | c :: after =>
    let killed := match before with
      | [] => false
      | d :: _ => markClass d = vowelKiller
    (if keepsApart c then killed || joinsAcross before after
      else if holdsTogether c then killed
      else true) && joinersFit (c :: before) after

/-- Whether a label in its own characters is well-formed. -/
def isLabel (cs : List Char) : Bool :=
  cs.all (fun c ↦ isKept c && !isForbidden c) && !(cs.head?.map isMark).getD false &&
    joinersFit [] cs

/-- The characters that a label stands for. A label in ASCII letters has to stand for other
characters, and for such as would be kept. -/
def readLabel? (cs : List Char) : Option (List Char) :=
  match encodedMark.isPrefixOf? cs with
  | none => some cs
  | some encoded =>
    match Punycode.decode? encoded with
    | none => none
    | some decoded =>
      if !isAscii decoded && compose decoded = decoded then some decoded else none

/-- The ASCII form of a label. -/
def writeLabel (cs : List Char) : List Char :=
  if isAscii cs then cs else encodedMark ++ Punycode.encode cs

/-- The labels of a name in their own characters, replaced and composed. -/
def labels? (cs : List Char) : Option (List (List Char)) := do
  let replaced ← cs.mapM replace?
  let flat := replaced.flatten
  let composed := if isAscii flat then flat else compose flat
  (Text.pieces (· = '.') composed).mapM readLabel?

/-- Whether all labels are well-formed. Where one is written from right to left, each has one
direction. -/
def areLabels (labels : List (List Char)) : Bool :=
  labels.all isLabel && (!labels.any (·.any turns) || labels.all hasOneDirection)

/-- The ASCII form of a name given in characters. -/
def ofChars? (cs : List Char) : Option (List Char) := do
  let labels ← labels? cs
  if areLabels labels then some (['.'].intercalate (labels.map writeLabel)) else none

/-- The ASCII form of a name given in bytes. -/
def ofBytes? (bytes : List UInt8) : Option (List Char) := (ofUtf8? bytes).bind ofChars?

end BrowserPilot.Url.Domain
