import BrowserPilot.Text.Pieces
import BrowserPilot.Url.Percent

namespace BrowserPilot.Url

/-!
# Numeric addresses

A host may be given as a number. The older kind has up to four numbers between
dots, of which the last fills all the places that are left; the newer kind has
eight groups of hexadecimal digits, of which one run of zeros may be left out.
-/

/-- The number that digits of a base denote; none for anything that is not such a digit. -/
def digitsIn? (base : Nat) (cs : List Char) : Option Nat :=
  cs.foldlM (fun n c ↦ (hexValue? c).bind fun d ↦
    if d < base then some (base * n + d) else none) 0

/-! ## Four bytes -/

/-- A number in decimal, in octal after `0`, or in hexadecimal after `0x`. -/
def number? : List Char → Option Nat
  | [] => none
  | '0' :: 'x' :: ds => digitsIn? 16 ds
  | '0' :: 'X' :: ds => digitsIn? 16 ds
  | '0' :: d :: ds => digitsIn? 8 (d :: ds)
  | ds => digitsIn? 10 ds

/-- The parts between the dots, without an empty one at the end. -/
def dottedParts (cs : List Char) : List (List Char) :=
  let parts := Text.pieces (· = '.') cs
  if parts.getLast? = some [] then parts.dropLast else parts

/-- Whether a name has to be read as a number: its last part is a row of digits or a number. -/
def endsInNumber (cs : List Char) : Bool :=
  match (dottedParts cs).getLast? with
  | some part => (!part.isEmpty && part.all Char.isDigit) || (number? part).isSome
  | none => false

/-- The value of up to four numbers, of which the last fills the places that are left. -/
def fourBytesValue? (numbers : List Nat) : Option Nat :=
  match numbers.reverse with
  | [] => none
  | last :: high =>
    if high.length ≤ 3 ∧ last < Nat.pow 256 (4 - high.length) ∧ high.all (· < 256) then
      some (high.reverse.foldl (fun n b ↦ 256 * n + b) 0 * Nat.pow 256 (4 - high.length) + last)
    else none

/-- Reads an address of four bytes. -/
def readFourBytes? (cs : List Char) : Option Nat :=
  ((dottedParts cs).mapM number?).bind fourBytesValue?

/-- The written form of four bytes. -/
def fourBytesText (value : Nat) : String :=
  ".".intercalate ([16777216, 65536, 256, 1].map fun place ↦ toString (value / place % 256))

/-! ## Eight groups -/

/-- A group of one to four hexadecimal digits. -/
def group? (cs : List Char) : Option Nat :=
  if 1 ≤ cs.length ∧ cs.length ≤ 4 then digitsIn? 16 cs else none

/-- A decimal number below 256 without a zero in front. -/
def byte? (cs : List Char) : Option Nat :=
  match cs with
  | [] => none
  | '0' :: _ :: _ => none
  | ds => (digitsIn? 10 ds).bind fun n ↦ if n < 256 then some n else none

/-- The two groups that four bytes between dots stand for. -/
def dottedGroups? (cs : List Char) : Option (List Nat) := do
  match ← (Text.pieces (· = '.') cs).mapM byte? with
  | [a, b, c, d] => some [256 * a + b, 256 * c + d]
  | _ => none

/-- The groups of a text between colons; the last may be written as four bytes. -/
def groups? (cs : List Char) (dotted : Bool) : Option (List Nat) :=
  if cs.isEmpty then some [] else
    match (Text.pieces (· = ':') cs).reverse with
    | [] => none
    | last :: high => do
      let front ← high.reverse.mapM group?
      let back ←
        if dotted && last.contains '.' then dottedGroups? last else (group? last).map ([·])
      return front ++ back

/-- What stands before and after the first pair of colons. -/
def cutAtPair : List Char → Option (List Char × List Char)
  | ':' :: ':' :: rest => some ([], rest)
  | c :: rest => (cutAtPair rest).map fun (before, after) ↦ (c :: before, after)
  | [] => none

/-- Reads an address of eight groups. A pair of colons stands for at least one group of zero. -/
def readEightGroups? (cs : List Char) : Option (List Nat) :=
  match cutAtPair cs with
  | none => do
    let groups ← groups? cs true
    if groups.length = 8 then some groups else none
  | some (before, after) => do
    let front ← groups? before false
    let back ← groups? after true
    if front.length + back.length ≤ 7 then
      some (front ++ List.replicate (8 - front.length - back.length) 0 ++ back)
    else none

/-- Start and length of the first of the longest runs of zeros. -/
def longestZeros (groups : List Nat) : Nat × Nat :=
  (List.range groups.length).foldl (fun (start, length) i ↦
    let n := ((groups.drop i).takeWhile (· = 0)).length
    if length < n then (i, n) else (start, length)) (0, 0)

/-- Groups between colons. -/
def groupsText (groups : List Nat) : String :=
  ":".intercalate (groups.map fun g ↦ String.ofList (Nat.toDigits 16 g))

/-- The written form of eight groups: the first of the longest runs of two or more zeros is left
out. -/
def eightGroupsText (groups : List Nat) : String :=
  let (start, length) := longestZeros groups
  if length < 2 then groupsText groups
  else groupsText (groups.take start) ++ "::" ++ groupsText (groups.drop (start + length))

end BrowserPilot.Url
