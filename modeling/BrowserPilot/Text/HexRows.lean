import BrowserPilot.Text.Blank
import BrowserPilot.Text.Pieces

namespace BrowserPilot.Text

/-!
# Tables of code points

A table is written as a text of rows between blanks. A row is one or more
hexadecimal numbers between commas.
-/

/-- The value of a capital hexadecimal digit. -/
def hexDigitValue (c : Char) : Nat :=
  if c.isDigit then c.toNat - '0'.toNat else c.toNat - 'A'.toNat + 10

/-- The number that a row of hexadecimal digits denotes. -/
def hexNumber (cs : List Char) : Nat := cs.foldl (fun n c ↦ 16 * n + hexDigitValue c) 0

/-- The rows of a table. -/
def rows (text : String) : List (List Nat) :=
  ((pieces isBlank text.toList).filter fun row ↦ !row.isEmpty).map fun row ↦
    (pieces (· = ',') row).map hexNumber

/-- Whether a number is in one of the ranges of a table, of which each row gives the first and,
unless it is the same, the last number. -/
def inRanges (table : List (List Nat)) (n : Nat) : Bool :=
  table.any fun row ↦
    match row with
    | [a] => n = a
    | [a, b] => a ≤ n ∧ n ≤ b
    | _ => false

end BrowserPilot.Text
