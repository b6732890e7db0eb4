namespace BrowserPilot.Text

/-!
# Blank characters

The Unicode property White_Space and the trimming that uses it. The set has
twenty-five members; the zero-width characters and the byte order mark are not
among them.
-/

/-- The characters with the Unicode property White_Space. -/
def isBlank (c : Char) : Bool :=
  let n := c.toNat
  (9 ≤ n && n ≤ 13) || n == 0x20 || n == 0x85 || n == 0xA0 || n == 0x1680 ||
    (0x2000 ≤ n && n ≤ 0x200A) || n == 0x2028 || n == 0x2029 || n == 0x202F ||
    n == 0x205F || n == 0x3000

/-- The characters left when the blanks at the front are dropped. -/
def dropBlank (cs : List Char) : List Char := cs.dropWhile isBlank

theorem dropBlank_cons {c : Char} (h : isBlank c = false) (cs : List Char) :
    dropBlank (c :: cs) = c :: cs := by
  rw [dropBlank, List.dropWhile_cons_of_neg (by simp [h])]

/-- The characters left when the blanks at the end are dropped. -/
def dropBlankEnd (cs : List Char) : List Char := (cs.reverse.dropWhile isBlank).reverse

/-- The characters between the first and the last one that are not blank. -/
def trimChars (cs : List Char) : List Char := dropBlankEnd (dropBlank cs)

/-- A text without the blanks around it. -/
def trim (s : String) : String := String.ofList (trimChars s.toList)

@[simp] theorem toList_trim (s : String) : (trim s).toList = trimChars s.toList := by
  simp [trim]

end BrowserPilot.Text
