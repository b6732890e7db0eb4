namespace BrowserPilot.Text

/-!
# Case of ASCII letters

Only the twenty-six letters change case; every other character is its own lower
case.
-/

/-- The lower case of an ASCII capital. -/
def lowerChar (c : Char) : Char :=
  if 'A' ≤ c ∧ c ≤ 'Z' then Char.ofNat (c.toNat + 32) else c

/-- The upper case of an ASCII small letter. -/
def upperChar (c : Char) : Char :=
  if 'a' ≤ c ∧ c ≤ 'z' then Char.ofNat (c.toNat - 32) else c

/-- A text with its ASCII capitals in lower case. -/
def lower (s : String) : String := String.ofList (s.toList.map lowerChar)

@[simp] theorem toList_lower (s : String) : (lower s).toList = s.toList.map lowerChar := by
  simp [lower]

/-- Whether a character is an ASCII letter. -/
def isLetter (c : Char) : Bool := ('a' ≤ c && c ≤ 'z') || ('A' ≤ c && c ≤ 'Z')

/-- Whether a character is an ASCII digit. -/
def isDigit (c : Char) : Bool := '0' ≤ c && c ≤ '9'

end BrowserPilot.Text
