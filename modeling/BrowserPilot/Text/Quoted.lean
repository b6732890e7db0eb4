import BrowserPilot.Text.Invisible

namespace BrowserPilot.Text

/-!
# Quoted texts

A text between double quotes as error messages show it. The quote and the
backslash are escaped, the usual control characters by a letter, and every other
character without a visible form by its hexadecimal code in braces.
-/

/-- The digits of a code point, in lower case. -/
def hexCode (c : Char) : List Char := Nat.toDigits 16 c.toNat

/-- One character between the quotes. -/
def quotedChar (c : Char) : List Char :=
  match c with
  | '"' => ['\\', '"']
  | '\\' => ['\\', '\\']
  | '\t' => ['\\', 't']
  | '\n' => ['\\', 'n']
  | '\r' => ['\\', 'r']
  | '\x00' => ['\\', '0']
  | c => if isInvisible c then '\\' :: 'u' :: '\x7b' :: hexCode c ++ ['\x7d'] else [c]

/-- The text with its quotes. -/
def quoted (s : String) : String := String.ofList ('"' :: s.toList.flatMap quotedChar ++ ['"'])

end BrowserPilot.Text
