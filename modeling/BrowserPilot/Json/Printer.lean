import BrowserPilot.Json.Basic

namespace BrowserPilot.Json

/-!
# Compact JSON text

No blanks between tokens. A string escapes the quote, the backslash and the
control characters, five of them by a letter; a double shows the fewest digits
that read back, positionally between `0.00001` and `10^16`.
-/

/-- How doubles are written. -/
def doubleNotation : Decimal.Notation := ⟨-5, 16⟩

/-- A hexadecimal digit in lower case. -/
def hexDigit (n : Nat) : Char := if n < 10 then Char.ofNat (48 + n) else Char.ofNat (87 + n)

/-- One character inside a string. -/
def escapeChar (c : Char) : List Char :=
  match c with
  | '"' => ['\\', '"']
  | '\\' => ['\\', '\\']
  | '\x08' => ['\\', 'b']
  | '\x0c' => ['\\', 'f']
  | '\n' => ['\\', 'n']
  | '\r' => ['\\', 'r']
  | '\t' => ['\\', 't']
  | c =>
    if c.toNat < 32 then
      ['\\', 'u', '0', '0', hexDigit (c.toNat / 16), hexDigit (c.toNat % 16)]
    else [c]

/-- The characters of a string between its quotes. -/
def escape (cs : List Char) : List Char := cs.flatMap escapeChar

/-- A string with its quotes. -/
def quote (s : String) : List Char := '"' :: escape s.toList ++ ['"']

def Number.render : Number → String
  | .int n => toString n
  | .double x => doubleNotation.renderDouble x

/-- Texts joined by commas. -/
def joinComma : List (List Char) → List Char
  | [] => []
  | [t] => t
  | t :: ts => t ++ ',' :: joinComma ts

mutual

/-- The characters of a value. -/
def renderChars : Json → List Char
  | .null => ['n', 'u', 'l', 'l']
  | .bool true => ['t', 'r', 'u', 'e']
  | .bool false => ['f', 'a', 'l', 's', 'e']
  | .number n => n.render.toList
  | .string s => quote s
  | .array items => '[' :: joinComma (renderItems items) ++ [']']
  | .object members => '{' :: joinComma (renderMembers members) ++ ['}']

/-- The items of an array, one text each. -/
def renderItems : List Json → List (List Char)
  | [] => []
  | v :: vs => renderChars v :: renderItems vs

/-- The members of an object, one text each. -/
def renderMembers : List (String × Json) → List (List Char)
  | [] => []
  | (name, v) :: ms => (quote name ++ ':' :: renderChars v) :: renderMembers ms

end

/-- The compact text of a value. -/
def render (v : Json) : String := String.ofList (renderChars v)

end BrowserPilot.Json
