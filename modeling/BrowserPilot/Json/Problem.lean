import BrowserPilot.Json.Printer

namespace BrowserPilot.Json

/-!
# What can be wrong with JSON

A mismatch says why a well-formed value does not have the shape asked for. A
problem is a mismatch or a fault of the text itself.
-/

/-- Why a value does not have the shape asked for. -/
inductive Mismatch
  | missing (field : String)
  | duplicate (field : String)
  | unknownVariant (found : String) (known : List String)
  | invalidType (found expected : String)
  | invalidValue (found expected : String)
  | invalidLength (length : Nat) (expected : String)
  | noVariant (type : String)
  deriving DecidableEq, Repr

/-- A list of names in backticks: two with `or`, more with `one of`. -/
def alternatives : List String → String
  | [] => "there are no variants"
  | [a] => s!"`{a}`"
  | [a, b] => s!"`{a}` or `{b}`"
  | names => "one of " ++ ", ".intercalate (names.map fun n ↦ s!"`{n}`")

/-- The wording of a mismatch. -/
def Mismatch.message : Mismatch → String
  | .missing field => s!"missing field `{field}`"
  | .duplicate field => s!"duplicate field `{field}`"
  | .unknownVariant found known => s!"unknown variant `{found}`, expected {alternatives known}"
  | .invalidType found expected => s!"invalid type: {found}, expected {expected}"
  | .invalidValue found expected => s!"invalid value: {found}, expected {expected}"
  | .invalidLength length expected => s!"invalid length {length}, expected {expected}"
  | .noVariant type => s!"data did not match any variant of untagged enum {type}"

/-- What can be wrong with a JSON text. -/
inductive Problem
  | endInList
  | endInObject
  | endInString
  | endInValue
  | expectedColon
  | expectedListEnd
  | expectedObjectEnd
  | expectedIdent
  | expectedValue
  | invalidEscape
  | invalidNumber
  | numberOutOfRange
  | loneSurrogate
  | unfinishedSurrogate
  | controlCharacter
  | keyNotString
  | trailingComma
  | trailingCharacters
  | tooDeep
  | mismatch (m : Mismatch)
  deriving DecidableEq, Repr

/-- The wording of a problem. -/
def Problem.message : Problem → String
  | .endInList => "EOF while parsing a list"
  | .endInObject => "EOF while parsing an object"
  | .endInString => "EOF while parsing a string"
  | .endInValue => "EOF while parsing a value"
  | .expectedColon => "expected `:`"
  | .expectedListEnd => "expected `,` or `]`"
  | .expectedObjectEnd => "expected `,` or `\x7d`"
  | .expectedIdent => "expected ident"
  | .expectedValue => "expected value"
  | .invalidEscape => "invalid escape"
  | .invalidNumber => "invalid number"
  | .numberOutOfRange => "number out of range"
  | .loneSurrogate => "lone leading surrogate in hex escape"
  | .unfinishedSurrogate => "unexpected end of hex escape"
  | .controlCharacter => "control character (\\u0000-\\u001F) found while parsing a string"
  | .keyNotString => "key must be a string"
  | .trailingComma => "trailing comma"
  | .trailingCharacters => "trailing characters"
  | .tooDeep => "recursion limit exceeded"
  | .mismatch m => m.message

/-- A problem and where it was met: lines count from one, columns count the bytes read of the
line. -/
structure Located where
  problem : Problem
  line : Nat
  column : Nat
  deriving DecidableEq, Repr

/-- The wording of a located problem. -/
def Located.message (e : Located) : String :=
  s!"{e.problem.message} at line {e.line} column {e.column}"

end BrowserPilot.Json
