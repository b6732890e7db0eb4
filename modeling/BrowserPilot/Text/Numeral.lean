namespace BrowserPilot.Text

/-!
# Decimal numerals

Reading whole numbers of a bounded range. A numeral is an optional sign and at
least one ASCII digit; leading zeros are allowed, blanks and separators are not.
-/

/-- Why a text is not a numeral of the range asked for. -/
inductive NumeralError
  | empty
  | invalidDigit
  | tooLarge
  | tooSmall
  deriving DecidableEq, Repr

/-- The wording of a numeral error. -/
def NumeralError.message : NumeralError → String
  | .empty => "cannot parse integer from empty string"
  | .invalidDigit => "invalid digit found in string"
  | .tooLarge => "number too large to fit in target type"
  | .tooSmall => "number too small to fit in target type"

/-- The value of an ASCII digit. -/
def digitValue? (c : Char) : Option Nat :=
  if '0' ≤ c ∧ c ≤ '9' then some (c.toNat - '0'.toNat) else none

/-- The number that a row of digits denotes, read after the digits that gave `acc`. -/
def digitsValue? (acc : Nat) : List Char → Option Nat
  | [] => some acc
  | c :: cs => (digitValue? c).bind fun d ↦ digitsValue? (10 * acc + d) cs

/-- Digits are read from the left, so a value that leaves the range before the first character
that is no digit is reported as too large. -/
def boundedValue (bound : Nat) (excess : NumeralError) (acc : Nat) :
    List Char → Except NumeralError Nat
  | [] => .ok acc
  | c :: cs =>
    match digitValue? c with
    | none => .error .invalidDigit
    | some d =>
      if bound < 10 * acc + d then .error excess else boundedValue bound excess (10 * acc + d) cs

/-- A numeral without a minus sign, at most `bound`. -/
def unsigned (bound : Nat) (s : String) : Except NumeralError Nat :=
  match s.toList with
  | [] => .error .empty
  | ['+'] | ['-'] => .error .invalidDigit
  | '+' :: cs => boundedValue bound .tooLarge 0 cs
  | cs => boundedValue bound .tooLarge 0 cs

/-- A numeral with an optional sign, between `-2^63` and `2^63 - 1`. -/
def signed (s : String) : Except NumeralError Int :=
  match s.toList with
  | [] => .error .empty
  | ['+'] | ['-'] => .error .invalidDigit
  | '+' :: cs => (boundedValue 9223372036854775807 .tooLarge 0 cs).map Int.ofNat
  | '-' :: cs => (boundedValue 9223372036854775808 .tooSmall 0 cs).map fun n ↦ -(n : Int)
  | cs => (boundedValue 9223372036854775807 .tooLarge 0 cs).map Int.ofNat

end BrowserPilot.Text
