namespace BrowserPilot

/-!
# Durations

A duration is a count of nanoseconds. Its text uses the largest of the units
`s`, `ms`, `µs` and `ns` that fits into it, with as many decimals as it needs.
-/

/-- A length of time. -/
structure Duration where
  nanoseconds : Nat
  deriving DecidableEq, Repr, Inhabited

namespace Duration

/-- Whole seconds. -/
def ofSeconds (n : Nat) : Duration := ⟨n * 1000000000⟩

/-- Whole milliseconds. -/
def ofMillis (n : Nat) : Duration := ⟨n * 1000000⟩

/-- The decimals of `n`, written with `width` digits and no zeros at the end. -/
def decimals (width n : Nat) : String :=
  let digits := Nat.toDigits 10 n
  let padded := List.replicate (width - digits.length) '0' ++ digits
  let kept := (padded.reverse.dropWhile (· == '0')).reverse
  if kept.isEmpty then "" else String.ofList ('.' :: kept)

/-- The text in a unit of `10^width` nanoseconds. -/
def inUnit (n width : Nat) (unit : String) : String :=
  toString (n / Nat.pow 10 width) ++ decimals width (n % Nat.pow 10 width) ++ unit

/-- The text of a duration. -/
def text (d : Duration) : String :=
  let n := d.nanoseconds
  if 1000000000 ≤ n then inUnit n 9 "s"
  else if 1000000 ≤ n then inUnit n 6 "ms"
  else if 1000 ≤ n then inUnit n 3 "µs"
  else inUnit n 0 "ns"

end Duration

end BrowserPilot
