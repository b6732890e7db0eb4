namespace BrowserPilot

/-!
# Date and time of day

Readings of a wall clock, in the two written forms that the tools use.
-/

/-- Which wall clock is read. -/
inductive Zone
  | here
  | utc
  deriving DecidableEq, Repr

/-- A reading of a wall clock. -/
structure CivilTime where
  year : Nat
  month : Nat
  day : Nat
  hour : Nat
  minute : Nat
  second : Nat
  millisecond : Nat
  deriving DecidableEq, Repr, Inhabited

namespace CivilTime

/-- A number with zeros in front up to the given width. -/
def padded (width n : Nat) : String :=
  let digits := Nat.toDigits 10 n
  String.ofList (List.replicate (width - digits.length) '0' ++ digits)

/-- The date, as `2025-03-07`. -/
def date (t : CivilTime) : String :=
  padded 4 t.year ++ "-" ++ padded 2 t.month ++ "-" ++ padded 2 t.day

/-- The time of day, as `09:05:01`. -/
def time (t : CivilTime) : String :=
  padded 2 t.hour ++ ":" ++ padded 2 t.minute ++ ":" ++ padded 2 t.second

/-- Date and time with a blank between them. -/
def text (t : CivilTime) : String := t.date ++ " " ++ t.time

/-- The timestamp of a universal time, to the millisecond. -/
def timestamp (t : CivilTime) : String :=
  t.date ++ "T" ++ t.time ++ "." ++ padded 3 t.millisecond ++ "Z"

end CivilTime

end BrowserPilot
