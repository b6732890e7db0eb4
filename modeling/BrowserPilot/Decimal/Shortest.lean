namespace BrowserPilot.Decimal

/-!
# The fewest digits that read back

A finite binary number `m * 2^q` is told apart from its neighbours by every
decimal in its rounding interval, which reaches half way to the neighbour on
either side and contains its ends when `m` is even. `shortest` chooses a decimal
of the interval with the fewest digits, and of those the nearest. All arithmetic
is on natural numbers.
-/

/-- The positive binary number `mantissa * 2^exponent`. At a power of two the neighbour below is
only half as far away as the one above. -/
structure Binary where
  mantissa : Nat
  exponent : Int
  narrowBelow : Bool
  deriving DecidableEq, Repr

/-- A decimal `digits * 10^exponent`. -/
structure Scaled where
  digits : Nat
  exponent : Int
  deriving DecidableEq, Repr

/-- The value and the two ends of its rounding interval as fractions over one denominator. -/
structure Interval where
  low : Nat
  value : Nat
  high : Nat
  denominator : Nat
  closed : Bool

/-- The rounding interval. All four numbers are scaled by four, so that the ends are whole. -/
def Binary.interval (x : Binary) : Interval :=
  let up := Nat.pow 2 x.exponent.toNat
  let down := Nat.pow 2 (-x.exponent).toNat
  { low := (4 * x.mantissa - if x.narrowBelow then 1 else 2) * up
    value := 4 * x.mantissa * up
    high := (4 * x.mantissa + 2) * up
    denominator := 4 * down
    closed := x.mantissa % 2 = 0 }

/-- Whether the decimal lies in the interval. -/
def Interval.contains (i : Interval) (d : Scaled) : Bool :=
  let n := d.digits * Nat.pow 10 d.exponent.toNat * i.denominator
  let scale := Nat.pow 10 (-d.exponent).toNat
  if i.closed then i.low * scale ≤ n && n ≤ i.high * scale
  else i.low * scale < n && n < i.high * scale

/-- The largest `e` below `start + steps` with `10^e ≤ num / den`, found by going down. -/
def magnitudeBelow (num den : Nat) (start : Int) : Nat → Int
  | 0 => start
  | steps + 1 =>
    let e := start + (steps : Int)
    if Nat.pow 10 e.toNat * den ≤ num * Nat.pow 10 (-e).toNat then e
    else magnitudeBelow num den start steps

/-- The decimal exponent of the leading digit. The binary logarithm gives it up to three. -/
def Interval.magnitude (i : Interval) : Int :=
  let bits : Int := (Nat.log2 i.value : Int) - (Nat.log2 i.denominator : Int)
  let guess := bits * 1233 / 4096
  magnitudeBelow i.value i.denominator (guess - 3) 7

/-- Of the two decimals with exponent `e` that enclose the value, the nearer one that lies in the
interval; the even one if they are equally near. -/
def Interval.candidate? (i : Interval) (e : Int) : Option Scaled :=
  let num := i.value * Nat.pow 10 (-e).toNat
  let den := i.denominator * Nat.pow 10 e.toNat
  let below : Scaled := ⟨num / den, e⟩
  let above : Scaled := ⟨num / den + 1, e⟩
  let rest := num % den
  let downFirst := 2 * rest < den ∨ (2 * rest = den ∧ below.digits % 2 = 0)
  match i.contains below, i.contains above with
  | true, true => some (if downFirst then below else above)
  | true, false => some below
  | false, true => some above
  | false, false => none

/-- The first grid with a hit, going from `count` digits upwards. -/
def Interval.search (i : Interval) (top : Int) (count : Nat) : Nat → Option Scaled
  | 0 => none
  | steps + 1 =>
    match i.candidate? (top - (count : Int)) with
    | some d => some d
    | none => i.search top (count + 1) steps

/-- Moves trailing zeros of the digits into the exponent. -/
def Scaled.strip (d : Scaled) : Nat → Scaled
  | 0 => d
  | steps + 1 =>
    if d.digits % 10 = 0 ∧ 0 < d.digits then
      Scaled.strip ⟨d.digits / 10, d.exponent + 1⟩ steps
    else d

/-- The shortest decimal that reads back as `x`. Seventeen digits always suffice for a mantissa
of fifty-three bits; beyond them the value itself is returned. -/
def shortest (x : Binary) : Scaled :=
  let i := x.interval
  match i.search i.magnitude 0 18 with
  | some d => d.strip 18
  | none => 
    ⟨x.mantissa * Nat.pow 2 x.exponent.toNat * Nat.pow 5 (-x.exponent).toNat, min x.exponent 0⟩

end BrowserPilot.Decimal
