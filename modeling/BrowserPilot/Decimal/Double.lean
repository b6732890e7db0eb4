import BrowserPilot.Decimal.Shortest

namespace BrowserPilot.Decimal

/-!
# Double-precision numbers

A double is kept as its sixty-four bits, so that two of them are equal exactly
when they are the same number with the same sign of zero.
-/

/-- A double-precision number, by its bits. -/
structure Double where
  bits : UInt64
  deriving DecidableEq, Repr, Inhabited

namespace Double

def ofFloat (x : Float) : Double := ⟨x.toBits⟩

/-- The double nearest to a whole number. -/
def ofInt (n : Int) : Double :=
  if n < 0 then ofFloat (-(Float.ofNat n.natAbs)) else ofFloat (Float.ofNat n.natAbs)

def isNegative (x : Double) : Bool := x.bits >>> 63 == 1

/-- The biased exponent field. -/
def exponentField (x : Double) : Nat := (x.bits >>> 52 &&& 0x7FF).toNat

/-- The fraction field. -/
def fractionField (x : Double) : Nat := (x.bits &&& 0xFFFFFFFFFFFFF).toNat

def isZero (x : Double) : Bool := x.exponentField == 0 && x.fractionField == 0

/-- The absolute value of a finite double that is not zero. -/
def magnitude (x : Double) : Binary :=
  let e := x.exponentField
  let f := x.fractionField
  if e = 0 then ⟨f, -1074, false⟩
  else ⟨f + 4503599627370496, (e : Int) - 1075, f = 0 ∧ 1 < e⟩

/-- The power of ten `10^e`. -/
def pow10 (e : Nat) : Float := OfScientific.ofScientific 1 false e

/-- Brings the exponent into the range of one multiplication or division. A value that becomes
too small is zero; one that becomes too large is none. -/
def scaleFloat (x : Float) (exponent : Int) : Nat → Option Float
  | 0 => some x
  | steps + 1 =>
    if exponent.natAbs ≤ 308 then
      if 0 ≤ exponent then
        let y := x * pow10 exponent.natAbs
        if y.isInf then none else some y
      else some (x / pow10 exponent.natAbs)
    else if x == 0.0 then some x
    else if 0 ≤ exponent then none
    else scaleFloat (x / pow10 308) (exponent + 308) steps

/-- The double for `significand * 10^exponent`, with `significand` below `2^64`. -/
def ofParts (negative : Bool) (significand : Nat) (exponent : Int) : Option Double :=
  (scaleFloat (Float.ofNat significand) exponent 4).map fun x ↦
    ofFloat (if negative then -x else x)

end Double

/-- Where positional notation ends: it is used when the exponent of the leading digit is at least
`least` and below `limit`. A fraction is always shown there; otherwise the exponent carries its
sign. -/
structure Notation where
  least : Int
  limit : Int

/-- `k` zeros. -/
def zeros (k : Nat) : String := String.ofList (List.replicate k '0')

/-- The text of a positive decimal. -/
def Notation.render (form : Notation) (d : Scaled) : String :=
  let digits := toString d.digits
  let count := digits.length
  let lead : Int := d.exponent + (count : Int) - 1
  if form.least ≤ lead ∧ lead < form.limit then
    if 0 ≤ d.exponent then digits ++ zeros d.exponent.toNat ++ ".0"
    else if 0 ≤ lead then
      let whole := (lead + 1).toNat
      String.ofList (digits.toList.take whole) ++ "." ++ String.ofList (digits.toList.drop whole)
    else "0." ++ zeros (-lead - 1).toNat ++ digits
  else
    let mark := if 0 ≤ lead then "e+" else "e-"
    let mantissa := match digits.toList with
      | [] => ""
      | [c] => c.toString
      | c :: rest => c.toString ++ "." ++ String.ofList rest
    mantissa ++ mark ++ toString lead.natAbs

/-- The text of a double: the fewest digits that read back. -/
def Notation.renderDouble (form : Notation) (x : Double) : String :=
  let sign := if x.isNegative then "-" else ""
  if x.isZero then sign ++ "0.0" else sign ++ form.render (shortest x.magnitude)

end BrowserPilot.Decimal
