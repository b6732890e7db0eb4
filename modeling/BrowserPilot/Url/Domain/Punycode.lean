namespace BrowserPilot.Url.Domain.Punycode

/-!
# Names in ASCII letters

A part of a name that holds other characters than ASCII is written with ASCII
letters and digits: first its ASCII characters, then where the others go, in
ascending order. Each of them is a number, the way to go from the last insertion
counted over all places and code points, whose digits are the less significant the
earlier they come. From which digit on a number goes on depends on the numbers
before.
-/

/-- The number of digits. -/
def base : Nat := 36

/-- The least code point that is not ASCII. -/
def firstForeign : Nat := 128

/-- The bias before the first number. -/
def firstBias : Nat := 72

/-- The character of a digit. -/
def digitChar (d : Nat) : Char :=
  if d < 26 then Char.ofNat ('a'.toNat + d) else Char.ofNat ('0'.toNat + d - 26)

/-- The value of a digit in either case. -/
def digitValue? (c : Char) : Option Nat :=
  if 'a' ≤ c ∧ c ≤ 'z' then some (c.toNat - 'a'.toNat)
  else if 'A' ≤ c ∧ c ≤ 'Z' then some (c.toNat - 'A'.toNat)
  else if '0' ≤ c ∧ c ≤ '9' then some (c.toNat - '0'.toNat + 26)
  else none

/-- The least digit after which a number goes on, at a place given by a multiple of the base. -/
def threshold (place bias : Nat) : Nat := min 26 (max 1 (place - bias))

/-- How often a difference is divided until it is small, in steps of the base, and what is left. -/
def shrink (delta steps : Nat) : Nat × Nat :=
  if 455 < delta then shrink (delta / 35) (steps + base) else (delta, steps)
termination_by delta

/-- The bias after a number: `count` characters have been placed. -/
def adapt (delta count : Nat) (first : Bool) : Nat :=
  let halved := if first then delta / 700 else delta / 2
  let (left, steps) := shrink (halved + halved / count) 0
  steps + base * left / (left + 38)

/-! ## Writing -/

/-- The digits of a number from a place on. -/
def digits (bias place n : Nat) : List Char :=
  let t := threshold place bias
  if n < t then [digitChar n]
  else digitChar (t + (n - t) % (base - t)) :: digits bias (place + base) ((n - t) / (base - t))
termination_by n
decreasing_by
  have h : 1 ≤ threshold place bias := by unfold threshold; omega
  exact Nat.lt_of_le_of_lt (Nat.div_le_self _ _) (by omega)

/-- How far writing has come. -/
structure Progress where
  written : List Char
  delta : Nat
  bias : Nat
  placed : Nat

/-- Passes a character of the text while the occurrences of the code point `m` are placed. `basic`
is the number of ASCII characters. -/
def pass (basic m : Nat) (p : Progress) (c : Char) : Progress :=
  if c.toNat < m then { p with delta := p.delta + 1 }
  else if c.toNat = m then
    { written := p.written ++ digits p.bias base p.delta
      delta := 0
      bias := adapt p.delta (p.placed + 1) (p.placed = basic)
      placed := p.placed + 1 }
  else p

/-- Places the code points of a list in ascending order, of which those below `n` are placed. -/
def place (cs : List Char) (basic : Nat) : (todo : List Nat) → (n : Nat) → Progress → Progress
  | [], _, p => p
  | m :: todo, n, p =>
    let p := { p with delta := p.delta + (m - n) * (p.placed + 1) }
    let p := cs.foldl (pass basic m) p
    place cs basic todo (m + 1) { p with delta := p.delta + 1 }

/-- Inserts a number into an ascending list, unless it is there. -/
def insertNew (n : Nat) : List Nat → List Nat
  | [] => [n]
  | m :: rest =>
    if n < m then n :: m :: rest
    else if n = m then m :: rest
    else m :: insertNew n rest

/-- The ASCII form of a row of characters. -/
def encode (cs : List Char) : List Char :=
  let ascii := cs.filter (·.toNat < firstForeign)
  let foreign := (cs.filter (firstForeign ≤ ·.toNat)).map Char.toNat
  let start : Progress := ⟨[], 0, firstBias, ascii.length⟩
  let lead := if ascii.isEmpty then [] else ascii ++ ['-']
  lead ++ (place cs ascii.length (foreign.foldr insertNew []) firstForeign start).written

/-! ## Reading -/

/-- Reads the digits of a number from a place on, and what follows them. -/
def number? (bias : Nat) : (place weight sum : Nat) → List Char → Option (Nat × List Char)
  | _, _, _, [] => none
  | place, weight, sum, c :: cs =>
    match digitValue? c with
    | none => none
    | some d =>
      let t := threshold place bias
      if d < t then some (sum + d * weight, cs)
      else number? bias (place + base) (weight * (base - t)) (sum + d * weight) cs

theorem length_number? {bias place weight sum : Nat} {cs : List Char} {r : Nat × List Char}
    (h : number? bias place weight sum cs = some r) : r.2.length < cs.length := by
  induction cs generalizing place weight sum with
  | nil => simp [number?] at h
  | cons c cs ih =>
    simp only [number?] at h
    split at h
    · cases h
    · split at h
      · cases h
        simp
      · exact Nat.lt_succ_of_lt (ih h)

/-- Inserts characters into `placed` as the numbers say, going on from code point `n` and index
`i`. -/
def insertAll? (bias n i : Nat) (placed cs : List Char) : Option (List Char) :=
  match cs with
  | [] => some placed
  | c :: rest =>
    match _h : number? bias base 1 0 (c :: rest) with
    | none => none
    | some (delta, rest) =>
      let count := placed.length + 1
      let m := n + (i + delta) / count
      let j := (i + delta) % count
      if m.isValidChar then
        insertAll? (adapt delta count (i = 0)) m (j + 1) (placed.insertIdx j (Char.ofNat m)) rest
      else none
termination_by cs.length
decreasing_by
  have := length_number? _h
  simpa using this

/-- What stands before and after the last hyphen, unless nothing stands before it. -/
def cutAtLastHyphen (cs : List Char) : List Char × List Char :=
  let before := ((cs.reverse.dropWhile (· ≠ '-')).drop 1).reverse
  if before.isEmpty then ([], cs) else (before, (cs.reverse.takeWhile (· ≠ '-')).reverse)

/-- The characters that an ASCII form stands for. -/
def decode? (cs : List Char) : Option (List Char) :=
  let (ascii, numbers) := cutAtLastHyphen cs
  insertAll? firstBias firstForeign 0 ascii numbers

end BrowserPilot.Url.Domain.Punycode
