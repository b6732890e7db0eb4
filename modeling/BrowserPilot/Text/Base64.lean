namespace BrowserPilot.Text.Base64

/-!
# Base64 with padding

The standard alphabet. Three bytes become four characters; one or two bytes at
the end are padded with `=`, and the unused bits of the last character are zero.
-/

/-- The character for the six bits `n`. -/
def symbol (n : Nat) : Char :=
  if n < 26 then Char.ofNat (65 + n)
  else if n < 52 then Char.ofNat (97 + (n - 26))
  else if n < 62 then Char.ofNat (48 + (n - 52))
  else if n = 62 then '+'
  else '/'

/-- The six bits that the code of a character of the alphabet stands for. -/
def value? (n : Nat) : Option Nat :=
  if 65 ≤ n ∧ n ≤ 90 then some (n - 65)
  else if 97 ≤ n ∧ n ≤ 122 then some (n - 97 + 26)
  else if 48 ≤ n ∧ n ≤ 57 then some (n - 48 + 52)
  else if n = 43 then some 62
  else if n = 47 then some 63
  else none

/-- The characters for a row of bytes. -/
def encodeChars : List UInt8 → List Char
  | [] => []
  | [a] =>
    let n := a.toNat * 16
    [symbol (n / 64), symbol (n % 64), '=', '=']
  | [a, b] =>
    let n := (a.toNat * 256 + b.toNat) * 4
    [symbol (n / 4096), symbol (n / 64 % 64), symbol (n % 64), '=']
  | a :: b :: c :: rest =>
    let n := (a.toNat * 256 + b.toNat) * 256 + c.toNat
    symbol (n / 262144) :: symbol (n / 4096 % 64) :: symbol (n / 64 % 64) :: symbol (n % 64) ::
      encodeChars rest

/-- The written form of a row of bytes. -/
def encode (bytes : List UInt8) : String := String.ofList (encodeChars bytes)

/-- Why a row of characters is not the written form of any bytes. -/
inductive Error
  | invalidSymbol (offset : Nat) (byte : UInt8)
  | invalidLength (length : Nat)
  | invalidLastSymbol (offset : Nat) (byte : UInt8)
  | invalidPadding
  deriving DecidableEq, Repr

/-- The wording of an error. -/
def Error.message : Error → String
  | .invalidSymbol offset byte => s!"Invalid symbol {byte}, offset {offset}."
  | .invalidLength length => s!"Invalid input length: {length}"
  | .invalidLastSymbol offset byte => s!"Invalid last symbol {byte}, offset {offset}."
  | .invalidPadding => "Invalid padding"

/-- The code of the padding character. -/
def pad : UInt8 := 61

/-- The six bits of a byte at a known offset. -/
def bits (offset : Nat) (b : UInt8) : Except Error Nat :=
  match value? b.toNat with
  | some n => .ok n
  | none => .error (.invalidSymbol offset b)

/-- What the last group shows before it is turned into bytes: its symbols, the offset of the
first padding character if there is one, and the number of padding characters. -/
structure LastGroup where
  symbols : List (UInt8 × Nat) := []
  firstPad : Nat := 0
  pads : Nat := 0

/-- Reads the last group. Padding stands behind two symbols at least and nothing follows it. -/
def readLast (start : Nat) : Nat → LastGroup → List UInt8 → Except Error LastGroup
  | _, g, [] => .ok g
  | i, g, b :: rest =>
    if b = pad then
      if i < 2 then .error (.invalidSymbol (start + i) b)
      else
        readLast start (i + 1)
          { g with firstPad := if g.pads = 0 then i else g.firstPad, pads := g.pads + 1 } rest
    else if 0 < g.pads then .error (.invalidSymbol (start + g.firstPad) pad)
    else do
      let n ← bits (start + i) b
      readLast start (i + 1) { g with symbols := g.symbols ++ [(b, n)] } rest

/-- The bytes of the last group, whose symbols leave no bit unused but zeros. -/
def decodeLast (start : Nat) (group : List UInt8) : Except Error (List UInt8) := do
  let g ← readLast start 0 {} group
  let count := g.symbols.length
  if !group.isEmpty && count < 2 then throw (.invalidLength (start + count))
  if (g.pads + count) % 4 ≠ 0 then throw .invalidPadding
  let last := (g.symbols.getLast?.map Prod.fst).getD 0
  match g.symbols.map Prod.snd with
  | [a, b] =>
    if b % 16 ≠ 0 then throw (.invalidLastSymbol (start + 1) last)
    return [UInt8.ofNat (a * 4 + b / 16)]
  | [a, b, c] =>
    if c % 4 ≠ 0 then throw (.invalidLastSymbol (start + 2) last)
    return [UInt8.ofNat (a * 4 + b / 16), UInt8.ofNat (b % 16 * 16 + c / 4)]
  | [a, b, c, d] =>
    return [UInt8.ofNat (a * 4 + b / 16), UInt8.ofNat (b % 16 * 16 + c / 4),
      UInt8.ofNat (c % 4 * 64 + d)]
  | _ => return []

/-- Whole groups hold no padding; only the last group may. -/
def decodeFrom (start : Nat) : List UInt8 → Except Error (List UInt8)
  | a :: b :: c :: d :: e :: rest => do
    let a ← bits start a
    let b ← bits (start + 1) b
    let c ← bits (start + 2) c
    let d ← bits (start + 3) d
    let tail ← decodeFrom (start + 4) (e :: rest)
    return UInt8.ofNat (a * 4 + b / 16) :: UInt8.ofNat (b % 16 * 16 + c / 4) ::
      UInt8.ofNat (c % 4 * 64 + d) :: tail
  | group => decodeLast start group

/-- The bytes that a row of characters, given by their codes, is the written form of. A single
character left over at the end is reported first if it is outside the alphabet. -/
def decode (codes : List UInt8) : Except Error (List UInt8) :=
  match codes.getLast? with
  | some b =>
    if codes.length % 4 = 1 ∧ b ≠ pad ∧ value? b.toNat = none then
      .error (.invalidSymbol (codes.length - 1) b)
    else decodeFrom 0 codes
  | none => .ok []

end BrowserPilot.Text.Base64
