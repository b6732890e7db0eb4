namespace BrowserPilot.Url

/-!
# Percent encoding

A character that an address may not hold as it is stands for the bytes of its
UTF-8 form, each written with a percent sign and two digits. Which characters
these are depends on the part of the address; none of the sets holds the percent
sign itself, so what is encoded already is kept.
-/

/-- A digit of a byte's hexadecimal form. -/
def hexDigit (n : Nat) : Char := (Nat.digitChar n).toUpper

/-- The value of a hexadecimal digit in either case. -/
def hexValue? (c : Char) : Option Nat :=
  if '0' ≤ c ∧ c ≤ '9' then some (c.toNat - '0'.toNat)
  else if 'a' ≤ c ∧ c ≤ 'f' then some (c.toNat - 'a'.toNat + 10)
  else if 'A' ≤ c ∧ c ≤ 'F' then some (c.toNat - 'A'.toNat + 10)
  else none

/-- The bytes of a row of characters. -/
def utf8 (cs : List Char) : List UInt8 := (String.ofList cs).toUTF8.toList

/-- The characters of a row of bytes, if they are well-formed. -/
def ofUtf8? (bytes : List UInt8) : Option (List Char) :=
  (String.fromUTF8? ⟨bytes.toArray⟩).map String.toList

/-- The written form of a byte. -/
def escapeByte (b : UInt8) : List Char :=
  ['%', hexDigit (b.toNat / 16), hexDigit (b.toNat % 16)]

/-- A row of characters with those of a set encoded. -/
def escape (set : Char → Bool) (cs : List Char) : List Char :=
  cs.flatMap fun c ↦ if set c then (utf8 [c]).flatMap escapeByte else [c]

/-- The byte that two characters stand for, if they are digits. -/
def escapedByte? (high low : UInt8) : Option UInt8 := do
  let h ← hexValue? (Char.ofNat high.toNat)
  let l ← hexValue? (Char.ofNat low.toNat)
  return UInt8.ofNat (16 * h + l)

/-- Replaces each encoded byte by the byte itself. A percent sign without two digits is kept. -/
def unescape : List UInt8 → List UInt8
  | 0x25 :: h :: l :: rest =>
    match escapedByte? h l with
    | some b => b :: unescape rest
    | none => 0x25 :: unescape (h :: l :: rest)
  | b :: rest => b :: unescape rest
  | [] => []

/-! ## Sets -/

/-- Control characters and all that is not ASCII. -/
def isControl (c : Char) : Bool := c < ' ' || '\x7f' ≤ c

/-- What is encoded after the number sign. -/
def inFragment (c : Char) : Bool := isControl c || " \"<>\x60".contains c

/-- What is encoded between two slashes. -/
def inPath (c : Char) : Bool := inFragment c || "#?\x7b\x7d".contains c

/-- What is encoded in a user's name or password. -/
def inCredentials (c : Char) : Bool := inPath c || "/:;=@[\\]^|".contains c

/-- What is encoded after the question mark. -/
def inQuery (c : Char) : Bool := isControl c || " \"#<>'".contains c

end BrowserPilot.Url
