import BrowserPilot.Json.Problem

namespace BrowserPilot.Json

open Decimal (Double)

/-!
# Tokens of a JSON text

A scan reads from the front of what is left of a text. Its fault keeps what was
left where reading stopped, and how many bytes beyond that point were already
looked at; line and column are found from these at the end.
-/

/-- A fault of a text. -/
structure Fault where
  problem : Problem
  rest : List Char
  ahead : Nat
  deriving DecidableEq, Repr

/-- A step of reading: its result and what is left. -/
abbrev Scan (α : Type) := List Char → Except Fault (α × List Char)

/-- The number of bytes of a row of characters. -/
def byteCount (cs : List Char) : Nat := cs.foldl (fun n c ↦ n + c.utf8Size) 0

/-- Line and column after the first `bytes` bytes. -/
def position (line column bytes : Nat) : List Char → Nat × Nat
  | [] => (line, column)
  | c :: cs =>
    if bytes < c.utf8Size then (line, column + bytes)
    else if c = '\n' then position (line + 1) 0 (bytes - 1) cs
    else position line (column + c.utf8Size) (bytes - c.utf8Size) cs

/-- The fault with its place in the text. -/
def Fault.locate (fault : Fault) (text : List Char) : Located :=
  let (line, column) := position 1 0 (byteCount text - byteCount fault.rest + fault.ahead) text
  ⟨fault.problem, line, column⟩

/-- A fault at the point that reading has reached. -/
def stop {α : Type} (problem : Problem) (rest : List Char) : Except Fault α :=
  .error ⟨problem, rest, 0⟩

/-- A fault in the byte that comes next. -/
def refuse {α : Type} (problem : Problem) (rest : List Char) : Except Fault α :=
  .error ⟨problem, rest, 1⟩

/-- The four blanks of JSON. -/
def isGap (c : Char) : Bool := c == ' ' || c == '\n' || c == '\t' || c == '\r'

def skipGap (cs : List Char) : List Char := cs.dropWhile isGap

def isDigit (c : Char) : Bool := '0' ≤ c && c ≤ '9'

/-- Whether a digit comes next. -/
def startsDigit : List Char → Bool
  | c :: _ => isDigit c
  | [] => false

/-- The letters of a literal. The first wrong one is read before it is refused. -/
def word : List Char → Scan Unit
  | [], cs => .ok ((), cs)
  | _ :: _, [] => stop .endInValue []
  | w :: ws, c :: cs => if c = w then word ws cs else refuse .expectedIdent (c :: cs)

/-! ## Strings -/

/-- The value of a hexadecimal digit in either case. -/
def hexValue? (c : Char) : Option Nat :=
  if '0' ≤ c ∧ c ≤ '9' then some (c.toNat - 48)
  else if 'a' ≤ c ∧ c ≤ 'f' then some (c.toNat - 87)
  else if 'A' ≤ c ∧ c ≤ 'F' then some (c.toNat - 55)
  else none

/-- Four hexadecimal digits. Four bytes are looked at before any is judged. -/
def hexFour (cs : List Char) : Except Fault (Nat × List Char) :=
  if byteCount (cs.take 4) < 4 then stop .endInString []
  else match cs with
    | a :: b :: c :: d :: rest =>
      match hexValue? a, hexValue? b, hexValue? c, hexValue? d with
      | some a, some b, some c, some d => .ok (((a * 16 + b) * 16 + c) * 16 + d, rest)
      | _, _, _, _ => .error ⟨.invalidEscape, cs, 4⟩
    | _ => .error ⟨.invalidEscape, cs, 4⟩

def isHighSurrogate (n : Nat) : Bool := 0xD800 ≤ n && n ≤ 0xDBFF

def isLowSurrogate (n : Nat) : Bool := 0xDC00 ≤ n && n ≤ 0xDFFF

/-- The second half of a surrogate pair, from its digits on. -/
def lowDigits (high : Nat) (cs : List Char) : Except Fault (Char × List Char) := do
  let (low, rest) ← hexFour cs
  if isLowSurrogate low then
    .ok (Char.ofNat ((high - 0xD800) * 0x400 + (low - 0xDC00) + 0x10000), rest)
  else stop .loneSurrogate rest

/-- The second half of a surrogate pair whose first half was `high`. -/
def lowHalf (high : Nat) : Scan Char
  | [] => stop .endInString []
  | c :: cs =>
    if c ≠ '\\' then refuse .unfinishedSurrogate (c :: cs)
    else match cs with
      | [] => stop .endInString []
      | c :: cs => if c ≠ 'u' then refuse .unfinishedSurrogate (c :: cs) else lowDigits high cs

/-- A character given by its code, after the letter `u`. -/
def codeEscape (cs : List Char) : Except Fault (Char × List Char) := do
  let (n, rest) ← hexFour cs
  if isLowSurrogate n then stop .loneSurrogate rest
  else if isHighSurrogate n then lowHalf n rest
  else .ok (Char.ofNat n, rest)

/-- The character that a letter stands for after a backslash. -/
def letterEscape? (c : Char) : Option Char :=
  match c with
  | '"' => some '"'
  | '\\' => some '\\'
  | '/' => some '/'
  | 'b' => some '\x08'
  | 'f' => some '\x0c'
  | 'n' => some '\n'
  | 'r' => some '\r'
  | 't' => some '\t'
  | _ => none

/-- The character that an escape stands for, after its backslash. -/
def escaped : Scan Char
  | [] => stop .endInString []
  | c :: cs =>
    if c = 'u' then codeEscape cs
    else match letterEscape? c with
      | some x => .ok (x, cs)
      | none => refuse .invalidEscape (c :: cs)

theorem hexFour_length {cs rest : List Char} {n : Nat} (h : hexFour cs = .ok (n, rest)) :
    rest.length < cs.length := by
  unfold hexFour at h
  split at h
  · cases h
  · split at h
    · split at h
      · cases h
        simp only [List.length_cons]
        omega
      · cases h
    · cases h

theorem lowDigits_length {high : Nat} {cs rest : List Char} {c : Char}
    (h : lowDigits high cs = .ok (c, rest)) : rest.length < cs.length := by
  unfold lowDigits at h
  cases hf : hexFour cs with
  | error e => simp [hf, bind, Except.bind] at h
  | ok p =>
    obtain ⟨low, r⟩ := p
    simp only [hf, bind, Except.bind] at h
    split at h
    · simp only [Except.ok.injEq, Prod.mk.injEq] at h
      exact h.2 ▸ hexFour_length hf
    · cases h

theorem lowHalf_length {high : Nat} {cs rest : List Char} {c : Char}
    (h : lowHalf high cs = .ok (c, rest)) : rest.length < cs.length := by
  cases cs with
  | nil => cases h
  | cons x cs =>
    simp only [lowHalf] at h
    split at h
    · cases h
    · cases cs with
      | nil => cases h
      | cons y cs =>
        simp only at h
        split at h
        · cases h
        · have := lowDigits_length h
          simp only [List.length_cons]
          omega

theorem codeEscape_length {cs rest : List Char} {c : Char}
    (h : codeEscape cs = .ok (c, rest)) : rest.length < cs.length := by
  unfold codeEscape at h
  cases hf : hexFour cs with
  | error e => simp [hf, bind, Except.bind] at h
  | ok p =>
    obtain ⟨n, r⟩ := p
    have hl := hexFour_length hf
    simp only [hf, bind, Except.bind] at h
    split at h
    · cases h
    · split at h
      · exact Nat.lt_trans (lowHalf_length h) hl
      · simp only [Except.ok.injEq, Prod.mk.injEq] at h
        exact h.2 ▸ hl

theorem escaped_length {cs rest : List Char} {c : Char} (h : escaped cs = .ok (c, rest)) :
    rest.length < cs.length := by
  cases cs with
  | nil => cases h
  | cons x cs =>
    simp only [escaped] at h
    split at h
    · exact Nat.lt_succ_of_lt (codeEscape_length h)
    · split at h
      · cases h
        simp
      · cases h

/-- The rest of a string after its opening quote; `acc` holds the characters before, last one
first. -/
def stringFrom (acc : List Char) (cs : List Char) : Except Fault (String × List Char) :=
  match cs with
  | [] => stop .endInString []
  | '"' :: rest => .ok (String.ofList acc.reverse, rest)
  | '\\' :: rest =>
    match _h : escaped rest with
    | .ok (c, rest') => stringFrom (c :: acc) rest'
    | .error e => .error e
  | c :: rest =>
    if c.toNat < 32 then refuse .controlCharacter (c :: rest) else stringFrom (c :: acc) rest
termination_by cs.length
decreasing_by
  · have := escaped_length _h
    simp only [List.length_cons]
    omega
  · simp

/-- A string after its opening quote. -/
def stringBody : Scan String := stringFrom []

/-! ## Numbers -/

/-- Reads digits as long as the number they form stays within `bound`: the number, how many
digits were read, and what is left. -/
def digitsWithin (bound acc count : Nat) : List Char → Nat × Nat × List Char
  | [] => (acc, count, [])
  | c :: cs =>
    if isDigit c then
      let next := acc * 10 + (c.toNat - 48)
      if bound < next then (acc, count, c :: cs) else digitsWithin bound next (count + 1) cs
    else (acc, count, c :: cs)

/-- The largest significand that is read exactly. -/
def significandBound : Nat := UInt64.size - 1

/-- The double for the parts of a number. -/
def doubleOf (negative : Bool) (significand : Nat) (exponent : Int) : Scan Number := fun cs ↦
  match Double.ofParts negative significand exponent with
  | some x => .ok (.double x, cs)
  | none => stop .numberOutOfRange cs

/-- The exponent of a number, after its mark. -/
def exponentPart (negative : Bool) (significand : Nat) (start : Int) (cs : List Char) :
    Except Fault (Number × List Char) :=
  let (down, cs) := match cs with
    | '+' :: rest => (false, rest)
    | '-' :: rest => (true, rest)
    | _ => (false, cs)
  match cs with
  | [] => stop .endInValue []
  | c :: _ =>
    if !isDigit c then refuse .invalidNumber cs
    else
      let (e, _, rest) := digitsWithin 2147483647 0 0 cs
      if startsDigit rest then
        if significand ≠ 0 ∧ !down then stop .numberOutOfRange rest.tail
        else doubleOf negative 0 0 (rest.dropWhile isDigit)
      else
        let exponent : Int := if down then start - (e : Int) else start + (e : Int)
        doubleOf negative significand exponent rest

/-- What follows the digits of a number that is a double: perhaps an exponent. -/
def perhapsExponent (negative : Bool) (significand : Nat) (exponent : Int) : Scan Number
  | 'e' :: rest | 'E' :: rest => exponentPart negative significand exponent rest
  | cs => doubleOf negative significand exponent cs

/-- The fraction of a number, after its point. Digits that no longer fit the significand are
skipped. -/
def fractionPart (negative : Bool) (significand : Nat) (start : Int) (cs : List Char) :
    Except Fault (Number × List Char) :=
  let (sig, count, rest) := digitsWithin significandBound significand 0 cs
  let exponent := start - (count : Int)
  if startsDigit rest then perhapsExponent negative sig exponent (rest.dropWhile isDigit)
  else if count = 0 then
    if rest.isEmpty then stop .endInValue rest else refuse .invalidNumber rest
  else perhapsExponent negative sig exponent rest

/-- The whole number `significand` with its sign, or a double where it does not fit. Zero keeps
its sign. -/
def wholeNumber (negative : Bool) (significand : Nat) : Number :=
  if !negative then .int significand
  else if significand = 0 ∨ 9223372036854775808 < significand then
    .double (Double.ofFloat (-(Float.ofNat significand)))
  else .int (-(significand : Int))

/-- What follows the whole part of a number that fits its significand. -/
def afterWhole (negative : Bool) (significand : Nat) : Scan Number
  | '.' :: rest => fractionPart negative significand 0 rest
  | 'e' :: rest | 'E' :: rest => exponentPart negative significand 0 rest
  | cs => .ok (wholeNumber negative significand, cs)

/-- A number after its minus sign. -/
def numberBody (negative : Bool) : Scan Number
  | [] => stop .endInValue []
  | '0' :: rest =>
    if startsDigit rest then refuse .invalidNumber rest else afterWhole negative 0 rest
  | c :: cs =>
    if !isDigit c then refuse .invalidNumber (c :: cs)
    else
      let (sig, _, rest) := digitsWithin significandBound 0 0 (c :: cs)
      if startsDigit rest then
        let extra : Int := (rest.takeWhile isDigit).length
        match rest.dropWhile isDigit with
        | '.' :: rest => fractionPart negative sig extra rest
        | rest => perhapsExponent negative sig extra rest
      else afterWhole negative sig rest

/-! ## Structure -/

/-- Goes to the next item of a list: whether there is one. -/
def nextItem (first : Bool) (cs : List Char) : Except Fault (Bool × List Char) :=
  match skipGap cs with
  | [] => stop .endInList []
  | ']' :: rest => .ok (false, ']' :: rest)
  | ',' :: rest =>
    if first then .ok (true, ',' :: rest)
    else match skipGap rest with
      | [] => stop .endInValue []
      | ']' :: rest => refuse .trailingComma (']' :: rest)
      | rest => .ok (true, rest)
  | rest => if first then .ok (true, rest) else refuse .expectedListEnd rest

/-- The name of the next member of an object, if there is one. -/
def nextName (first : Bool) (cs : List Char) : Except Fault (Option String × List Char) :=
  match skipGap cs with
  | [] => stop .endInObject []
  | '}' :: rest => .ok (none, '}' :: rest)
  | '"' :: rest =>
    if first then do
      let (name, rest) ← stringBody rest
      return (some name, rest)
    else refuse .expectedObjectEnd ('"' :: rest)
  | ',' :: rest =>
    if first then refuse .keyNotString (',' :: rest)
    else match skipGap rest with
      | [] => stop .endInValue []
      | '"' :: rest => do
        let (name, rest) ← stringBody rest
        return (some name, rest)
      | '}' :: rest => refuse .trailingComma ('}' :: rest)
      | rest => refuse .keyNotString rest
  | rest => refuse (if first then .keyNotString else .expectedObjectEnd) rest

/-- The colon between a name and its value. -/
def colon (cs : List Char) : Except Fault (Unit × List Char) :=
  match skipGap cs with
  | [] => stop .endInObject []
  | ':' :: rest => .ok ((), rest)
  | rest => refuse .expectedColon rest

/-- The end of a list that is expected to have no more items. -/
def closeList (cs : List Char) : Except Fault (Unit × List Char) :=
  match skipGap cs with
  | [] => stop .endInList []
  | ']' :: rest => .ok ((), rest)
  | ',' :: rest =>
    match skipGap rest with
    | ']' :: rest => refuse .trailingComma (']' :: rest)
    | rest => refuse .trailingCharacters rest
  | rest => refuse .trailingCharacters rest

/-- The end of an object that is expected to have no more members. -/
def closeObject (cs : List Char) : Except Fault (Unit × List Char) :=
  match skipGap cs with
  | [] => stop .endInObject []
  | '}' :: rest => .ok ((), rest)
  | ',' :: rest => refuse .trailingComma (',' :: rest)
  | rest => refuse .trailingCharacters rest

/-- Nothing but blanks. -/
def finish (cs : List Char) : Except Fault Unit :=
  match skipGap cs with
  | [] => .ok ()
  | rest => refuse .trailingCharacters rest

/-- Reads a whole text and locates its fault. -/
def Scan.run {α : Type} (scan : Scan α) (text : String) : Except Located α :=
  let cs := text.toList
  let result := do
    let (a, rest) ← scan cs
    finish rest
    return a
  match result with
  | .ok a => .ok a
  | .error fault => .error (fault.locate cs)

end BrowserPilot.Json
