import BrowserPilot.Json.Scan

namespace BrowserPilot.Json

/-!
# Passing over a value

A value that nobody asked for is only checked for its form: it may be nested to
any depth, its numbers may have any size, and its strings may hold lone
surrogates.
-/

/-- Passes over an escape, after its backslash. -/
def skipEscape : List Char → Except Fault (List Char)
  | [] => stop .endInString []
  | c :: cs =>
    if c = 'u' then (hexFour cs).map Prod.snd
    else if (letterEscape? c).isSome then .ok cs
    else refuse .invalidEscape (c :: cs)

theorem skipEscape_length {cs rest : List Char} (h : skipEscape cs = .ok rest) :
    rest.length < cs.length := by
  cases cs with
  | nil => cases h
  | cons c cs =>
    simp only [skipEscape] at h
    split at h
    · cases hf : hexFour cs with
      | error e => simp [hf, Except.map] at h
      | ok p =>
        have := hexFour_length hf
        simp only [hf, Except.map, Except.ok.injEq] at h
        subst h
        simp only [List.length_cons]
        omega
    · split at h
      · cases h
        simp
      · cases h

/-- Passes over a string, after its opening quote. -/
def skipString (cs : List Char) : Except Fault (List Char) :=
  match cs with
  | [] => stop .endInString []
  | '"' :: rest => .ok rest
  | '\\' :: rest =>
    match _h : skipEscape rest with
    | .ok rest' => skipString rest'
    | .error e => .error e
  | c :: rest =>
    if c.toNat < 32 then stop .controlCharacter (c :: rest) else skipString rest
termination_by cs.length
decreasing_by
  · have := skipEscape_length _h
    simp only [List.length_cons]
    omega
  · simp

/-- Passes over an exponent, after its mark. -/
def skipExponent (cs : List Char) : Except Fault (List Char) :=
  let cs := match cs with
    | '+' :: rest | '-' :: rest => rest
    | _ => cs
  if startsDigit cs then .ok (cs.dropWhile isDigit) else refuse .invalidNumber cs

/-- Passes over what follows the whole part of a number. -/
def skipTail : List Char → Except Fault (List Char)
  | '.' :: cs =>
    if !startsDigit cs then refuse .invalidNumber cs
    else match cs.dropWhile isDigit with
      | 'e' :: rest | 'E' :: rest => skipExponent rest
      | rest => .ok rest
  | 'e' :: rest | 'E' :: rest => skipExponent rest
  | cs => .ok cs

/-- Passes over a number, after its minus sign. -/
def skipNumber : List Char → Except Fault (List Char)
  | '0' :: cs => if startsDigit cs then refuse .invalidNumber cs else skipTail cs
  | cs => if startsDigit cs then skipTail (cs.dropWhile isDigit) else refuse .invalidNumber cs

/-- Passes over a name and its colon. -/
def skipName (cs : List Char) : Except Fault (List Char) :=
  match skipGap cs with
  | [] => stop .endInObject []
  | '"' :: rest => do
    let rest ← skipString rest
    return (← colon rest).2
  | rest => refuse .keyNotString rest

mutual

/-- Passes over a value. The first argument bounds the steps. -/
def skipValue : Nat → List Char → Except Fault (List Char)
  | 0, cs => stop .tooDeep cs
  | steps + 1, cs =>
    match skipGap cs with
    | [] => stop .endInValue []
    | 'n' :: rest => (word ['u', 'l', 'l'] rest).map Prod.snd
    | 't' :: rest => (word ['r', 'u', 'e'] rest).map Prod.snd
    | 'f' :: rest => (word ['a', 'l', 's', 'e'] rest).map Prod.snd
    | '-' :: rest => skipNumber rest
    | '"' :: rest => skipString rest
    | '[' :: rest =>
      match skipGap rest with
      | [] => stop .endInList []
      | ']' :: rest => .ok rest
      | rest => do skipItems steps (← skipValue steps rest)
    | '{' :: rest =>
      match skipGap rest with
      | [] => stop .endInObject []
      | '}' :: rest => .ok rest
      | rest => do skipMembers steps (← skipValue steps (← skipName rest))
    | c :: rest => if isDigit c then skipNumber (c :: rest) else refuse .expectedValue (c :: rest)

/-- Passes over the further items of an array and its end. -/
def skipItems : Nat → List Char → Except Fault (List Char)
  | 0, cs => stop .tooDeep cs
  | steps + 1, cs =>
    match skipGap cs with
    | [] => stop .endInList []
    | ']' :: rest => .ok rest
    | ',' :: rest => do skipItems steps (← skipValue steps rest)
    | rest => refuse .expectedListEnd rest

/-- Passes over the further members of an object and its end. -/
def skipMembers : Nat → List Char → Except Fault (List Char)
  | 0, cs => stop .tooDeep cs
  | steps + 1, cs =>
    match skipGap cs with
    | [] => stop .endInObject []
    | '}' :: rest => .ok rest
    | ',' :: rest => do skipMembers steps (← skipValue steps (← skipName rest))
    | rest => refuse .expectedObjectEnd rest

end

/-- Passes over a value. -/
def skip : Scan Unit := fun cs ↦ do
  let rest ← skipValue (2 * cs.length + 2) cs
  return ((), rest)

end BrowserPilot.Json
