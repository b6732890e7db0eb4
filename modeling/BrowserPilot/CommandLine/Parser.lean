import BrowserPilot.CommandLine.Basic

namespace BrowserPilot.CommandLine

/-!
# Reading a command line

Arguments are read from the left. A setting stays pending until the argument
after its value, and is settled by the next setting or flag or at the end.
-/

/-- What has been read so far: the values taken, the setting still to be settled with its value if
that has been read, and whether `--` has ended the options. -/
structure Progress where
  given : Given := {}
  pending : Option (Setting × Option String) := none
  ended : Bool := false

/-- An argument by its form. -/
inductive Word
  | ending
  | long (name : String) (value : Option String)
  | short (letters : List Char)
  | plain (text : String)

/-- The form of an argument. -/
def Word.ofArgument (argument : String) : Word :=
  match argument.toList with
  | ['-', '-'] => .ending
  | '-' :: '-' :: rest =>
    let name := String.ofList (rest.takeWhile (· != '='))
    match rest.dropWhile (· != '=') with
    | [] => .long name none
    | _ :: value => .long name (some (String.ofList value))
  | ['-'] => .plain argument
  | '-' :: letters => .short letters
  | _ => .plain argument

namespace Progress

/-- The setting that waits for its value. -/
def awaiting (p : Progress) : Option Setting :=
  match p.pending with
  | some (s, none) => some s
  | _ => none

/-- Settles the pending setting. -/
def settle (p : Progress) : Except UsageError Progress :=
  match p.pending with
  | none => .ok p
  | some (s, none) => .error (.missingValue s)
  | some (s, some value) => do
    let given ← p.given.take s value
    return { p with given := given, pending := none }

/-- Takes the flag. -/
def takeFlag (p : Progress) : Except UsageError Progress := do
  let p ← p.settle
  let given ← p.given.takeHeadless
  return { p with given := given }

/-- Takes a setting, with its value if that is attached. -/
def takeSetting (p : Progress) (s : Setting) (attached : Option String) :
    Except UsageError Progress := do
  let p ← p.settle
  match attached with
  | some value => do
    let given ← p.given.take s value
    return { p with given := given }
  | none => return { p with pending := some (s, none) }

/-- Asks for help, unless the pending setting is at fault. -/
def askHelp (p : Progress) : Except UsageError Progress := do
  let _ ← p.settle
  throw .help

/-- Takes an argument that begins with two dashes. -/
def takeLong (p : Progress) (name : String) (value : Option String) :
    Except UsageError Progress :=
  if name = "headless" ∨ name = "help" then
    match value with
    | some v => .error (.unneededValue ("--" ++ name) v)
    | none => if name = "headless" then p.takeFlag else p.askHelp
  else match Setting.named? name with
    | some s => p.takeSetting s value
    | none => .error (.unknownArgument ("--" ++ name))

/-- Takes an argument that begins with one dash. -/
def takeShort (p : Progress) : List Char → Except UsageError Progress
  | 'h' :: _ => p.askHelp
  | c :: _ => .error (.unknownArgument (String.ofList ['-', c]))
  | [] => .ok p

/-- Takes the next argument. -/
def take (p : Progress) (argument : String) : Except UsageError Progress :=
  if p.ended then .error (.unknownArgument argument)
  else match p.awaiting with
    | some s =>
      let value : Except UsageError Progress :=
        .ok { p with pending := some (s, some argument) }
      if s.takesDashes then value
      else match Word.ofArgument argument with
        | .ending => .ok { p with ended := true }
        | .long name v => p.takeLong name v
        | .short letters => p.takeShort letters
        | .plain _ => value
    | none =>
      match Word.ofArgument argument with
      | .ending => .ok { p with ended := true }
      | .long name v => p.takeLong name v
      | .short letters => p.takeShort letters
      | .plain text => .error (.unknownArgument text)

/-- Takes all arguments. -/
def takeAll (p : Progress) : List String → Except UsageError Progress
  | [] => .ok p
  | a :: rest => do (← p.take a).takeAll rest

end Progress

/-- The values that a command line gives. -/
def parse (arguments : List String) : Except UsageError Given := do
  let p ← Progress.takeAll {} arguments
  let p ← p.settle
  return p.given

end BrowserPilot.CommandLine
