import BrowserPilot.Json.Decoder
import BrowserPilot.Json.Skip

namespace BrowserPilot.Json

/-!
# Reading a text of an expected shape

A text is read straight into the type that is asked for, and the first fault in
the order of the text is reported with its place. A record may be an object, whose
other members are passed over, or a list of its fields in the order in which they
are declared.
-/

/-- A reader, given the depth still allowed. -/
abbrev Reader (α : Type) := Nat → Scan α

/-- A mismatch at the point that reading has reached. -/
def mismatchAt {α : Type} (m : Mismatch) (rest : List Char) : Except Fault α :=
  stop (.mismatch m) rest

/-- The refusal of a value of the wrong kind. A scalar is read whole before it is refused. -/
def refuseKind {α : Type} (expected : String) (cs : List Char) : Except Fault α :=
  let kind (v : Json) (rest : List Char) : Except Fault α :=
    mismatchAt (.invalidType v.describe expected) rest
  match cs with
  | 'n' :: rest => do kind .null (← word ['u', 'l', 'l'] rest).2
  | 't' :: rest => do kind (.bool true) (← word ['r', 'u', 'e'] rest).2
  | 'f' :: rest => do kind (.bool false) (← word ['a', 'l', 's', 'e'] rest).2
  | '-' :: rest => do
    let (n, rest) ← numberBody true rest
    kind (.number n) rest
  | '"' :: rest => do
    let (s, rest) ← stringBody rest
    kind (.string s) rest
  | '[' :: _ => kind (.array []) cs
  | '{' :: _ => kind (.object []) cs
  | _ =>
    if startsDigit cs then do
      let (n, rest) ← numberBody false cs
      kind (.number n) rest
    else refuse .expectedValue cs

/-- Reads a boolean. -/
def readBoolean : Reader Bool := fun _ cs ↦
  match skipGap cs with
  | [] => stop .endInValue []
  | 't' :: rest => do return (true, (← word ['r', 'u', 'e'] rest).2)
  | 'f' :: rest => do return (false, (← word ['a', 'l', 's', 'e'] rest).2)
  | rest => refuseKind "a boolean" rest

/-- Reads a string. -/
def readText : Reader String := fun _ cs ↦
  match skipGap cs with
  | [] => stop .endInValue []
  | '"' :: rest => stringBody rest
  | rest => refuseKind "a string" rest

/-- Reads items up to the end of the list; `acc` holds those before, last one first. -/
def readItems {α : Type} (item : Scan α) : Nat → Bool → List α → Scan (List α)
  | 0, _, _, cs => stop .tooDeep cs
  | steps + 1, first, acc, cs => do
    let (more, rest) ← nextItem first cs
    if more then
      let (a, rest) ← item rest
      readItems item steps false (a :: acc) rest
    else return (acc.reverse, rest)

/-- Reads a list. -/
def readList {α : Type} (item : Reader α) : Reader (List α) := fun depth cs ↦
  match skipGap cs with
  | [] => stop .endInValue []
  | '[' :: rest =>
    if depth ≤ 1 then refuse .tooDeep ('[' :: rest)
    else do
      let (items, rest) ← readItems (item (depth - 1)) (rest.length + 1) true [] rest
      let (_, rest) ← closeList rest
      return (items, rest)
  | rest => refuseKind "a sequence" rest

/-- One field of a record that is collected in `σ`. -/
structure FieldReader (σ : Type) where
  name : String
  optional : Bool
  given : σ → Bool
  read : Nat → σ → Scan σ

/-- How a record is read: its fields in the order of their declaration, what is collected before
any is read, and the record made of what was collected, if no required field is missing. -/
structure RecordReader (σ α : Type) where
  name : String
  fields : List (FieldReader σ)
  start : σ
  build : σ → Option α

namespace RecordReader

variable {σ α : Type}

/-- The name and the number of fields. -/
def expected (r : RecordReader σ α) : String :=
  let count := r.fields.length
  s!"{r.name} with {count} " ++ if count = 1 then "element" else "elements"

/-- What is left when a list is given up: its end is still read, or a comma before more items. -/
def leaveList (cs : List Char) : List Char :=
  match skipGap cs with
  | ']' :: rest => rest
  | ',' :: rest => skipGap rest
  | rest => rest

/-- What is left when an object is given up: its end is still read. -/
def leaveObject (cs : List Char) : List Char :=
  match skipGap cs with
  | '}' :: rest => rest
  | rest => rest

/-- The first required field that has not been given. -/
def missing? (r : RecordReader σ α) (got : σ) : Option String :=
  (r.fields.find? fun f ↦ !f.optional && !f.given got).map FieldReader.name

/-- Reads the members of an object up to its end. -/
def readMembers (r : RecordReader σ α) (depth : Nat) : Nat → Bool → σ → Scan σ
  | 0, _, _, cs => stop .tooDeep cs
  | steps + 1, first, got, cs => do
    let (name?, rest) ← nextName first cs
    match name? with
    | none => return (got, rest)
    | some name =>
      match r.fields.find? fun f ↦ f.name = name with
      | some f =>
        if f.given got then mismatchAt (.duplicate name) (leaveObject rest)
        else
          let (_, rest) ← colon rest
          let (got, rest) ← f.read depth got rest
          readMembers r depth steps false got rest
      | none =>
        let (_, rest) ← colon rest
        let (_, rest) ← skip rest
        readMembers r depth steps false got rest

/-- Reads the given fields in order from a list. A field that may be left out may be missing at
its end. -/
def readFields (r : RecordReader σ α) (depth : Nat) : List (FieldReader σ) → Nat → σ → Scan σ
  | [], _, got, cs => .ok (got, cs)
  | f :: fs, i, got, cs => do
    let (more, rest) ← nextItem (i = 0) cs
    if more then
      let (got, rest) ← f.read depth got rest
      readFields r depth fs (i + 1) got rest
    else if f.optional then readFields r depth fs (i + 1) got rest
    else mismatchAt (.invalidLength i r.expected) (leaveList rest)

/-- The record made of what was collected; `rest` is where a missing field is reported. -/
def finish (r : RecordReader σ α) (got : σ) (rest : List Char) : Except Fault α :=
  match r.missing? got with
  | some name => mismatchAt (.missing name) rest
  | none =>
    match r.build got with
    | some a => .ok a
    | none => mismatchAt (.missing r.name) rest

/-- Reads a record. -/
def read (r : RecordReader σ α) : Reader α := fun depth cs ↦
  match skipGap cs with
  | [] => stop .endInValue []
  | '[' :: rest =>
    if depth ≤ 1 then refuse .tooDeep ('[' :: rest)
    else do
      let (got, rest) ← r.readFields (depth - 1) r.fields 0 r.start rest
      let a ← r.finish got (leaveList rest)
      let (_, rest) ← closeList rest
      return (a, rest)
  | '{' :: rest =>
    if depth ≤ 1 then refuse .tooDeep ('{' :: rest)
    else do
      let (got, rest) ← r.readMembers (depth - 1) (rest.length + 1) true r.start rest
      let a ← r.finish got (leaveObject rest)
      let (_, rest) ← closeObject rest
      return (a, rest)
  | rest => refuseKind r.name rest

end RecordReader

end BrowserPilot.Json
