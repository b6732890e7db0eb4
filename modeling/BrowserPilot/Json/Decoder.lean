import BrowserPilot.Json.Problem
import BrowserPilot.Text.Quoted

namespace BrowserPilot.Json

/-!
# Values of an expected shape

Decoders for the usual shapes and for records. A record looks at its members in
the order of their names, so of several unfit members the one with the least name
is reported; a missing field is reported only when all that are there fit, and
then the first one declared.
-/

/-- A decoder. -/
abbrev Decoder (α : Type) := Json → Except Mismatch α

/-- A value as a mismatch names it. -/
def describe : Json → String
  | .null => "null"
  | .bool b => s!"boolean `{b}`"
  | .number (.int n) => s!"integer `{n}`"
  | .number (.double x) => s!"floating point `{doubleNotation.renderDouble x}`"
  | .string s => "string " ++ Text.quoted s
  | .array _ => "sequence"
  | .object _ => "map"

/-- The refusal of a value of the wrong kind. -/
def unfit {α : Type} (v : Json) (expected : String) : Except Mismatch α :=
  .error (.invalidType v.describe expected)

/-- The refusal of a whole number out of range. -/
def outOfRange {α : Type} (n : Int) (expected : String) : Except Mismatch α :=
  .error (.invalidValue s!"integer `{n}`" expected)

/-- A whole number of 64 bits with a sign. -/
def toInt64 : Decoder Int64
  | .number (.int n) =>
    if Int64.minValue.toInt ≤ n ∧ n ≤ Int64.maxValue.toInt then .ok (Int64.ofInt n)
    else outOfRange n "i64"
  | v => unfit v "i64"

/-- A whole number of 64 bits. -/
def toUInt64 : Decoder UInt64
  | .number (.int n) =>
    if 0 ≤ n ∧ n < UInt64.size then .ok (UInt64.ofNat n.toNat) else outOfRange n "u64"
  | v => unfit v "u64"

/-- A whole number of 32 bits. -/
def toUInt32 : Decoder UInt32
  | .number (.int n) =>
    if 0 ≤ n ∧ n < UInt32.size then .ok (UInt32.ofNat n.toNat) else outOfRange n "u32"
  | v => unfit v "u32"

/-- A byte. -/
def toUInt8 : Decoder UInt8
  | .number (.int n) =>
    if 0 ≤ n ∧ n < UInt8.size then .ok (UInt8.ofNat n.toNat) else outOfRange n "u8"
  | v => unfit v "u8"

/-- A truth value. -/
def toBoolean : Decoder Bool
  | .bool b => .ok b
  | v => unfit v "a boolean"

/-- A string. -/
def toText : Decoder String
  | .string s => .ok s
  | v => unfit v "a string"

/-- Any value. -/
def toAny : Decoder Json := .ok

/-- The items of a list, the first unfit one reported. -/
def decodeItems {α : Type} (decode : Decoder α) : List Json → Except Mismatch (List α)
  | [] => .ok []
  | v :: vs =>
    match decode v with
    | .error e => .error e
    | .ok a => (decodeItems decode vs).map (a :: ·)

/-- A list of values of one shape. -/
def toListOf {α : Type} (decode : Decoder α) : Decoder (List α)
  | .array items => decodeItems decode items
  | v => unfit v "a sequence"

/-- A value that may be `null`. -/
def toOptional {α : Type} (decode : Decoder α) : Decoder (Option α)
  | .null => .ok none
  | v => (decode v).map some

/-- A value for which `null` stands for `default`. -/
def toDefaulted {α : Type} (default : α) (decode : Decoder α) : Decoder α
  | .null => .ok default
  | v => decode v

/-! ## Records -/

/-- What reading some fields of a record came to. -/
inductive Reading (α : Type)
  | value (a : α)
  | invalid (field : String) (why : Mismatch)
  | missing (field : String)

namespace Reading

/-- The reading of a record made of the fields. -/
def map {α β : Type} (f : α → β) : Reading α → Reading β
  | .value a => .value (f a)
  | .invalid field why => .invalid field why
  | .missing field => .missing field

/-- Reads two groups of fields, the first one declared before the second. -/
def and {α β : Type} : Reading α → Reading β → Reading (α × β)
  | .invalid f e, .invalid g e' => if g < f then .invalid g e' else .invalid f e
  | .invalid f e, _ => .invalid f e
  | _, .invalid g e => .invalid g e
  | .missing f, _ => .missing f
  | .value _, .missing g => .missing g
  | .value a, .value b => .value (a, b)

/-- The record, or what is reported. -/
def result {α : Type} : Reading α → Except Mismatch α
  | .value a => .ok a
  | .invalid _ why => .error why
  | .missing field => .error (.missing field)

theorem and_eq_value_iff {α β : Type} {x : Reading α} {y : Reading β} {p : α × β} :
    x.and y = .value p ↔ x = .value p.1 ∧ y = .value p.2 := by
  obtain ⟨a, b⟩ := p
  cases x <;> cases y <;> simp [and]
  split <;> simp

theorem map_eq_value_iff {α β : Type} {f : α → β} {x : Reading α} {b : β} :
    x.map f = .value b ↔ ∃ a, x = .value a ∧ f a = b := by
  cases x <;> simp [map]

theorem result_eq_ok_iff {α : Type} {x : Reading α} {a : α} :
    x.result = .ok a ↔ x = .value a := by
  cases x <;> simp [result]

end Reading

/-- A field that has to be there. -/
def field {α : Type} (name : String) (decode : Decoder α) (ms : Members) : Reading α :=
  match find? name ms with
  | none => .missing name
  | some v =>
    match decode v with
    | .ok a => .value a
    | .error why => .invalid name why

/-- A field that may be left out. -/
def fieldOr {α : Type} (default : α) (name : String) (decode : Decoder α) (ms : Members) :
    Reading α :=
  match find? name ms with
  | none => .value default
  | some v =>
    match decode v with
    | .ok a => .value a
    | .error why => .invalid name why

/-- Puts two groups of fields together. -/
def both {α β : Type} (x : Members → Reading α) (y : Members → Reading β) (ms : Members) :
    Reading (α × β) :=
  (x ms).and (y ms)

/-- A record given by an object. -/
def toRecord {α : Type} (name : String) (fields : Members → Reading α) : Decoder α
  | .object members => (fields members).result
  | v => unfit v name

/-- The item at place `i` of a record given by a list. -/
def itemAt {α : Type} (expected : String) (items : List Json) (i : Nat) (decode : Decoder α) :
    Except Mismatch α :=
  match items[i]? with
  | none => .error (.invalidLength i expected)
  | some v => decode v

end BrowserPilot.Json
