import BrowserPilot.Decimal.Double

namespace BrowserPilot

open Decimal (Double)

/-!
# JSON values

Objects keep their members sorted by name, one member a name. Whole numbers
between `-2^63` and `2^64 - 1` are exact; every other number is a double.
-/

/-- A JSON number. -/
inductive Json.Number
  | int (n : Int)
  | double (x : Double)
  deriving DecidableEq, Repr, Inhabited

/-- A JSON value. -/
inductive Json
  | null
  | bool (b : Bool)
  | number (n : Json.Number)
  | string (s : String)
  | array (items : List Json)
  | object (members : List (String × Json))
  deriving Repr, Inhabited

namespace Json

/-- The members of an object, sorted by name. -/
abbrev Members := List (String × Json)

/-- Puts a member in its place; a member of the same name gives way. -/
def insertMember (name : String) (value : Json) : Members → Members
  | [] => [(name, value)]
  | (n, v) :: rest =>
    if name < n then (name, value) :: (n, v) :: rest
    else if name = n then (name, value) :: rest
    else (n, v) :: insertMember name value rest

/-- The value of the member called `name`. -/
def find? (name : String) : Members → Option Json
  | [] => none
  | (n, v) :: rest => if n = name then some v else find? name rest

/-- The object with the given members; of two with one name the later counts. -/
def ofMembers (members : List (String × Json)) : Json :=
  .object (members.foldl (fun ms m ↦ insertMember m.1 m.2 ms) [])

/-- The member of an object; a value of another kind has none. -/
def get? (name : String) : Json → Option Json
  | .object members => find? name members
  | _ => none

/-- The text of a string; a value of another kind has none. -/
def asString? : Json → Option String
  | .string s => some s
  | _ => none

/-- A whole number. -/
def ofInt (n : Int) : Json := .number (.int n)

/-- A natural number. -/
def ofNat (n : Nat) : Json := .number (.int n)

/-- A value, or `null` where there is none. -/
def ofOption {α : Type} (f : α → Json) : Option α → Json
  | none => .null
  | some a => f a

/-- A list as an array. -/
def ofList {α : Type} (f : α → Json) (xs : List α) : Json := .array (xs.map f)

theorem find?_insertMember_self (name : String) (value : Json) (ms : Members) :
    find? name (insertMember name value ms) = some value := by
  induction ms with
  | nil => simp [insertMember, find?]
  | cons m rest ih =>
    obtain ⟨n, v⟩ := m
    simp only [insertMember]
    split
    · simp [find?]
    · split
      · simp [find?]
      · rename_i hne
        simp [find?, Ne.symm hne, ih]

theorem find?_insertMember_ne {name other : String} (h : other ≠ name) (value : Json)
    (ms : Members) : find? other (insertMember name value ms) = find? other ms := by
  induction ms with
  | nil => simp [insertMember, find?, Ne.symm h]
  | cons m rest ih =>
    obtain ⟨n, v⟩ := m
    simp only [insertMember]
    split
    · simp [find?, Ne.symm h]
    · split
      · rename_i heq
        subst heq
        simp [find?, Ne.symm h]
      · simp [find?, ih]

end Json

end BrowserPilot
