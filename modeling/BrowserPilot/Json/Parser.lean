import BrowserPilot.Json.Scan

namespace BrowserPilot.Json

/-!
# Reading a JSON value

Arrays and objects may be nested 127 deep. Of two members with one name the
later counts.
-/

/-- How deep a value may be nested, plus one. -/
def depthLimit : Nat := 128

mutual

/-- A value. The first argument bounds the steps and is never used up on a text of half its
length; the second is the depth still allowed. -/
def valueWithin : Nat → Nat → List Char → Except Fault (Json × List Char)
  | 0, _, cs => stop .tooDeep cs
  | steps + 1, depth, cs =>
    match skipGap cs with
    | [] => stop .endInValue []
    | 'n' :: rest => do
      let (_, rest) ← word ['u', 'l', 'l'] rest
      return (.null, rest)
    | 't' :: rest => do
      let (_, rest) ← word ['r', 'u', 'e'] rest
      return (.bool true, rest)
    | 'f' :: rest => do
      let (_, rest) ← word ['a', 'l', 's', 'e'] rest
      return (.bool false, rest)
    | '-' :: rest => do
      let (n, rest) ← numberBody true rest
      return (.number n, rest)
    | '"' :: rest => do
      let (s, rest) ← stringBody rest
      return (.string s, rest)
    | '[' :: rest =>
      if depth ≤ 1 then refuse .tooDeep ('[' :: rest)
      else itemsWithin steps (depth - 1) true [] rest
    | '{' :: rest =>
      if depth ≤ 1 then refuse .tooDeep ('{' :: rest)
      else membersWithin steps (depth - 1) true [] rest
    | c :: rest =>
      if isDigit c then do
        let (n, rest) ← numberBody false (c :: rest)
        return (.number n, rest)
      else refuse .expectedValue (c :: rest)

/-- The items of an array from here to its end; `acc` holds those before, last one first. -/
def itemsWithin : Nat → Nat → Bool → List Json → List Char → Except Fault (Json × List Char)
  | 0, _, _, _, cs => stop .tooDeep cs
  | steps + 1, depth, first, acc, cs => do
    let (more, rest) ← nextItem first cs
    if more then
      let (v, rest) ← valueWithin steps depth rest
      itemsWithin steps depth false (v :: acc) rest
    else
      let (_, rest) ← closeList rest
      return (.array acc.reverse, rest)

/-- The members of an object from here to its end; `acc` holds those before. -/
def membersWithin : Nat → Nat → Bool → Members → List Char → Except Fault (Json × List Char)
  | 0, _, _, _, cs => stop .tooDeep cs
  | steps + 1, depth, first, acc, cs => do
    let (name?, rest) ← nextName first cs
    match name? with
    | some name =>
      let (_, rest) ← colon rest
      let (v, rest) ← valueWithin steps depth rest
      membersWithin steps depth false (insertMember name v acc) rest
    | none =>
      let (_, rest) ← closeObject rest
      return (.object acc, rest)

end

/-- A value. -/
def value : Scan Json := fun cs ↦ valueWithin (2 * cs.length + 2) depthLimit cs

/-- The value that a text is the written form of. -/
def parse (text : String) : Except Located Json := Scan.run value text

end BrowserPilot.Json
