import BrowserPilot.Log.Record
import BrowserPilot.Text.Ascii
import BrowserPilot.Text.Blank
import BrowserPilot.Text.Numeral

namespace BrowserPilot

/-!
# Log filters

A filter is a list of directives. Each speaks for the records of some part of the
program, perhaps only for those that have certain fields, and says up to which
level they are written. Of the directives that speak for a record the most specific
one decides, and of equally specific ones the last.
-/

/-- How many levels are at least as important. -/
def LogLevel.rank : LogLevel → Nat
  | error => 1
  | warn => 2
  | info => 3
  | debug => 4
  | trace => 5

/-- The part of the program that a record comes from, and the record. -/
structure LogEvent where
  target : String
  entry : LogEntry
  deriving Repr

/-- The names of an event's fields, of which the message is one. -/
def LogEvent.fieldNames (e : LogEvent) : List String := "message" :: e.entry.fields.map Prod.fst

/-- A directive. A span or the value of a field is a condition that no event outside of spans
meets. Events of a rank beyond `limit` are not written. -/
structure Directive where
  target : Option String := none
  span : Option String := none
  fields : List (String × Option String) := []
  limit : Nat := 5
  deriving DecidableEq, Repr

namespace Directive

/-- The highest rank that a word stands for: the name of a level, the word for none, or a
numeral. -/
def limitOf? (word : String) : Option Nat :=
  match Text.unsigned (UInt64.size - 1) word with
  | .ok n => if n ≤ 5 then some n else none
  | .error _ =>
    match Text.lower word with
    | "off" => some 0
    | "error" => some 1
    | "warn" => some 2
    | "info" => some 3
    | "debug" => some 4
    | "trace" => some 5
    | _ => none

/-- What may begin the name of a target. -/
def startsTarget (c : Char) : Bool :=
  c.isAlphanum || c = '-' || c = ':' || c = '_' || 127 < c.toNat

/-- Sets the limit to that after an `=`; nothing stands for no limit. -/
def withLimit? (d : Directive) : List Char → Option Directive
  | [] => some { d with limit := 5 }
  | cs => (limitOf? (String.ofList cs)).map fun n ↦ { d with limit := n }

/-- Reads what follows the brackets: nothing but blanks, or a limit. -/
def afterSpan? (d : Directive) : List Char → Option Directive
  | '=' :: rest => d.withLimit? rest
  | cs => if cs.all Text.isBlank then some d else none

/-- Reads a condition on a field, which is a name and perhaps a value. -/
def field? (cs : List Char) : Option (String × Option String) :=
  match String.splitOn (String.ofList cs) "=" with
  | "" :: [] => none
  | name :: value :: _ => some (name, some value)
  | name :: [] => some (name, none)
  | [] => none

/-- Reads the fields, up to the closing bracket of the span. -/
def readFields? (d : Directive) (cs : List Char) : Option Directive := do
  let field ← field? (cs.takeWhile (· != '}'))
  match cs.dropWhile (· != '}') with
  | _ :: ']' :: rest => afterSpan? { d with fields := [field] } rest
  | _ => none

/-- Reads a span, after its opening bracket. -/
def readSpan? (d : Directive) (cs : List Char) : Option Directive :=
  let stops (c : Char) : Bool := c = ']' || c = '{'
  let name := String.ofList (cs.takeWhile (!stops ·))
  match cs.dropWhile (!stops ·) with
  | ']' :: rest => afterSpan? { d with span := some name } rest
  | '{' :: rest => readFields? { d with span := if name = "" then none else some name } rest
  | _ => none

/-- Reads a directive. A lone word is a limit if it can be, else a target without a limit. A blank
at the front belongs to the word, and no limit may follow. -/
def read? (text : String) : Option Directive :=
  let cs := text.toList
  let stops (c : Char) : Bool := c = '=' || c = '['
  let word := String.ofList (cs.takeWhile (!stops ·))
  match Text.dropBlank cs with
  | [] => none
  | '[' :: rest => readSpan? {} rest
  | c :: _ =>
    if startsTarget c then
      match cs.dropWhile (!stops ·) with
      | [] =>
        match limitOf? word with
        | some n => some { limit := n }
        | none => some { target := some word }
      | '=' :: rest =>
        if Text.dropBlank cs = cs then withLimit? { target := some word } rest else none
      | _ :: rest => readSpan? { target := some word } rest
    else none

/-- Whether a directive has no condition that an event outside of spans fails. -/
def isPlain (d : Directive) : Bool := d.span.isNone && d.fields.all fun f ↦ f.2.isNone

/-- Whether a directive speaks for an event. -/
def covers (d : Directive) (e : LogEvent) : Bool :=
  d.isPlain && d.target.all (fun t ↦ t.toList.isPrefixOf e.target.toList) &&
    d.fields.all fun f ↦ e.fieldNames.contains f.1

/-- How specific a directive is: by the length of its target, then by the number of fields. -/
def specificity (d : Directive) : Nat × Nat :=
  (match d.target with
    | some t => t.length + 1
    | none => 0,
  d.fields.length)

/-- Whether `d` decides rather than `other`, which comes before it. -/
def outweighs (d other : Directive) : Bool :=
  let (length, fields) := d.specificity
  let (otherLength, otherFields) := other.specificity
  otherLength < length || (otherLength = length && otherFields ≤ fields)

end Directive

/-- A filter. -/
abbrev LogFilter := List Directive

namespace LogFilter

/-- The filter that is used when none is asked for. -/
def standard : LogFilter := [{ limit := 3 }]

/-- Reads directives between commas. -/
def read? (text : String) : Option LogFilter :=
  ((text.splitOn ",").filter (· != "")).mapM Directive.read?

/-- The filter that a variable of the environment asks for; one that is not set or cannot be read
asks for none. -/
def ofVariable (value : Option String) : LogFilter := (value.bind read?).getD standard

/-- The directive that decides about an event. -/
def decisive? (f : LogFilter) (e : LogEvent) : Option Directive :=
  (f.filter fun d ↦ d.covers e).foldl (fun best d ↦
    match best with
    | some b => if d.outweighs b then some d else some b
    | none => some d) none

/-- Whether an event is written. -/
def passes (f : LogFilter) (e : LogEvent) : Bool :=
  match decisive? f e with
  | some d => e.entry.level.rank ≤ d.limit
  | none => false

end LogFilter

end BrowserPilot
