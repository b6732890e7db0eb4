import BrowserPilot.CivilTime
import BrowserPilot.Config
import BrowserPilot.Log.Record
import BrowserPilot.Page.Primitive
import BrowserPilot.Sampling

namespace BrowserPilot

/-!
# Operations

An operation is what one caller does with the shared page: a finite tree of
requests to its surroundings, each followed by what the operation does with the
answer. The operation holds no state of the page and no clock; these belong to the
world that answers.
-/

/-- Milliseconds since the clock was started. -/
abbrev Instant := Nat

/-- The first instant that the clock cannot hold. -/
def horizon : Instant := 9223372036854775807 * 1000

/-- An instant by which something has to be done, and the time that was allowed for it. -/
structure Deadline where
  instant : Instant
  limit : Duration
  deriving DecidableEq, Repr

/-- The deadline `seconds` after `now`, if the clock can hold it. -/
def Deadline.after? (now : Instant) (seconds : Nat) : Option Deadline :=
  if now + seconds * 1000 < horizon then some ⟨now + seconds * 1000, .ofSeconds seconds⟩ else none

/-- When the caller gives up: never, before the operation began, or at an instant. -/
inductive Cancellation
  | never
  | before
  | at (instant : Instant)
  deriving DecidableEq, Repr

/-- Whether the caller gave up before `now`. -/
def Cancellation.isPast (c : Cancellation) (now : Instant) : Bool :=
  match c with
  | never => false
  | before => true
  | .at t => t < now

/-- A request of an operation on pages of type `π`. -/
inductive Request (π : Type)
  /-- Waits for exclusive use of the session. -/
  | lock (deadline : Option Deadline)
  /-- Gives up exclusive use. -/
  | unlock
  /-- Asks whether the session has a page. -/
  | hasPage
  /-- Applies a primitive to the page. -/
  | primitive (p : Primitive) (deadline : Option Deadline)
  /-- Lets a time pass. -/
  | pause (millis : Nat) (cancel : Cancellation) (deadline : Option Deadline)
  /-- Asks the caller's model. -/
  | sample (request : SamplingRequest) (cancel : Cancellation)
  /-- Launches a browser and opens a page in it. -/
  | launch (config : Config)
  /-- Gives the session a page. -/
  | mount (page : π)
  /-- Takes the page away. -/
  | unmount
  /-- Lets go of a page that the session was not given. -/
  | discard (page : π)
  /-- Asks for the time of the clock that deadlines refer to. -/
  | now
  /-- Asks for date and time of day. -/
  | wallClock (zone : Zone)
  /-- Writes a log record. -/
  | log (entry : LogEntry)
  /-- Opens a span. -/
  | enter (span : Span)
  /-- Closes the innermost span. -/
  | leave

/-- The answer to a request. -/
def Request.Answer {π : Type} : Request π → Type
  | lock _ => Result Unit
  | unlock => Unit
  | hasPage => Bool
  | primitive p _ => Result p.Reply
  | pause .. => Result Unit
  | sample .. => Result String
  | launch _ => Result π
  | mount _ => Unit
  | unmount => Unit
  | discard _ => Unit
  | now => Instant
  | wallClock _ => CivilTime
  | log _ => Unit
  | enter _ => Unit
  | leave => Unit

/-- What one caller does. A crash ends the whole program. -/
inductive Operation (π : Type) (α : Type)
  | done (a : α)
  | crash (reason : String)
  | ask (r : Request π) (next : r.Answer → Operation π α)

namespace Operation

variable {π α β : Type}

/-- First one operation, then another that depends on its result. -/
def bind : Operation π α → (α → Operation π β) → Operation π β
  | done a, f => f a
  | crash reason, _ => crash reason
  | ask r next, f => ask r fun answer ↦ (next answer).bind f

instance : Monad (Operation π) where
  pure := done
  bind := bind

@[simp] theorem done_bind (a : α) (f : α → Operation π β) : (done a).bind f = f a := rfl

@[simp] theorem bind_done (p : Operation π α) : p.bind done = p := by
  induction p with
  | done a => rfl
  | crash reason => rfl
  | ask r next ih => simp only [bind, ih]

theorem bind_assoc {γ : Type} (p : Operation π α) (f : α → Operation π β)
    (g : β → Operation π γ) : (p.bind f).bind g = p.bind fun a ↦ (f a).bind g := by
  induction p with
  | done a => rfl
  | crash reason => rfl
  | ask r next ih => simp only [bind, ih]

/-- A single request. -/
def request (r : Request π) : Operation π r.Answer := ask r done

end Operation

/-- An operation that can fail. -/
abbrev Task (π α : Type) := ExceptT Failure (Operation π) α

namespace Task

variable {π α : Type}

/-- An operation that cannot fail, as one that can. -/
def lift (p : Operation π α) : Task π α := ExceptT.mk (p.bind fun a ↦ .done (.ok a))

/-- A request that can fail. -/
def attempt (p : Operation π (Result α)) : Task π α := ExceptT.mk p

/-- The result of a task, be it a failure. -/
def result (t : Task π α) : Task π (Result α) := lift t.run

/-- Applies a primitive to the page. -/
def primitive (p : Primitive) (deadline : Option Deadline) : Task π p.Reply :=
  attempt (Operation.request (.primitive p deadline))

/-- Lets a time pass. -/
def pause (millis : Nat) (cancel : Cancellation) (deadline : Option Deadline) : Task π Unit :=
  attempt (Operation.request (.pause millis cancel deadline))

/-- Asks the caller's model. -/
def sample (request : SamplingRequest) (cancel : Cancellation) : Task π String :=
  attempt (Operation.request (.sample request cancel))

/-- Launches a browser. -/
def launch (config : Config) : Task π π := attempt (Operation.request (.launch config))

/-- Waits for exclusive use of the session. -/
def lock (deadline : Option Deadline) : Task π Unit :=
  attempt (Operation.request (.lock deadline))

/-- Gives up exclusive use. -/
def unlock : Task π Unit := lift (Operation.request .unlock)

/-- Whether the session has a page. -/
def hasPage : Task π Bool := lift (Operation.request .hasPage)

/-- Gives the session a page. -/
def mount (page : π) : Task π Unit := lift (Operation.request (.mount page))

/-- Takes the page away. -/
def unmount : Task π Unit := lift (Operation.request .unmount)

/-- Lets go of a page that the session was not given. -/
def discard (page : π) : Task π Unit := lift (Operation.request (.discard page))

/-- The time of the clock that deadlines refer to. -/
def now : Task π Instant := lift (Operation.request .now)

/-- Date and time of day. -/
def wallClock (zone : Zone) : Task π CivilTime := lift (Operation.request (.wallClock zone))

/-- Writes a log record. -/
def log (level : LogLevel) (message : String) (fields : LogFields) : Task π Unit :=
  lift (Operation.request (.log ⟨level, message, fields⟩))

/-- Everything a task does takes place inside a span. -/
def inSpan (span : Span) (body : Task π α) : Task π α := do
  lift (Operation.request (.enter span))
  let r ← result body
  lift (Operation.request .leave)
  attempt (.done r)

/-- Holds the lock while `body` runs, whatever comes of it. -/
def locked (deadline : Option Deadline) (body : Task π α) : Task π α := do
  lock deadline
  let r ← result body
  unlock
  attempt (.done r)

/-- Holds the lock while `body` runs, which finds a page. -/
def withPage (deadline : Option Deadline) (body : Task π α) : Task π α :=
  locked deadline do
    if ← hasPage then body else throw .notStarted

end Task

end BrowserPilot
