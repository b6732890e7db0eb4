import BrowserPilot.Operation.Basic

namespace BrowserPilot

/-!
# The world that answers

A backend says what pages are: how long a primitive takes before it has an effect,
and what the effect is. The world is a clock, what outlives a page, the session's
page if it has one, and the log of what happened. A request takes effect at one
instant, after a wait that the request's deadline or the caller may end early.
-/

/-- What applying a primitive comes to. -/
structure Effect (Env Page Event : Type) (p : Primitive) where
  env : Env
  page : Page
  events : List Event
  logs : List LogEntry
  result : Result p.Reply

/-- What launching a browser comes to. -/
structure Launch (Env Page Event : Type) where
  env : Env
  events : List Event
  logs : List LogEntry
  result : Result Page

/-- A kind of page. `Env` is what outlives a page, `Event` is what a page reports. -/
structure Backend where
  Env : Type
  Page : Type
  Event : Type
  /-- How long a primitive takes before it has an effect. -/
  delay : Page → Primitive → Nat
  apply : (p : Primitive) → Env → Page → Effect Env Page Event p
  launchDelay : Env → Nat
  launch : Config → Env → Launch Env Page Event
  /-- What is logged when a page is let go. -/
  farewell : Page → List LogEntry

/-- How the caller's model answers, given all requests made to it: after what time, and what. -/
abbrev Sampler := List SamplingRequest → Nat × Result String

/-- A model with prepared replies, one for each request in order; it fails when none is left. -/
def Sampler.ofReplies (exhausted : Failure) (replies : List (Nat × Result String)) : Sampler :=
  fun asked ↦ replies.getD (asked.length - 1) (0, .error exhausted)

/-- What belongs to one caller: its open spans, its model and what it asked the model. -/
structure Caller where
  sampler : Sampler
  spans : List Span := []
  asked : List SamplingRequest := []

/-- The world. -/
structure World (B : Backend) where
  env : B.Env
  clock : Instant := 0
  slot : Option B.Page := none
  events : List (Instant × B.Event) := []
  logs : List LogRecord := []
  wallClock : Zone → CivilTime := fun _ ↦ default

/-- How a wait ends. -/
inductive Ending
  | completed
  | expired (deadline : Deadline)
  | cancelled
  deriving DecidableEq, Repr

/-- The result of a wait that can end early. -/
def Ending.result : Ending → Result Unit
  | completed => .ok ()
  | expired d => .error (.timeout d.limit)
  | cancelled => .error .cancelled

/-- What a request waits for: an instant, unless it waits for the lock, and what ends the wait
early. -/
structure Wait where
  until? : Option Instant
  cancel : Cancellation
  deadline : Option Deadline

namespace Wait

/-- The instant at which the caller gives up, not before `now`. -/
def cancelInstant? (w : Wait) (now : Instant) : Option Instant :=
  match w.cancel with
  | .never => none
  | .before => some now
  | .at t => some (max now t)

/-- The instant at which the deadline ends the wait, not before `now`. -/
def deadlineInstant? (w : Wait) (now : Instant) : Option (Instant × Deadline) :=
  w.deadline.map fun d ↦ (max now d.instant, d)

/-- Whether `t` is not after an instant that may be missing. -/
def notAfter (t : Instant) : Option Instant → Bool
  | some u => t ≤ u
  | none => true

/-- How and when a wait ends that began at `now` and completes at `t`. At one instant, completion
comes before the deadline, and the deadline before the caller who gives up then; a caller who gave
up earlier ends the wait at once. -/
def conclude (w : Wait) (now t : Instant) : Ending × Instant :=
  let t := max now t
  let cancel? := w.cancelInstant? now
  if w.cancel.isPast now then (.cancelled, now)
  else match w.deadlineInstant? now with
    | some (u, d) =>
      if t ≤ u ∧ notAfter t cancel? then (.completed, t)
      else if notAfter u cancel? then (.expired d, u)
      else (.cancelled, cancel?.getD now)
    | none =>
      if notAfter t cancel? then (.completed, t) else (.cancelled, cancel?.getD now)

end Wait

/-- A caller's request to its model is noted when it is made, before the reply is awaited. -/
def Caller.note (c : Caller) {π : Type} : Request π → Caller
  | .sample request _ => { c with asked := c.asked ++ [request] }
  | _ => c

namespace World

variable {B : Backend}

/-- What a request waits for, if it does not take effect at once. -/
def waitFor (w : World B) (c : Caller) : Request B.Page → Option Wait
  | .primitive p deadline =>
    w.slot.map fun page ↦ ⟨some (w.clock + B.delay page p), .never, deadline⟩
  | .pause millis cancel deadline => some ⟨some (w.clock + millis), cancel, deadline⟩
  | .sample _ cancel => some ⟨some (w.clock + (c.sampler c.asked).1), cancel, none⟩
  | .launch _ => some ⟨some (w.clock + B.launchDelay w.env), .never, none⟩
  | _ => none

/-- Adds records, written inside the spans of a caller. -/
def record (w : World B) (c : Caller) (entries : List LogEntry) : World B :=
  { w with logs := w.logs ++ entries.map fun e ↦ ⟨e, c.spans⟩ }

/-- Adds events of the page. -/
def report (w : World B) (events : List B.Event) : World B :=
  { w with events := w.events ++ events.map fun e ↦ (w.clock, e) }

/-- Applies a primitive to the session's page. -/
def apply (w : World B) (c : Caller) (p : Primitive) : Result p.Reply × World B :=
  match w.slot with
  | none => (.error .notStarted, w)
  | some page =>
    let effect := B.apply p w.env page
    (effect.result,
      ({ w with env := effect.env, slot := some effect.page }.report effect.events).record c
        effect.logs)

/-- Launches a browser. -/
def launch (w : World B) (c : Caller) (config : Config) : Result B.Page × World B :=
  let launched := B.launch config w.env
  (launched.result,
    ({ w with env := launched.env }.report launched.events).record c launched.logs)

/-- Lets a page go. -/
def farewell (w : World B) (c : Caller) (page : B.Page) : World B :=
  w.record c (B.farewell page)

/-- The effect of a request whose wait has ended. -/
def answer (w : World B) (c : Caller) (ending : Ending) :
    (r : Request B.Page) → r.Answer × World B × Caller
  | .lock _ => (ending.result, w, c)
  | .unlock => ((), w, c)
  | .hasPage => (w.slot.isSome, w, c)
  | .primitive p _ =>
    match ending.result with
    | .error e => (.error e, w, c)
    | .ok () => ((w.apply c p).1, (w.apply c p).2, c)
  | .pause .. => (ending.result, w, c)
  | .sample .. =>
    match ending.result with
    | .error e => (.error e, w, c)
    | .ok () => ((c.sampler c.asked).2, w, c)
  | .launch config => ((w.launch c config).1, (w.launch c config).2, c)
  | .mount page => ((), { w with slot := some page }, c)
  | .unmount =>
    match w.slot with
    | none => ((), w, c)
    | some page => ((), { w with slot := none }.farewell c page, c)
  | .discard page => ((), w.farewell c page, c)
  | .now => (w.clock, w, c)
  | .wallClock zone => (w.wallClock zone, w, c)
  | .log entry => ((), w.record c [entry], c)
  | .enter span => ((), w, { c with spans := c.spans ++ [span] })
  | .leave => ((), w, { c with spans := c.spans.dropLast })

end World

/-- How an operation ends. -/
inductive Outcome (α : Type)
  | returned (a : α)
  | crashed (reason : String)
  deriving DecidableEq, Repr

end BrowserPilot
