import BrowserPilot.Key.Alias
import BrowserPilot.Session

namespace BrowserPilot

/-!
# Dispatching actions

An action is a plan of primitives, after which the viewport is captured. The lock
is held from the first primitive to the picture, and one deadline bounds the whole.
An action that fails lets go of everything it may have left held down.
-/

/-- The primitives of an action, in order. -/
def Action.plan : Action → List Primitive
  | .click x y b => [.click x y b]
  | .doubleClick x y => [.doubleClick x y]
  | .drag [] => []
  | .drag (p :: ps) =>
    .move p.x p.y :: .down .left :: ps.map (fun q ↦ .move q.x q.y) ++ [.up .left]
  | .keypress keys =>
    let tokens := keys.map Key.native
    tokens.map .keyDown ++ tokens.reverse.map .keyUp
  | .move x y => [.move x y]
  | .screenshot => []
  | .scroll x y dx dy =>
    [.move x y, .evaluate s!"window.scrollBy({dx.toInt}, {dy.toInt})"]
  | .type text => [.type text]
  | .wait _ => []

namespace Dispatch

variable {π : Type}

/-- Applies primitives in order, up to the first that fails. -/
def applyAll (deadline : Deadline) : List Primitive → Task π Unit
  | [] => pure ()
  | p :: ps => do
    let _ ← Task.primitive p (some deadline)
    applyAll deadline ps

/-- How long a `wait` lasts, in milliseconds. -/
def waitMillis (c : Config) (requested : Option UInt64) : Nat :=
  min (requested.getD c.waitMillis).toNat c.maxWaitMillis.toNat

/-- Carries out an action. Only a `wait` notices that the caller gives up. -/
def perform (c : Config) (a : Action) (cancel : Cancellation) (deadline : Deadline) :
    Task π Unit := do
  applyAll deadline a.plan
  match a with
  | .wait requested => Task.pause (waitMillis c requested) cancel (some deadline)
  | _ => return

/-- Lets go of what is held down. That this fails is only logged. -/
def release : Task π Unit := do
  match ← Task.result (Task.primitive .releaseAll none) with
  | .ok _ => return
  | .error e => Task.log .warn "failed to release held input" [("error", .string e.message)]

/-- Carries out an action and captures the viewport. The lock is held. -/
def performAndObserve (c : Config) (a : Action) (cancel : Cancellation) (deadline : Deadline) :
    Task π Observation := do
  match ← Task.result (perform c a cancel deadline) with
  | .ok () => Session.observe (some deadline)
  | .error e =>
    release
    throw e

/-- An action under its deadline. A deadline that the clock cannot hold is a fault of the
program. -/
def run (c : Config) (a : Action) (cancel : Cancellation) : Task π Observation := do
  match Deadline.after? (← Task.now) c.actionTimeoutSeconds.toNat with
  | none => Task.attempt (.crash "overflow when adding duration to instant")
  | some deadline => Task.withPage (some deadline) (performAndObserve c a cancel deadline)

end Dispatch

/-- Carries out an action and returns a fresh picture of the viewport. -/
def dispatch {π : Type} (c : Config) (a : Action) (cancel : Cancellation) :
    Task π Observation := do
  match ← Task.result (Task.inSpan (Span.dispatch a.kind) (Dispatch.run c a cancel)) with
  | .ok o =>
    Task.log .info "action dispatched" [
      ("kind", .string a.kind), ("bytes", Json.ofNat o.bytes.length)]
    return o
  | .error e =>
    Task.log .warn "action failed" [("kind", .string a.kind), ("error", .string e.message)]
    throw e

end BrowserPilot
