import BrowserPilot.Operation.World

namespace BrowserPilot

/-!
# One operation at a time

An operation that runs alone finds the lock free, and its waits move the clock.
-/

namespace World

variable {B : Backend}

/-- Answers a request of the only operation that runs. -/
def serve (w : World B) (c : Caller) (r : Request B.Page) : r.Answer × World B × Caller :=
  let c := c.note r
  match w.waitFor c r with
  | none => w.answer c .completed r
  | some wait =>
    let (ending, t) := wait.conclude w.clock (wait.until?.getD w.clock)
    { w with clock := t }.answer c ending r

end World

/-- Runs an operation to its end. -/
def Operation.alone {B : Backend} {α : Type} (w : World B) (c : Caller) :
    Operation B.Page α → Outcome α × World B × Caller
  | .done a => (.returned a, w, c)
  | .crash reason => (.crashed reason, w, c)
  | .ask r next =>
    let (a, w, c) := w.serve c r
    (next a).alone w c

end BrowserPilot
