import BrowserPilot.Observation
import BrowserPilot.Operation.Basic

namespace BrowserPilot

/-!
# The browser session

A session has at most one page. Everything that touches the page holds the
session's lock while it does.
-/

namespace Session

variable {π : Type}

/-- The failure of a second start. -/
def alreadyStarted : Failure := .session "Browser session already started"

/-- Sizes a new page and opens the start address. -/
def prepare (c : Config) : Task π Unit := do
  Task.primitive (.setViewport c.viewportWidth c.viewportHeight) none
  Task.primitive (.goto c.startUrl) none
  Task.log .info "browser session started" [
    ("start_url", .string c.startUrl),
    ("width", Json.ofNat c.viewportWidth.toNat),
    ("height", Json.ofNat c.viewportHeight.toNat)]

/-- Gives the session a page, which stays only if it can be prepared. The lock is held. -/
def occupy (c : Config) (page : π) : Task π Unit := do
  if ← Task.hasPage then
    Task.discard page
    throw alreadyStarted
  Task.mount page
  match ← Task.result (prepare c) with
  | .ok () => return
  | .error e =>
    Task.unmount
    throw e

/-- Attaches a page to a session that has none. -/
def attach (c : Config) (page : π) : Task π Unit := do
  match c.validate with
  | .ok () => Task.locked none (occupy c page)
  | .error e =>
    Task.discard page
    throw e

/-- Whether the session has a page. -/
def isActive : Task π Bool := Task.locked none Task.hasPage

/-- Launches a browser and attaches its page. -/
def start (c : Config) : Task π Unit := do
  match c.validate with
  | .ok () =>
    if ← isActive then throw alreadyStarted
    attach c (← Task.launch c)
  | .error e => throw e

/-- Closes the page and takes it away. The lock is held. -/
def vacate : Task π Unit := do
  if ← Task.hasPage then
    match ← Task.result (Task.primitive .close none) with
    | .ok _ =>
      Task.log .info "browser session stopped" []
      Task.unmount
    | .error e =>
      Task.unmount
      throw e

/-- Closes the page, if there is one. -/
def stop : Task π Unit := Task.locked none vacate

/-- Opens an address. -/
def navigate (url : String) : Task π Unit :=
  Task.withPage none (Task.primitive (.goto url) none)

/-- Takes a picture of the viewport, never of the full page. The lock is held. -/
def observe (deadline : Option Deadline) : Task π Observation := do
  let bytes : List UInt8 ← Task.primitive (.screenshot false) deadline
  Task.log .trace "captured observation" [("bytes", Json.ofNat bytes.length)]
  return ⟨bytes⟩

/-- Takes a picture of the viewport. -/
def capture : Task π Observation := Task.withPage none (observe none)

/-- The address of the page. -/
def currentUrl : Task π (Option String) :=
  Task.withPage none (Task.primitive .currentUrl none)

end Session

end BrowserPilot
