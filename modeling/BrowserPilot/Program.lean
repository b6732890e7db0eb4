import BrowserPilot.CommandLine.Parser
import BrowserPilot.Log.Writer
import BrowserPilot.Protocol.Conversation

namespace BrowserPilot.Program

/-!
# The program

What the program does from its command line to its exit code: it starts a browser,
converses with a client about the tools until the client leaves, and closes the
browser.
-/

/-- What the program is told to do. -/
structure Orders where
  config : Config
  research : Research.Settings
  format : LogFormat

/-- Reads the command line; `headless` is the variable of the environment that can ask for a
browser without a window. -/
def Orders.read (arguments : List String) (headless : Option String) :
    Except CommandLine.UsageError Orders := do
  let given ← CommandLine.parse arguments
  return {
    config := given.config (.ofEnvironment headless)
    research := { maxRounds := given.researchLoops }
    format := given.format }

/-- What the conversation is about. -/
def Orders.offer (o : Orders) : Protocol.Offer := { settings := ⟨o.config, o.research⟩ }

variable {π : Type}

/-- Starts the browser. -/
def begin (o : Orders) : Task π Unit := do
  Task.log .info "starting"
    [("headless", .bool o.config.headless), ("start_url", .string o.config.startUrl)]
  Session.start o.config

/-- Closes the browser. That it cannot be closed is only logged. -/
def finish : Task π Unit := do
  match ← Task.result Session.stop with
  | .ok () => return
  | .error e => Task.log .warn "failed to close browser" [("error", .string e.message)]

/-- How the program ends: its exit code, what it prints in place of a conversation, and what it
complains about. -/
structure Ending where
  code : Nat := 0
  output : String := ""
  report : Option String := none
  deriving DecidableEq, Repr

namespace Ending

/-- A refused command line is a complaint, a request for help is not. -/
def ofUsage : CommandLine.UsageError → Ending
  | .help => { output := CommandLine.UsageError.message .help ++ "\n" }
  | e => { code := 2, report := some e.message }

/-- A complaint that is not explained. -/
def ofComplaint (complaint : String) : Ending :=
  { code := 1, report := some s!"Error: {complaint}" }

/-- A text whose every line is set in. -/
def setIn (text : String) : String :=
  "\n".intercalate ((text.splitOn "\n").map ("    " ++ ·))

/-- A complaint with its cause. -/
def ofFailure (complaint : String) (cause : Failure) : Ending :=
  ofComplaint (complaint ++ "\n\nCaused by:\n" ++ setIn cause.message)

/-- The browser could not be started. -/
def ofStart (cause : Failure) : Ending := ofFailure "Failed to start browser session" cause

/-- The client has left. It is a failure if it never opened the conversation. -/
def ofStage : Protocol.Stage → Ending
  | .opening => ofComplaint "connection closed: initialized request"
  | _ => {}

end Ending

end BrowserPilot.Program
