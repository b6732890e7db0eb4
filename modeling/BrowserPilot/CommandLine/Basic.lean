import BrowserPilot.CommandLine.Viewport
import BrowserPilot.Config
import BrowserPilot.Log.Format

namespace BrowserPilot

/-!
# The command line

The program takes settings, one flag and no other arguments. The value of a
setting is the next argument or follows an `=`. It is looked at only when the next
setting or the end is reached, so an argument that is not known at all is reported
before the fault of a value.
-/

namespace CommandLine

/-- The settings, which take a value each. -/
inductive Setting
  | startUrl
  | viewport
  | waitMillis
  | maxWaitMillis
  | actionTimeout
  | chrome
  | browserArg
  | maxLoops
  | logFormat
  deriving DecidableEq, Repr

namespace Setting

/-- All settings, in the order of the help text. -/
def all : List Setting :=
  [startUrl, viewport, waitMillis, maxWaitMillis, actionTimeout, chrome, browserArg, maxLoops,
    logFormat]

/-- The name of a setting, without its dashes. -/
def name : Setting → String
  | startUrl => "start-url"
  | viewport => "viewport"
  | waitMillis => "wait-ms"
  | maxWaitMillis => "max-wait-ms"
  | actionTimeout => "action-timeout-secs"
  | chrome => "chrome"
  | browserArg => "browser-arg"
  | maxLoops => "research-max-loops"
  | logFormat => "log-format"

/-- The word that stands for the value of a setting. -/
def placeholder : Setting → String
  | startUrl => "START_URL"
  | viewport => "VIEWPORT"
  | waitMillis => "WAIT_MS"
  | maxWaitMillis => "MAX_WAIT_MS"
  | actionTimeout => "ACTION_TIMEOUT_SECS"
  | chrome => "CHROME"
  | browserArg => "BROWSER_ARGS"
  | maxLoops => "RESEARCH_MAX_LOOPS"
  | logFormat => "LOG_FORMAT"

/-- What a setting is for. -/
def help : Setting → String
  | startUrl => "Page opened at startup"
  | viewport => "Viewport size as WIDTHxHEIGHT"
  | waitMillis => "Default duration of a `wait` action in milliseconds"
  | maxWaitMillis => "Upper bound for a requested `wait` in milliseconds"
  | actionTimeout => "Upper bound for one browser action, including its screenshot"
  | chrome => "Chrome/Chromium executable"
  | browserArg => "Extra browser argument (repeatable)"
  | maxLoops => "Search/reflection rounds per planned search [default: 5]"
  | logFormat => "Log output format: text or json [default: text]"

/-- A setting as messages show it. -/
def usage (s : Setting) : String := s!"--{s.name} <{s.placeholder}>"

/-- The setting with the given name. -/
def named? (name : String) : Option Setting := all.find? fun s ↦ s.name = name

/-- Whether the value of a setting may begin with a dash. -/
def takesDashes (s : Setting) : Bool := s = browserArg

end Setting

/-- Why a command line is refused, or that it asks for help. -/
inductive UsageError
  | unknownArgument (argument : String)
  | missingValue (setting : Setting)
  | invalidValue (setting : Setting) (value why : String)
  | repeated (argument : String)
  | unneededValue (flag value : String)
  | help
  deriving DecidableEq, Repr

/-- The text that describes the program and its arguments. -/
def helpText : String :=
  let entry (left help : String) : List String := ["      " ++ left, "          " ++ help]
  let lines := ["Computer-use browser tools over MCP (stdio)", "",
      "Usage: cua-server [OPTIONS]", "", "Options:"] ++
    entry "--headless" "Run the browser without a window (also enabled by HEADLESS=true)" ++
    Setting.all.flatMap (fun s ↦ entry s.usage s.help) ++
    ["  -h, --help", "          Print help"]
  "\n".intercalate lines

/-- The first paragraph of an error's text, or the help text. -/
def UsageError.message : UsageError → String
  | .unknownArgument a => s!"error: unexpected argument '{a}' found"
  | .missingValue s => s!"error: a value is required for '{s.usage}' but none was supplied"
  | .invalidValue s value why => s!"error: invalid value '{value}' for '{s.usage}': {why}"
  | .repeated a => s!"error: the argument '{a}' cannot be used multiple times"
  | .unneededValue flag value =>
    s!"error: unexpected value '{value}' for '{flag}' found; no more were expected"
  | .help => helpText

/-- The values given on a command line. -/
structure Given where
  headless : Bool := false
  startUrl : Option String := none
  viewport : Option (UInt32 × UInt32) := none
  waitMillis : Option UInt64 := none
  maxWaitMillis : Option UInt64 := none
  actionTimeout : Option UInt64 := none
  chrome : Option String := none
  browserArgs : List String := []
  maxLoops : Option UInt64 := none
  logFormat : Option LogFormat := none
  deriving DecidableEq, Repr

namespace Given

/-- Whether a setting that counts once has been given. -/
def has (g : Given) : Setting → Bool
  | .startUrl => g.startUrl.isSome
  | .viewport => g.viewport.isSome
  | .waitMillis => g.waitMillis.isSome
  | .maxWaitMillis => g.maxWaitMillis.isSome
  | .actionTimeout => g.actionTimeout.isSome
  | .chrome => g.chrome.isSome
  | .browserArg => false
  | .maxLoops => g.maxLoops.isSome
  | .logFormat => g.logFormat.isSome

/-- A count of sixty-four bits. -/
def count (text : String) : Except String UInt64 :=
  match Text.unsigned (UInt64.size - 1) text with
  | .ok n => .ok (UInt64.ofNat n)
  | .error e => .error e.message

/-- Stores the value of a setting. -/
def store (g : Given) (s : Setting) (value : String) : Except String Given :=
  match s with
  | .startUrl => .ok { g with startUrl := some value }
  | .viewport => (parseViewport value).map fun v ↦ { g with viewport := some v }
  | .waitMillis => (count value).map fun n ↦ { g with waitMillis := some n }
  | .maxWaitMillis => (count value).map fun n ↦ { g with maxWaitMillis := some n }
  | .actionTimeout => (count value).map fun n ↦ { g with actionTimeout := some n }
  | .chrome => .ok { g with chrome := some value }
  | .browserArg => .ok { g with browserArgs := g.browserArgs ++ [value] }
  | .maxLoops => (count value).map fun n ↦ { g with maxLoops := some n }
  | .logFormat => (LogFormat.ofWord value).map fun f ↦ { g with logFormat := some f }

/-- Takes the value of a setting, given for the first time. -/
def take (g : Given) (s : Setting) (value : String) : Except UsageError Given :=
  if g.has s then .error (.repeated s.usage)
  else match g.store s value with
    | .ok g => .ok g
    | .error why => .error (.invalidValue s value why)

/-- Takes the flag, given for the first time. -/
def takeHeadless (g : Given) : Except UsageError Given :=
  if g.headless then .error (.repeated "--headless") else .ok { g with headless := true }

/-- The session settings: those given, and `base` for the others. -/
def config (g : Given) (base : Config) : Config :=
  { headless := base.headless || g.headless
    startUrl := g.startUrl.getD base.startUrl
    viewportWidth := (g.viewport.map Prod.fst).getD base.viewportWidth
    viewportHeight := (g.viewport.map Prod.snd).getD base.viewportHeight
    waitMillis := g.waitMillis.getD base.waitMillis
    maxWaitMillis := g.maxWaitMillis.getD base.maxWaitMillis
    actionTimeoutSeconds := g.actionTimeout.getD base.actionTimeoutSeconds
    chromeExecutable := g.chrome.or base.chromeExecutable
    browserArgs := base.browserArgs ++ g.browserArgs }

/-- The number of search rounds allowed. -/
def researchLoops (g : Given) : UInt64 := g.maxLoops.getD 5

/-- The format of log lines. -/
def format (g : Given) : LogFormat := g.logFormat.getD .text

end Given

end CommandLine

end BrowserPilot
