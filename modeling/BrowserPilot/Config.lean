import BrowserPilot.Failure
import BrowserPilot.Json.Decoder
import BrowserPilot.Text.Ascii
import BrowserPilot.Text.Blank

namespace BrowserPilot

open Json

/-!
# Session settings

The settings of the shared browser session, their defaults, the check a session
makes before it starts, and their JSON form.
-/

/-- The settings of a browser session. -/
structure Config where
  headless : Bool := false
  viewportWidth : UInt32 := 1024
  viewportHeight : UInt32 := 768
  startUrl : String := "https://www.google.com"
  waitMillis : UInt64 := 1000
  maxWaitMillis : UInt64 := 30000
  actionTimeoutSeconds : UInt64 := 60
  chromeExecutable : Option String := none
  browserArgs : List String := []
  deriving DecidableEq, Repr, Inhabited

namespace Config

/-- How long a `wait` lasts that names no duration. -/
def wait (c : Config) : Duration := .ofMillis c.waitMillis.toNat

/-- How long a `wait` may last at most. -/
def maxWait (c : Config) : Duration := .ofMillis c.maxWaitMillis.toNat

/-- How long a whole action may take, its screenshot included. -/
def actionTimeout (c : Config) : Duration := .ofSeconds c.actionTimeoutSeconds.toNat

/-- Refuses settings that a session cannot start with. -/
def validate (c : Config) : Result Unit :=
  if c.viewportWidth = 0 ∨ c.viewportHeight = 0 then
    .error (.configuration
      s!"viewport must be non-empty, got {c.viewportWidth}x{c.viewportHeight}")
  else if (Text.trimChars c.startUrl.toList).isEmpty then
    .error (.configuration "start_url is empty")
  else if c.actionTimeoutSeconds = 0 then
    .error (.configuration "action_timeout_secs must be at least 1")
  else .ok ()

/-- Whether the value of the environment variable `HEADLESS` asks for a browser without a
window. -/
def headlessFrom (value : Option String) : Bool :=
  match value with
  | some v => Text.lower (Text.trim v) = "true"
  | none => false

/-- The defaults, with the environment variable `HEADLESS` honoured. -/
def ofEnvironment (headless : Option String) : Config := { headless := headlessFrom headless }

/-- The JSON form, with all nine fields. -/
def toJson (c : Config) : Json :=
  .object [
    ("action_timeout_secs", ofNat c.actionTimeoutSeconds.toNat),
    ("browser_args", ofList Json.string c.browserArgs),
    ("chrome_executable", ofOption Json.string c.chromeExecutable),
    ("headless", .bool c.headless),
    ("max_wait_ms", ofNat c.maxWaitMillis.toNat),
    ("start_url", .string c.startUrl),
    ("viewport_height", ofNat c.viewportHeight.toNat),
    ("viewport_width", ofNat c.viewportWidth.toNat),
    ("wait_ms", ofNat c.waitMillis.toNat)]

/-- Reads the settings from the fields of an object. All but the executable have to be there. -/
def ofMembers (ms : Members) : Reading Config :=
  (both (field "headless" toBoolean) <|
    both (field "viewport_width" toUInt32) <|
    both (field "viewport_height" toUInt32) <|
    both (field "start_url" toText) <|
    both (field "wait_ms" toUInt64) <|
    both (field "max_wait_ms" toUInt64) <|
    both (field "action_timeout_secs" toUInt64) <|
    both (fieldOr none "chrome_executable" (toOptional toText)) <|
    field "browser_args" (toListOf toText)) ms |>.map
      fun (headless, width, height, url, wait, maxWait, timeout, chrome, args) ↦
        { headless := headless, viewportWidth := width, viewportHeight := height, startUrl := url
          waitMillis := wait, maxWaitMillis := maxWait, actionTimeoutSeconds := timeout
          chromeExecutable := chrome, browserArgs := args }

/-- Reads the settings from a list of the nine fields in order. -/
def ofItems (items : List Json) : Except Mismatch Config := do
  let expected := "struct BrowserConfig with 9 elements"
  let headless ← itemAt expected items 0 toBoolean
  let width ← itemAt expected items 1 toUInt32
  let height ← itemAt expected items 2 toUInt32
  let url ← itemAt expected items 3 toText
  let wait ← itemAt expected items 4 toUInt64
  let maxWait ← itemAt expected items 5 toUInt64
  let timeout ← itemAt expected items 6 toUInt64
  let chrome ← itemAt expected items 7 (toOptional toText)
  let args ← itemAt expected items 8 (toListOf toText)
  if 9 < items.length then
    throw (.invalidLength items.length "fewer elements in array")
  return {
    headless := headless, viewportWidth := width, viewportHeight := height, startUrl := url
    waitMillis := wait, maxWaitMillis := maxWait, actionTimeoutSeconds := timeout
    chromeExecutable := chrome, browserArgs := args }

/-- Reads the settings from their JSON form. -/
def ofJson : Decoder Config
  | .object ms => (ofMembers ms).result
  | .array items => ofItems items
  | v => unfit v "struct BrowserConfig"

end Config

end BrowserPilot
