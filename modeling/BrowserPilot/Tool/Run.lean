import BrowserPilot.Action.Descriptor
import BrowserPilot.Dispatch
import BrowserPilot.Research.Run
import BrowserPilot.Tool.Basic
import BrowserPilot.Url.Parser

namespace BrowserPilot

/-!
# Running a tool

A tool reads its arguments before it does anything else, so that a call with wrong
arguments has no effect at all.
-/

/-- What a tool is told about the call. -/
structure CallContext where
  id : String
  cancel : Cancellation := .never
  canSample : Bool := false
  deriving DecidableEq, Repr

/-- The settings that the tools share, and what reads addresses for them. -/
structure ToolSettings where
  browser : Config
  research : Research.Settings := {}
  [urls : Url.Reader]

namespace Tool

/-- The text that an argument has to be. -/
def textArgument (name : String) (args : Json) : Result String :=
  match (args.get? name).bind Json.asString? with
  | some s => .ok s
  | none => .error (.invalidArgument s!"Missing '{name}' parameter")

/-- The address that an argument has to be. -/
def urlArgument (parse : String → Except String Url.Address) (args : Json) : Result String := do
  let raw ← textArgument "url" args
  match parse (Text.trim raw) with
  | .error why => throw (.invalidArgument s!"Invalid URL '{raw}': {why}")
  | .ok url =>
    if url.scheme = Url.secureScheme then return url.text
    else throw (.invalidArgument s!"Only https URLs can be opened, got '{url.scheme}'")

/-- The failure of a call that needs the caller's model when there is none. -/
def noSampling : Failure := .sampling "The client does not support sampling"

variable {π : Type}

/-- A result that depends on nothing but the arguments. -/
def settled {α : Type} (r : Result α) : Task π α := Task.attempt (.done r)

/-- Refuses to go on if the caller has no model. -/
def needSampling (ctx : CallContext) : Task π Unit :=
  if ctx.canSample then return else throw noSampling

/-- Opens an address. -/
def runOpenUrl (parse : String → Except String Url.Address) (args : Json) :
    Task π (List Part) := do
  let url ← settled (urlArgument parse args)
  Session.navigate url
  Task.log .info "opened url" [("url", .string url)]
  return [.text s!"Opened URL: {url}"]

/-- Carries out an action. -/
def runBrowser (c : Config) (ctx : CallContext) (args : Json) : Task π (List Part) := do
  let action ← settled (Action.ofDescriptor args)
  let o ← dispatch c action ctx.cancel
  return [o.part]

/-- Asks the caller's model and shows the page next to its answer. -/
def runBrowserAgent (ctx : CallContext) (args : Json) : Task π (List Part) := do
  let prompt ← settled (textArgument "prompt" args)
  needSampling ctx
  let answer ← Task.sample { prompt := prompt } .never
  let o ← Session.capture
  return [.text (Text.trim answer), o.part]

/-- Shows the page. -/
def runScreenshot : Task π (List Part) := do
  let o ← Session.capture
  return [o.part]

/-- Researches a question, unless the caller has given up already. -/
def runResearch (s : Research.Settings) (ctx : CallContext) (args : Json) :
    Task π (List Part) := do
  let prompt ← settled (textArgument "prompt" args)
  needSampling ctx
  if ctx.cancel.isPast (← Task.now) then throw .cancelled
  let report ← Research.run s ctx.cancel prompt
  return [.text report]

/-- Tells the time. -/
def runDateTime : Task π (List Part) := do
  let now ← Task.wallClock .here
  return [.text s!"The current date and time is {now.text}"]

/-- Runs a tool. -/
def run (s : ToolSettings) (ctx : CallContext) (args : Json) : Tool → Task π (List Part)
  | openUrl => runOpenUrl s.urls.parse args
  | browser => runBrowser s.browser ctx args
  | browserAgent => runBrowserAgent ctx args
  | screenshot => runScreenshot
  | research => runResearch s.research ctx args
  | dateTime => runDateTime

end Tool

end BrowserPilot
