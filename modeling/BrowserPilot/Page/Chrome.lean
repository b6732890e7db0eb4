import BrowserPilot.Operation.World
import BrowserPilot.Page.Picture
import BrowserPilot.Page.Stroke
import BrowserPilot.Text.Base64
import BrowserPilot.Text.Blank
import BrowserPilot.Text.Quoted

namespace BrowserPilot

/-!
# Pages of a Chrome browser

A page that is driven by commands. Any command may fail; which ones do is up to
the browser, and the page goes on from what it remembers.
-/

/-- How a command fails: the browser answers with an error, or a navigation ends at a page that
says why. -/
inductive Trouble
  | refused (code : Int) (message : String)
  | unreachable (text : String)
  deriving DecidableEq, Repr

/-- The text of a failed command's answer. -/
def Trouble.message : Trouble → String
  | refused code message => s!"Error {code}: {message}"
  | unreachable text => text

/-- A command that was sent, and whether it failed. -/
structure Sent where
  command : Command
  failed : Bool
  deriving DecidableEq, Repr

/-- The browser: what it does with the `nth` command of a method, what it answers, and what was
asked of it so far. -/
structure Chrome where
  trouble : (method : String) → (nth : Nat) → Option Trouble := fun _ _ ↦ none
  evaluation : Json := .null
  shot : String := Text.Base64.encode (picture 800 600 "shot")
  contentWidth : Nat := 1600
  contentHeight : Nat := 2400
  isInstalled : Option String → Bool := fun _ ↦ true
  counts : List (String × Nat) := []
  launched : Option (List String) := none

/-- A page of the browser. -/
structure ChromePage where
  hands : Hands := {}
  url : String := "about:blank"
  isOpen : Bool := true
  deriving DecidableEq, Repr

namespace Chrome

/-- How often a method has been used. -/
def count (chrome : Chrome) (method : String) : Nat := (chrome.counts.lookup method).getD 0

/-- Counts a use of a method. -/
def counted (chrome : Chrome) (method : String) : Chrome :=
  { chrome with
    counts := (method, chrome.count method + 1) ::
      chrome.counts.filter fun entry ↦ entry.1 != method }

/-- Sends a command: how it fails, if it does, and the browser after it. -/
def send (chrome : Chrome) (c : Command) : Option Trouble × Chrome :=
  let chrome := chrome.counted c.method
  (chrome.trouble c.method (chrome.count c.method), chrome)

end Chrome

namespace Config

/-- The argument that sets the size of the browser's window. -/
def windowSizeArgument (c : Config) : String :=
  s!"--window-size={c.viewportWidth.toNat},{c.viewportHeight.toNat}"

/-- The arguments with which the browser is launched, after those that are always given. -/
def launchArguments (c : Config) : List String :=
  c.browserArgs ++ [c.windowSizeArgument] ++
    if c.headless then ["--headless", "--hide-scrollbars", "--mute-audio"] else []

end Config

namespace ChromePage

/-- Where a page is whose navigation failed. -/
def errorUrl : String := "chrome-error://chromewebdata/"

/-- The failure of a command. -/
def failure (complaint : String) (trouble : Trouble) : Failure :=
  .browser s!"{complaint}: {trouble.message}"

/-- What a row of strokes comes to. -/
structure Run where
  chrome : Chrome
  hands : Hands
  sent : List Sent
  failure : Option Failure

/-- Makes strokes in order. After a failure it goes on only if `persist` holds; the first failure
is kept. -/
def make (persist : Bool) (chrome : Chrome) (h : Hands) : List Stroke → Run
  | [] => ⟨chrome, h, [], none⟩
  | s :: rest =>
    let h := s.after h
    let c := s.command h
    match chrome.send c with
    | (none, chrome) =>
      let run := make persist chrome h rest
      { run with sent := ⟨c, false⟩ :: run.sent }
    | (some trouble, chrome) =>
      let e := failure s.complaint trouble
      if persist then
        let run := make persist chrome h rest
        { run with sent := ⟨c, true⟩ :: run.sent, failure := some e }
      else ⟨chrome, h, [⟨c, true⟩], some e⟩

/-- The effect of strokes. -/
def strokes (persist : Bool) (chrome : Chrome) (page : ChromePage) (ss : List Stroke)
    (p : Primitive) (reply : p.Reply) : Effect Chrome ChromePage Sent p :=
  let run := make persist chrome page.hands ss
  ⟨run.chrome, { page with hands := run.hands }, run.sent, [],
    match run.failure with
    | some e => .error e
    | none => .ok reply⟩

/-- The effect of a single command that does not change what the page remembers. -/
def single (chrome : Chrome) (page : ChromePage) (c : Command) (complaint : String)
    (p : Primitive) (reply : p.Reply) : Effect Chrome ChromePage Sent p :=
  match chrome.send c with
  | (none, chrome) => ⟨chrome, page, [⟨c, false⟩], [], .ok reply⟩
  | (some trouble, chrome) => ⟨chrome, page, [⟨c, true⟩], [], .error (failure complaint trouble)⟩

/-- Opens an address. -/
def goto (chrome : Chrome) (page : ChromePage) (url : String) :
    Effect Chrome ChromePage Sent (.goto url) :=
  let c := Command.navigate url
  match chrome.send c with
  | (none, chrome) =>
    ⟨chrome, { page with url := url }, [⟨c, false⟩],
      [⟨.debug, "navigated", [("url", .string url)]⟩], .ok ()⟩
  | (some trouble, chrome) =>
    let page := match trouble with
      | .unreachable _ => { page with url := errorUrl }
      | .refused .. => page
    ⟨chrome, page, [⟨c, true⟩], [], .error (failure "Navigation failed" trouble)⟩

/-- The bytes of an image that the browser sent. -/
def imageOf (shot : String) : Result (List UInt8) :=
  match Text.Base64.decode shot.toUTF8.toList with
  | .ok bytes => .ok bytes
  | .error e => .error (.browser s!"Screenshot failed: {e.message}")

/-- Captures the viewport, or a part of the page of the given size. -/
def capture (chrome : Chrome) (clip : Option (Nat × Nat)) :
    Chrome × List Sent × Result (List UInt8) :=
  let c := Command.capture clip
  match chrome.send c with
  | (none, chrome) => (chrome, [⟨c, false⟩], imageOf chrome.shot)
  | (some trouble, chrome) => (chrome, [⟨c, true⟩], .error (failure "Screenshot failed" trouble))

/-- Captures the whole page, for which it is first given the size of its content. -/
def captureAll (chrome : Chrome) : Chrome × List Sent × Result (List UInt8) :=
  let c := Command.setMetrics chrome.contentWidth chrome.contentHeight
  match chrome.send c with
  | (none, chrome) =>
    let (chrome, sent, r) := capture chrome (some (chrome.contentWidth, chrome.contentHeight))
    (chrome, ⟨c, false⟩ :: sent, r)
  | (some trouble, chrome) => (chrome, [⟨c, true⟩], .error (failure "Screenshot failed" trouble))

/-- Takes a picture. -/
def screenshot (chrome : Chrome) (page : ChromePage) (full : Bool) :
    Effect Chrome ChromePage Sent (.screenshot full) :=
  let (chrome, sent, r) := if full then captureAll chrome else capture chrome none
  ⟨chrome, page, sent, [], r⟩

/-- What follows a pair of brackets with everything inside it; `depth` brackets are open. -/
def afterBrackets? : (depth : Nat) → List Char → Option (List Char)
  | 0, cs => some cs
  | _ + 1, [] => none
  | depth + 1, c :: cs =>
    if c = '(' then afterBrackets? (depth + 2) cs
    else if c = ')' then afterBrackets? depth cs
    else afterBrackets? (depth + 1) cs

/-- Whether a script reads as a function and not as an expression: it begins with the word, perhaps
after `async`, or with brackets and an arrow. -/
def isFunction (script : String) : Bool :=
  let cs := Text.dropBlank script.toList
  let afterAsync := match "async ".toList.isPrefixOf? cs with
    | some rest => Text.dropBlank rest
    | none => cs
  "function ".toList.isPrefixOf afterAsync ||
    match cs with
    | '(' :: rest =>
      match afterBrackets? 1 rest with
      | some rest => "=>".toList.isPrefixOf (Text.dropBlank rest)
      | none => false
    | _ => false

/-- The command that runs a script. -/
def scriptCommand (script : String) : Command :=
  if isFunction script then .callFunction script else .evaluate script

/-- Closes the browser, once. -/
def close (chrome : Chrome) (page : ChromePage) : Effect Chrome ChromePage Sent .close :=
  if page.isOpen then
    single chrome { page with isOpen := false } .closeBrowser "Failed to close browser" .close ()
  else ⟨chrome, page, [], [], .ok ()⟩

/-- The effect of a primitive. -/
def apply (p : Primitive) (chrome : Chrome) (page : ChromePage) :
    Effect Chrome ChromePage Sent p :=
  let input (p : Primitive) (reply : p.Reply) :=
    strokes false chrome page (Stroke.ofPrimitive p) p reply
  match p with
  | .goto url => page.goto chrome url
  | .setViewport w h => single chrome page (.setMetrics w.toNat h.toNat) "Failed to set viewport"
      (.setViewport w h) ()
  | .screenshot full => page.screenshot chrome full
  | .currentUrl => ⟨chrome, page, [], [], .ok (some page.url)⟩
  | .close => page.close chrome
  | .releaseAll => strokes true chrome page (Stroke.releases page.hands) .releaseAll ()
  | .evaluate script => single chrome page (scriptCommand script) "Script execution failed"
      (.evaluate script) chrome.evaluation
  | .move x y => input (.move x y) ()
  | .down b => input (.down b) ()
  | .up b => input (.up b) ()
  | .click x y b => input (.click x y b) ()
  | .doubleClick x y => input (.doubleClick x y) ()
  | .keyDown k => input (.keyDown k) ()
  | .keyUp k => input (.keyUp k) ()
  | .type t => input (.type t) ()

end ChromePage

namespace Chrome

/-- The address at which a new page begins. -/
def blank : String := "about:blank"

/-- The record of a launch. -/
def launchRecord (c : Config) : LogEntry :=
  let executable := match c.chromeExecutable with
    | some path => s!"Some({Text.quoted path})"
    | none => "None"
  ⟨.info, "launching chrome",
    [("headless", .bool c.headless), ("executable", .string executable)]⟩

/-- Launches the browser and opens a page. -/
def launch (c : Config) (chrome : Chrome) : Launch Chrome ChromePage Sent :=
  let logs := [launchRecord c]
  if chrome.isInstalled c.chromeExecutable then
    let chrome := { chrome with launched := some c.launchArguments }
    let command := Command.createTarget blank
    match chrome.send command with
    | (none, chrome) => ⟨chrome, [⟨command, false⟩], logs, .ok { url := blank }⟩
    | (some trouble, chrome) =>
      ⟨chrome, [⟨command, true⟩], logs, .error (ChromePage.failure "Failed to open page" trouble)⟩
  else
    ⟨chrome, [], logs,
      .error (.browser "Failed to launch browser: No such file or directory (os error 2)")⟩

end Chrome

/-- The backend of a Chrome browser. Commands are answered at once. -/
def chromeBackend : Backend where
  Env := Chrome
  Page := ChromePage
  Event := Sent
  delay := fun _ _ ↦ 0
  apply := ChromePage.apply
  launchDelay := fun _ ↦ 0
  launch := Chrome.launch
  farewell := fun _ ↦ [⟨.debug, "ChromiumDriver dropped", []⟩]

end BrowserPilot
