import BrowserPilot.Operation.World
import BrowserPilot.Page.Picture

namespace BrowserPilot

/-!
# Recording pages

A page that does nothing but keep a record: its size, its address, the buttons and
keys held down, and how often each primitive was called. Primitives take a fixed
time and can be told to fail.
-/

/-- A planned failure of the `nth` call counted under a name, or of every call. -/
structure PlannedFailure where
  name : String
  nth : Option Nat
  failure : Option Failure

/-- How a recording page behaves. -/
structure Behaviour where
  delay : Nat := 0
  screenshotDelay : Nat := 0
  screenshot : Option (List UInt8) := none
  failures : List PlannedFailure := []

/-- A recording page. Buttons and keys are held in the order in which they went down. -/
structure RecordingPage where
  behaviour : Behaviour
  width : UInt32 := 0
  height : UInt32 := 0
  url : Option String := none
  buttons : List Button := []
  keys : List String := []
  counts : List (String × Nat) := []

/-- What a recording page reports. -/
inductive PageEvent
  | input (p : Primitive)
  | goto (url : String)
  | setViewport (width height : UInt32)
  | screenshot (fullPage : Bool)
  | releaseButton (button : Button)
  | releaseKey (key : String)
  | releaseAll
  | close
  deriving DecidableEq, Repr

namespace RecordingPage

/-- How often a name has been counted. -/
def count (page : RecordingPage) (name : String) : Nat := (page.counts.lookup name).getD 0

/-- Counts a name once more. -/
def counted (page : RecordingPage) (name : String) : RecordingPage :=
  { page with
    counts := (name, page.count name + 1) :: page.counts.filter fun entry ↦ entry.1 != name }

/-- The failure planned for the latest call counted under a name. -/
def failure? (page : RecordingPage) (name : String) : Option Failure :=
  let n := page.count name
  (page.behaviour.failures.find? fun f ↦
    f.name = name ∧ (f.nth.isNone ∨ f.nth = some n)).map fun f ↦
      f.failure.getD (.browser s!"{name} {n} failed")

/-- What an input primitive changes. -/
def held (page : RecordingPage) : Primitive → RecordingPage
  | .down b => { page with buttons := page.buttons ++ [b] }
  | .up b => { page with buttons := page.buttons.filter (· != b) }
  | .keyDown k => { page with keys := page.keys ++ [k] }
  | .keyUp k => { page with keys := page.keys.filter (· != k) }
  | _ => page

/-- An input primitive is counted as input and under its own name. A failure planned for its own
name comes before one planned for input. -/
def input (page : RecordingPage) (p : Primitive) (reply : p.Reply) :
    Effect Unit RecordingPage PageEvent p :=
  let page := (page.counted "input").counted p.name
  match (page.failure? p.name).or (page.failure? "input") with
  | some e => ⟨(), page, [], [], .error e⟩
  | none => ⟨(), page.held p, [.input p], [], .ok reply⟩

/-- A primitive that is counted under its name and, unless it is to fail, changes the page. -/
def plain (page : RecordingPage) (p : Primitive) (change : RecordingPage → RecordingPage)
    (events : List PageEvent) (reply : p.Reply) : Effect Unit RecordingPage PageEvent p :=
  let page := page.counted p.name
  match page.failure? p.name with
  | some e => ⟨(), page, [], [], .error e⟩
  | none => ⟨(), change page, events, [], .ok reply⟩

/-- A primitive that has its effect before it is counted and perhaps fails. -/
def firm (page : RecordingPage) (p : Primitive) (events : List PageEvent) (reply : p.Reply) :
    Effect Unit RecordingPage PageEvent p :=
  let page := page.counted p.name
  match page.failure? p.name with
  | some e => ⟨(), page, events, [], .error e⟩
  | none => ⟨(), page, events, [], .ok reply⟩

/-- What a screenshot shows. -/
def shot (page : RecordingPage) : List UInt8 :=
  page.behaviour.screenshot.getD (picture page.width page.height (page.url.getD ""))

/-- What is let go by `releaseAll`: the buttons as they went down, then the keys in reverse. -/
def releases (page : RecordingPage) : List PageEvent :=
  page.buttons.map .releaseButton ++ page.keys.reverse.map .releaseKey

/-- The page with nothing held down. -/
def letGo (page : RecordingPage) : RecordingPage := { page with buttons := [], keys := [] }

/-- The effect of a primitive. -/
def apply (p : Primitive) (page : RecordingPage) : Effect Unit RecordingPage PageEvent p :=
  match p with
  | .goto url => page.plain (.goto url) ({ · with url := some url }) [.goto url] ()
  | .setViewport w h =>
    page.plain (.setViewport w h) ({ · with width := w, height := h }) [.setViewport w h] ()
  | .screenshot full => page.plain (.screenshot full) id [.screenshot full] page.shot
  | .currentUrl => page.plain .currentUrl id [] page.url
  | .close => page.firm .close [.close] ()
  | .releaseAll =>
    page.letGo.firm .releaseAll (page.releases ++ [.releaseAll]) ()
  | .evaluate s => page.input (.evaluate s) .null
  | .move x y => page.input (.move x y) ()
  | .down b => page.input (.down b) ()
  | .up b => page.input (.up b) ()
  | .click x y b => page.input (.click x y b) ()
  | .doubleClick x y => page.input (.doubleClick x y) ()
  | .keyDown k => page.input (.keyDown k) ()
  | .keyUp k => page.input (.keyUp k) ()
  | .type t => page.input (.type t) ()

/-- How long a primitive takes. -/
def delay (page : RecordingPage) (p : Primitive) : Nat :=
  if p.isInput then page.behaviour.delay
  else match p with
    | .screenshot _ => page.behaviour.screenshotDelay
    | _ => 0

end RecordingPage

/-- The backend of recording pages. No browser can be launched. -/
def recording : Backend where
  Env := Unit
  Page := RecordingPage
  Event := PageEvent
  delay := RecordingPage.delay
  apply := fun p _ page ↦ page.apply p
  launchDelay := fun _ ↦ 0
  launch := fun _ env ↦ ⟨env, [], [], .error (.browser "Failed to launch browser")⟩
  farewell := fun _ ↦ []

end BrowserPilot
