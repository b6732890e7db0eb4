import BrowserPilot.Page.Chrome
import BrowserPilot.Program
import Std.Time

namespace BrowserPilot.Main

/-!
# The program at the terminal

Lines of the client are read from standard input, and what is sent to it goes to
standard output; everything else is written to standard error. The browser is one
that answers every command.
-/

/-- What lasts while the program runs. -/
structure Desk where
  world : IO.Ref (World chromeBackend)
  client : IO.Ref Caller
  writer : LogWriter
  input : IO.FS.Stream
  output : IO.FS.Stream
  started : Nat

/-- A reading of a clock. -/
def civilTime (t : Std.Time.PlainDateTime) : CivilTime where
  year := t.year.toInt.toNat
  month := t.month.val.toNat
  day := t.day.val.toNat
  hour := t.hour.val.toNat
  minute := t.minute.val.toNat
  second := t.second.val.toNat
  millisecond := t.nanosecond.val.toNat / 1000000

namespace Desk

/-- Sends a message to the client. -/
def send (d : Desk) (message : Json) : IO Unit := do
  d.output.putStrLn message.render
  d.output.flush

/-- The next line of the client, if it has not left. -/
def nextLine? (d : Desk) : IO (Option String) := do
  let line ← d.input.getLine
  if line.isEmpty then return none
  return some (String.ofList (Text.dropBlankEnd line.toList))

/-- Waits for the reply with a number. Other messages are passed over. -/
partial def awaitReply (d : Desk) (n : Nat) : IO (Result String) := do
  match ← d.nextLine? with
  | none => return .error (Protocol.samplingFailed "Transport closed")
  | some line =>
    match Protocol.Message.read? line with
    | some (.reply (.number m) result) =>
      if m = n then return Protocol.sampled result else d.awaitReply n
    | _ => d.awaitReply n

/-- Writes a record of the log. -/
def log (d : Desk) (e : LogEvent) : IO Unit := do
  if d.writer.filter.passes e then IO.eprintln (d.writer.line e)

/-- Sets the clocks of the world. -/
def readClocks (d : Desk) : IO Unit := do
  let here ← Std.Time.PlainDateTime.now
  let instant ← Std.Time.Timestamp.now
  let utc := (Std.Time.DateTime.ofTimestamp instant Std.Time.TimeZone.ZoneRules.UTC).toPlainDateTime
  let now ← IO.monoMsNow
  d.world.modify fun w ↦
    { w with
      clock := max w.clock (now - d.started)
      wallClock := fun
        | .here => civilTime here
        | .utc => civilTime utc }

/-- Asks the client for what its model says. -/
def ask (d : Desk) (request : SamplingRequest) (cancel : Cancellation) : IO (Result String) := do
  let client := (← d.client.get).note (π := ChromePage) (.sample request cancel)
  d.client.set client
  let n := client.asked.length - 1
  d.send (Protocol.samplingRequest n request)
  d.awaitReply n

/-- Answers a request that is no matter of the client. A wait takes its time. -/
def serve (d : Desk) (r : Request ChromePage) : IO r.Answer := do
  d.readClocks
  let before ← d.world.get
  let (answer, after, client) := before.serve (← d.client.get) r
  d.world.set after
  d.client.set client
  for record in after.logs.drop before.logs.length do
    d.log ⟨"browser_pilot", record.entry⟩
  IO.sleep (UInt32.ofNat (after.clock - before.clock))
  return answer

/-- Answers a request of an operation. -/
def reply (d : Desk) : (r : Request ChromePage) → IO r.Answer
  | .sample request cancel => d.ask request cancel
  | r => d.serve r

/-- Carries out an operation. -/
def perform {α : Type} (d : Desk) : Operation ChromePage α → IO α
  | .done a => return a
  | .crash reason => throw (IO.userError reason)
  | .ask r next => do
    let answer ← d.reply r
    d.perform (next answer)

/-- Converses until the client has left. -/
partial def converse (d : Desk) (o : Protocol.Offer) (stage : Protocol.Stage) :
    IO Protocol.Stage := do
  match ← d.nextLine? with
  | none => return stage
  | some line =>
    let (stage, sent) ← d.perform (o.respond stage line)
    for message in sent do
      d.send message
    if stage = .closed then return stage else d.converse o stage

/-- Starts the browser, converses, and closes the browser. -/
def run (d : Desk) (orders : Program.Orders) : IO Program.Ending := do
  match ← d.perform (Program.begin orders).run with
  | .error e => return .ofStart e
  | .ok () =>
    let stage ← d.converse orders.offer .opening
    let _ ← d.perform Program.finish.run
    return .ofStage stage

end Desk

/-- A desk for the orders, and what its log begins with. -/
def openDesk (orders : Program.Orders) : IO Desk := do
  let (writer, first) :=
    LogWriter.setUp none (← IO.getEnv "RUST_LOG") "cua-server" orders.format
  let desk : Desk := {
    world := ← IO.mkRef { env := {} }
    client := ← IO.mkRef { sampler := fun _ ↦ (0, .error .cancelled) }
    writer := writer
    input := ← IO.getStdin
    output := ← IO.getStdout
    started := ← IO.monoMsNow }
  for e in first do
    desk.log e
  return desk

/-- Shows an ending. -/
def conclude (e : Program.Ending) : IO UInt32 := do
  IO.print e.output
  for report in e.report do
    IO.eprintln report
  return UInt32.ofNat e.code

end BrowserPilot.Main

open BrowserPilot in
/-- Runs the program. -/
def main (arguments : List String) : IO UInt32 := do
  match Program.Orders.read arguments (← IO.getEnv "HEADLESS") with
  | .error e => Main.conclude (.ofUsage e)
  | .ok orders => do
    let desk ← Main.openDesk orders
    Main.conclude (← desk.run orders)
