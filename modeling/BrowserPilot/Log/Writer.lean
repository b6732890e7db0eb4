import BrowserPilot.Json.Printer
import BrowserPilot.Log.Filter
import BrowserPilot.Log.Format
import BrowserPilot.Text.Quoted

namespace BrowserPilot

/-!
# Writing the log

A writer has a format and a filter. The first one that is set up stays.
-/

namespace LogEvent

/-- The value of a field as a line of text shows it. -/
def shown : Json → String
  | .string s => Text.quoted s
  | v => v.render

/-- The fields that a line of text shows; those about the log itself it leaves out. -/
def visibleFields (e : LogEvent) : LogFields :=
  e.entry.fields.filter fun f ↦ !"log.".toList.isPrefixOf f.1.toList

/-- An event as text: where it comes from, the message, and the fields. -/
def text (e : LogEvent) : String :=
  let fields := e.visibleFields.map fun (name, value) ↦ s!" {name}=" ++ shown value
  s!"{e.target}: {e.entry.message}" ++ String.join fields

/-- The fields of an event with its message. -/
def allFields (e : LogEvent) : Json :=
  Json.ofMembers (("message", .string e.entry.message) :: e.entry.fields)

/-- An event as a JSON object. -/
def toJson (e : LogEvent) : Json :=
  .object [("fields", e.allFields), ("level", .string e.entry.level.name),
    ("target", .string e.target)]

end LogEvent

/-- How the log is written. -/
structure LogWriter where
  format : LogFormat
  filter : LogFilter

namespace LogWriter

/-- The line for an event, without the time. -/
def line (w : LogWriter) (e : LogEvent) : String :=
  match w.format with
  | .text => s!"{e.entry.level.name} {e.text}"
  | .json => e.toJson.render

/-- The event that tells that a log has been set up. -/
def announcement (service : String) (format : LogFormat) : LogEvent where
  target := "cua_telemetry::init"
  entry := ⟨.info, "Telemetry initialized",
    [("service.name", .string service), ("log.format", .string format.label)]⟩

/-- Sets up the log unless that has been done: the writer, and what it has to write first. -/
def setUp (present : Option LogWriter) (wanted : Option String) (service : String)
    (format : LogFormat) : LogWriter × List LogEvent :=
  match present with
  | some w => (w, [])
  | none => (⟨format, .ofVariable wanted⟩, [announcement service format])

end LogWriter

end BrowserPilot
