import BrowserPilot.Main
import BrowserPilot.Proofs.Action.Grammar
import BrowserPilot.Proofs.CommandLine.Wishes
import BrowserPilot.Proofs.Dispatch.Chord
import BrowserPilot.Proofs.Dispatch.Overtime
import BrowserPilot.Proofs.Page.FunctionKey
import BrowserPilot.Proofs.Research.Cut
import BrowserPilot.Proofs.Research.Inline
import BrowserPilot.Proofs.Research.Prompts
import BrowserPilot.Proofs.RoundTrip
import BrowserPilot.Proofs.Sampling
import BrowserPilot.Proofs.Session.Lifecycle
import BrowserPilot.Proofs.Session.Race
import BrowserPilot.Proofs.Session.Sightings
import BrowserPilot.Proofs.Session.Visitor
import BrowserPilot.Proofs.Tool.Confinement
import BrowserPilot.Proofs.Tool.Content
import BrowserPilot.Proofs.Tool.FrontEnd
