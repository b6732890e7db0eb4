import BrowserPilot.Protocol.Message

namespace BrowserPilot.Protocol

/-!
# What clients ask for

The methods that are known, with the parameters they take. A method with
parameters that do not fit is as good as unknown.
-/

/-- What a request asks for. -/
inductive Demand
  /-- Opens the conversation. -/
  | greet (edition : String) (canSample : Bool)
  | ping
  | listTools
  | listResources
  | listResourceTemplates
  | listPrompts
  | callTool (name : String) (args : Json)
  | other (method : String)

namespace Demand

/-- Whether parameters are left out or name a page of a list. -/
def fitsList : Json → Bool
  | .null => true
  | .object ms =>
    match Json.find? "cursor" ms with
    | none | some .null | some (.string _) => true
    | some _ => false
  | _ => false

/-- Whether a client says that its own model can be asked, if its abilities are well formed. -/
def canSample? : Json → Option Bool
  | .object ms =>
    match Json.find? "sampling" ms with
    | none | some .null => some false
    | some (.object _) => some true
    | some _ => none
  | _ => none

/-- Whether a client says who it is. -/
def introduces : Json → Bool
  | .object ms =>
    match Json.find? "name" ms, Json.find? "version" ms with
    | some (.string _), some (.string _) => true
    | _, _ => false
  | _ => false

/-- Reads the parameters with which a conversation is opened. -/
def opening? (params : Json) : Option Demand :=
  match params.get? "protocolVersion", (params.get? "capabilities").bind canSample?,
    params.get? "clientInfo" with
  | some (.string edition), some canSample, some client =>
    if introduces client then some (.greet edition canSample) else none
  | _, _, _ => none

/-- Reads the parameters of a call. Arguments that are left out are none. -/
def call? (params : Json) : Option Demand :=
  match params.get? "name", params.get? "arguments" with
  | some (.string name), none | some (.string name), some .null =>
    some (.callTool name (.object []))
  | some (.string name), some (.object args) => some (.callTool name (.object args))
  | _, _ => none

/-- What a method asks for if its parameters fit. -/
def known? (method : String) (params : Json) : Option Demand :=
  let list (d : Demand) := if fitsList params then some d else none
  match method with
  | "initialize" => opening? params
  | "ping" => some ping
  | "tools/list" => list listTools
  | "resources/list" => list listResources
  | "resources/templates/list" => list listResourceTemplates
  | "prompts/list" => list listPrompts
  | "tools/call" => call? params
  | _ => none

/-- What a request asks for. -/
def of (method : String) (params : Json) : Demand := (known? method params).getD (other method)

end Demand

end BrowserPilot.Protocol
