import BrowserPilot.Operation.Basic
import BrowserPilot.Research.Reply

namespace BrowserPilot.Research

/-!
# Research

The caller's model plays four roles. It plans searches, answers each search,
reflects on whether the answers suffice, and writes the report. A search is
repeated until the reflection is content or the rounds are used up.
-/

/-- How much research may be done. -/
structure Settings where
  maxRounds : UInt64 := 5
  maxTokens : UInt32 := defaultMaxTokens
  deriving DecidableEq, Repr

/-- What the model is asked to be. -/
inductive Role
  | planner
  | searcher
  | reflector
  | writer
  deriving DecidableEq, Repr

/-- The hint that names a role to the caller. -/
def Role.hint : Role → String
  | planner => "planner"
  | searcher => "searchAgent"
  | reflector => "reflection"
  | writer => "writer"

/-! ## Prompts -/

/-- Results as a JSON list of texts. -/
def listing (results : List String) : String := (Json.ofList Json.string results).render

/-- Asks for a plan. -/
def planPrompt (question : String) : String := s!"Query: {question}"

/-- Asks for a search. -/
def searchPrompt (query reason : String) : String :=
  s!"Search term: {query}\nReason for searching: {reason}"

/-- Asks whether the results so far are enough. -/
def reflectPrompt (question : String) (results : List String) : String :=
  s!"Original user query: {question}\nSearch results: {listing results}\n"

/-- Asks for the report. -/
def writePrompt (now : CivilTime) (question : String) (results : List String) : String :=
  s!"Current date and time: {now.timestamp}\nOriginal query: {question}\n" ++
    s!"Summarized search results: {listing results}\n\n"

/-! ## The run -/

/-- The request to the model in a role. -/
def request (s : Settings) (role : Role) (prompt : String) : SamplingRequest :=
  { prompt := prompt, modelHint := some role.hint, maxTokens := s.maxTokens }

/-- The failure of a reply that cannot be read. -/
def unreadable (role : Role) (why : Json.Located) : Failure :=
  .sampling s!"{role.hint} returned invalid JSON: {why.message}"

/-- The query of the next round: the one proposed by the reflection, unless it is blank. -/
def nextQuery (query : String) (r : Reflection) : String :=
  if (Text.trimChars r.followUpQuery.toList).isEmpty then query else r.followUpQuery

variable {π : Type}

/-- Asks the model in a role. -/
def ask (s : Settings) (cancel : Cancellation) (role : Role) (prompt : String) : Task π String :=
  Task.sample (request s role prompt) cancel

/-- Asks the model in a role and reads its reply. -/
def askFor {σ α : Type} (s : Settings) (cancel : Cancellation) (role : Role) (prompt : String)
    (r : Json.RecordReader σ α) : Task π α := do
  match readReply r (← ask s cancel role prompt) with
  | .ok a => return a
  | .error why => throw (unreadable role why)

/-- At most `rounds` more rounds of a search, the next being `round`, with the results so far. -/
def search (s : Settings) (cancel : Cancellation) (question reason : String) :
    (rounds round : Nat) → (query : String) → (results : List String) → Task π (List String)
  | 0, _, _, results => return results
  | rounds + 1, round, query, results => do
    let found ← ask s cancel .searcher (searchPrompt query reason)
    let results := results ++ [found]
    let r ← askFor s cancel .reflector (reflectPrompt question results) Reflection.reader
    if r.isSufficient then
      Task.log .debug "search sufficient" [
        ("round", Json.ofNat round), ("query", .string query)]
      return results
    else
      Task.log .debug "search insufficient" [
        ("round", Json.ofNat round), ("gap", .string r.knowledgeGap)]
      search s cancel question reason rounds (round + 1) (nextQuery query r) results

/-- The results of all searches, in order. -/
def searchAll (s : Settings) (cancel : Cancellation) (question : String) :
    List PlannedSearch → Task π (List String)
  | [] => return []
  | p :: ps => do
    let first ← search s cancel question p.reason s.maxRounds.toNat 0 p.query []
    let others ← searchAll s cancel question ps
    return first ++ others

/-- Researches a question and returns the report. -/
def run (s : Settings) (cancel : Cancellation) (question : String) : Task π String := do
  let plan ← askFor s cancel .planner (planPrompt question) Plan.reader
  Task.log .info "research planned" [("searches", Json.ofNat plan.searches.length)]
  let results ← searchAll s cancel question plan.searches
  let now ← Task.wallClock .utc
  ask s cancel .writer (writePrompt now question results)

end BrowserPilot.Research
