import BrowserPilot.Json.Parser
import BrowserPilot.Json.Typed
import BrowserPilot.Research.Fence

namespace BrowserPilot.Research

open Json

/-!
# Model replies

The planner answers with the searches to make, the reflection with whether the
results suffice. Both answer in JSON, perhaps inside a code fence.
-/

/-- One search proposed by the planner. -/
structure PlannedSearch where
  reason : String
  query : String
  deriving DecidableEq, Repr

/-- The planner's answer. -/
structure Plan where
  searches : List PlannedSearch
  deriving DecidableEq, Repr

/-- The answer to the question whether the results suffice. -/
structure Reflection where
  isSufficient : Bool
  knowledgeGap : String
  followUpQuery : String
  deriving DecidableEq, Repr

/-- The fields of a planned search read so far. -/
structure PlannedSearch.Partial where
  reason : Option String := none
  query : Option String := none

/-- Reads a planned search. The reason may be left out. -/
def PlannedSearch.reader : RecordReader PlannedSearch.Partial PlannedSearch where
  name := "struct PlannedSearch"
  start := {}
  fields := [
    { name := "reason", optional := true, given := fun p ↦ p.reason.isSome
      read := fun depth p cs ↦ do
        let (s, rest) ← readText depth cs
        return ({ p with reason := some s }, rest) },
    { name := "query", optional := false, given := fun p ↦ p.query.isSome
      read := fun depth p cs ↦ do
        let (s, rest) ← readText depth cs
        return ({ p with query := some s }, rest) }]
  build := fun p ↦ p.query.map fun q ↦ ⟨p.reason.getD "", q⟩

/-- Reads a plan. -/
def Plan.reader : RecordReader (Option (List PlannedSearch)) Plan where
  name := "struct Plan"
  start := none
  fields := [
    { name := "searches", optional := false, given := Option.isSome
      read := fun depth _ cs ↦ do
        let (searches, rest) ← readList PlannedSearch.reader.read depth cs
        return (some searches, rest) }]
  build := fun p ↦ p.map Plan.mk

/-- The fields of a reflection read so far. -/
structure Reflection.Partial where
  isSufficient : Option Bool := none
  knowledgeGap : Option String := none
  followUpQuery : Option String := none

/-- Reads a reflection. Its two texts may be left out. -/
def Reflection.reader : RecordReader Reflection.Partial Reflection where
  name := "struct Reflection"
  start := {}
  fields := [
    { name := "is_sufficient", optional := false, given := fun p ↦ p.isSufficient.isSome
      read := fun depth p cs ↦ do
        let (b, rest) ← readBoolean depth cs
        return ({ p with isSufficient := some b }, rest) },
    { name := "knowledge_gap", optional := true, given := fun p ↦ p.knowledgeGap.isSome
      read := fun depth p cs ↦ do
        let (s, rest) ← readText depth cs
        return ({ p with knowledgeGap := some s }, rest) },
    { name := "follow_up_query", optional := true, given := fun p ↦ p.followUpQuery.isSome
      read := fun depth p cs ↦ do
        let (s, rest) ← readText depth cs
        return ({ p with followUpQuery := some s }, rest) }]
  build := fun p ↦ p.isSufficient.map fun b ↦
    ⟨b, p.knowledgeGap.getD "", p.followUpQuery.getD ""⟩

/-- Reads a reply, without the fence around it. -/
def readReply {σ α : Type} (r : RecordReader σ α) (text : String) : Except Located α :=
  Scan.run (r.read depthLimit) (unfence text)

end BrowserPilot.Research
