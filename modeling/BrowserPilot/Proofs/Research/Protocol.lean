import BrowserPilot.Proofs.Research.Course
import Mathlib.Data.List.Forall2

namespace BrowserPilot.Research

/-!
# The order of the requests

What a research asks of the model is known from the replies alone: how many searches there are
from the plan, and how many rounds each takes from what the reflections say. The first request
that fails, or whose reply cannot be read, is the last one.
-/

variable {B : Backend} {s : Settings} {α σ : Type}

/-! ## What the replies say -/

/-- The failure of a stage whose reply cannot be read. -/
def misread? (stage : String) : Except Json.Located α → Option Failure
  | .ok _ => none
  | .error why => some (.sampling s!"{stage} returned invalid JSON: {why.message}")

/-- What is wrong with an exchange: the failure of the model itself, or a plan or a reflection
that cannot be read. -/
def fault? (x : Exchange) : Option Failure :=
  match x.reply, x.request.modelHint with
  | .error e, _ => some e
  | .ok text, some "planner" => misread? "planner" (readReply Plan.reader text)
  | .ok text, some "reflection" => misread? "reflection" (readReply Reflection.reader text)
  | .ok _, _ => none

/-- Whether a reflection finds the results sufficient. -/
def verdict? (x : Exchange) : Option Bool :=
  match x.reply, x.request.modelHint with
  | .ok text, some "reflection" =>
    (readReply Reflection.reader text).toOption.map Reflection.isSufficient
  | _, _ => none

/-- The searches that the first reply plans, none if it is no plan. -/
def planned : List Exchange → List PlannedSearch
  | ⟨_, .ok text⟩ :: _ => ((readReply Plan.reader text).toOption.map Plan.searches).getD []
  | _ => []

def verdicts (xs : List Exchange) : List Bool := xs.filterMap verdict?

@[simp] theorem verdicts_append (xs ys : List Exchange) :
    verdicts (xs ++ ys) = verdicts xs ++ verdicts ys :=
  List.filterMap_append

/-! ## The script -/

/-- What a request is for. -/
inductive Stage
  | plan
  | search (reason : String)
  | reflection
  | report
  deriving DecidableEq

def Stage.hint : Stage → String
  | plan => "planner"
  | search _ => "searchAgent"
  | reflection => "reflection"
  | report => "writer"

/-- The request is one of this stage. A search is told from the others by its reason. -/
def Stage.Asks (stage : Stage) (x : Exchange) : Prop :=
  x.request.modelHint = some stage.hint ∧
    ∀ reason, stage = search reason → ∃ query, x.request.prompt = searchPrompt query reason

/-- The stages of `k` rounds of a search. -/
def roundStages (reason : String) (k : Nat) : List Stage :=
  (List.replicate k [.search reason, .reflection]).flatten

/-- The stages of a row of searches. The first verdicts are those of the first search. -/
def searchStages (max : Nat) : List PlannedSearch → (verdicts : List Bool) → List Stage
  | [], _ => []
  | p :: ps, verdicts =>
    let k := roundsUntil max verdicts
    roundStages p.reason k ++ searchStages max ps (verdicts.drop k)

/-- The stages of a whole research. -/
def script (max : Nat) (ps : List PlannedSearch) (verdicts : List Bool) : List Stage :=
  [.plan] ++ (searchStages max ps verdicts ++ [.report])

theorem roundStages_succ (reason : String) (k : Nat) :
    roundStages reason (k + 1) = [.search reason, .reflection] ++ roundStages reason k := rfl

theorem roundStages_add (reason : String) (j k : Nat) :
    roundStages reason (j + k) = roundStages reason j ++ roundStages reason k := by
  simp only [roundStages, ← List.replicate_append_replicate, List.flatten_append]

@[simp] theorem length_roundStages (reason : String) (k : Nat) :
    (roundStages reason k).length = 2 * k := by
  simp [roundStages, Nat.mul_comm]

theorem length_script_le (max : Nat) (ps : List PlannedSearch) (verdicts : List Bool) :
    (script max ps verdicts).length ≤ 2 + 2 * max * ps.length := by
  have hsearches : (searchStages max ps verdicts).length ≤ 2 * max * ps.length := by
    induction ps generalizing verdicts with
    | nil => simp [searchStages]
    | cons p ps ih =>
        have hfirst := roundsUntil_le max verdicts
        have hothers := ih (verdicts.drop (roundsUntil max verdicts))
        simp only [searchStages, List.length_append, length_roundStages, List.length_cons,
          Nat.mul_succ]
        omega
  simp only [script, List.length_append, List.length_cons, List.length_nil]
  omega

-- Of two searches the first is content at once, and the second uses up its two rounds.
example : script 2 [⟨"r", "a"⟩, ⟨"s", "b"⟩] [true, false, false] =
    [.plan, .search "r", .reflection, .search "s", .reflection, .search "s", .reflection,
      .report] := by decide

/-! ## A stretch of exchanges -/

/-- Every request before the failure is fine, and without one all are. -/
inductive Settled : List Exchange → Result α → Prop
  | fine {xs : List Exchange} {a : α} (hfine : ∀ x ∈ xs, fault? x = none) : Settled xs (.ok a)
  | fault {before : List Exchange} {x : Exchange} {e : Failure}
      (hfine : ∀ y ∈ before, fault? y = none) (hfault : fault? x = some e) :
      Settled (before ++ [x]) (.error e)

theorem Settled.ok_iff {xs : List Exchange} {result : Result α} (h : Settled xs result) :
    (∃ a, result = .ok a) ↔ ∀ x ∈ xs, fault? x = none := by
  cases h with
  | @fine xs a hfine => exact ⟨fun _ ↦ hfine, fun _ ↦ ⟨a, rfl⟩⟩
  | @fault before x e hfine hfault =>
      constructor
      · rintro ⟨a, ha⟩
        cases ha
      · intro hall
        have hnone := hall x (by simp)
        cases hnone.symm.trans hfault

theorem Settled.error_iff {xs : List Exchange} {result : Result α} {e : Failure}
    (h : Settled xs result) : result = .error e ↔
      ∃ before x, xs = before ++ [x] ∧ (∀ y ∈ before, fault? y = none) ∧ fault? x = some e := by
  cases h with
  | fine hfine =>
      constructor
      · nofun
      · rintro ⟨before, x, rfl, -, hfault⟩
        have hnone := hfine x (by simp)
        cases hnone.symm.trans hfault
  | @fault before x e' hfine hfault =>
      constructor
      · intro he
        obtain rfl := Except.error.inj he
        exact ⟨before, x, rfl, hfine, hfault⟩
      · rintro ⟨before', x', hxs, -, hfault'⟩
        obtain ⟨-, hx⟩ := List.append_inj' hxs rfl
        obtain rfl := List.singleton_inj.1 hx
        rw [Option.some.inj (hfault.symm.trans hfault')]

/-- The requests go through the stages until one fails, and all are made in the settings. -/
structure Keeps (s : Settings) (stages : List Stage) (xs : List Exchange) (result : Result α) :
    Prop where
  allowance : ∀ x ∈ xs, x.request.maxTokens = s.maxTokens ∧ x.request.systemPrompt = none
  order : ∃ reached, reached <+: stages ∧ List.Forall₂ Stage.Asks reached xs
  whole : ∀ a, result = .ok a → List.Forall₂ Stage.Asks stages xs
  settled : Settled xs result

namespace Keeps

variable {β : Type} {stages others : List Stage} {stage : Stage} {xs ys : List Exchange}

theorem nil (a : α) : Keeps s [] [] (.ok a) :=
  ⟨List.forall_mem_nil _, ⟨[], List.prefix_rfl, .nil⟩, fun _ _ ↦ .nil,
    .fine (List.forall_mem_nil _)⟩

theorem fine {a : α} (h : Keeps s stages xs (.ok a)) : ∀ x ∈ xs, fault? x = none := by
  cases h.settled with
  | fine hfine => exact hfine

theorem map {result : Result α} (h : Keeps s stages xs result) (f : α → β) :
    Keeps s stages xs (result.map f) := by
  obtain ⟨hallowance, horder, hwhole, hsettled⟩ := h
  cases hsettled with
  | @fine xs a hfine => exact ⟨hallowance, horder, fun _ _ ↦ hwhole a rfl, .fine hfine⟩
  | fault hfine hfault => exact ⟨hallowance, horder, nofun, .fault hfine hfault⟩

theorem error {e : Failure} (h : Keeps s stages xs (.error e : Result α)) (others : List Stage) :
    Keeps s (stages ++ others) xs (.error e : Result β) := by
  obtain ⟨reached, hreached, hasks⟩ := h.order
  refine ⟨h.allowance, ⟨reached, hreached.trans (List.prefix_append _ _), hasks⟩, nofun, ?_⟩
  cases h.settled with
  | fault hfine hfault => exact .fault hfine hfault

theorem append {a : α} {result : Result β} (h : Keeps s stages xs (.ok a))
    (h' : Keeps s others ys result) : Keeps s (stages ++ others) (xs ++ ys) result := by
  have hwhole := h.whole a rfl
  constructor
  · intro x hx
    rcases List.mem_append.1 hx with hx | hx
    · exact h.allowance x hx
    · exact h'.allowance x hx
  · obtain ⟨reached, hreached, hasks⟩ := h'.order
    exact ⟨stages ++ reached, (List.prefix_append_right_inj _).2 hreached,
      List.rel_append hwhole hasks⟩
  · intro b hb
    exact List.rel_append hwhole (h'.whole b hb)
  · cases h'.settled with
    | fine hfine =>
        refine .fine fun x hx ↦ ?_
        rcases List.mem_append.1 hx with hx | hx
        · exact h.fine x hx
        · exact hfine x hx
    | @fault before x e hfine hfault =>
        rw [← List.append_assoc]
        refine .fault (fun y hy ↦ ?_) hfault
        rcases List.mem_append.1 hy with hy | hy
        · exact h.fine y hy
        · exact hfine y hy

/-- One request in a role. -/
theorem single {role : Role} {prompt : String} {reply : Result String} {result : Result α}
    (hstage : stage.Asks ⟨request s role prompt, reply⟩)
    (h : Settled [⟨request s role prompt, reply⟩] result) :
    Keeps s [stage] [⟨request s role prompt, reply⟩] result := by
  have hasks : List.Forall₂ Stage.Asks [stage] [⟨request s role prompt, reply⟩] :=
    .cons hstage .nil
  refine ⟨?_, ⟨[stage], List.prefix_rfl, hasks⟩, fun _ _ ↦ hasks, h⟩
  intro x hx
  obtain rfl := List.mem_singleton.1 hx
  exact ⟨rfl, rfl⟩

end Keeps

/-! ## The stages -/

section Stages

variable {question reason query prompt : String} {n : Nat} {results : List String}
  {xs : List Exchange}

theorem Settled.single {x : Exchange} {e : Failure} (h : fault? x = some e) :
    Settled [x] (.error e : Result α) := by
  simpa using Settled.fault (List.forall_mem_nil _) h

theorem Settled.refused {x : Exchange} {e : Failure} (h : x.reply = .error e) :
    Settled [x] (.error e : Result α) :=
  .single (by rw [fault?, h])

theorem Heard.keeps {role : Role} {stage : Stage} {r : Json.RecordReader σ α} {result : Result α}
    (hstage : ∀ reply, stage.Asks ⟨request s role prompt, reply⟩)
    (hfault : ∀ text,
      fault? ⟨request s role prompt, .ok text⟩ = misread? role.hint (readReply r text))
    (h : Heard s role prompt r xs result) : Keeps s [stage] xs result := by
  cases h with
  | understood hread => exact .single (hstage _) (.fine (by simp [hfault, misread?, hread]))
  | refused e => exact .single (hstage _) (.refused rfl)
  | garbled hread =>
      exact .single (hstage _) (.single (by simp [hfault, misread?, hread, unreadable]))

theorem Heard.keeps_reflector {result : Result Reflection}
    (h : Heard s .reflector prompt Reflection.reader xs result) :
    Keeps s [.reflection] xs result := by
  apply h.keeps
  · intro reply
    exact ⟨rfl, nofun⟩
  · intro text
    simp only [fault?, request, Role.hint]

theorem Heard.keeps_planner {result : Result Plan}
    (h : Heard s .planner prompt Plan.reader xs result) : Keeps s [.plan] xs result := by
  apply h.keeps
  · intro reply
    exact ⟨rfl, nofun⟩
  · intro text
    simp only [fault?, request, Role.hint]

theorem asks_search (s : Settings) (query reason : String) (reply : Result String) :
    (Stage.search reason).Asks ⟨request s .searcher (searchPrompt query reason), reply⟩ := by
  refine ⟨rfl, fun reason' h ↦ ⟨query, ?_⟩⟩
  rw [← Stage.search.inj h]
  rfl

theorem found_keeps (s : Settings) (query reason found : String) :
    Keeps s [.search reason] [⟨request s .searcher (searchPrompt query reason), .ok found⟩]
      (.ok found) :=
  .single (asks_search s query reason _) (.fine (by simp [fault?, request, Role.hint]))

theorem Heard.planned_append {plan : Plan}
    (h : Heard s .planner prompt Plan.reader xs (.ok plan)) (ys : List Exchange) :
    planned (xs ++ ys) = plan.searches := by
  cases h with
  | understood hread =>
      rw [List.singleton_append, planned, hread]
      rfl

theorem Heard.verdicts_append {plan : Plan}
    (h : Heard s .planner prompt Plan.reader xs (.ok plan)) (ys : List Exchange) :
    verdicts (xs ++ ys) = verdicts ys := by
  cases h with
  | understood hread => rfl

theorem round_keeps {r : Round} (h : r.searchPrompt = searchPrompt query reason) :
    Keeps s [.search reason, .reflection] (r.exchanges s) (.ok ()) := by
  have hreflect : Heard s .reflector r.reflectPrompt Reflection.reader _ (.ok r.verdict) :=
    .understood r.read
  rw [Round.exchanges, h]
  exact (found_keeps s query reason r.found).append (hreflect.keeps_reflector.map fun _ ↦ ())

theorem Follows.keeps {rs : List Round} (h : Follows question reason query results rs) :
    Keeps s (roundStages reason rs.length) (rs.flatMap (Round.exchanges s)) (.ok ()) := by
  induction rs generalizing query results with
  | nil => exact .nil _
  | cons r rs ih => exact (round_keeps h.1).append (ih h.2.2)

theorem verdicts_rounds (s : Settings) (rs : List Round) :
    verdicts (rs.flatMap (Round.exchanges s)) = rs.map Round.isSufficient := by
  induction rs with
  | nil => rfl
  | cons r rs ih =>
      rw [List.flatMap_cons, verdicts_append, ih]
      simp [verdicts, verdict?, Round.exchanges, request, Role.hint, r.read, Round.isSufficient,
        Except.toOption]

theorem Broken.keeps {e : Failure} (h : Broken s reason xs e) :
    Keeps s [.search reason, .reflection] xs (.error e : Result (List String)) := by
  cases h with
  | search query e =>
      have hsearch : Keeps s [.search reason]
          [⟨request s .searcher (searchPrompt query reason), .error e⟩]
          (.error e : Result (List String)) := .single (asks_search s query reason _) (.refused rfl)
      exact hsearch.error [.reflection]
  | reflection h => exact (found_keeps s _ reason _).append (h.keeps_reflector.error [])

theorem Broken.verdicts {e : Failure} (h : Broken s reason xs e) : verdicts xs = [] := by
  cases h with
  | search query e => rfl
  | reflection h =>
      cases h with
      | refused e => rfl
      | garbled hread =>
          simp [Research.verdicts, verdict?, request, Role.hint, hread, Except.toOption]

theorem Searched.keeps {result : Result (List String)}
    (h : Searched s question reason n query results xs result) :
    Keeps s (roundStages reason (roundsUntil n (verdicts xs))) xs result := by
  cases h with
  | whole rs hfollows hlength =>
      rw [verdicts_rounds, ← hlength]
      exact hfollows.keeps.map fun _ ↦ results ++ rs.map Round.found
  | broken rs hfollows hlength htail =>
      rw [verdicts_append, verdicts_rounds, htail.verdicts, List.append_nil]
      -- The rounds that are complete, the one that broke off, and those that were still allowed.
      obtain ⟨k, hk⟩ := Nat.exists_eq_add_of_lt hlength
      rw [hk, Nat.add_assoc, roundStages_add, Nat.add_comm k, Nat.add_comm 1, roundStages_succ]
      exact hfollows.keeps.append (htail.keeps.error _)

/-- A search that is complete leaves the verdicts of later ones to these. -/
theorem Searched.verdicts_length {found : List String}
    (h : Searched s question reason n query results xs (.ok found)) (ws : List Bool) :
    roundsUntil n (verdicts xs ++ ws) = (verdicts xs).length := by
  cases h with
  | whole rs hfollows hlength =>
      rw [verdicts_rounds]
      exact roundsUntil_append (by rw [List.length_map]; exact hlength)

theorem SearchedAll.keeps {ps : List PlannedSearch} {result : Result (List String)}
    (h : SearchedAll s question ps xs result) :
    Keeps s (searchStages s.maxRounds.toNat ps (verdicts xs)) xs result := by
  induction h with
  | nil => exact .nil _
  | broken hsearch => exact hsearch.keeps.error _
  | @cons p ps xs ys first others hsearch hothers ih =>
      have hcount := hsearch.verdicts_length (verdicts ys)
      have hkeeps := hsearch.keeps
      rw [← List.append_nil (verdicts xs), hsearch.verdicts_length] at hkeeps
      rw [verdicts_append, searchStages, hcount, List.drop_left]
      exact hkeeps.append (ih.map _)

theorem written_keeps (s : Settings) (prompt : String) (report : Result String) :
    Keeps s [.report] [⟨request s .writer prompt, report⟩] report := by
  apply Keeps.single
  · exact ⟨rfl, nofun⟩
  · cases report with
    | ok text => exact .fine (by simp [fault?, request, Role.hint])
    | error e => exact .refused rfl

theorem Researched.keeps {now : CivilTime} {result : Result String}
    (h : Researched s question now xs result) :
    Keeps s (script s.maxRounds.toNat (planned xs) (verdicts xs)) xs result := by
  cases h with
  | unplanned hplan => exact hplan.keeps_planner.error _
  | broken hplan hsearches =>
      rw [hplan.planned_append, hplan.verdicts_append]
      exact hplan.keeps_planner.append (hsearches.keeps.error _)
  | @written xs ys plan found report hplan hsearches =>
      have hwriter :
          verdicts [⟨request s .writer (writePrompt now question found), result⟩] = [] := by
        cases result <;> rfl
      rw [hplan.planned_append, hplan.verdicts_append, Research.verdicts_append, hwriter,
        List.append_nil]
      exact hplan.keeps_planner.append (hsearches.keeps.append (written_keeps s _ result))

end Stages

/-- What a research has asked and heard, and what comes of it. -/
structure Protocol (s : Settings) (xs : List Exchange) (result : Result String) : Prop where
  allowance : ∀ x ∈ xs, x.request.maxTokens = s.maxTokens ∧ x.request.systemPrompt = none
  order : ∃ reached, reached <+: script s.maxRounds.toNat (planned xs) (verdicts xs) ∧
    List.Forall₂ Stage.Asks reached xs
  bound : xs.length ≤ 2 + 2 * s.maxRounds.toNat * (planned xs).length
  succeeds : (∃ report, result = .ok report) ↔ ∀ x ∈ xs, fault? x = none
  report : ∀ report, result = .ok report →
    List.Forall₂ Stage.Asks (script s.maxRounds.toNat (planned xs) (verdicts xs)) xs ∧
      ∃ before x, xs = before ++ [x] ∧ x.request.modelHint = some "writer" ∧ x.reply = .ok report
  fails : ∀ e, result = .error e ↔
    ∃ before x, xs = before ++ [x] ∧ (∀ y ∈ before, fault? y = none) ∧ fault? x = some e

theorem Researched.protocol {question : String} {now : CivilTime} {xs : List Exchange}
    {result : Result String} (h : Researched s question now xs result) : Protocol s xs result where
  allowance := h.keeps.allowance
  order := h.keeps.order
  bound := by
    obtain ⟨reached, hreached, hasks⟩ := h.keeps.order
    rw [← hasks.length_eq]
    exact Nat.le_trans hreached.length_le (length_script_le _ _ _)
  succeeds := h.keeps.settled.ok_iff
  report := by
    rintro report rfl
    refine ⟨h.keeps.whole report rfl, ?_⟩
    cases h with
    | @written xs ys => exact ⟨xs ++ ys, _, (List.append_assoc _ _ _).symm, rfl, rfl⟩
  fails := fun e ↦ h.keeps.settled.error_iff

/-- Whatever the model replies, a research comes to an end and keeps to the protocol. -/
theorem run_keeps_protocol (s : Settings) (question : String) (w : World B) (c : Caller) :
    ∃ result w' c' xs, (run s .never question).run.alone w c = (.returned result, w', c') ∧
      c.Exchanged xs c' ∧ Protocol s xs result := by
  obtain ⟨result, w', c', xs, hrun, -, -, hxs, hresearched⟩ :=
    run_converses s question w c rfl
  exact ⟨result, w', c', xs, hrun, hxs, hresearched.protocol⟩

end BrowserPilot.Research
