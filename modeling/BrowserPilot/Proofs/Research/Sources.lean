import BrowserPilot.Page.Recording
import BrowserPilot.Proofs.Research.Course
import BrowserPilot.Proofs.Research.Prompts
import Mathlib.Data.List.Forall2
import Mathlib.Data.List.Induction
import Mathlib.Data.List.TakeWhile

namespace BrowserPilot.Research

/-!
# What the model is told

The prompts of a research that comes to a report, as the texts that are sent. Every search keeps
to its own query and reason, every reflection lists what its own search has found, and the report
is asked for with everything that was found.
-/

variable {B : Backend} {s : Settings} {question reason query : String} {results : List String}
  {now : CivilTime} {rs : List Round}

/-! ## The query of a round -/

theorem isEmpty_trimChars (cs : List Char) : (Text.trimChars cs).isEmpty = cs.all Text.isBlank := by
  rw [Bool.eq_iff_iff, List.isEmpty_iff, Text.trimChars, Text.dropBlankEnd, Text.dropBlank,
    List.reverse_eq_nil_iff, List.dropWhile_eq_nil_iff, List.all_eq_true]
  simp only [List.mem_reverse]
  induction cs with
  | nil => simp
  | cons c cs ih => cases h : Text.isBlank c <;> simp [h, ih]

/-- The last query that the rounds propose and that is not blank, else the planned one. -/
def currentQuery (planned : String) (before : List Round) : String :=
  ((before.map fun r ↦ r.verdict.followUpQuery).reverse.find?
    fun proposed ↦ !proposed.toList.all Text.isBlank).getD planned

theorem currentQuery_concat (planned : String) (before : List Round) (r : Round) :
    currentQuery planned (before ++ [r]) = nextQuery (currentQuery planned before) r.verdict := by
  simp only [currentQuery, nextQuery, isEmpty_trimChars, List.map_append, List.map_cons,
    List.map_nil, List.reverse_append, List.reverse_singleton, List.singleton_append,
    List.find?_cons]
  cases r.verdict.followUpQuery.toList.all Text.isBlank <;> simp

theorem foldl_nextQuery (planned : String) (before : List Round) :
    before.foldl (fun query r ↦ nextQuery query r.verdict) planned =
      currentQuery planned before := by
  induction before using List.reverseRecOn with
  | nil => rfl
  | append_singleton before r ih => rw [List.foldl_concat, ih, currentQuery_concat]

theorem Follows.split {before after : List Round} {r : Round}
    (h : Follows question reason query results (before ++ r :: after)) :
    r.searchPrompt = searchPrompt
        (before.foldl (fun query r ↦ nextQuery query r.verdict) query) reason ∧
      r.reflectPrompt = reflectPrompt question (results ++ (before ++ [r]).map Round.found) := by
  induction before generalizing query results with
  | nil => exact ⟨h.1, h.2.1⟩
  | cons x before ih =>
      obtain ⟨hsearch, hreflect⟩ := ih h.2.2
      exact ⟨hsearch, by simpa using hreflect⟩

/-! ## The text of a prompt -/

/-- Between its opening and its ending the prompt lists exactly these results under a label,
and they can be read back from there. -/
structure Lists (opening label ending : String) (results : List String) (prompt : String) :
    Prop where
  text : prompt = opening ++ label ++ (Json.ofList .string results).render ++ ending
  listed : listed? label prompt = some results

theorem lists_reflectPrompt (question : String) (results : List String) :
    Lists s!"Original user query: {question}\n" "Search results: " "\n" results
      (reflectPrompt question results) where
  text := by
    refine String.toList_injective ?_
    rw [toList_reflectPrompt]
    simp [toString, listing]
  listed := listed?_reflectPrompt question results

theorem lists_writePrompt (now : CivilTime) (question : String) (results : List String) :
    Lists s!"Current date and time: {now.timestamp}\nOriginal query: {question}\n"
      "Summarized search results: " "\n\n" results (writePrompt now question results) where
  text := by
    refine String.toList_injective ?_
    rw [toList_writePrompt]
    simp [toString, listing]
  listed := listed?_writePrompt now question results

/-! ## The prompts of a research -/

def Round.prompts (r : Round) : List String := [r.searchPrompt, r.reflectPrompt]

/-- The rounds search for the current query with the reason of their search, and each reflects
on what the rounds up to it have found. -/
structure Pursues (s : Settings) (question : String) (p : PlannedSearch) (rs : List Round) :
    Prop where
  length : rs.length = roundsUntil s.maxRounds.toNat (rs.map Round.isSufficient)
  search : ∀ before r after, rs = before ++ r :: after →
    r.searchPrompt =
      s!"Search term: {currentQuery p.query before}\nReason for searching: {p.reason}"
  reflection : ∀ before r after, rs = before ++ r :: after →
    Lists s!"Original user query: {question}\n" "Search results: " "\n"
      ((before ++ [r]).map Round.found) r.reflectPrompt

theorem SearchedAll.pursues {ps : List PlannedSearch} {xs : List Exchange}
    {result : Result (List String)} (h : SearchedAll s question ps xs result) {found : List String}
    (hok : result = .ok found) :
    ∃ searches : List (List Round), List.Forall₂ (Pursues s question) ps searches ∧
      xs = searches.flatten.flatMap (Round.exchanges s) ∧
      found = searches.flatten.map Round.found := by
  induction h generalizing found with
  | nil =>
      obtain rfl := Except.ok.inj hok
      exact ⟨[], .nil, rfl, rfl⟩
  | broken => cases hok
  | @cons p ps xs ys first others hsearch hothers ih =>
      cases others with
      | error e => cases hok
      | ok others =>
          obtain rfl := Except.ok.inj hok
          obtain ⟨searches, hpursues, rfl, rfl⟩ := ih rfl
          cases hsearch with
          | whole rs hfollows hlength =>
              refine ⟨rs :: searches, .cons ⟨hlength, ?_, ?_⟩ hpursues, by simp, by simp⟩
              · rintro before r after rfl
                rw [← foldl_nextQuery]
                exact hfollows.split.1
              · rintro before r after rfl
                rw [hfollows.split.2]
                exact lists_reflectPrompt question _

/-- All exchanges of a research that comes to a report. -/
def transcript (s : Settings) (question planned : String) (searches : List (List Round))
    (written report : String) : List Exchange :=
  [⟨request s .planner (planPrompt question), .ok planned⟩] ++
    (searches.flatten.flatMap (Round.exchanges s) ++ [⟨request s .writer written, .ok report⟩])

theorem map_prompt_transcript (s : Settings) (question planned : String)
    (searches : List (List Round)) (written report : String) :
    (transcript s question planned searches written report).map (fun x ↦ x.request.prompt) =
      s!"Query: {question}" :: (searches.flatten.flatMap Round.prompts ++ [written]) := by
  have hround (r : Round) : (r.exchanges s).map (fun x ↦ x.request.prompt) = r.prompts := rfl
  simp [transcript, List.map_flatMap, hround, request, planPrompt]

/-- Whenever a research comes to a report, every search keeps to what was planned for it, and
each prompt lists all results that it is about, in order and once. -/
theorem prompts_list_their_results {w w' : World B} {c c' : Caller} {report : String}
    (h : (run s .never question).run.alone w c = (.returned (.ok report), w', c')) :
    ∃ planned plan searches written, readReply Plan.reader planned = .ok plan ∧
      List.Forall₂ (Pursues s question) plan.searches searches ∧
      Lists s!"Current date and time: {(w.wallClock .utc).timestamp}\nOriginal query: {question}\n"
        "Summarized search results: " "\n\n" (searches.flatten.map Round.found) written ∧
      (transcript s question planned searches written report).map (fun x ↦ x.request.prompt) =
        s!"Query: {question}" :: (searches.flatten.flatMap Round.prompts ++ [written]) ∧
      c.Exchanged (transcript s question planned searches written report) c' := by
  obtain ⟨r, w₁, c₁, xs, hrun, -, -, hxs, hresearched⟩ :=
    run_converses s question w c rfl
  obtain ⟨hr, -, hc⟩ : (.returned r : Outcome _) = .returned (.ok report) ∧ w₁ = w' ∧ c₁ = c' := by
    simpa using hrun.symm.trans h
  obtain rfl := Outcome.returned.inj hr
  subst hc
  cases hresearched with
  | written hplan hsearches =>
      obtain ⟨searches, hpursues, rfl, rfl⟩ := hsearches.pursues rfl
      cases hplan with
      | understood hread =>
          exact ⟨_, _, searches, _, hread, hpursues, lists_writePrompt _ question _,
            map_prompt_transcript .., hxs⟩

/-- The report that a run has come to. -/
def report? : Outcome (Result String) × World B × Caller → Option String
  | (.returned r, _) => r.toOption
  | (.crashed _, _) => none

theorem returned_of_report? {x : Outcome (Result String) × World B × Caller} {report : String}
    (h : report? x = some report) : ∃ w' c', x = (.returned (.ok report), w', c') := by
  obtain ⟨⟨_ | _⟩ | _, w', c'⟩ := x
  · cases h
  · obtain rfl := Option.some.inj h
    exact ⟨w', c', rfl⟩
  · cases h

/-- A caller whose model plans two searches and wants a second round of the first. -/
def curiousCaller : Caller where
  sampler := .ofReplies (.sampling "no reply left") ([
    (Json.object [("searches", .array [
      .object [("query", .string "a")], .object [("query", .string "b")]])]).render,
    "1", (Json.object [("is_sufficient", .bool false), ("follow_up_query", .string "c")]).render,
    "2", (Json.object [("is_sufficient", .bool true)]).render,
    "3", (Json.object [("is_sufficient", .bool true)]).render,
    "report"].map fun text ↦ (0, .ok text))

theorem prompts_list_their_results_curious :
    ∃ w' c', (run {} .never "question").run.alone ({ env := () } : World recording) curiousCaller =
        (.returned (.ok "report"), w', c') ∧
      ∃ planned plan searches written, readReply Plan.reader planned = .ok plan ∧
        List.Forall₂ (Pursues {} "question") plan.searches searches ∧
        Lists
          s!"Current date and time: {(default : CivilTime).timestamp}\nOriginal query: question\n"
          "Summarized search results: " "\n\n" (searches.flatten.map Round.found) written ∧
        (transcript {} "question" planned searches written "report").map
            (fun x ↦ x.request.prompt) =
          "Query: question" :: (searches.flatten.flatMap Round.prompts ++ [written]) ∧
        curiousCaller.Exchanged
          (transcript {} "question" planned searches written "report") c' := by
  have hreport : report? ((run {} .never "question").run.alone ({ env := () } : World recording)
      curiousCaller) = some "report" := by decide +kernel
  obtain ⟨w', c', hrun⟩ := returned_of_report? hreport
  have hsources := prompts_list_their_results hrun
  exact ⟨w', c', hrun, hsources⟩

end BrowserPilot.Research
