import BrowserPilot.Page.Recording
import BrowserPilot.Proofs.Operation.Cut
import BrowserPilot.Proofs.Research.Course
import BrowserPilot.Tool.Run

namespace BrowserPilot

/-!
# Giving up a research

A caller who gives up a research ends it at that very instant. Until then the research
has asked the model what it would have asked it anyway.
-/

variable {B : Backend} {σ α : Type} {t : Instant}

namespace Research

theorem askFor_cut (s : Settings) (role : Role) (prompt : String) (r : Json.RecordReader σ α) :
    Task.Cut t (askFor s (.at t) role prompt r : Task B.Page α)
      (askFor s .never role prompt r) := by
  refine (Task.Cut.sample (request s role prompt)).bind fun text ↦ ?_
  cases readReply r text with
  | ok a => exact .pure a
  | error why => exact .throw _

theorem search_cut (s : Settings) (question reason : String) (n round : Nat) (query : String)
    (results : List String) :
    Task.Cut t (search s (.at t) question reason n round query results : Task B.Page _)
      (search s .never question reason n round query results) := by
  induction n generalizing round query results with
  | zero => exact .pure results
  | succ n ih =>
      refine (Task.Cut.sample _).bind fun found ↦ (askFor_cut _ _ _ _).bind fun verdict ↦ ?_
      cases verdict.isSufficient with
      | true => exact (Task.Cut.log _ _ _).bind fun _ ↦ .pure _
      | false => exact (Task.Cut.log _ _ _).bind fun _ ↦ ih _ _ _

theorem searchAll_cut (s : Settings) (question : String) (ps : List PlannedSearch) :
    Task.Cut t (searchAll s (.at t) question ps : Task B.Page _)
      (searchAll s .never question ps) := by
  induction ps with
  | nil => exact .pure []
  | cons p ps ih => exact (search_cut _ _ _ _ _ _ _).bind fun _ ↦ ih.bind fun _ ↦ .pure _

theorem run_cut (s : Settings) (question : String) :
    Task.Cut t (run s (.at t) question : Task B.Page _) (run s .never question) :=
  (askFor_cut _ _ _ _).bind fun _ ↦ (Task.Cut.log _ _ _).bind fun _ ↦
    (searchAll_cut _ _ _).bind fun _ ↦ (Task.Cut.wallClock _).bind fun _ ↦ Task.Cut.sample _

end Research

/-- What comes of a task when its caller gives up before, during or after its run to the end. -/
structure CleanCut (task : Cancellation → Task B.Page α) (w : World B) (c : Caller) (r : Result α)
    (w₀ : World B) (c₀ : Caller) : Prop where
  whole : (task .never).run.alone w c = (.returned r, w₀, c₀)
  before : ∀ cancel, cancel.isPast w.clock = true →
    (task cancel).run.alone w c = (.returned (.error .cancelled), w, c) ∧
      (task cancel).run.inquiries w c = []
  meanwhile : ∀ t, w.clock ≤ t → t < w₀.clock →
    (∃ w' c', (task (.at t)).run.alone w c = (.returned (.error .cancelled), w', c') ∧
      w'.clock = t) ∧
    ∃ later, (task .never).run.inquiries w c = (task (.at t)).run.inquiries w c ++ later ∧
      (∀ x ∈ (task (.at t)).run.inquiries w c, x.1 ≤ t) ∧ ∀ x ∈ later, t ≤ x.1
  after : ∀ t, w₀.clock < t →
    (task (.at t)).run.alone w c = (.returned r, w₀, c₀) ∧
      (task (.at t)).run.inquiries w c = (task .never).run.inquiries w c
  noted : ∀ cancel, ((task cancel).run.alone w c).2.2.asked =
    c.asked ++ ((task cancel).run.inquiries w c).map Prod.snd

/-- A task that begins with a look at whether its caller has given up. -/
theorem CleanCut.of_cut {task body : Cancellation → Task B.Page α} {w : World B} {c : Caller}
    {r : Result α} {w₀ : World B} {c₀ : Caller}
    (htask : ∀ cancel, (task cancel).run = .ask .now fun now ↦
      if cancel.isPast now then .done (.error .cancelled) else (body cancel).run)
    (hcut : ∀ t, Task.Cut t (body (.at t)) (body .never))
    (hwhole : (body .never).run.alone w c = (.returned r, w₀, c₀)) :
    CleanCut task w c r w₀ c₀ := by
  have hgoes (cancel : Cancellation) (hcancel : cancel.isPast w.clock = false) :
      (task cancel).run.alone w c = (body cancel).run.alone w c ∧
        (task cancel).run.inquiries w c = (body cancel).run.inquiries w c := by
    rw [htask]
    change ((if cancel.isPast w.clock then _ else _ : Operation B.Page (Result α)).alone w c = _ ∧
      (if cancel.isPast w.clock then _ else _ : Operation B.Page (Result α)).inquiries w c = _)
    rw [if_neg (by simp [hcancel])]
    exact ⟨rfl, rfl⟩
  obtain ⟨hnever, hasked⟩ := hgoes .never rfl
  have hend : w.clock ≤ w₀.clock := by
    have hle := Operation.le_alone_clock (body .never).run w c
    rwa [hwhole] at hle
  refine ⟨hnever.trans hwhole, fun cancel hpast ↦ ?_, fun t hw ht ↦ ?_, fun t ht ↦ ?_,
    fun cancel ↦ (task cancel).run.asked_alone w c⟩
  · rw [htask]
    change ((if cancel.isPast w.clock then _ else _ : Operation B.Page (Result α)).alone w c = _ ∧
      (if cancel.isPast w.clock then _ else _ : Operation B.Page (Result α)).inquiries w c = _)
    rw [if_pos hpast]
    exact ⟨rfl, rfl⟩
  · obtain ⟨hrun, hinquiries⟩ := hgoes (.at t) (decide_eq_false (Nat.not_lt_of_le hw))
    have hbroken := (hcut t hw hwhole).2 ht
    obtain ⟨hended, later, hlater, hafter⟩ := id hbroken
    rw [hrun, hinquiries, hasked]
    exact ⟨hended, later, hlater, fun x ↦ hbroken.le_of_mem_inquiries, hafter⟩
  · have hw : w.clock ≤ t := Nat.le_trans hend (Nat.le_of_lt ht)
    obtain ⟨hrun, hinquiries⟩ := hgoes (.at t) (decide_eq_false (Nat.not_lt_of_le hw))
    obtain ⟨hsame, hsameAsked⟩ := (hcut t hw hwhole).1 (Nat.le_of_lt ht)
    rw [hrun, hinquiries, hasked]
    exact ⟨hsame, hsameAsked⟩

namespace Tool

variable {s : Research.Settings} {ctx : CallContext} {args : Json} {question : String}

/-- Researches a question and shows the report. -/
def publish (s : Research.Settings) (question : String) (cancel : Cancellation) :
    Task B.Page (List Part) := do
  return [.text (← Research.run s cancel question)]

theorem textArgument_of_get? {name text : String} (h : args.get? name = some (.string text)) :
    textArgument name args = .ok text := by
  rw [textArgument, h]
  rfl

/-- A research with a question and a model, after its arguments have been read. -/
theorem runResearch_of_question (hprompt : args.get? "prompt" = some (.string question))
    (hmodel : ctx.canSample = true) (cancel : Cancellation) :
    (runResearch s { ctx with cancel } args : Task B.Page (List Part)).run = .ask .now fun now ↦
      if cancel.isPast now then .done (.error .cancelled) else (publish s question cancel).run := by
  have hneed : (needSampling { ctx with cancel } : Task B.Page Unit) = pure () := by
    rw [needSampling, if_pos hmodel]
  rw [runResearch, textArgument_of_get? hprompt, hneed]
  change Operation.ask .now _ = _
  congr 1

/-- A call without a question is refused, whatever else there is. -/
theorem runResearch_of_noQuestion
    (hprompt : ∀ question, args.get? "prompt" ≠ some (.string question))
    (w : World B) (c : Caller) : (runResearch s ctx args : Task B.Page (List Part)).run.alone w c =
      (.returned (.error (.invalidArgument "Missing 'prompt' parameter")), w, c) := by
  have htext : textArgument "prompt" args =
      .error (.invalidArgument "Missing 'prompt' parameter") := by
    rw [textArgument]
    cases hfound : args.get? "prompt" with
    | none => rfl
    | some v =>
        cases v with
        | string question => exact absurd hfound (hprompt question)
        | _ => rfl
  rw [runResearch, htext]
  rfl

theorem runResearch_of_noModel (ctx : CallContext)
    (hprompt : args.get? "prompt" = some (.string question))
    (hmodel : ctx.canSample = false) (w : World B) (c : Caller) :
    (runResearch s ctx args : Task B.Page (List Part)).run.alone w c =
      (.returned (.error (.sampling "The client does not support sampling")), w, c) := by
  have hneed : (needSampling ctx : Task B.Page Unit) = throw noSampling := by
    rw [needSampling, if_neg (by simp [hmodel])]
  rw [runResearch, textArgument_of_get? hprompt, hneed]
  rfl

theorem publish_cut : Task.Cut t (publish s question (.at t) : Task B.Page (List Part))
    (publish s question .never) :=
  (Research.run_cut s question).bind fun _ ↦ .pure _

theorem publish_returns (s : Research.Settings) (question : String) (w : World B) (c : Caller) :
    ∃ r w₀ c₀, (publish s question .never).run.alone w c = (.returned r, w₀, c₀) := by
  obtain ⟨r, w₀, c₀, xs, hrun, -⟩ := ((Research.run_converses s question).bind
    (N := fun _ _ ↦ True) (fun report _ _ ↦ .pure [Part.text report] trivial)
    fun _ _ _ ↦ trivial) w c rfl
  exact ⟨r, w₀, c₀, hrun⟩

end Tool

/-- Whenever the caller of a research gives up, it is told so at that instant, unless the report is
there before; and until then the model is asked what it would be asked anyway. What is wrong with
the call itself is told first. -/
theorem giving_up_cuts_clean (s : ToolSettings) (ctx : CallContext) (args : Json) (w : World B)
    (c : Caller) :
    let research cancel := Tool.research.run s { ctx with cancel } args
    (∀ question, args.get? "prompt" = some (.string question) → ctx.canSample = true →
      ∃ r w₀ c₀, CleanCut research w c r w₀ c₀) ∧
    ((∀ question, args.get? "prompt" ≠ some (.string question)) → ∀ cancel,
      (research cancel).run.alone w c =
        (.returned (.error (.invalidArgument "Missing 'prompt' parameter")), w, c)) ∧
    (∀ question, args.get? "prompt" = some (.string question) → ctx.canSample = false → ∀ cancel,
      (research cancel).run.alone w c =
        (.returned (.error (.sampling "The client does not support sampling")), w, c)) := by
  intro research
  refine ⟨fun question hprompt hmodel ↦ ?_, fun hnone cancel ↦ ?_,
    fun question hprompt hmodel cancel ↦ ?_⟩
  · obtain ⟨r, w₀, c₀, hwhole⟩ := Tool.publish_returns s.research question w c
    exact ⟨r, w₀, c₀, .of_cut (Tool.runResearch_of_question hprompt hmodel)
      (fun t ↦ Tool.publish_cut) hwhole⟩
  · exact Tool.runResearch_of_noQuestion hnone w c
  · exact Tool.runResearch_of_noModel { ctx with cancel } hprompt hmodel w c

/-- A caller whose model takes ten milliseconds for each reply. -/
def slowCaller : Caller where
  sampler := .ofReplies (.sampling "no reply left") ([
    (Json.object [("searches", .array [.object [("query", .string "a")]])]).render, "1",
    (Json.object [("is_sufficient", .bool true)]).render, "report"].map fun text ↦ (10, .ok text))

/-- A research given up while its search is answered, and calls with something wrong that are
given up beforehand. -/
theorem giving_up_cuts_clean_slow :
    let w : World recording := { env := () }
    let run (canSample : Bool) (cancel : Cancellation) (args : Json) :=
      (Tool.research.run { browser := {} } { id := "1", canSample, cancel } args).run.alone w
        slowCaller
    let args := Json.object [("prompt", .string "question")]
    (∃ w' c', run true (.at 15) args = (.returned (.error .cancelled), w', c') ∧ w'.clock = 15) ∧
    run true .before .null =
      (.returned (.error (.invalidArgument "Missing 'prompt' parameter")), w, slowCaller) ∧
    run false .before args =
      (.returned (.error (.sampling "The client does not support sampling")), w, slowCaller) := by
  intro w run args
  have hcut (ctx : CallContext) (args : Json) :=
    giving_up_cuts_clean (B := recording) { browser := {} } ctx args w slowCaller
  obtain ⟨r, w₀, c₀, hclean⟩ := (hcut { id := "1", canSample := true } args).1 "question" rfl rfl
  have hend : w₀.clock = 40 := by
    have hwhole : (run true .never args).2.1.clock = 40 := by decide +kernel
    have hruns : run true .never args = (.returned r, w₀, c₀) := hclean.whole
    rwa [hruns] at hwhole
  refine ⟨(hclean.meanwhile 15 (by decide) (by rw [hend]; decide)).1, ?_, ?_⟩
  · exact (hcut { id := "1", canSample := true } .null).2.1 (fun _ h ↦ by cases h) .before
  · exact (hcut { id := "1" } args).2.2 "question" rfl rfl .before

end BrowserPilot
