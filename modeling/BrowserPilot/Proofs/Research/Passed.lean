import BrowserPilot.Proofs.Research.Fence
import BrowserPilot.Proofs.Research.Protocol
import BrowserPilot.Proofs.Research.Reply
import BrowserPilot.Proofs.Research.Sources

namespace BrowserPilot.Research

open Json

/-!
# Replies that a research goes past

Without the fence, a reply of the planner has to be the text of a plan, and one of the
reflection the text of a reflection. Any other reply is the last thing that the model is asked for.
-/

variable {B : Backend} {σ α : Type} {L : List Char → α → Prop}

/-! ## Replies that can be read -/

theorem trimChars_unfenceChars (cs : List Char) :
    Text.trimChars (unfenceChars cs) = unfenceChars cs := by
  unfold unfenceChars
  dsimp only
  split <;> simp

/-- A reply is read if, without the fence, it is a text that the reader reads, and no more. -/
theorem readReply_eq_ok_iff {r : RecordReader σ α} (hreads : Reads (r.read depthLimit) L)
    (htight : ∀ text a, L text a → Text.Tight text) {text : String} {a : α} :
    readReply r text = .ok a ↔ L (unfence text).toList a := by
  constructor
  · intro hread
    obtain ⟨i, hi, ha⟩ := hreads.run_eq_ok_iff.1 hread
    have htrim : Text.trimChars (i.before ++ i.text ++ i.after) = i.text := by
      rw [Text.trimChars_surrounded (fun c hc ↦ isBlank_of_isGap (i.before_gap c hc))
        fun c hc ↦ isBlank_of_isGap (i.after_gap c hc)]
      exact (htight _ _ ha).trimChars
    have hwhole : (unfence text).toList = Text.trimChars (i.before ++ i.text ++ i.after) := by
      rw [List.append_assoc, ← Item.chars, ← hi, unfence, String.toList_ofList,
        trimChars_unfenceChars]
    rwa [hwhole, htrim]
  · exact hreads.run_eq_ok

theorem tight_of_brackets (inner : List Char) : Text.Tight ('[' :: (inner ++ [']'])) :=
  .mk inner (by decide) (by decide)

theorem tight_of_isObject {members : List Member} {text : List Char} (h : IsObject members text) :
    Text.Tight text := by
  obtain ⟨-, -, -⟩ := h
  exact .mk _ (by decide) (by decide)

theorem readReply_plan_eq_ok_iff {text : String} {plan : Plan} :
    readReply Plan.reader text = .ok plan ↔ IsPlan (unfence text).toList plan := by
  refine readReply_eq_ok_iff (Plan.read_reads (by decide)) fun text a h ↦ ?_
  cases h with
  | object members h => exact tight_of_isObject h
  | list i hrow => exact tight_of_brackets _

theorem readReply_reflection_eq_ok_iff {text : String} {r : Reflection} :
    readReply Reflection.reader text = .ok r ↔ IsReflection (unfence text).toList r := by
  refine readReply_eq_ok_iff (Reflection.read_reads (by decide)) fun text a h ↦ ?_
  cases h with
  | object members h => exact tight_of_isObject h
  | list i items texts hrow => exact tight_of_brackets _

/-! ## The exchange after a reply -/

/-- A reply that is one of the texts of `L` is followed by another request. After any other there
is none, and the research fails with what was wrong with it. -/
structure Judged (stage : String) (L : List Char → α → Prop) (text : String)
    (after : List Exchange) (result : Result String) : Prop where
  passed : (∃ a, L (unfence text).toList a) → after ≠ []
  refused : (¬∃ a, L (unfence text).toList a) → after = [] ∧
    ∃ why : String, result = .error (.sampling s!"{stage} returned invalid JSON: {why}")

variable {s : Settings} {xs before after : List Exchange} {x : Exchange} {result : Result String}

theorem Protocol.after_of_fault (h : Protocol s xs result) (hxs : xs = before ++ x :: after)
    {e : Failure} (hfault : fault? x = some e) : after = [] ∧ result = .error e := by
  subst hxs
  cases result with
  | ok report =>
      have hnone := (h.succeeds.1 ⟨report, rfl⟩) x (by simp)
      cases hfault.symm.trans hnone
  | error e' =>
      obtain ⟨before', x', hxs, hfine, hfault'⟩ := (h.fails e').1 rfl
      cases after using List.reverseRecOn with
      | nil =>
          obtain ⟨-, hx⟩ := List.append_inj' hxs rfl
          obtain rfl := (List.cons.inj hx).1
          rw [Option.some.inj (hfault'.symm.trans hfault)]
          exact ⟨rfl, rfl⟩
      | append_singleton after y =>
          -- Then the fault was not in the last exchange.
          have hinit : before ++ x :: after = before' :=
            (List.append_inj' (by simpa using hxs : (before ++ x :: after) ++ [y] = before' ++ [x'])
              rfl).1
          have hnone := hfine x (hinit ▸ by simp)
          cases hfault.symm.trans hnone

theorem Protocol.after_of_fine (h : Protocol s xs result) (hxs : xs = before ++ x :: after)
    (hwriter : x.request.modelHint ≠ some "writer") (hfine : fault? x = none) : after ≠ [] := by
  rintro rfl
  cases result with
  | ok report =>
      obtain ⟨-, before', x', hxs', hhint, -⟩ := h.report report rfl
      obtain ⟨-, hx⟩ := List.append_inj' (hxs.symm.trans hxs') rfl
      obtain rfl := (List.cons.inj hx).1
      exact hwriter hhint
  | error e =>
      obtain ⟨before', x', hxs', -, hfault⟩ := (h.fails e).1 rfl
      obtain ⟨-, hx⟩ := List.append_inj' (hxs.symm.trans hxs') rfl
      obtain rfl := (List.cons.inj hx).1
      cases hfault.symm.trans hfine

/-- What follows a reply that is read by `r`. -/
theorem Protocol.judged {r : RecordReader σ α} {stage text : String} (h : Protocol s xs result)
    (hxs : xs = before ++ x :: after) (hwriter : x.request.modelHint ≠ some "writer")
    (hfault : fault? x = misread? stage (readReply r text))
    (hread : ∀ a, readReply r text = .ok a ↔ L (unfence text).toList a) :
    Judged stage L text after result := by
  constructor
  · rintro ⟨a, ha⟩
    rw [(hread a).2 ha] at hfault
    exact h.after_of_fine hxs hwriter hfault
  · intro hnone
    cases hreply : readReply r text with
    | ok a => exact absurd ⟨a, (hread a).1 hreply⟩ hnone
    | error why =>
        rw [hreply] at hfault
        obtain ⟨hafter, hresult⟩ := h.after_of_fault hxs hfault
        exact ⟨hafter, why.message, hresult⟩

/-- A research goes past the replies that are texts of a plan or a reflection, and past no others
of its planner and its reflections. -/
theorem research_passes_only_readable_replies (s : Settings) (question : String) (w : World B)
    (c : Caller) :
    ∃ result w' c' xs, (run s .never question).run.alone w c = (.returned result, w', c') ∧
      c.Exchanged xs c' ∧ ∀ before x after text, xs = before ++ x :: after → x.reply = .ok text →
        (x.request.modelHint = some "planner" → Judged "planner" IsPlan text after result) ∧
        (x.request.modelHint = some "reflection" →
          Judged "reflection" IsReflection text after result) := by
  obtain ⟨result, w', c', xs, hrun, -, -, hexchanged, hresearched⟩ :=
    run_converses s question w c rfl
  refine ⟨result, w', c', xs, hrun, hexchanged, ?_⟩
  intro before x after text hxs hreply
  constructor
  · intro hhint
    exact hresearched.protocol.judged hxs (by simp [hhint]) (by simp [fault?, hreply, hhint])
      fun _ ↦ readReply_plan_eq_ok_iff
  · intro hhint
    exact hresearched.protocol.judged hxs (by simp [hhint]) (by simp [fault?, hreply, hhint])
      fun _ ↦ readReply_reflection_eq_ok_iff

/-- A caller whose model answers with a list of no searches. -/
def terseCaller : Caller where
  sampler := .ofReplies (.sampling "no reply left") [(0, .ok "[[]]"), (0, .ok "report")]

/-- A list is no object, and a research goes past it all the same. -/
theorem terse_plan_is_passed :
    (¬∃ members, IsObject members (unfence "[[]]").toList) ∧
      report? ((run {} .never "question").run.alone ({ env := () } : World recording) terseCaller) =
        some "report" := by
  constructor
  · rintro ⟨members, h⟩
    have hchars : (unfence "[[]]").toList = ['[', '[', ']', ']'] := by decide
    rw [hchars] at h
    cases h
  · decide +kernel

end BrowserPilot.Research
