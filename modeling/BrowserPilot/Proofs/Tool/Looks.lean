import BrowserPilot.Proofs.Operation.Looks
import BrowserPilot.Proofs.Session.Call
import BrowserPilot.Proofs.Text.Base64
import BrowserPilot.Proofs.Tool.Boundary

namespace BrowserPilot

/-!
# What is shown of the page

A dispatch, a tool and a call on the session that gives it no page take the page as it is.
Whoever gets an observation from them gets what the latest call on the page has shown.
-/

open BrowserPilot.Task (Blind looks_bind looks_result_bind looks_pure looks_settled looks_inSpan
  looks_withPage looks_screenshot)

variable {π : Type} {last : Option (List UInt8)}

/-! ## Dispatches -/

theorem Session.looks_observe (d : Option Deadline) :
    (observe d : Task π Observation).Looks Eq last := by
  refine looks_bind (looks_screenshot false d) fun last bytes hlast ↦ ?_
  refine .ask rfl fun _ ↦ .done ?_
  rintro _ o ⟨⟩ rfl
  exact hlast ⟨bytes⟩ rfl

namespace Dispatch

theorem blind_applyAll (d : Deadline) {ps : List Primitive} (hps : ∀ p ∈ ps, p.isInput = true) :
    (applyAll d ps : Task π Unit).Blind := by
  induction ps with
  | nil => exact .pure ()
  | cons p ps ih =>
      have hp : ∀ width height, p ≠ .setViewport width height := by
        rintro width height rfl
        cases hps _ List.mem_cons_self
      exact (Blind.primitive hp _).bind fun _ ↦ ih fun q hq ↦ hps q (List.mem_cons_of_mem p hq)

theorem blind_perform (c : Config) (a : Action) (cancel : Cancellation) (d : Deadline) :
    (perform c a cancel d : Task π Unit).Blind := by
  refine (blind_applyAll d fun _ ↦ Action.isInput_of_mem_plan).bind fun _ ↦ ?_
  cases a with
  | wait requested => exact .pause _ _ _
  | _ => exact .pure ()

theorem blind_release : (release : Task π Unit).Blind := by
  refine (Blind.primitive (fun _ _ h ↦ by cases h) _).result_bind fun r ↦ ?_
  cases r with
  | ok _ => exact .pure ()
  | error e => exact .log _ _ _

/-- After an action that fails there is nothing to show. -/
theorem looks_performAndObserve (c : Config) (a : Action) (cancel : Cancellation) (d : Deadline) :
    (performAndObserve c a cancel d : Task π Observation).Looks Eq last := by
  refine looks_result_bind (blind_perform c a cancel d last) fun last r _ ↦ ?_
  cases r with
  | ok _ => exact Session.looks_observe _
  | error e => exact blind_release.looks_bind fun _ _ ↦ .done (shows_error e)

theorem looks_run (c : Config) (a : Action) (cancel : Cancellation) :
    (run c a cancel : Task π Observation).Looks Eq last := by
  refine Blind.looks_bind (.lift rfl) fun last now ↦ ?_
  split
  · exact .crash _
  · exact looks_withPage (looks_performAndObserve c a cancel _)

end Dispatch

theorem looks_dispatch (c : Config) (a : Action) (cancel : Cancellation) :
    (dispatch c a cancel : Task π Observation).Looks Eq last := by
  refine looks_result_bind (looks_inSpan (Dispatch.looks_run c a cancel)) fun last r hr ↦ ?_
  cases r with
  | ok o => exact .ask rfl fun _ ↦ .done hr
  | error e => exact .ask rfl fun _ ↦ .done (shows_error e)

/-! ## The session -/

namespace Session

theorem looks_capture : (capture : Task π Observation).Looks Eq last :=
  looks_withPage (looks_observe none)

theorem blind_navigate (url : String) : (navigate url : Task π Unit).Blind :=
  (Blind.primitive (fun _ _ h ↦ by cases h) _).withPage _

theorem blind_vacate : (vacate : Task π Unit).Blind := by
  refine Blind.bind (.lift rfl) fun page ↦ ?_
  cases page with
  | false => exact .pure ()
  | true =>
      refine (Blind.primitive (fun _ _ h ↦ by cases h) _).result_bind fun r ↦ ?_
      cases r with
      | ok _ => exact (Blind.log _ _ _).bind fun _ ↦ .lift rfl
      | error e => exact (Blind.lift rfl).bind fun _ ↦ .throw e

/-- A call that neither gives the session a page nor lends it to somebody takes the page as it
is. -/
theorem looks_call (c : Config) {call : Call π} (hopening : call.isOpening = false)
    (hlock : ∀ body use, call ≠ .lock body use) :
    (call.task c).Looks (fun reply o ↦ reply = .picture o) last := by
  have hblind {α : Type} {t : Task π α} (ht : t.Blind) (f : α → Reply)
      (hf : ∀ a o, f a ≠ .picture o) :
      (t >>= fun a ↦ pure (f a)).Looks (fun reply o ↦ reply = .picture o) last :=
    ht.looks_bind fun _ a ↦ looks_pure _ fun o ho ↦ absurd ho (hf a o)
  have hseen {t : Task π Observation} (ht : t.Looks Eq last) :
      (t >>= fun o ↦ pure (Reply.picture o)).Looks (fun reply o ↦ reply = .picture o) last := by
    refine looks_bind ht fun last o ho ↦ looks_pure _ fun o' ho' ↦ ?_
    cases ho'
    exact ho o rfl
  cases call with
  | attach _ | start => simp [Call.isOpening] at hopening
  | stop => exact hblind (blind_vacate.locked _) _ (by rintro _ _ ⟨⟩)
  | isActive => exact hblind (Blind.locked (.lift rfl) _) _ (by rintro _ _ ⟨⟩)
  | lock body use => exact absurd rfl (hlock body use)
  | navigate url => exact hblind (blind_navigate url) _ (by rintro _ _ ⟨⟩)
  | capture => exact hseen looks_capture
  | currentUrl =>
      exact hblind ((Blind.primitive (fun _ _ h ↦ by cases h) _).withPage _) _ (by rintro _ _ ⟨⟩)
  | dispatch a cancel => exact hseen (looks_dispatch c a cancel)

end Session

/-! ## Research -/

namespace Research

theorem blind_askFor {σ α : Type} (s : Settings) (cancel : Cancellation) (role : Role)
    (prompt : String) (r : Json.RecordReader σ α) :
    (askFor s cancel role prompt r : Task π α).Blind := by
  refine (Blind.sample _ _).bind fun text ↦ ?_
  split
  · exact .pure _
  · exact .throw _

theorem blind_search (s : Settings) (cancel : Cancellation) (question reason : String)
    (rounds round : Nat) (query : String) (results : List String) :
    (search s cancel question reason rounds round query results : Task π _).Blind := by
  induction rounds generalizing round query results with
  | zero => exact .pure results
  | succ rounds ih =>
      refine (Blind.sample _ _).bind fun found ↦ ?_
      refine (blind_askFor s cancel .reflector _ Reflection.reader).bind fun r ↦ ?_
      split
      · exact (Blind.log _ _ _).bind fun _ ↦ .pure _
      · exact (Blind.log _ _ _).bind fun _ ↦ ih _ _ _

theorem blind_searchAll (s : Settings) (cancel : Cancellation) (question : String)
    (ps : List PlannedSearch) : (searchAll s cancel question ps : Task π (List String)).Blind := by
  induction ps with
  | nil => exact .pure []
  | cons p ps ih =>
      exact (blind_search s cancel question p.reason _ 0 p.query []).bind fun _ ↦
        ih.bind fun _ ↦ .pure _

theorem blind_run (s : Settings) (cancel : Cancellation) (question : String) :
    (run s cancel question : Task π String).Blind :=
  (blind_askFor s cancel .planner _ Plan.reader).bind fun plan ↦
    (Blind.log _ _ _).bind fun _ ↦
      (blind_searchAll s cancel question plan.searches).bind fun _ ↦
        (Blind.lift rfl).bind fun _ ↦ .sample _ _

end Research

/-! ## Tools -/

/-- An observation is among the parts of an answer. -/
def Holds (parts : List Part) (o : Observation) : Prop := o.part ∈ parts

namespace Tool

variable {args : Json}

theorem blind_needSampling (ctx : CallContext) : (needSampling ctx : Task π Unit).Blind := by
  unfold needSampling
  split
  · exact .pure ()
  · exact .throw noSampling

/-- A text holds no observation. -/
theorem looks_text (text : String) : (pure [.text text] : Task π (List Part)).Looks Holds last :=
  looks_pure _ fun _ ho ↦ by cases List.mem_singleton.1 ho

/-- Of an answer with one picture, this is all that is shown. -/
theorem looks_parts {t : Task π Observation} (ht : t.Looks Eq last) (parts : List Part)
    (hparts : ∀ o : Observation, o.part ∉ parts) :
    (do let o ← t
        return parts ++ [o.part] : Task π (List Part)).Looks Holds last := by
  refine looks_bind ht fun last o ho ↦ looks_pure _ fun o' ho' ↦ ?_
  rcases List.mem_append.1 ho' with hmem | hmem
  · exact absurd hmem (hparts o')
  · obtain ⟨-, hbytes⟩ := Part.image.inj (List.mem_singleton.1 hmem)
    rw [hbytes]
    exact ho o rfl

theorem looks_tool (s : ToolSettings) (ctx : CallContext) (args : Json) (tool : Tool) :
    (tool.run s ctx args : Task π (List Part)).Looks Holds last := by
  cases tool with
  | openUrl =>
      refine (Blind.settled _).looks_bind fun last url ↦ ?_
      refine (Session.blind_navigate url).looks_bind fun last _ ↦ ?_
      exact (Blind.log _ _ _).looks_bind fun _ _ ↦ looks_text _
  | browser =>
      refine (Blind.settled _).looks_bind fun last a ↦ ?_
      exact looks_parts (looks_dispatch s.browser a ctx.cancel) [] fun _ ↦ List.not_mem_nil
  | browserAgent =>
      refine (Blind.settled _).looks_bind fun last prompt ↦ ?_
      refine (blind_needSampling ctx).looks_bind fun last _ ↦ ?_
      refine (Blind.sample _ _).looks_bind fun last answer ↦ ?_
      refine looks_parts Session.looks_capture [.text (Text.trim answer)] fun o ho ↦ ?_
      cases List.mem_singleton.1 ho
  | screenshot => exact looks_parts Session.looks_capture [] fun _ ↦ List.not_mem_nil
  | research =>
      refine (Blind.settled _).looks_bind fun last prompt ↦ ?_
      refine (blind_needSampling ctx).looks_bind fun last _ ↦ ?_
      refine Blind.looks_bind (.lift rfl) fun last now ↦ ?_
      have hreport {last : Option (List UInt8)} :
          (do return [.text (← Research.run s.research ctx.cancel prompt)] :
            Task π (List Part)).Looks Holds last :=
        (Research.blind_run s.research ctx.cancel prompt).looks_bind fun _ _ ↦ looks_text _
      split
      · exact (Blind.throw .cancelled).looks_bind fun _ _ ↦ hreport
      · exact hreport
  | dateTime => exact Blind.looks_bind (.lift rfl) fun _ _ ↦ looks_text _

end Tool

/-! ## Calls by name -/

/-- An observation is among the blocks of a result. -/
def CallOutcome.Holds (outcome : CallOutcome) (o : Observation) : Prop :=
  ∃ r, outcome = .ok r ∧ o.part.block ∈ r.content

/-- A block tells the picture that it was made from. -/
theorem Observation.part_eq_of_block {o : Observation} {part : Part}
    (h : part.block = o.part.block) : part = o.part := by
  cases part with
  | text _ => cases h
  | image mime bytes =>
      obtain ⟨hdata, rfl⟩ := Block.image.inj h
      rw [Text.Base64.encode_injective hdata]
      rfl

namespace ToolCall

variable {registered : List Tool} {s : ToolSettings} {c : ToolCall}

theorem holds_tell {r : Result (List Part)} (hr : Shows Holds last r) :
    (c.tell r : Operation π CallOutcome).Looks
      (fun last outcome ↦ ∀ o, outcome.Holds o → last = some o.bytes) last := by
  cases r with
  | ok parts =>
      refine .done ?_
      rintro o ⟨_, ⟨⟩, hblock⟩
      obtain ⟨part, hpart, hsame⟩ := List.mem_map.1 hblock
      -- the block cannot have been made of another picture
      obtain rfl := Observation.part_eq_of_block hsame
      exact hr parts o rfl hpart
  | error e =>
      refine .ask rfl fun _ ↦ .done ?_
      rintro o ⟨result, hresult, hblock⟩
      unfold Failure.outcome at hresult
      split at hresult
      · cases hresult
      · obtain rfl := Except.ok.inj hresult
        cases List.mem_singleton.1 hblock

theorem looks_run : (c.run registered s : Operation π CallOutcome).Looks
    (fun last outcome ↦ ∀ o, outcome.Holds o → last = some o.bytes) last := by
  cases hname : Tool.ofName? registered c.name with
  | none =>
      unfold run call
      rw [hname]
      refine .done ?_
      rintro o ⟨_, ⟨⟩, -⟩
  | some tool =>
      rw [run_eq_bind hname]
      exact Operation.Looks.bind (looks_inSpan (Tool.looks_tool s c.ctx c.args tool))
        fun _ _ hr ↦ holds_tell hr

end ToolCall

end BrowserPilot
