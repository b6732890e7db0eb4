import BrowserPilot.Page.Chrome
import BrowserPilot.Proofs.Action.Descriptor
import BrowserPilot.Proofs.Tool.Within

namespace BrowserPilot

/-!
# Who is to blame

Only what reads the arguments of a call blames them. Where neither the page nor the model
does so, a tool either rejects its arguments before it does anything else, or never says
that they are at fault.
-/

/-- The arguments are not at fault. -/
abbrev Blameless {α : Type} (r : Result α) : Prop := FailsOnly (·.isInvalidArgument = false) r

/-- The answer does not find fault with the arguments. -/
abbrev Request.Blameless {π : Type} : (r : Request π) → r.Answer → Prop :=
  Request.Fair (·.isInvalidArgument = false)

/-- A model that does not find fault with the arguments. -/
def Sampler.Blameless (σ : Sampler) : Prop := ∀ asked, BrowserPilot.Blameless (σ asked).2

/-- Pages that do not find fault with the arguments. -/
def Backend.Blameless (B : Backend) : Prop :=
  ∀ p env page, BrowserPilot.Blameless (B.apply p env page).result

theorem Ending.blameless_result (ending : Ending) : Blameless ending.result := by
  cases ending with
  | completed => exact failsOnly_ok ()
  | expired _ | cancelled => exact failsOnly_error rfl

/-- Nothing in a world with such pages finds fault with the arguments of who has such a model. -/
theorem World.blameless_answer {B : Backend} (hB : B.Blameless) (w : World B) (c : Caller)
    (ending : Ending) (r : Request B.Page) (hc : c.sampler.Blameless) :
    r.Blameless (w.answer c ending r).1 := by
  cases r with
  | lock _ | pause _ _ _ => exact ending.blameless_result
  | primitive p d =>
      cases ending with
      | completed =>
          change BrowserPilot.Blameless (w.apply c p).1
          cases hslot : w.slot with
          | none =>
              simp only [World.apply, hslot]
              exact failsOnly_error rfl
          | some page =>
              simp only [World.apply, hslot]
              exact hB p w.env page
      | expired _ | cancelled => exact failsOnly_error rfl
  | sample _ _ =>
      cases ending with
      | completed => exact hc c.asked
      | expired _ | cancelled => exact failsOnly_error rfl
  | _ => trivial

/-! ## Chrome blames nobody -/

namespace ChromePage

theorem blameless_failure {α : Type} (complaint : String) (trouble : Trouble) :
    Blameless (.error (failure complaint trouble) : Result α) :=
  failsOnly_error rfl

theorem blameless_strokes (persist : Bool) (chrome : Chrome) (page : ChromePage) (ss : List Stroke)
    (p : Primitive) (reply : p.Reply) :
    Blameless (strokes persist chrome page ss p reply).result := by
  have hmake : ∀ (chrome : Chrome) (h : Hands) (e : Failure),
      (make persist chrome h ss).failure = some e → e.isInvalidArgument = false := by
    induction ss with
    | nil => exact fun _ _ _ h ↦ by simp [make] at h
    | cons s rest ih =>
        intro chrome h e he
        simp only [make] at he
        split at he
        · exact ih _ _ _ he
        · split at he
          · obtain rfl := Option.some.inj he
            rfl
          · obtain rfl := Option.some.inj he
            rfl
  simp only [strokes]
  split
  · rename_i e he
    exact failsOnly_error (hmake _ _ _ he)
  · exact failsOnly_ok reply

theorem blameless_single (chrome : Chrome) (page : ChromePage) (c : Command) (complaint : String)
    (p : Primitive) (reply : p.Reply) :
    Blameless (single chrome page c complaint p reply).result := by
  unfold single
  split
  · exact failsOnly_ok reply
  · exact blameless_failure _ _

theorem blameless_capture (chrome : Chrome) (clip : Option (Nat × Nat)) :
    Blameless (capture chrome clip).2.2 := by
  simp only [capture]
  split
  · change Blameless (imageOf _)
    unfold imageOf
    split
    · exact failsOnly_ok _
    · exact failsOnly_error rfl
  · exact blameless_failure _ _

theorem blameless_screenshot (chrome : Chrome) (page : ChromePage) (full : Bool) :
    Blameless (page.screenshot chrome full).result := by
  cases full with
  | false => exact blameless_capture _ _
  | true =>
      change Blameless (captureAll chrome).2.2
      simp only [captureAll]
      split
      · exact blameless_capture _ _
      · exact blameless_failure _ _

end ChromePage

theorem blameless_chrome : chromeBackend.Blameless := by
  intro p chrome page
  change Blameless (page.apply p chrome).result
  cases p with
  | goto url =>
      simp only [ChromePage.apply, ChromePage.goto]
      split
      · exact failsOnly_ok _
      · exact ChromePage.blameless_failure _ _
  | setViewport _ _ | evaluate _ => exact ChromePage.blameless_single _ _ _ _ _ _
  | screenshot full => exact ChromePage.blameless_screenshot _ _ _
  | currentUrl => exact failsOnly_ok _
  | close =>
      simp only [ChromePage.apply, ChromePage.close]
      split
      · exact ChromePage.blameless_single _ _ _ _ _ _
      · exact failsOnly_ok _
  | _ => exact ChromePage.blameless_strokes _ _ _ _ _ _

/-! ## Tools -/

namespace Tool

open BrowserPilot.Task (Within)

variable {π : Type} {s : ToolSettings} {args : Json}

/-- A tool does not take these arguments. -/
inductive Rejects (s : ToolSettings) (args : Json) : Tool → Prop
  /-- There is no address, or it is not a text. -/
  | noUrl : (∀ raw, args.get? "url" ≠ some (.string raw)) → Rejects s args openUrl
  /-- The text is no address. -/
  | badUrl {raw why : String} : args.get? "url" = some (.string raw) →
      s.urls.parse (Text.trim raw) = .error why → Rejects s args openUrl
  /-- It is an address of another scheme. -/
  | otherScheme {raw : String} {url : Url.Address} : args.get? "url" = some (.string raw) →
      s.urls.parse (Text.trim raw) = .ok url → url.scheme ≠ "https" → Rejects s args openUrl
  /-- They do not describe an action. -/
  | noAction {e : Failure} : Action.ofDescriptor args = .error e → Rejects s args browser
  /-- There is no prompt, or it is not a text. -/
  | noPrompt {t : Tool} : t = browserAgent ∨ t = research →
      (∀ prompt, args.get? "prompt" ≠ some (.string prompt)) → Rejects s args t

theorem textArgument_cases (name : String) (args : Json) :
    (∃ text, args.get? name = some (.string text) ∧ textArgument name args = .ok text) ∨
      (∀ text, args.get? name ≠ some (.string text)) ∧
        ∃ why, textArgument name args = .error (.invalidArgument why) := by
  unfold textArgument
  cases hget : args.get? name with
  | none => exact .inr ⟨nofun, _, rfl⟩
  | some v =>
      cases v with
      | string text => exact .inl ⟨text, rfl, rfl⟩
      | _ => exact .inr ⟨nofun, _, rfl⟩

theorem urlArgument_cases (s : ToolSettings) (args : Json) :
    (∃ url, urlArgument s.urls.parse args = .ok url ∧ ¬ openUrl.Rejects s args) ∨
      openUrl.Rejects s args ∧
        ∃ why, urlArgument s.urls.parse args = .error (.invalidArgument why) := by
  rcases textArgument_cases "url" args with ⟨raw, hget, htext⟩ | ⟨hnone, why, htext⟩
  · -- there is one address, so whatever is found wrong with it is found wrong with this one
    have hraw {raw' : String} (hget' : args.get? "url" = some (.string raw')) : raw' = raw :=
      Json.string.inj (Option.some.inj (hget'.symm.trans hget))
    simp only [urlArgument, htext, bind, Except.bind]
    cases hparse : s.urls.parse (Text.trim raw) with
    | error why => exact .inr ⟨.badUrl hget hparse, _, rfl⟩
    | ok url =>
        by_cases hscheme : url.scheme = Url.secureScheme
        · refine .inl ⟨url.text, if_pos hscheme, ?_⟩
          rintro (hno | ⟨hget', hbad⟩ | ⟨hget', hother, hne⟩ | _ | ⟨hor, -⟩)
          · exact hno raw hget
          · rw [hraw hget', hparse] at hbad
            cases hbad
          · rw [hraw hget', hparse] at hother
            exact hne (Except.ok.inj hother ▸ hscheme)
          · simp at hor
        · exact .inr ⟨.otherScheme hget hparse hscheme, _, if_neg hscheme⟩
  · refine .inr ⟨.noUrl hnone, why, ?_⟩
    simp only [urlArgument, htext, bind, Except.bind]

/-- A tool reads its arguments before it does anything else. -/
theorem run_of_rejects (ctx : CallContext) {t : Tool} (h : t.Rejects s args) :
    ∃ why, (t.run s ctx args : Task π (List Part)).run = .done (.error (.invalidArgument why)) := by
  cases t with
  | openUrl =>
      rcases urlArgument_cases s args with ⟨_, -, hnot⟩ | ⟨-, why, hwhy⟩
      · exact absurd h hnot
      · refine ⟨why, ?_⟩
        simp only [run, runOpenUrl, hwhy]
        rfl
  | browser =>
      cases h with
      | noAction herror =>
          obtain ⟨why, rfl⟩ := Action.ofDescriptor_error herror
          refine ⟨why, ?_⟩
          simp only [run, runBrowser, herror]
          rfl
      | noPrompt hor => simp at hor
  | browserAgent | research =>
      rcases textArgument_cases "prompt" args with ⟨prompt, hget, -⟩ | ⟨-, why, hwhy⟩
      · cases h with
        | noPrompt _ hno => exact absurd hget (hno prompt)
      · refine ⟨why, ?_⟩
        simp only [run, runBrowserAgent, runResearch, hwhy]
        rfl
  | screenshot | dateTime =>
      cases h with
      | noPrompt hor => simp at hor

variable {X : Prop} {F : Failure → Prop} {U : Primitive → Prop}

theorem within_needSampling (hF : Tolerant F) (ctx : CallContext) :
    Within X F U (needSampling ctx : Task π Unit) := by
  unfold needSampling
  split
  · exact .pure ()
  · exact .throw (hF _ rfl)

theorem exists_prompt {t : Tool} (ht : t = browserAgent ∨ t = research) (h : ¬ t.Rejects s args) :
    ∃ prompt, textArgument "prompt" args = .ok prompt := by
  rcases textArgument_cases "prompt" args with ⟨prompt, -, hprompt⟩ | ⟨hnone, -⟩
  · exact ⟨prompt, hprompt⟩
  · exact absurd (.noPrompt ht hnone) h

/-- What a tool may do to the page for a call with these arguments. -/
def Touches (s : ToolSettings) (args : Json) : Tool → Primitive → Prop
  | openUrl, p => ∃ url, urlArgument s.urls.parse args = .ok url ∧ p = .goto url
  | browser, p => ∃ a, Action.ofDescriptor args = .ok a ∧ a.Touches p
  | browserAgent, p | screenshot, p => p = .screenshot false
  | research, _ | dateTime, _ => False

/-- A tool that takes its arguments does not find fault with them later. -/
theorem within_run (hF : Tolerant F) (ctx : CallContext) {t : Tool} (h : ¬ t.Rejects s args) :
    Within (t = browser) F (t.Touches s args) (t.run s ctx args : Task π (List Part)) := by
  cases t with
  | openUrl =>
      rcases urlArgument_cases s args with ⟨url, hurl, -⟩ | ⟨hrejects, -⟩
      · simp only [run, runOpenUrl, hurl]
        exact (Session.within_navigate hF ⟨url, hurl, rfl⟩).bind fun _ ↦
          (Within.log _ _ _).bind fun _ ↦ .pure _
      · exact absurd hrejects h
  | browser =>
      cases haction : Action.ofDescriptor args with
      | error e => exact absurd (.noAction haction) h
      | ok a =>
          have hdispatch : Within True F (browser.Touches s args)
              (dispatch s.browser a ctx.cancel : Task π Observation) :=
            within_dispatch trivial hF s.browser ctx.cancel fun p hp ↦ ⟨a, haction, hp⟩
          simp only [run, runBrowser, haction]
          exact hdispatch.bind fun _ ↦ .pure _
  | browserAgent =>
      obtain ⟨prompt, hprompt⟩ := exists_prompt (.inl rfl) h
      simp only [run, runBrowserAgent, hprompt]
      exact (within_needSampling hF ctx).bind fun _ ↦ (Within.sample _ _).bind fun _ ↦
        (Session.within_capture (U := (· = .screenshot false)) hF rfl).bind fun _ ↦ .pure _
  | screenshot =>
      exact (Session.within_capture (U := (· = .screenshot false)) hF rfl).bind fun _ ↦ .pure _
  | research =>
      obtain ⟨prompt, hprompt⟩ := exists_prompt (.inr rfl) h
      simp only [run, runResearch, hprompt]
      have hreport : Within (research = browser) F (research.Touches s args)
          (do return [Part.text (← Research.run s.research ctx.cancel prompt)] : Task π _) :=
        (Research.within_run hF s.research ctx.cancel prompt).bind fun _ ↦ .pure _
      refine (within_needSampling hF ctx).bind fun _ ↦ Within.now.bind fun now ↦ ?_
      split
      · exact (Within.throw (hF _ rfl)).bind fun _ ↦ hreport
      · exact hreport
  | dateTime => exact (Within.wallClock .here).bind fun _ ↦ .pure _

end Tool

end BrowserPilot
