import BrowserPilot.Proofs.Dispatch.Horizon
import BrowserPilot.Proofs.Tool.Blame
import BrowserPilot.Proofs.Tool.Service

namespace BrowserPilot

/-!
# What a caller is told

A call is refused, as an error of the protocol, if and only if no tool has its name or the
tool does not take its arguments; and then nothing has been done. Whatever else goes wrong
is a result, whose only block is the text of the failure.
-/

/-- What a caller is told of what a tool has come to. -/
def Tool.report : Result (List Part) → CallOutcome
  | .ok parts => .ok ⟨parts.map Part.block, false⟩
  | .error e => .ok ⟨[.text e.message], true⟩

namespace ToolCall

variable {π : Type} {B : Backend} {registered : List Tool} {s : ToolSettings} {c : ToolCall}
  {tool : Tool}

/-- No tool has this name, or it does not take these arguments. -/
def Refused (registered : List Tool) (s : ToolSettings) (c : ToolCall) : Prop :=
  ∀ tool, Tool.ofName? registered c.name = some tool → tool.Rejects s c.args

/-- What the tool does for a call. -/
def body (s : ToolSettings) (c : ToolCall) (tool : Tool) : Operation π (Result (List Part)) :=
  (Task.inSpan (.tool c.name c.ctx.id) (tool.run s c.ctx c.args)).run

/-- What is done after it. -/
def tell (c : ToolCall) : Result (List Part) → Operation π CallOutcome
  | .ok parts => .done (.ok (.ofParts parts))
  | .error e =>
    .ask (.log ⟨.warn, "tool call failed",
      [("tool", .string c.name), ("error", .string e.message)]⟩) fun _ ↦ .done e.outcome

theorem run_eq_bind (h : Tool.ofName? registered c.name = some tool) :
    (c.run registered s : Operation π CallOutcome) = (c.body s tool).bind c.tell := by
  unfold run call
  rw [h]
  change (c.body s tool).bind _ = _
  congr

theorem outcome_of_blameless {e : Failure} (h : Blameless (.error e : Result (List Part))) :
    e.outcome = .ok ⟨[.text e.message], true⟩ := by
  cases e with
  | invalidArgument _ => cases h _ rfl
  | _ => rfl

/-- Where the arguments are not at fault, a caller is told what the tool has come to. -/
theorem tell_path {A : (r : Request π) → r.Answer → Prop} {k k' : List Called}
    {r : Result (List Part)} (hr : Blameless r) {outcome : CallOutcome}
    (h : Operation.Path A k (c.tell r) k' (.done outcome)) :
    k' = k ∧ outcome = Tool.report r := by
  cases r with
  | ok parts =>
      cases h
      exact ⟨rfl, rfl⟩
  | error e =>
      cases h with
      | ask _ hdone =>
          cases hdone
          exact ⟨rfl, outcome_of_blameless hr⟩

theorem tell_alone {r : Result (List Part)} (hr : Blameless r) (queued : Nat) (w : World B)
    (k : Caller) : ((c.tell r).aloneAfter queued w k).1 = .returned (Tool.report r) := by
  cases r with
  | ok parts => rfl
  | error e => exact congrArg Outcome.returned (outcome_of_blameless hr)

/-! ## Calls that are refused -/

/-- A tool that rejects its arguments does nothing. -/
theorem body_of_rejects (h : tool.Rejects s c.args) : ∃ why,
    (c.body s tool : Operation π (Result (List Part))) =
      .ask (.enter (.tool c.name c.ctx.id)) fun _ ↦ .ask .leave fun _ ↦
        .done (.error (.invalidArgument why)) := by
  obtain ⟨why, hwhy⟩ := Tool.run_of_rejects (π := π) c.ctx h
  refine ⟨why, ?_⟩
  change Operation.ask _ (fun _ ↦ ((tool.run s c.ctx c.args).run.bind _).bind _) = _
  rw [hwhy]
  rfl

/-- To note something in a span leaves the caller and all but the log as they are. -/
theorem note_alone {α : Type} (span : Span) (entry : LogEntry) (a : α) (queued : Nat) (w : World B)
    (k : Caller) : ∃ w', (Operation.ask (.enter span) fun _ ↦ .ask .leave fun _ ↦
      .ask (.log entry) fun _ ↦ .done a : Operation B.Page α).aloneAfter queued w k =
        (.returned a, w', k) ∧ w'.scene = w.scene := by
  have hcaller : ({ k with spans := (k.spans ++ [span]).dropLast } : Caller) = k := by simp
  refine ⟨w.record k [entry], ?_, rfl⟩
  calc _ = (Outcome.returned a, w.record { k with spans := (k.spans ++ [span]).dropLast } [entry],
        ({ k with spans := (k.spans ++ [span]).dropLast } : Caller)) := rfl
    _ = _ := by rw [hcaller]

theorem run_of_refused (h : c.Refused registered s) : ∃ why,
    (c.run registered s : Operation π CallOutcome) = .done (.error (.invalidParams why)) ∨
      ∃ span entry, (c.run registered s : Operation π CallOutcome) =
        .ask (.enter span) fun _ ↦ .ask .leave fun _ ↦ .ask (.log entry) fun _ ↦
          .done (.error (.invalidParams why)) := by
  -- an unknown name is not even noted; a known one is, in the span of its tool
  cases hname : Tool.ofName? registered c.name with
  | none =>
      refine ⟨s!"Unknown tool '{c.name}'", .inl ?_⟩
      unfold run call
      rw [hname]
      rfl
  | some tool =>
      obtain ⟨why, hbody⟩ := body_of_rejects (π := π) (s := s) (h tool hname)
      have hrun := run_eq_bind (π := π) (s := s) hname
      rw [hbody] at hrun
      exact ⟨(Failure.invalidArgument why).message, .inr ⟨_, _, hrun⟩⟩

theorem only_notes_of_refused (h : c.Refused registered s) :
    (c.run registered s : Operation π CallOutcome).Only Request.isNote := by
  obtain ⟨why, hrun | ⟨span, entry, hrun⟩⟩ := run_of_refused (π := π) (s := s) h
  · exact hrun ▸ .done _
  · exact hrun ▸ .ask rfl fun _ ↦ .ask rfl fun _ ↦ .ask rfl fun _ ↦ .done _

theorem alone_of_refused (h : c.Refused registered s) (queued : Nat) (w : World B) (k : Caller) :
    ∃ e w', (c.run registered s).aloneAfter queued w k = (.returned (.error e), w', k) ∧
      w'.scene = w.scene := by
  obtain ⟨why, hrun | ⟨span, entry, hrun⟩⟩ := run_of_refused (π := B.Page) (s := s) h
  · exact ⟨_, w, by rw [hrun]; rfl, rfl⟩
  · rw [hrun]
    exact ⟨_, note_alone span entry _ queued w k⟩

theorem always_of_refused {A : (r : Request π) → r.Answer → Prop} (h : c.Refused registered s) :
    Operation.Always False A (· = []) (fun _ outcome ↦ ∃ e, outcome = .error e) []
      (c.run registered s : Operation π CallOutcome) := by
  obtain ⟨why, hrun | ⟨span, entry, hrun⟩⟩ := run_of_refused (π := π) (s := s) h
  · exact hrun ▸ .done rfl ⟨_, rfl⟩
  · exact hrun ▸ .ask rfl fun _ _ ↦ .ask rfl fun _ _ ↦ .ask rfl fun _ _ ↦ .done rfl ⟨_, rfl⟩

/-! ## Calls that are not -/

/-- A tool that takes the arguments does not find fault with them later. -/
theorem blameless_body (h : ¬ tool.Rejects s c.args) :
    Operation.Always (tool = .browser) Request.Blameless (fun _ ↦ True) (fun _ r ↦ Blameless r) []
      (c.body s tool : Operation π (Result (List Part))) :=
  (Tool.within_run (fun _ he ↦ he) c.ctx h).inSpan _ (fun _ _ _ _ _ ↦ trivial) [] trivial

/-- A call on the browser returns as long as the clock can hold the deadline. -/
theorem body_browser_returns {queued : Nat} {w : World B} (k : Caller)
    (hargs : ¬ Tool.browser.Rejects s c.args)
    (h : w.clock + s.browser.actionTimeoutSeconds.toNat * 1000 < horizon) :
    ∃ r, ((c.body s .browser).aloneAfter queued w k).1 = .returned r := by
  have hrun : Task.Meets queued (· = w.scene) (Tool.runBrowser s.browser c.ctx c.args)
      fun _ _ ↦ True := by
    cases haction : Action.ofDescriptor c.args with
    | error e => exact absurd (.noAction haction) hargs
    | ok a =>
        have hdispatch : Task.Meets queued (· = w.scene) (dispatch s.browser a c.ctx.cancel)
            fun _ _ ↦ True := Dispatch.dispatch_returns h
        simp only [Tool.runBrowser, haction]
        exact hdispatch.bind (fun o ↦ .pure _ fun _ _ ↦ trivial) fun _ _ _ ↦ trivial
  obtain ⟨r, w', k', hr, -⟩ := hrun.inSpan (.tool c.name c.ctx.id) w k rfl
  exact ⟨r, congrArg Prod.fst hr⟩

/-- What is done for a call ends as its tool does. -/
theorem run_alone (hB : B.Blameless) (hname : Tool.ofName? registered c.name = some tool)
    (hargs : ¬ tool.Rejects s c.args) (queued : Nat) (w : World B) {k : Caller}
    (hk : k.sampler.Blameless) :
    (∃ result, ((c.body s tool).aloneAfter queued w k).1 = .returned result ∧
      ((c.run registered s).aloneAfter queued w k).1 = .returned (Tool.report result)) ∨
    ∃ reason, ((c.body s tool).aloneAfter queued w k).1 = .crashed reason ∧
      ((c.run registered s).aloneAfter queued w k).1 = .crashed reason ∧ tool = .browser := by
  rw [run_eq_bind hname]
  rcases (blameless_body (s := s) hargs).alone (World.blameless_answer hB) queued w hk with
    ⟨result, _, hresult, hfair⟩ | ⟨reason, hreason, htool⟩
  · refine .inl ⟨result, hresult, ?_⟩
    rw [Operation.aloneAfter_bind (Prod.ext hresult rfl) c.tell, tell_alone hfair]
  · refine .inr ⟨reason, hreason, ?_, htool⟩
    rw [Operation.aloneAfter_bind_of_crash (Prod.ext hreason rfl) c.tell]

/-- What a call comes to that gets the lock, if it asks for it, `queued` milliseconds later. -/
structure Boundary (c : ToolCall) (registered : List Tool) (s : ToolSettings) (queued : Nat)
    (w : World B) (k : Caller) : Prop where
  /-- The calls that end with an error of the protocol are those that are refused. -/
  refused : (∃ e, ((c.run registered s).aloneAfter queued w k).1 = .returned (.error e)) ↔
    c.Refused registered s
  /-- They do not ask for the lock, for the page or for the model, and leave the session as it was,
  whoever has the lock and whether there is a page or not. -/
  untouched : c.Refused registered s →
    (c.run registered s : Operation B.Page CallOutcome).Only Request.isNote ∧
      ((c.run registered s).aloneAfter queued w k).2.1.scene = w.scene ∧
      ((c.run registered s).aloneAfter queued w k).2.2 = k
  /-- Any other call returns what its tool has come to: the blocks of its parts, or the text of its
  failure. -/
  told : ∀ tool, Tool.ofName? registered c.name = some tool → ¬ tool.Rejects s c.args →
    ∀ result, ((c.body s tool).aloneAfter queued w k).1 = .returned result →
      ((c.run registered s).aloneAfter queued w k).1 = .returned (Tool.report result)
  /-- The tool does come to something, unless it is to dispatch an action with a deadline that the
  clock cannot hold. -/
  returns : ∀ tool, Tool.ofName? registered c.name = some tool → ¬ tool.Rejects s c.args →
    (∃ result, ((c.body s tool).aloneAfter queued w k).1 = .returned result) ∨
      tool = .browser ∧ horizon ≤ w.clock + s.browser.actionTimeoutSeconds.toNat * 1000

theorem boundary (c : ToolCall) (hB : B.Blameless) (registered : List Tool) (s : ToolSettings)
    (queued : Nat) (w : World B) {k : Caller} (hk : k.sampler.Blameless) :
    Boundary c registered s queued w k where
  refused := by
    refine ⟨fun ⟨e, he⟩ tool hname ↦ Classical.byContradiction fun hargs ↦ ?_, fun hrefused ↦ ?_⟩
    · -- whatever a tool that takes its arguments comes to, it is not told as such an error
      rcases run_alone hB hname hargs queued w hk with ⟨result, -, hrun⟩ | ⟨_, -, hrun, -⟩
      · rw [hrun] at he
        cases result <;> cases he
      · rw [hrun] at he
        cases he
    · obtain ⟨e, w', hrun, -⟩ := alone_of_refused (s := s) hrefused queued w k
      exact ⟨e, congrArg Prod.fst hrun⟩
  untouched hrefused := by
    obtain ⟨e, w', hrun, hscene⟩ := alone_of_refused (s := s) hrefused queued w k
    rw [hrun]
    exact ⟨only_notes_of_refused hrefused, hscene, rfl⟩
  told tool hname hargs result hresult := by
    rcases run_alone hB hname hargs queued w hk with ⟨result', hresult', hrun⟩ | ⟨_, hcrash, -⟩
    · obtain rfl := Outcome.returned.inj (hresult'.symm.trans hresult)
      exact hrun
    · rw [hcrash] at hresult
      cases hresult
  returns tool hname hargs := by
    rcases run_alone hB hname hargs queued w hk with ⟨result, hresult, -⟩ | ⟨_, -, -, rfl⟩
    · exact .inl ⟨result, hresult⟩
    · rcases Nat.lt_or_ge (w.clock + s.browser.actionTimeoutSeconds.toNat * 1000) horizon with
        hfit | hover
      · exact .inl (body_browser_returns k hargs hfit)
      · exact .inr ⟨rfl, hover⟩

/-! ## In company -/

theorem exists_tool (h : ¬ c.Refused registered s) :
    ∃ tool, Tool.ofName? registered c.name = some tool ∧ ¬ tool.Rejects s c.args := by
  simp only [Refused, Classical.not_forall] at h
  obtain ⟨tool, hname, hargs⟩ := h
  exact ⟨tool, hname, hargs⟩

theorem always_tell {X : Prop} {A : (r : Request π) → r.Answer → Prop} {J : List Called → Prop}
    {R : List Called → CallOutcome → Prop} {k : List Called} {r : Result (List Part)} (hk : J k)
    (hok : ∀ parts, r = .ok parts → R k (.ok (.ofParts parts)))
    (herror : ∀ e, r = .error e → R k e.outcome) :
    Operation.Always X A J R k (c.tell r : Operation π CallOutcome) := by
  cases r with
  | ok parts => exact .done hk (hok parts rfl)
  | error e => exact .ask hk fun _ _ ↦ .done hk (herror e rfl)

/-- Only the tool that dispatches actions can crash. -/
theorem always_run (hname : Tool.ofName? registered c.name = some tool)
    (hargs : ¬ tool.Rejects s c.args) :
    Operation.Always (tool = .browser) Request.Blameless (fun _ ↦ True) (fun _ _ ↦ True) []
      (c.run registered s : Operation π CallOutcome) := by
  rw [run_eq_bind hname]
  exact (blameless_body hargs).bind fun k r hk _ ↦
    always_tell hk (fun _ _ ↦ trivial) fun _ _ ↦ trivial

theorem told_of_path {millis : Nat} {calls : List Called} {outcome : CallOutcome}
    (hname : Tool.ofName? registered c.name = some tool) (hargs : ¬ tool.Rejects s c.args)
    (h : Operation.Path Request.Blameless []
      (c.operation registered s millis : Operation π CallOutcome) calls (.done outcome)) :
    ∃ result, Operation.Path Request.Blameless []
      (c.body s tool : Operation π (Result (List Part))) calls (.done result) ∧
        outcome = Tool.report result := by
  cases h with
  | ask _ hrun =>
      change Operation.Path _ _ (c.run registered s) _ _ at hrun
      rw [run_eq_bind hname] at hrun
      obtain ⟨k, result, hbody, htell⟩ := hrun.of_bind
      have hfair : Blameless result := ((blameless_body hargs).path hbody).of_done
      obtain ⟨rfl, houtcome⟩ := tell_path hfair htell
      exact ⟨result, hbody, houtcome⟩

end ToolCall

variable {B : Backend} {registered : List Tool} {s : ToolSettings}

namespace Service

variable {S : Service B}

/-- What has become of all the calls that have come. -/
structure Answered (registered : List Tool) (s : ToolSettings) (S : Service B) : Prop where
  /-- The calls that have ended with an error of the protocol are those that are refused. -/
  refused : ∀ (i : Nat) c outcome, S.jobs[i]? = some ⟨c, .done outcome⟩ →
    ((∃ e, outcome = .error e) ↔ c.Refused registered s)
  /-- None of the calls on the page has been made for them, however far they have come. -/
  untouched : ∀ (i : Nat) c q, S.jobs[i]? = some ⟨c, q⟩ → c.Refused registered s → S.callsOf i = []
  /-- Any other call has ended with what its tool has come to. -/
  told : ∀ (i : Nat) c outcome, S.jobs[i]? = some ⟨c, .done outcome⟩ →
    ∀ tool, Tool.ofName? registered c.name = some tool → ¬ tool.Rejects s c.args →
      ∃ result, Operation.Path (π := B.Page) Request.Blameless [] (c.body s tool) (S.callsOf i)
        (.done result) ∧ outcome = Tool.report result
  /-- Only the tool that dispatches actions has crashed. -/
  crashed : ∀ (i : Nat) c reason, S.jobs[i]? = some ⟨c, .crash reason⟩ →
    Tool.ofName? registered c.name = some .browser ∧ ¬ c.Refused registered s

theorem Follows.answered (hS : Follows registered s Request.Blameless S) :
    Answered registered s S where
  refused i c outcome hi := by
    refine ⟨fun ⟨e, he⟩ tool hname ↦ Classical.byContradiction fun hargs ↦ ?_, fun hrefused ↦ ?_⟩
    · obtain ⟨millis, hpath⟩ := hS.path i c _ hi
      obtain ⟨result, -, houtcome⟩ := ToolCall.told_of_path hname hargs hpath
      rw [he] at houtcome
      cases result <;> cases houtcome
    · exact (hS.always (ToolCall.always_of_refused hrefused) hi).of_done
  untouched i c q hi hrefused := (hS.always (ToolCall.always_of_refused hrefused) hi).holds
  told i c outcome hi tool hname hargs := by
    obtain ⟨millis, hpath⟩ := hS.path i c _ hi
    exact ToolCall.told_of_path hname hargs hpath
  crashed i c reason hi := by
    have hnot : ¬ c.Refused registered s := fun hrefused ↦
      (hS.always (ToolCall.always_of_refused hrefused) hi).of_crash
    obtain ⟨tool, hname, hargs⟩ := ToolCall.exists_tool hnot
    obtain rfl := (hS.always (ToolCall.always_run hname hargs) hi).of_crash
    exact ⟨hname, hnot⟩

end Service

/-- A session without a page. -/
def vacantWorld : World chromeBackend := { env := {} }

/-- Who calls a tool there, with a model that always answers the same. -/
def contentCaller : Caller := { sampler := fun _ ↦ (0, .ok "yes") }

/-- A call that asks for a screenshot. -/
def hopefulCall : ToolCall := ⟨"screenshot", ⟨"1", .never, true⟩, .object []⟩

end BrowserPilot
