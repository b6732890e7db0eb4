import BrowserPilot.Proofs.Dispatch.Cancelled
import BrowserPilot.Proofs.Dispatch.Trace
import BrowserPilot.Proofs.Tool.Boundary

namespace BrowserPilot

/-!
# What tools do to the page

Of what a caller writes, only an address that has been read and the whole numbers of a scroll
get to the page as an address or a script. Tools that look at the page take one picture of the
viewport, and the tools that have nothing to do with it leave it alone.
-/

open Operation (Always)

namespace Url

/-- Addresses of the secure scheme are written with it. -/
def Reader.WritesScheme (reader : Reader) : Prop :=
  ∀ raw url, reader.parse raw = .ok url → url.scheme = "https" →
    ∃ rest, url.text = "https://" ++ rest

/-- An address that is refused for its scheme is not of the secure one. -/
theorem ne_secureScheme {raw scheme : String}
    (h : SecureUrl.read raw = .error (.otherScheme scheme)) : scheme ≠ secureScheme := by
  unfold SecureUrl.read at h
  split at h
  · cases h
  · rename_i scheme' rest _
    split at h
    · simp only [readNamed] at h
      split at h
      · cases h
      · split at h
        · cases h
        · rename_i hne
          cases h
          exact hne
    · -- the secure scheme is among those that know names of hosts, so this one is another
      rename_i hlookup
      have hrefused : scheme' = scheme := by
        unfold refuse at h
        split at h
        · cases h
        · cases h
          rfl
      subst hrefused
      rintro rfl
      cases hlookup

theorem parse_writesScheme : Reader.WritesScheme ⟨parse⟩ := by
  intro raw url hparse hscheme
  change parse raw = .ok url at hparse
  unfold parse at hparse
  split at hparse
  · obtain rfl := Except.ok.inj hparse
    exact ⟨_, String.append_assoc ..⟩
  · rename_i hread
    obtain rfl := Except.ok.inj hparse
    exact absurd hscheme (ne_secureScheme hread)
  · cases hparse

end Url

theorem Action.evaluate_of_mem_plan {a : Action} {script : String}
    (h : .evaluate script ∈ a.plan) : ∃ x y dx dy, a = .scroll x y dx dy ∧
      script = s!"window.scrollBy({dx.toInt}, {dy.toInt})" := by
  cases a with
  | scroll x y dx dy =>
      simp only [plan, List.mem_cons, reduceCtorEq, Primitive.evaluate.injEq, List.not_mem_nil,
        or_false, false_or] at h
      exact ⟨x, y, dx, dy, rfl, h⟩
  | drag path => cases path <;> simp [plan] at h
  | _ => simp [plan] at h

/-! ## One picture -/

variable {π : Type} {X : Prop} {A : (r : Request π) → r.Answer → Prop}

/-- At most one primitive has been applied. -/
def Brief (calls : List Called) : Prop := calls.length ≤ 1

theorem Session.always_capture :
    Always X A Brief (fun _ _ ↦ True) [] (capture : Task π Observation).run := by
  have hshot : Always X A Brief (fun _ _ ↦ True) []
      (Task.primitive (.screenshot false) none : Task π (List UInt8)).run :=
    .ask (Nat.zero_le 1) fun reply _ ↦ .done (Nat.le_refl 1) trivial
  have hobserve : Always X A Brief (fun _ _ ↦ True) [] (observe none : Task π Observation).run :=
    Task.always_bind hshot
      (fun k _ hk _ ↦ Task.always_lift_bind hk (fun _ ↦ rfl) fun _ ↦ .done hk trivial)
      fun _ _ _ ↦ trivial
  exact Task.always_withPage hobserve (fun _ _ ↦ trivial) trivial

/-! ## Opening an address -/

/-- The address has been opened and the result is `a`, or no address has and it is a failure. -/
def Opened {α : Type} (url : String) (a : α) (calls : List Called) (r : Result α) : Prop :=
  (calls = [⟨.goto url, .ok ()⟩] ∧ r = .ok a) ∨
    (∃ e, r = .error e) ∧ ∀ url, ⟨.goto url, .ok ()⟩ ∉ calls

theorem opened_of_error {α : Type} (url : String) (a : α) (e : Failure) :
    Opened url a [] (.error e) :=
  .inr ⟨⟨e, rfl⟩, nofun⟩

theorem Session.always_navigate (url : String) :
    Always X A Brief (Opened url ()) [] (navigate url : Task π Unit).run := by
  have hgoto : Always X A Brief (Opened url ()) []
      (Task.primitive (.goto url) none : Task π Unit).run := by
    refine .ask (Nat.zero_le 1) fun reply _ ↦ .done (Nat.le_refl 1) ?_
    cases reply with
    | ok _ => exact .inl ⟨rfl, rfl⟩
    | error e =>
        refine .inr ⟨⟨e, rfl⟩, fun url hmem ↦ ?_⟩
        obtain ⟨hurl, hreply⟩ := Called.mk.inj (List.mem_singleton.1 hmem)
        obtain rfl := Primitive.goto.inj hurl
        cases eq_of_heq hreply
  exact Task.always_withPage hgoto (fun e _ ↦ opened_of_error url () e)
    (opened_of_error url () .notStarted)

namespace Tool

/-- What the caller is told of an address that has been opened. -/
def echo (url : String) : List Part := [.text s!"Opened URL: {url}"]

/-- Opens an address that has been read. -/
def opening (url : String) : Task π (List Part) := do
  Session.navigate url
  Task.log .info "opened url" [("url", .string url)]
  return echo url

theorem runOpenUrl_of_ok {parse : String → Except String Url.Address} {args : Json} {url : String}
    (h : urlArgument parse args = .ok url) :
    (runOpenUrl parse args : Task π (List Part)) = opening url := by
  unfold runOpenUrl
  rw [h]
  rfl

theorem always_opening (url : String) :
    Always X A Brief (Opened url (echo url)) [] (opening url : Task π (List Part)).run := by
  refine Task.always_bind (Session.always_navigate url) (fun calls _ hcalls hopened ↦ ?_)
    fun calls e hopened ↦ ?_
  · refine Task.always_lift_bind hcalls (fun _ ↦ rfl) fun _ ↦ .done hcalls ?_
    rcases hopened with ⟨rfl, -⟩ | ⟨⟨e, he⟩, -⟩
    · exact .inl ⟨rfl, rfl⟩
    · cases he
  · rcases hopened with ⟨-, he⟩ | ⟨-, hnone⟩
    · cases he
    · exact .inr ⟨⟨e, rfl⟩, hnone⟩

theorem always_runOpenUrl (parse : String → Except String Url.Address) (args : Json) :
    Always X A Brief (fun calls r ↦ ∃ url, Opened url (echo url) calls r) []
      (runOpenUrl parse args : Task π (List Part)).run := by
  cases hurl : urlArgument parse args with
  | error e =>
      unfold runOpenUrl
      rw [hurl]
      exact .done (Nat.zero_le 1) ⟨"", opened_of_error _ _ e⟩
  | ok url =>
      rw [runOpenUrl_of_ok hurl]
      exact (always_opening url).mono id (fun _ ↦ id) fun _ _ _ hopened ↦ ⟨url, hopened⟩

theorem always_runBrowserAgent (ctx : CallContext) (args : Json) :
    Always X A Brief (fun _ _ ↦ True) [] (runBrowserAgent ctx args : Task π (List Part)).run := by
  have hcapture (answer : String) : Always X A Brief (fun _ _ ↦ True) []
      (do let o ← Session.capture
          return [.text (Text.trim answer), o.part] : Task π (List Part)).run :=
    Task.always_bind Session.always_capture (fun _ _ hk _ ↦ .done hk trivial) fun _ _ _ ↦ trivial
  unfold runBrowserAgent
  cases textArgument "prompt" args with
  | error e => exact .done (Nat.zero_le 1) trivial
  | ok prompt =>
      change Always _ _ _ _ _ (needSampling ctx >>= _).run
      unfold needSampling
      split
      · refine .ask (Nat.zero_le 1) fun reply _ ↦ ?_
        cases reply with
        | ok answer => exact hcapture answer
        | error e => exact .done (Nat.zero_le 1) trivial
      · exact .done (Nat.zero_le 1) trivial

/-! ## What reaches the page -/

variable {s : ToolSettings} {args : Json} {tool : Tool}

theorem writesScheme_of_urlArgument (hurls : s.urls.WritesScheme) {url : String}
    (h : urlArgument s.urls.parse args = .ok url) : ∃ rest, url = "https://" ++ rest := by
  simp only [urlArgument, bind, Except.bind] at h
  split at h
  · cases h
  · split at h
    · cases h
    · rename_i hparse
      split at h
      · rename_i hscheme
        obtain rfl := Except.ok.inj h
        exact hurls _ _ hparse hscheme
      · cases h

theorem touches_cases {p : Primitive} (h : tool.Touches s args p) :
    (tool = openUrl ∧ ∃ url, urlArgument s.urls.parse args = .ok url ∧ p = .goto url) ∨
    (tool = browser ∧ ∃ a, Action.ofDescriptor args = .ok a ∧ p ∈ a.plan) ∨
    p = .releaseAll ∨ p = .screenshot false := by
  cases tool with
  | openUrl => exact .inl ⟨rfl, h⟩
  | browser =>
      obtain ⟨a, haction, hmem | hp⟩ := h
      · exact .inr (.inl ⟨rfl, a, haction, hmem⟩)
      · exact .inr (.inr hp)
  | browserAgent | screenshot => exact .inr (.inr (.inr h))
  | research | dateTime => cases h

theorem goto_of_touches {url : String} (h : tool.Touches s args (.goto url)) :
    tool = openUrl ∧ urlArgument s.urls.parse args = .ok url := by
  rcases touches_cases h with ⟨rfl, _, hurl, heq⟩ | ⟨-, a, -, hmem⟩ | heq | heq
  · obtain rfl := Primitive.goto.inj heq
    exact ⟨rfl, hurl⟩
  · cases Action.isInput_of_mem_plan hmem
  · cases heq
  · cases heq

theorem evaluate_of_touches {script : String} (h : tool.Touches s args (.evaluate script)) :
    tool = browser ∧ ∃ x y dx dy : Int64, Action.ofDescriptor args = .ok (.scroll x y dx dy) ∧
      script = s!"window.scrollBy({dx.toInt}, {dy.toInt})" := by
  rcases touches_cases h with ⟨-, _, -, heq⟩ | ⟨rfl, a, haction, hmem⟩ | heq | heq
  · cases heq
  · obtain ⟨x, y, dx, dy, rfl, hscript⟩ := Action.evaluate_of_mem_plan hmem
    exact ⟨rfl, x, y, dx, dy, haction, hscript⟩
  · cases heq
  · cases heq

theorem screenshot_of_touches {full : Bool} (h : tool.Touches s args (.screenshot full)) :
    full = false := by
  rcases touches_cases h with ⟨-, _, -, heq⟩ | ⟨-, a, -, hmem⟩ | heq | heq
  · cases heq
  · cases Action.isInput_of_mem_plan hmem
  · cases heq
  · exact Primitive.screenshot.inj heq

end Tool

/-! ## Calls -/

namespace ToolCall

variable {registered : List Tool} {s : ToolSettings} {c : ToolCall} {tool : Tool}

/-- What may be done to the page for a call. -/
def Touches (registered : List Tool) (s : ToolSettings) (c : ToolCall) (p : Primitive) : Prop :=
  ∃ tool, Tool.ofName? registered c.name = some tool ∧ tool.Touches s c.args p

theorem always_touches : Always True (Request.Fair fun _ ↦ True)
    (fun calls ↦ ∀ called ∈ calls, c.Touches registered s called.primitive) (fun _ _ ↦ True) []
    (c.run registered s : Operation π CallOutcome) := by
  rcases Classical.em (c.Refused registered s) with hrefused | hrefused
  · refine (always_of_refused hrefused).mono (fun _ ↦ trivial) ?_ fun _ _ _ _ ↦ trivial
    rintro _ rfl called hmem
    exact absurd hmem List.not_mem_nil
  · -- what the tool does is told by its arguments, and what is told afterwards is only logged
    obtain ⟨tool, hname, hargs⟩ := exists_tool hrefused
    have hbody : Always (tool = .browser) (Request.Fair fun _ ↦ True)
        (fun calls ↦ ∀ called ∈ calls, c.Touches registered s called.primitive)
        (fun _ r ↦ FailsOnly (fun _ ↦ True) r) []
        (c.body s tool : Operation π (Result (List Part))) := by
      have hnone : ∀ called ∈ ([] : List Called), c.Touches registered s called.primitive :=
        fun _ hmem ↦ absurd hmem List.not_mem_nil
      refine (Tool.within_run (fun _ _ ↦ trivial) c.ctx hargs).inSpan _ ?_ [] hnone
      intro k p reply hp hk called hmem
      rcases List.mem_append.1 hmem with hmem | hmem
      · exact hk called hmem
      · obtain rfl := List.mem_singleton.1 hmem
        exact ⟨tool, hname, hp⟩
    rw [run_eq_bind hname]
    refine (hbody.mono (fun _ ↦ trivial) (fun _ ↦ id) fun _ _ _ ↦ id).bind fun _ _ hk _ ↦ ?_
    exact always_tell hk (fun _ _ ↦ trivial) fun _ _ ↦ trivial

/-- The tools that look at the page make at most one call on it. -/
theorem always_brief {A : (r : Request π) → r.Answer → Prop}
    (hname : Tool.ofName? registered c.name = some tool)
    (htool : tool = .screenshot ∨ tool = .browserAgent) :
    Always True A Brief (fun _ _ ↦ True) [] (c.run registered s : Operation π CallOutcome) := by
  have hrun : Always True A Brief (fun _ _ ↦ True) []
      (tool.run s c.ctx c.args : Task π (List Part)).run := by
    rcases htool with rfl | rfl
    · exact Task.always_bind Session.always_capture (fun _ _ hk _ ↦ .done hk trivial)
        fun _ _ _ ↦ trivial
    · exact Tool.always_runBrowserAgent c.ctx c.args
  rw [run_eq_bind hname]
  exact (Task.always_inSpan hrun).bind fun _ _ hk _ ↦
    always_tell hk (fun _ _ ↦ trivial) fun _ _ ↦ trivial

/-- The address has been opened and the caller is told so, or no address has and the caller is told
of a failure. -/
def Echoed (calls : List Called) (outcome : CallOutcome) : Prop :=
  (∃ url, calls = [⟨.goto url, .ok ()⟩] ∧
    outcome = .ok ⟨[.text s!"Opened URL: {url}"], false⟩) ∨
  (∀ result, outcome = .ok result → result.isError = true) ∧
    ∀ url, ⟨.goto url, .ok ()⟩ ∉ calls

theorem always_echoed {A : (r : Request π) → r.Answer → Prop}
    (hname : Tool.ofName? registered c.name = some .openUrl) :
    Always True A Brief Echoed [] (c.run registered s : Operation π CallOutcome) := by
  rw [run_eq_bind hname]
  refine (Task.always_inSpan (Tool.always_runOpenUrl s.urls.parse c.args)).bind
    fun calls r hk ⟨url, hopened⟩ ↦ always_tell hk (fun parts hparts ↦ ?_) fun e he ↦ ?_
  · subst hparts
    rcases hopened with ⟨hcalls, hparts⟩ | ⟨⟨e, he⟩, -⟩
    · obtain rfl := Except.ok.inj hparts
      exact .inl ⟨url, hcalls, rfl⟩
    · cases he
  · subst he
    rcases hopened with ⟨-, he⟩ | ⟨-, hnone⟩
    · cases he
    · refine .inr ⟨fun result hresult ↦ ?_, hnone⟩
      cases e <;> cases hresult <;> rfl

end ToolCall

namespace Service

variable {B : Backend} {registered : List Tool} {s : ToolSettings} {S : Service B}

/-- What all calls together have done to the page. -/
structure Confined (registered : List Tool) (s : ToolSettings) (S : Service B) : Prop where
  /-- Whoever sends the page to an address is the tool that opens addresses, and the address is the
  one that has been read, which is of the secure scheme. -/
  goto : ∀ (i : Nat) url r, (i, ⟨.goto url, r⟩) ∈ S.calls → ∃ c q, S.jobs[i]? = some ⟨c, q⟩ ∧
    Tool.ofName? registered c.name = some .openUrl ∧
      Tool.urlArgument s.urls.parse c.args = .ok url ∧ ∃ rest, url = "https://" ++ rest
  /-- That tool succeeds if and only if the page has gone there, and then tells the address. -/
  opened : ∀ (i : Nat) c outcome, S.jobs[i]? = some ⟨c, .done outcome⟩ →
    Tool.ofName? registered c.name = some .openUrl → ToolCall.Echoed (S.callsOf i) outcome
  /-- Every script scrolls by the whole numbers of an action. -/
  evaluate : ∀ (i : Nat) script r, (i, ⟨.evaluate script, r⟩) ∈ S.calls →
    ∃ c q, S.jobs[i]? = some ⟨c, q⟩ ∧ Tool.ofName? registered c.name = some .browser ∧
      ∃ x y dx dy : Int64, Action.ofDescriptor c.args = .ok (.scroll x y dx dy) ∧
        script = s!"window.scrollBy({dx.toInt}, {dy.toInt})"
  /-- The tools that look at the page take at most one picture. -/
  looks : ∀ (i : Nat) c q, S.jobs[i]? = some ⟨c, q⟩ →
    Tool.ofName? registered c.name = some .screenshot ∨
      Tool.ofName? registered c.name = some .browserAgent →
    S.callsOf i = [] ∨ ∃ r, S.callsOf i = [⟨.screenshot false, r⟩]
  /-- The tools that have nothing to do with the page leave it alone. -/
  still : ∀ (i : Nat) c q, S.jobs[i]? = some ⟨c, q⟩ →
    Tool.ofName? registered c.name = some .research ∨
      Tool.ofName? registered c.name = some .dateTime → S.callsOf i = []
  /-- No picture is of the full page. -/
  viewport : ∀ (i : Nat) full r, (i, ⟨.screenshot full, r⟩) ∈ S.calls → full = false

/-- Whatever is done to the page is done for a call that may do so. -/
theorem Follows.touches (hS : Follows registered s (Request.Fair fun _ ↦ True) S) {i : Nat}
    {called : Called} (h : (i, called) ∈ S.calls) :
    ∃ c q, S.jobs[i]? = some ⟨c, q⟩ ∧ c.Touches registered s called.primitive := by
  obtain ⟨c, q, hi⟩ := hS.exists_job h
  exact ⟨c, q, hi, (hS.always ToolCall.always_touches hi).holds called (mem_calls_iff.1 h)⟩

theorem Follows.forall_touches (hS : Follows registered s (Request.Fair fun _ ↦ True) S) {i : Nat}
    {c : ToolCall} {q : Operation B.Page CallOutcome} {tool : Tool}
    (hi : S.jobs[i]? = some ⟨c, q⟩) (hname : Tool.ofName? registered c.name = some tool) :
    ∀ called ∈ S.callsOf i, tool.Touches s c.args called.primitive := by
  intro called hmem
  obtain ⟨tool', hname', ht⟩ := (hS.always ToolCall.always_touches hi).holds called hmem
  obtain rfl := Option.some.inj (hname'.symm.trans hname)
  exact ht

theorem Follows.confined (hS : Follows registered s (Request.Fair fun _ ↦ True) S)
    (hurls : s.urls.WritesScheme) : Confined registered s S where
  goto i url r h := by
    obtain ⟨c, q, hi, tool, hname, ht⟩ := hS.touches h
    obtain ⟨rfl, hurl⟩ := Tool.goto_of_touches ht
    exact ⟨c, q, hi, hname, hurl, Tool.writesScheme_of_urlArgument hurls hurl⟩
  opened i c outcome hi hname := (hS.always (ToolCall.always_echoed hname) hi).of_done
  evaluate i script r h := by
    obtain ⟨c, q, hi, tool, hname, ht⟩ := hS.touches h
    obtain ⟨rfl, hscript⟩ := Tool.evaluate_of_touches ht
    exact ⟨c, q, hi, hname, hscript⟩
  looks i c q hi htool := by
    obtain ⟨tool, hname, htool⟩ : ∃ tool, Tool.ofName? registered c.name = some tool ∧
        (tool = .screenshot ∨ tool = .browserAgent) := by
      rcases htool with hname | hname
      · exact ⟨_, hname, .inl rfl⟩
      · exact ⟨_, hname, .inr rfl⟩
    have hbrief : Brief (S.callsOf i) := (hS.always (ToolCall.always_brief hname htool) hi).holds
    have hshot : ∀ called ∈ S.callsOf i, called.primitive = .screenshot false := by
      intro called hmem
      have ht := hS.forall_touches hi hname called hmem
      rcases htool with rfl | rfl <;> exact ht
    match hcalls : S.callsOf i with
    | [] => exact .inl rfl
    | [⟨p, r⟩] =>
        obtain rfl := hshot _ (hcalls ▸ List.mem_cons_self)
        exact .inr ⟨r, rfl⟩
    | _ :: _ :: _ => simp [Brief, hcalls] at hbrief
  still i c q hi htool := by
    refine List.eq_nil_iff_forall_not_mem.2 fun called hmem ↦ ?_
    rcases htool with hname | hname <;> exact hS.forall_touches hi hname called hmem
  viewport i full r h := by
    obtain ⟨c, q, hi, tool, hname, ht⟩ := hS.touches h
    exact Tool.screenshot_of_touches ht

end Service

/-- Whatever calls of tools come, with whatever arguments, models and failures, they do no more to
the page than they may, as long as addresses of the secure scheme are written with it. Calls side
by side are among what can come. -/
theorem page_is_confined {B : Backend} (registered : List Tool) (s : ToolSettings)
    (hurls : s.urls.WritesScheme) (w : World B) :
    (∀ S, Service.Reachable registered s (fun _ ↦ True) w S → S.Confined registered s) ∧
    ∀ bookings : List Booking, ∃ S, Service.Reachable registered s (fun _ ↦ True) w S ∧
      S.jobs.map Job.call = bookings.map Booking.call ∧
        S.Mirrors (Booking.pool registered s w bookings) := by
  refine ⟨fun S hS ↦ ?_, fun bookings ↦ Booking.pool_mirrored bookings fun _ _ ↦ trivial⟩
  exact (hS.follows fun w k ending r _ ↦ Request.fair_true _).confined hurls

/-- A call that opens an address. -/
def modestCall : ToolCall :=
  ⟨"open_url", ⟨"1", .never, false⟩, .object [("url", .string " HTTPS://[::1]:443 ")]⟩

theorem modestCall_operation :
    (modestCall.operation Tool.all { browser := {} } 0 : Operation π CallOutcome) =
      .ask (.pause 0 .never none) fun _ ↦
        (Task.inSpan (.tool "open_url" "1") (Tool.opening "https://[::1]/")).run.bind
          modestCall.tell := by
  have hurl : Tool.urlArgument Url.parse modestCall.args = .ok "https://[::1]/" := by rfl
  have hbody : (modestCall.body { browser := {} } .openUrl : Operation π (Result (List Part))) =
      (Task.inSpan (.tool "open_url" "1") (Tool.opening "https://[::1]/")).run := by
    rw [← Tool.runOpenUrl_of_ok hurl]
    rfl
  unfold ToolCall.operation
  rw [ToolCall.run_eq_bind rfl, hbody]

theorem modestCall_confined : Url.Reader.WritesScheme ⟨Url.parse⟩ ∧
    ∃ S, Service.Reachable Tool.all { browser := {} } (fun _ ↦ True) Dispatch.willingWorld S ∧
      S.jobs[0]? = some ⟨modestCall, .done (.ok ⟨[.text "Opened URL: https://[::1]/"], false⟩)⟩ ∧
      S.Confined Tool.all { browser := {} } := by
  have hcomes : Service.Reachable Tool.all { browser := {} } (fun _ ↦ True) Dispatch.willingWorld
      { world := Dispatch.willingWorld
        jobs := [⟨modestCall, modestCall.operation Tool.all { browser := {} } 0⟩] } :=
    Service.Reachable.start.step (.comes 0 modestCall)
  obtain ⟨S, hS, -, hjobs, -⟩ := Service.reachable_run _ hcomes (i := 0) rfl
    { world := Dispatch.willingWorld } rfl { sampler := fun _ ↦ (0, .ok "") } trivial
  have hall := page_is_confined Tool.all { browser := {} } Url.parse_writesScheme
    Dispatch.willingWorld
  refine ⟨Url.parse_writesScheme, S, hS, ?_, hall.1 S hS⟩
  rw [hjobs, modestCall_operation]
  rfl

end BrowserPilot
