import BrowserPilot.Proofs.Dispatch.Held
import BrowserPilot.Proofs.Page.Pressed

namespace BrowserPilot

/-!
# What a failed dispatch leaves pressed in the browser
-/

/-- The strokes of a whole plan. -/
def Action.strokes (a : Action) : List Stroke := a.plan.flatMap Stroke.ofPrimitive

theorem Action.strokes_keypress (keys : List String) :
    (Action.keypress keys).strokes = Stroke.chord (keys.map Key.native) := by
  simp [strokes, plan, Stroke.chord, List.flatMap_append, List.flatMap_map, ← List.map_reverse,
    Stroke.ofPrimitive, ← List.map_eq_flatMap, Function.comp_def]

/-- The strokes of a plan leave nothing held. -/
theorem Action.turns_strokes (a : Action) (x : Holdable) :
    Stroke.turns x false a.strokes = false := by
  cases a with
  | click px py b => by_cases hb : .button b = x <;> simp [strokes, plan, Stroke.ofPrimitive,
      Stroke.turns, Stroke.edge?, Holdable.turn, hb]
  | doubleClick px py => by_cases hb : .button .left = x <;> simp [strokes, plan,
      Stroke.ofPrimitive, Stroke.turns, Stroke.edge?, Holdable.turn, hb]
  | drag path =>
      cases path with
      | nil => rfl
      | cons q path =>
          have hstrokes : (Action.drag (q :: path)).strokes = [.move q.x q.y, .press .left 1] ++
              path.map (fun q ↦ .move q.x q.y) ++ [.release .left 1] := by
            simp [strokes, plan, Stroke.ofPrimitive, List.flatMap_map, ← List.map_eq_flatMap]
          rw [hstrokes, Stroke.turns_append, Stroke.turns_append, Stroke.turns_moves]
          by_cases hb : .button .left = x <;> simp [Stroke.turns, Stroke.edge?, Holdable.turn, hb]
  | keypress keys =>
      rw [strokes_keypress, Stroke.turns_chord]
  | type text =>
      have hstrokes : (Action.type text).strokes = text.toList.flatMap Stroke.ofChar :=
        List.flatMap_singleton _ _
      rw [hstrokes, Stroke.turns_type]
  | _ => rfl

namespace Dispatch

open ChromePage

/-- What a failed dispatch sent: the commands `performed` up to the first that was refused, and
the commands `released` that let everything go. If these were all accepted, a thing stays pressed
exactly if what was refused is to let it go while the browser holds it. -/
structure Aftermath (log performed released : List Sent) : Prop where
  refusedLast : ∀ (before rest : List Sent) (s : Sent), performed = before ++ s :: rest →
    s.failed = true → rest = []
  letGo : released = [] ∨
    ∃ chrome page, released = (ChromePage.apply .releaseAll chrome page).events
  pressed : (∀ s ∈ released, s.failed = false) → ∀ x : Holdable,
    x.isPressed (log ++ performed ++ released) = true ↔
      ∃ before c, performed = before ++ [⟨c, true⟩] ∧ c.edge? = some (x, false) ∧
        x.isPressed (log ++ before) = true

variable {log performed released : List Sent} {h : Hands}

/-- After accepted commands only the very last can have been refused. -/
theorem eq_nil_of_refused {before pre rest : List Sent} {s last : Sent}
    (hbefore : ∀ s ∈ before, s.failed = false) (hsplit : before ++ [last] = pre ++ s :: rest)
    (hfailed : s.failed = true) : rest = [] := by
  rcases List.eq_nil_or_concat rest with rfl | ⟨rest, s', rfl⟩
  · rfl
  · have hsplit' : before ++ [last] = (pre ++ s :: rest) ++ [s'] := by simpa using hsplit
    have hmem : s ∈ before := by simp [(List.append_inj' hsplit' rfl).1]
    rw [hbefore s hmem] at hfailed
    cases hfailed

/-- After a refused command everything that the page remembers is let go. -/
theorem Aftermath.of_slips {chrome : Chrome} {page : ChromePage}
    (hslips : Slips log page.hands performed) :
    Aftermath log performed (ChromePage.apply .releaseAll chrome page).events := by
  obtain ⟨before, c, rfl, hbefore, hhas⟩ := hslips
  refine ⟨fun _ _ _ ↦ eq_nil_of_refused hbefore, .inr ⟨_, _, rfl⟩, fun hreleased x ↦ ?_⟩
  rw [isPressed_releaseAll x hreleased, ← List.append_assoc, Holdable.isPressed_refused, hhas x]
  constructor
  · intro hpressed
    obtain ⟨hheld, hturn⟩ := by simpa using hpressed
    rw [hheld, Holdable.turn_eq_false_iff] at hturn
    exact ⟨before, c, rfl, hturn, hheld⟩
  · rintro ⟨before', c', hsplit, hedge, hheld⟩
    obtain ⟨rfl, hc⟩ := List.append_inj' hsplit rfl
    obtain rfl : c = c' := by simpa using hc
    simp [hheld, hedge, Holdable.turn]

theorem Aftermath.of_accepted (haccepted : ∀ s ∈ performed, s.failed = false)
    (hagrees : Agrees h (log ++ performed)) (hidle : ∀ x, h.has x = false)
    (hletGo : released = [] ∨
      ∃ chrome page, released = (ChromePage.apply .releaseAll chrome page).events ∧
        page.hands = h) :
    Aftermath log performed released := by
  refine ⟨fun before rest s hsplit hfailed ↦ ?_, ?_, fun hreleased x ↦ ?_⟩
  · rw [haccepted s (by simp [hsplit])] at hfailed
    cases hfailed
  · rcases hletGo with hnone | ⟨chrome, page, hletGo, -⟩
    · exact .inl hnone
    · exact .inr ⟨chrome, page, hletGo⟩
  · have hpressed : x.isPressed (log ++ performed ++ released) = false := by
      rcases hletGo with rfl | ⟨chrome, page, rfl, rfl⟩
      · rw [List.append_nil, hagrees x, hidle x]
      · rw [isPressed_releaseAll x hreleased, hagrees x, hidle x, Bool.false_and]
    rw [hpressed]
    refine ⟨(nomatch ·), ?_⟩
    rintro ⟨before, c, rfl, -, -⟩
    exact absurd (haccepted ⟨c, true⟩ (by simp)) (by simp)

theorem Aftermath.of_captured (haccepted : ∀ s ∈ performed, s.failed = false)
    (hagrees : Agrees h (log ++ performed)) (hidle : ∀ x, h.has x = false) (failed : Bool) :
    Aftermath log (performed ++ [⟨.capture none, failed⟩]) [] := by
  refine ⟨fun _ _ _ ↦ eq_nil_of_refused haccepted, .inl rfl, fun _ x ↦ ?_⟩
  have hpressed : x.isPressed (log ++ (performed ++ [⟨.capture none, failed⟩]) ++ []) = false := by
    rw [List.append_nil, ← List.append_assoc]
    cases failed with
    | true => rw [Holdable.isPressed_refused, hagrees x, hidle x]
    | false =>
        rw [Holdable.isPressed_accepted, hagrees x, hidle x]
        rfl
  rw [hpressed]
  refine ⟨(nomatch ·), ?_⟩
  rintro ⟨before, c, hsplit, hedge, -⟩
  have hlast := (List.append_inj' hsplit rfl).2
  obtain ⟨rfl, -⟩ : Command.capture none = c ∧ failed = true := by simpa using hlast
  cases hedge

/-! ## The phases -/

def sent (s : Scene chromeBackend) : List Sent := s.events.map Prod.snd

variable {d : Deadline} {queued : Nat} {s₀ : Scene chromeBackend}

theorem sent_of_shows {s : Scene chromeBackend} {new : List Sent} (h : s₀.Shows s new) :
    sent s = sent s₀ ++ new := by
  obtain ⟨stamped, hevents, rfl⟩ := h
  exact (congrArg (List.map Prod.snd) hevents).trans List.map_append

/-- Since the scene `s₀` the primitives `done` have had their effects, and no command was
refused. -/
structure Obeyed (s₀ : Scene chromeBackend) (h : Hands) (d : Deadline) (done : List Primitive)
    (s : Scene chromeBackend) (page : ChromePage) (performed : List Sent) : Prop where
  slot : s.slot = some page
  shows : s₀.Shows s performed
  accepted : ∀ s ∈ performed, s.failed = false
  agrees : Agrees page.hands (sent s₀ ++ performed)
  hands : page.hands = (done.flatMap Stroke.ofPrimitive).foldl Stroke.after h
  inTime : s.clock ≤ d.instant

/-- Since the scene `s₀` an action has stopped early: because a command was refused, or without
anything held. -/
inductive Stopped (s₀ s : Scene chromeBackend) : Prop
  | refused {page : ChromePage} {performed : List Sent} :
      s.slot = some page → s₀.Shows s performed →
        Slips (sent s₀) page.hands performed → Stopped s₀ s
  | cut {page : ChromePage} {performed : List Sent} :
      s.slot = some page → s₀.Shows s performed → (∀ s ∈ performed, s.failed = false) →
        Agrees page.hands (sent s₀ ++ performed) →
          (∀ x, page.hands.has x = false) → Stopped s₀ s

theorem obeyed_step {p : Primitive} {done : List Primitive} (hp : p.isInput = true) :
    Task.Meets queued (fun s ↦ ∃ page performed, Obeyed s₀ h d done s page performed)
      (Task.primitive p (some d)) fun r s ↦
        (∀ reply, r = .ok reply →
          ∃ page performed, Obeyed s₀ h d (done ++ [p]) s page performed) ∧
          ∀ e, r = .error e → Stopped s₀ s := by
  refine Task.Meets.of_forall fun s ⟨page, performed, hs⟩ ↦ ?_
  have hkeeps : Keeps (sent s₀ ++ performed) page.hands (ChromePage.apply p s.env page) :=
    keeps_apply hp hs.agrees
  have hshows : s₀.Shows ({ s with clock := s.clock + chromeBackend.delay page p }.applied page p)
      (performed ++ (ChromePage.apply p s.env page).events) :=
    Scene.Shows.applied (hs.shows.congr rfl rfl) rfl
  refine Task.Meets.primitive hs.slot (by simpa using hs.inTime) (fun hin ↦ ?_) fun d' hd hlate ↦ ?_
  · constructor
    · intro reply hreply
      refine ⟨_, _, rfl, hshows, fun c hc ↦ ?_, ?_, ?_, hs.inTime⟩
      · rcases List.mem_append.1 hc with hc | hc
        · exact hs.accepted c hc
        · exact hkeeps.accepted reply hreply c hc
      · rw [← List.append_assoc]
        exact hkeeps.agrees reply hreply
      · refine (hkeeps.hands reply hreply).trans ?_
        rw [hs.hands, List.flatMap_append, List.foldl_append, List.flatMap_singleton]
    · intro e he
      obtain ⟨before, c, hsent, hbefore, hhas⟩ := hkeeps.slips e he
      refine .refused rfl hshows ⟨performed ++ before, c, ?_, fun c' hc' ↦ ?_, fun x ↦ ?_⟩
      · rw [hsent, List.append_assoc]
      · rcases List.mem_append.1 hc' with hc' | hc'
        · exact hs.accepted c' hc'
        · exact hbefore c' hc'
      · rw [← List.append_assoc]
        exact hhas x
  · obtain rfl : d = d' := by simpa using hd
    exact absurd hs.inTime (Nat.not_le_of_lt hlate)

/-- The whole action, which is done with nothing held or stops early. -/
theorem perform_obeyed {c : Config} {a : Action} {cancel : Cancellation}
    (hidle : ∀ x, h.has x = false) :
    Task.Meets queued (fun s ↦ ∃ page performed, Obeyed s₀ h d [] s page performed)
      (perform c a cancel d) fun r s ↦
        (r = .ok () → ∃ page performed, Obeyed s₀ h d a.plan s page performed) ∧
          ∀ e, r = .error e → Stopped s₀ s := by
  have hinput : ∀ done p rest, a.plan = done ++ p :: rest → p.isInput = true :=
    fun done p rest hsplit ↦ Action.isInput_of_mem_plan (a := a) (by rw [hsplit]; simp)
  have hplan : Task.Meets queued (fun s ↦ ∃ page performed, Obeyed s₀ h d [] s page performed)
      (applyAll d a.plan) fun r s ↦
        (r = .ok () → ∃ page performed, Obeyed s₀ h d a.plan s page performed) ∧
          ∀ e, r = .error e → Stopped s₀ s :=
    applyAll_meets (I := fun done s ↦ ∃ page performed, Obeyed s₀ h d done s page performed)
      fun done p rest hsplit ↦ obeyed_step (hinput done p rest hsplit)
  refine perform_meets hplan (fun requested ha ↦ ?_) (fun _ s hs ↦ ⟨hs.1, nofun⟩)
    fun e s hs ↦ ⟨nofun, hs.2⟩
  refine Task.Meets.of_forall fun s hs ↦ ?_
  obtain ⟨page, performed, hobeyed⟩ := hs.1 rfl
  cases hconclude : (Wait.mk (some (s.clock + waitMillis c requested)) cancel (some d)).conclude
      s.clock (s.clock + waitMillis c requested) with
  | mk ending u =>
      have hu : u ≤ d.instant := by
        have hin := Wait.conclude_inTime (w := ⟨some (s.clock + waitMillis c requested), cancel,
          some d⟩) (t := s.clock + waitMillis c requested) rfl hobeyed.inTime
        rwa [hconclude] at hin
      refine Task.Meets.pause hconclude ⟨fun _ ↦ ?_, fun e _ ↦ ?_⟩
      · exact ⟨page, performed, hobeyed.slot, hobeyed.shows.congr rfl rfl, hobeyed.accepted,
          hobeyed.agrees, hobeyed.hands, hu⟩
      · refine .cut hobeyed.slot (hobeyed.shows.congr rfl rfl) hobeyed.accepted hobeyed.agrees
          fun x ↦ ?_
        rw [hobeyed.hands, Stroke.has_foldl, hidle x]
        exact a.turns_strokes x

/-- How a dispatch ends that fails. -/
def Fails (s₀ : Scene chromeBackend) (r : Result Observation) (s : Scene chromeBackend) : Prop :=
  ∀ e, r = .error e → ∃ performed released : List Sent,
    s₀.Shows s (performed ++ released) ∧ Aftermath (sent s₀) performed released

theorem release_stopped {e : Failure} :
    Task.Meets queued (Stopped s₀) release fun r s ↦ r = .ok () ∧ Fails s₀ (.error e) s := by
  refine Task.Meets.of_forall fun s hs ↦ ?_
  have hrelease {page : ChromePage} (hslot : s.slot = some page) {performed : List Sent}
      (hshows : s₀.Shows s performed) (haftermath : Aftermath (sent s₀) performed
        (ChromePage.apply .releaseAll s.env page).events) :
      Task.Meets queued (· = s) release fun r s ↦ r = .ok () ∧ Fails s₀ (.error e) s := by
    refine (release_meets hslot).mono (fun _ h ↦ h) fun r s' ⟨hr, hs'⟩ ↦ ⟨hr, fun _ _ ↦ ?_⟩
    subst hs'
    exact ⟨performed, _, Scene.Shows.applied (hshows.congr rfl rfl) rfl, haftermath⟩
  cases hs with
  | refused hslot hshows hslips => exact hrelease hslot hshows (.of_slips hslips)
  | cut hslot hshows haccepted hagrees hidle =>
      exact hrelease hslot hshows (.of_accepted haccepted hagrees hidle (.inr ⟨_, _, rfl, rfl⟩))

theorem observe_obeyed {a : Action} (hidle : ∀ x, h.has x = false) :
    Task.Meets queued (fun s ↦ ∃ page performed, Obeyed s₀ h d a.plan s page performed)
      (Session.observe (some d)) (Fails s₀) := by
  refine Task.Meets.of_forall fun s ⟨page, performed, hs⟩ ↦ observe_meets ?_
  have hheld : ∀ x, page.hands.has x = false := by
    intro x
    rw [hs.hands, Stroke.has_foldl, hidle x]
    exact a.turns_strokes x
  refine Task.Meets.primitive hs.slot (by simpa using hs.inTime) (fun _ _ _ ↦ ?_)
    fun d' hd hlate ↦ ?_
  · obtain ⟨failed, hevents⟩ := events_screenshot s.env page
    refine ⟨performed ++ [⟨.capture none, failed⟩], [], ?_,
      .of_captured hs.accepted hs.agrees hheld failed⟩
    exact (Scene.Shows.applied (hs.shows.congr rfl rfl) hevents).congr rfl (List.append_nil _)
  · obtain rfl : d = d' := by simpa using hd
    exact absurd hs.inTime (Nat.not_le_of_lt hlate)

theorem dispatch_fails {c : Config} {a : Action} {cancel : Cancellation} {page : ChromePage}
    (hslot : s₀.slot = some page) (hidle : ∀ x, page.hands.has x = false)
    (hunpressed : ∀ x : Holdable, x.isPressed (sent s₀) = false)
    (hfit : (deadline c s₀.clock).instant < horizon) :
    Task.Meets queued (· = s₀) (dispatch c a cancel) (Fails s₀) := by
  have hagrees : Agrees page.hands (sent s₀ ++ []) := fun x ↦ by
    rw [List.append_nil, hunpressed x, hidle x]
  have hpage : s₀.slot.isSome = true := by rw [hslot]; rfl
  refine dispatch_meets hpage hfit (fun _ _ _ ↦ ?_) fun hgranted ↦ ?_
  · exact ⟨[], [], .refl rfl, .of_accepted (fun _ hc ↦ absurd hc List.not_mem_nil) hagrees
      hidle (.inl rfl)⟩
  · refine performAndObserve_meets (M := fun r s ↦
      (r = .ok () → ∃ page' performed, Obeyed s₀ page.hands (deadline c s₀.clock) a.plan s page'
        performed) ∧ ∀ e, r = .error e → Stopped s₀ s)
      ((perform_obeyed hidle).mono (fun s hs ↦ ?_) fun _ _ h ↦ h) ?_ fun e ↦ ?_
    · subst hs
      exact ⟨page, [], hslot, .refl rfl, fun _ hc ↦ absurd hc List.not_mem_nil, hagrees, rfl,
        hgranted⟩
    · exact (observe_obeyed (a := a) hidle).mono (fun s hs ↦ hs.1 rfl) fun _ _ h ↦ h
    · exact release_stopped.mono (fun s hs ↦ hs.2 e rfl) fun _ _ h ↦ h

/-- What stays pressed after a dispatch that fails on a page with nothing held, if all commands are
accepted that let everything go: what the refused command was to let go while the browser held
it. -/
theorem pressed_after_failure {c : Config} {a : Action} {cancel : Cancellation}
    {w w' : World chromeBackend} {k k' : Caller} {page : ChromePage} {e : Failure}
    (hpage : w.slot = some page) (hidle : ∀ x, page.hands.has x = false)
    (hunpressed : ∀ x : Holdable, x.isPressed (sent w.scene) = false)
    (hrun : (dispatch c a cancel).run.aloneAfter queued w k = (.returned (.error e), w', k')) :
    ∃ performed released, sent w'.scene = sent w.scene ++ performed ++ released ∧
      Aftermath (sent w.scene) performed released := by
  have hfit : (deadline c w.clock).instant < horizon := by
    refine Decidable.byContradiction fun hnot ↦ ?_
    obtain ⟨reason, k'', hcrash⟩ := dispatch_crash a cancel queued k (if_neg hnot)
    rw [hrun] at hcrash
    cases hcrash
  have hmeets : Task.Meets queued (· = w.scene) (dispatch c a cancel) (Fails w.scene) :=
    dispatch_fails hpage hidle hunpressed hfit
  obtain ⟨r, w'', k'', hrun', hfails⟩ := hmeets w k rfl
  obtain ⟨rfl, rfl, rfl⟩ : r = .error e ∧ w'' = w' ∧ k'' = k' := by
    simpa using hrun'.symm.trans hrun
  obtain ⟨performed, released, hshows, haftermath⟩ := hfails e rfl
  exact ⟨performed, released,
    (sent_of_shows hshows).trans (List.append_assoc _ _ _).symm, haftermath⟩

/-- A session whose browser refuses the third pointer event. -/
def refusingWorld : World chromeBackend where
  env := { trouble := fun method nth ↦
    if method = "Input.dispatchMouseEvent" ∧ nth = 3 then some (.refused (-32000) "no") else none }
  slot := some {}

/-- A click there, of which the release is refused. -/
def refusedClick : Outcome (Result Observation) × World chromeBackend × Caller :=
  (BrowserPilot.dispatch {} (.click 5 6 .left) .never).run.aloneAfter 0 refusingWorld
    { sampler := fun _ ↦ (0, .ok "") }

theorem pressed_after_refusedClick :
    ∃ e, (BrowserPilot.dispatch {} (.click 5 6 .left) .never).run.aloneAfter 0 refusingWorld
        { sampler := fun _ ↦ (0, .ok "") } =
          (.returned (.error e), refusedClick.2.1, refusedClick.2.2) ∧
      refusingWorld.slot = some {} ∧ (∀ x, Hands.has {} x = false) ∧
      (∀ x : Holdable, x.isPressed (sent refusingWorld.scene) = false) ∧
      ∃ performed released, sent refusedClick.2.1.scene =
          sent refusingWorld.scene ++ performed ++ released ∧
        Aftermath (sent refusingWorld.scene) performed released := by
  have hidle : ∀ x, Hands.has {} x = false := by
    rintro (b | m)
    · cases b <;> rfl
    · cases m <;> rfl
  obtain ⟨e, hrun⟩ : ∃ e, (BrowserPilot.dispatch {} (.click 5 6 .left) .never).run.aloneAfter 0
      refusingWorld { sampler := fun _ ↦ (0, .ok "") } =
        (.returned (.error e), refusedClick.2.1, refusedClick.2.2) := ⟨_, rfl⟩
  exact ⟨e, hrun, rfl, hidle, fun _ ↦ rfl,
    pressed_after_failure rfl hidle (fun _ ↦ rfl) hrun⟩

/-- The left button stays pressed: its release is refused, the page takes it for released, and so
letting everything go sends nothing. -/
theorem left_stays_pressed :
    (∃ e, refusedClick.1 = .returned (.error e)) ∧
      sent refusedClick.2.1.scene =
        [⟨.pointer ⟨.moved, 5, 6, 0, 0, none⟩, false⟩,
          ⟨.pointer ⟨.pressed, 5, 6, 0, 1, some (.left, 1)⟩, false⟩,
          ⟨.pointer ⟨.released, 5, 6, 0, 0, some (.left, 1)⟩, true⟩] ∧
      (Holdable.button .left).isPressed (sent refusedClick.2.1.scene) = true :=
  ⟨⟨_, rfl⟩, rfl, rfl⟩

end Dispatch

end BrowserPilot
