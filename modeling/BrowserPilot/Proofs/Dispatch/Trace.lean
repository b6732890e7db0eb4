import BrowserPilot.Proofs.Dispatch.Phases
import BrowserPilot.Proofs.Page.Recording

namespace BrowserPilot

/-!
# What a dispatch does to a recording page

The primitives of a plan take effect one after the other, each after its time. What
happened is therefore known from how far the plan got: a dispatch that stops early
lets go of what is held by then, and takes no picture.
-/

namespace Action

/-- The primitives that an action stands for, kind by kind. -/
inductive StandsFor : Action → List Primitive → Prop
  | click {x y : Int64} {b : Button} : StandsFor (.click x y b) [.click x y b]
  | doubleClick {x y : Int64} : StandsFor (.doubleClick x y) [.doubleClick x y]
  | noPath : StandsFor (.drag []) []
  | drag {origin : Point} {path : List Point} :
      StandsFor (.drag (origin :: path))
        ([.move origin.x origin.y, .down .left] ++ path.map (fun q ↦ .move q.x q.y) ++ [.up .left])
  | keypress {keys : List String} :
      StandsFor (.keypress keys)
        (keys.map (fun k ↦ .keyDown (Key.native k)) ++
          keys.reverse.map fun k ↦ .keyUp (Key.native k))
  | move {x y : Int64} : StandsFor (.move x y) [.move x y]
  | screenshot : StandsFor .screenshot []
  | scroll {x y dx dy : Int64} :
      StandsFor (.scroll x y dx dy) [.move x y, .evaluate
        ("window.scrollBy(" ++ toString dx.toInt ++ ", " ++ toString dy.toInt ++ ")")]
  | type {text : String} : StandsFor (.type text) [.type text]
  | wait {millis : Option UInt64} : StandsFor (.wait millis) []

theorem standsFor_plan (a : Action) : a.StandsFor a.plan := by
  cases a with
  | click x y b => exact .click
  | doubleClick x y => exact .doubleClick
  | drag path =>
      cases path with
      | nil => exact .noPath
      | cons q qs => exact .drag
  | keypress keys =>
      have hplan : (Action.keypress keys).plan =
          keys.map (fun k ↦ .keyDown (Key.native k)) ++
            keys.reverse.map fun k ↦ .keyUp (Key.native k) := by
        simp [plan, Function.comp_def]
      rw [hplan]
      exact .keypress
  | move x y => exact .move
  | screenshot => exact .screenshot
  | scroll x y dx dy =>
      have hplan : (Action.scroll x y dx dy).plan = [.move x y, .evaluate
          ("window.scrollBy(" ++ toString dx.toInt ++ ", " ++ toString dy.toInt ++ ")")] := by
        simp [plan, toString, String.append_assoc]
      rw [hplan]
      exact .scroll
  | type text => exact .type
  | wait millis => exact .wait

theorem isInput_of_mem_plan {a : Action} {p : Primitive} (hp : p ∈ a.plan) :
    p.isInput = true := by
  cases a with
  | drag path =>
      cases path with
      | nil => simp [plan] at hp
      | cons q qs =>
          simp only [plan, List.mem_cons, List.mem_append, List.mem_map,
            List.not_mem_nil, or_false] at hp
          rcases hp with (rfl | rfl | ⟨q, -, rfl⟩) | rfl <;> rfl
  | keypress keys =>
      simp only [plan, List.mem_append, List.mem_map] at hp
      rcases hp with ⟨k, -, rfl⟩ | ⟨k, -, rfl⟩ <;> rfl
  | scroll x y dx dy =>
      simp only [plan, List.mem_cons, List.not_mem_nil, or_false] at hp
      rcases hp with rfl | rfl <;> rfl
  | screenshot => simp [plan] at hp
  | wait m => simp [plan] at hp
  | _ =>
      simp only [plan, List.mem_cons, List.not_mem_nil, or_false] at hp
      subst hp
      rfl

end Action

namespace Dispatch

/-- A dispatch on a recording page, with the instant from which on it has the lock. -/
structure Attempt where
  config : Config
  action : Action
  cancel : Cancellation
  page : RecordingPage
  granted : Instant
  deadline : Deadline

namespace Attempt

/-- How long the action waits, if it is a `wait`. -/
def pauseMillis (x : Attempt) : Nat :=
  match x.action with
  | .wait requested => waitMillis x.config requested
  | _ => 0

/-- When the first `n` primitives of the plan are done. -/
def doneAt (x : Attempt) (n : Nat) : Instant := x.granted + n * x.page.behaviour.delay

/-- When the whole action is done. -/
def performedAt (x : Attempt) : Instant := x.doneAt x.action.plan.length + x.pauseMillis

/-- When the picture is taken. -/
def shownAt (x : Attempt) : Instant := x.performedAt + x.page.behaviour.screenshotDelay

/-- The screenshot's result once the whole plan has taken effect. -/
def shot (x : Attempt) : Result (List UInt8) :=
  ((x.page.after x.action.plan).apply (.screenshot false)).result

/-- The action stops early, after the primitives `done` and with a failure. -/
inductive Halts (x : Attempt) : (done : List Primitive) → Failure → Prop
  /-- The next primitive fails by itself. -/
  | failed {done rest : List Primitive} {p : Primitive} {e : Failure} :
      x.action.plan = done ++ p :: rest → x.doneAt (done.length + 1) ≤ x.deadline.instant →
        ((x.page.after done).apply p).result = .error e → Halts x done e
  /-- The next primitive takes longer than there is time. -/
  | late {done rest : List Primitive} {p : Primitive} :
      x.action.plan = done ++ p :: rest → x.deadline.instant < x.doneAt (done.length + 1) →
        Halts x done (.timeout x.deadline.limit)
  /-- The caller gives up a wait. -/
  | cancelled {requested : Option UInt64} :
      x.action = .wait requested →
        x.cancel.isPast (min x.performedAt x.deadline.instant) = true → Halts x [] .cancelled
  /-- A wait takes longer than there is time. -/
  | overslept {requested : Option UInt64} :
      x.action = .wait requested → x.deadline.instant < x.performedAt →
        x.cancel.isPast x.deadline.instant = false → Halts x [] (.timeout x.deadline.limit)

/-- The action is done in time, and each primitive of its plan takes effect. -/
structure Completes (x : Attempt) : Prop where
  inTime : x.performedAt ≤ x.deadline.instant
  wanted : ∀ requested, x.action = .wait requested → x.cancel.isPast x.performedAt = false
  effective : ∀ done p rest, x.action.plan = done ++ p :: rest →
    ∃ reply, ((x.page.after done).apply p).result = .ok reply

/-- What a dispatch returns, and what happens to the page meanwhile. -/
inductive Trace (x : Attempt) : Result Observation → List PageEvent → Prop
  /-- The lock comes too late. -/
  | unlocked : x.deadline.instant < x.granted → Trace x (.error (.timeout x.deadline.limit)) []
  /-- The action stops early, and everything held by then is let go. -/
  | halted {done : List Primitive} {e : Failure} :
      x.granted ≤ x.deadline.instant → x.Halts done e →
        Trace x (.error e) (done.map .input ++ (x.page.after done).releases ++ [.releaseAll])
  /-- The action is done, but the picture takes longer than there is time. -/
  | unseen : x.Completes → x.deadline.instant < x.shownAt →
      Trace x (.error (.timeout x.deadline.limit)) (x.action.plan.map .input)
  /-- The action is done, but the picture fails. -/
  | blind {e : Failure} : x.Completes → x.shownAt ≤ x.deadline.instant → x.shot = .error e →
      Trace x (.error e) (x.action.plan.map .input)
  /-- The action is done, and its picture is returned. -/
  | observed {o : Observation} : x.Completes → x.shownAt ≤ x.deadline.instant →
      x.shot = .ok o.bytes →
        Trace x (.ok o) (x.action.plan.map .input ++ [.screenshot false])

/-- What is held once the dispatch is over: what was held before, nothing, or what the action
leaves held when it is done. -/
inductive Leaves (x : Attempt) (page : RecordingPage) : Prop
  | untouched : x.deadline.instant < x.granted → page = x.page → Leaves x page
  | letGo : page.buttons = [] → page.keys = [] → Leaves x page
  | completed : x.Completes → page.buttons = (x.page.after x.action.plan).buttons →
      page.keys = (x.page.after x.action.plan).keys → Leaves x page

/-! ## The plan -/

/-- The primitives `done` have taken effect since the scene `s₀`. -/
structure Progress (x : Attempt) (s₀ : Scene recording) (done : List Primitive)
    (s : Scene recording) : Prop where
  slot : s.slot = some (x.page.after done)
  clock : s.clock = x.doneAt done.length
  shows : s₀.Shows s (done.map .input)
  inTime : s.clock ≤ x.deadline.instant
  effective : ∀ pre p rest, done = pre ++ p :: rest →
    ∃ reply, ((x.page.after pre).apply p).result = .ok reply

/-- The action has stopped early since the scene `s₀`. -/
def Halted (x : Attempt) (s₀ : Scene recording) (e : Failure) (s : Scene recording) : Prop :=
  ∃ done page, x.Halts done e ∧ s.slot = some page ∧
    page.releases = (x.page.after done).releases ∧ s₀.Shows s (done.map .input)

/-- The action has been done since the scene `s₀`. -/
structure Performed (x : Attempt) (s₀ s : Scene recording) : Prop where
  completes : x.Completes
  slot : s.slot = some (x.page.after x.action.plan)
  clock : s.clock = x.performedAt
  shows : s₀.Shows s (x.action.plan.map .input)

variable {x : Attempt} {s₀ : Scene recording} {queued : Nat}

theorem doneAt_succ (n : Nat) : x.doneAt (n + 1) = x.doneAt n + x.page.behaviour.delay := by
  simp only [doneAt, Nat.succ_mul]
  lia

theorem delay_after_plan {done rest : List Primitive} {p : Primitive}
    (hplan : x.action.plan = done ++ p :: rest) :
    recording.delay (x.page.after done) p = x.page.behaviour.delay := by
  have hinput : ∀ q ∈ x.action.plan, q.isInput = true := fun q ↦ Action.isInput_of_mem_plan
  have hp : p.isInput = true := hinput p (by simp [hplan])
  have hdone : ∀ q ∈ done, q.isInput = true := fun q hq ↦ hinput q (by simp [hplan, hq])
  calc recording.delay (x.page.after done) p
      = (x.page.after done).behaviour.delay := RecordingPage.delay_of_isInput hp _
    _ = x.page.behaviour.delay := by rw [RecordingPage.after_behaviour hdone]

theorem progress_step {done rest : List Primitive} {p : Primitive}
    (hplan : x.action.plan = done ++ p :: rest) :
    Task.Meets queued (x.Progress s₀ done) (Task.primitive p (some x.deadline)) fun r s ↦
      (∀ reply, r = .ok reply → x.Progress s₀ (done ++ [p]) s) ∧
        ∀ e, r = .error e → x.Halted s₀ e s := by
  have hmem : p ∈ x.action.plan := by simp [hplan]
  have hp : p.isInput = true := Action.isInput_of_mem_plan hmem
  refine Task.Meets.of_forall fun s hs ↦ ?_
  have hdelay : s.clock + recording.delay (x.page.after done) p = x.doneAt (done.length + 1) := by
    rw [delay_after_plan hplan, hs.clock, doneAt_succ]
  refine Task.Meets.primitive hs.slot (by simpa using hs.inTime) (fun hin ↦ ?_) fun d hd hlate ↦ ?_
  · have hin' : x.doneAt (done.length + 1) ≤ x.deadline.instant := by
      simpa [hdelay] using hin
    have hshows : s₀.Shows { s with clock := s.clock + recording.delay (x.page.after done) p }
        (done.map .input) := hs.shows.congr rfl rfl
    constructor
    · intro reply hok
      refine ⟨?_, ?_, ?_, ?_, ?_⟩
      · rw [RecordingPage.after_append_singleton]
        rfl
      · rw [List.length_append, List.length_singleton]
        exact hdelay
      · exact (hshows.applied (RecordingPage.apply_of_ok hp hok)).congr rfl List.map_append
      · exact Nat.le_trans (Nat.le_of_eq hdelay) hin'
      · intro pre q tail heq
        rcases List.eq_nil_or_concat tail with rfl | ⟨tail, p', rfl⟩
        · obtain ⟨rfl, hq⟩ := List.append_inj' heq rfl
          obtain rfl : p = q := by simpa using hq
          exact ⟨reply, hok⟩
        · have hsplit : done ++ [p] = (pre ++ q :: tail) ++ [p'] := by simpa using heq
          exact hs.effective pre q tail (List.append_inj' hsplit rfl).1
    · intro e herror
      obtain ⟨hevents, hreleases⟩ := RecordingPage.apply_of_error hp herror
      exact ⟨done, _, .failed hplan hin' herror, rfl, hreleases,
        (hshows.applied hevents).congr rfl (List.append_nil _).symm⟩
  · obtain rfl : x.deadline = d := by simpa using hd
    refine ⟨fun reply h ↦ by simp at h, fun e he ↦ ?_⟩
    obtain rfl : Failure.timeout x.deadline.limit = e := by simpa using he
    exact ⟨done, _, .late hplan (by simpa [hdelay] using hlate), hs.slot, rfl,
      hs.shows.congr rfl rfl⟩

theorem performedAt_of_wait {requested : Option UInt64} (ha : x.action = .wait requested) :
    x.performedAt = x.doneAt x.action.plan.length + waitMillis x.config requested := by
  simp only [performedAt, pauseMillis, ha]

theorem wait_step {requested : Option UInt64} (ha : x.action = .wait requested) :
    Task.Meets queued (x.Progress s₀ x.action.plan)
      (Task.pause (waitMillis x.config requested) x.cancel (some x.deadline)) fun r s ↦
        (r = .ok () → x.Performed s₀ s) ∧ ∀ e, r = .error e → x.Halted s₀ e s := by
  refine Task.Meets.of_forall fun s hs ↦ ?_
  have hplan : x.action.plan = [] := by rw [ha]; rfl
  have hover : s.clock + waitMillis x.config requested = x.performedAt := by
    rw [performedAt_of_wait ha, hs.clock]
  have hlater : s.clock ≤ s.clock + waitMillis x.config requested := Nat.le_add_right _ _
  have hhalted : ∀ e, x.Halts [] e → ∀ u, x.Halted s₀ e { s with clock := u } := fun e he u ↦
    ⟨[], x.page.after x.action.plan, he, hs.slot, by rw [hplan],
      hs.shows.congr rfl (by rw [hplan])⟩
  by_cases hcancel : x.cancel.isPast (min x.performedAt x.deadline.instant) = true
  · obtain ⟨u, hconclude, -⟩ := Wait.conclude_of_cancelled
      (w := ⟨some (s.clock + waitMillis x.config requested), x.cancel, some x.deadline⟩)
      (t := s.clock + waitMillis x.config requested)
      (s := min x.performedAt x.deadline.instant) (by rw [hover]; rfl)
      (Nat.le_min.2 ⟨hover ▸ hlater, hs.inTime⟩) hcancel
    refine Task.Meets.pause hconclude ⟨fun h ↦ by simp [Ending.result] at h, fun e he ↦ ?_⟩
    obtain rfl : Failure.cancelled = e := by simpa [Ending.result] using he
    exact hhalted _ (.cancelled ha hcancel) u
  · rw [Bool.not_eq_true] at hcancel
    by_cases hin : x.performedAt ≤ x.deadline.instant
    · rw [Nat.min_eq_left hin] at hcancel
      refine Task.Meets.pause (Wait.conclude_of_completed hlater (hover ▸ hcancel)
        (by simpa [hover] using hin)) ⟨fun _ ↦ ?_, fun e he ↦ by simp [Ending.result] at he⟩
      exact ⟨⟨hin, fun _ _ ↦ hcancel, hs.effective⟩, hs.slot, hover, hs.shows.congr rfl rfl⟩
    · have hlt : x.deadline.instant < x.performedAt := Nat.lt_of_not_le hin
      rw [Nat.min_eq_right (Nat.le_of_lt hlt)] at hcancel
      refine Task.Meets.pause (Wait.conclude_of_expired rfl hs.inTime (hover ▸ hlt) hcancel)
        ⟨fun h ↦ by simp [Ending.result] at h, fun e he ↦ ?_⟩
      obtain rfl : Failure.timeout x.deadline.limit = e := by simpa [Ending.result] using he
      exact hhalted _ (.overslept ha hlt hcancel) _

theorem perform_attempt (hslot : s₀.slot = some x.page) {s₁ : Scene recording}
    (hs₁ : s₁ = { s₀ with clock := x.granted }) (hgranted : x.granted ≤ x.deadline.instant) :
    Task.Meets queued (· = s₁) (perform x.config x.action x.cancel x.deadline) fun r s ↦
      (r = .ok () → x.Performed s₀ s) ∧ ∀ e, r = .error e → x.Halted s₀ e s := by
  have hstart : ∀ s, s = s₁ → x.Progress s₀ [] s := by
    rintro s rfl
    subst hs₁
    exact ⟨hslot, by simp [doneAt], .refl rfl, hgranted, fun pre p rest h ↦ by simp at h⟩
  have hplan : Task.Meets queued (x.Progress s₀ []) (applyAll x.deadline x.action.plan) fun r s ↦
      (r = .ok () → x.Progress s₀ x.action.plan s) ∧ ∀ e, r = .error e → x.Halted s₀ e s :=
    applyAll_meets fun _ _ _ hsplit ↦ progress_step hsplit
  refine perform_meets (hplan.mono hstart fun _ _ h ↦ h) (fun requested ha ↦ ?_)
    (fun ha s hs ↦ ?_) fun e s hs ↦ ?_
  · exact (wait_step ha).mono (fun s hs ↦ hs.1 rfl) fun _ _ h ↦ h
  · have hprogress := hs.1 rfl
    have hpause : x.pauseMillis = 0 := by
      unfold pauseMillis
      split
      · exact absurd ‹_› (ha _)
      · rfl
    have hclock : s.clock = x.performedAt := by simp [performedAt, hpause, hprogress.clock]
    exact ⟨fun _ ↦ ⟨⟨hclock ▸ hprogress.inTime, fun requested h ↦ absurd h (ha requested),
      hprogress.effective⟩, hprogress.slot, hclock, hprogress.shows⟩, fun e h ↦ by simp at h⟩
  · exact ⟨fun h ↦ by simp at h, fun e' h ↦ hs.2 e' h⟩

/-! ## Letting go, and looking -/

/-- Since the scene `s₀` the dispatch has come to an end. -/
def Over (x : Attempt) (s₀ : Scene recording) (r : Result Observation) (s : Scene recording) :
    Prop :=
  ∃ events page, x.Trace r events ∧ s₀.Shows s events ∧ s.slot = some page ∧ x.Leaves page

theorem release_attempt {e : Failure} (hgranted : x.granted ≤ x.deadline.instant) :
    Task.Meets queued (x.Halted s₀ e) release fun r s ↦ r = .ok () ∧ x.Over s₀ (.error e) s := by
  refine Task.Meets.of_forall fun s ⟨done, page, hhalts, hslot, hreleases, hshows⟩ ↦ ?_
  refine (release_meets hslot).mono (fun _ h ↦ h) fun r s' ⟨hr, hs'⟩ ↦ ⟨hr, ?_⟩
  subst hs'
  have hevents : (recording.apply .releaseAll s.env page).events =
      (x.page.after done).releases ++ [.releaseAll] := by
    rw [← hreleases]
    exact page.events_releaseAll
  obtain ⟨hbuttons, hkeys⟩ := page.held_releaseAll
  refine ⟨_, _, .halted hgranted hhalts, ?_, rfl, .letGo hbuttons hkeys⟩
  have hlater : s₀.Shows { s with clock := s.clock + recording.delay page .releaseAll }
      (done.map .input) := hshows.congr rfl rfl
  exact (hlater.applied hevents).congr rfl (List.append_assoc _ _ _)

theorem delay_screenshot : recording.delay (x.page.after x.action.plan) (.screenshot false) =
    x.page.behaviour.screenshotDelay := by
  have hbehaviour := RecordingPage.after_behaviour
    (fun q ↦ Action.isInput_of_mem_plan (a := x.action)) x.page
  change (x.page.after x.action.plan).behaviour.screenshotDelay = _
  rw [hbehaviour]

theorem observe_attempt :
    Task.Meets queued (x.Performed s₀) (Session.observe (some x.deadline)) (x.Over s₀) := by
  refine Task.Meets.of_forall fun s hs ↦ observe_meets ?_
  obtain ⟨hbuttons, hkeys⟩ := (x.page.after x.action.plan).held_screenshot false
  have hshown : s.clock + recording.delay (x.page.after x.action.plan) (.screenshot false) =
      x.shownAt := by
    rw [delay_screenshot, hs.clock]
    rfl
  have hlater : ∀ u, s₀.Shows { s with clock := u } (x.action.plan.map .input) := fun _ ↦
    hs.shows.congr rfl rfl
  have hintime : s.clock ≤ x.deadline.instant := hs.clock ▸ hs.completes.inTime
  refine Task.Meets.primitive hs.slot (by simpa using hintime) (fun hin ↦ ?_) fun d hd hlate ↦ ?_
  · have hin' : x.shownAt ≤ x.deadline.instant := by simpa [hshown] using hin
    have hleaves := Leaves.completed (x := x) hs.completes hbuttons hkeys
    cases hshot : x.shot with
    | ok bytes =>
        refine ⟨_, _, ?_, (hlater _).applied (RecordingPage.apply_screenshot_of_ok hshot), rfl,
          hleaves⟩
        change x.Trace (x.shot.map Observation.mk) _
        rw [hshot]
        exact .observed hs.completes hin' hshot
    | error e =>
        refine ⟨_, _, ?_,
          ((hlater _).applied (RecordingPage.apply_screenshot_of_error hshot)).congr rfl
            (List.append_nil _).symm, rfl, hleaves⟩
        change x.Trace (x.shot.map Observation.mk) _
        rw [hshot]
        exact .blind hs.completes hin' hshot
  · obtain rfl : x.deadline = d := by simpa using hd
    exact ⟨_, _, .unseen hs.completes (by simpa [hshown] using hlate), hs.shows.congr rfl rfl,
      hs.slot, .completed hs.completes rfl rfl⟩

/-- The attempt of a dispatch that begins at `now` and gets the lock `queued` milliseconds later. -/
def begun (c : Config) (a : Action) (cancel : Cancellation) (page : RecordingPage) (now : Instant)
    (queued : Nat) : Attempt :=
  ⟨c, a, cancel, page, now + queued, Dispatch.deadline c now⟩

theorem dispatch_attempt {c : Config} {a : Action} {cancel : Cancellation} {page : RecordingPage}
    (hslot : s₀.slot = some page) (hfit : (Dispatch.deadline c s₀.clock).instant < horizon) :
    Task.Meets queued (· = s₀) (dispatch c a cancel)
      ((begun c a cancel page s₀.clock queued).Over s₀) := by
  have hpage : s₀.slot.isSome = true := by rw [hslot]; rfl
  refine dispatch_meets hpage hfit (fun hlate ↦ ?_) fun hgranted ↦ ?_
  · exact ⟨[], page, .unlocked hlate, .refl rfl, hslot, .untouched hlate rfl⟩
  · refine performAndObserve_meets (perform_attempt (x := begun c a cancel page s₀.clock queued)
      hslot rfl hgranted) ?_ fun e ↦ ?_
    · exact (observe_attempt (x := begun c a cancel page s₀.clock queued)).mono
        (fun s hs ↦ hs.1 rfl) fun _ _ h ↦ h
    · exact (release_attempt hgranted).mono (fun s hs ↦ hs.2 e rfl) fun _ _ h ↦ h

end Attempt

/-- The trace of a dispatch on a recording page, whose action stands for its plan: it returns, and
what it returns and what happened to the page are told by how far the plan got in the time
left. -/
theorem dispatch_trace (c : Config) (a : Action) (cancel : Cancellation) (queued : Nat)
    (w : World recording) (k : Caller) (page : RecordingPage) (hpage : w.slot = some page)
    (hfit : (deadline c w.clock).instant < horizon) :
    a.StandsFor a.plan ∧
      ∃ r w' k' new, (dispatch c a cancel).run.aloneAfter queued w k = (.returned r, w', k') ∧
        w'.events = w.events ++ new ∧
        (Attempt.begun c a cancel page w.clock queued).Trace r (new.map Prod.snd) := by
  have hmeets : Task.Meets queued (· = w.scene) (dispatch c a cancel)
      ((Attempt.begun c a cancel page w.clock queued).Over w.scene) :=
    Attempt.dispatch_attempt hpage hfit
  obtain ⟨r, w', k', hrun, events, page', htrace, ⟨new, hnew, hmap⟩, -⟩ := hmeets w k rfl
  exact ⟨a.standsFor_plan, r, w', k', new, hrun, hnew, hmap ▸ htrace⟩

/-- A slow page on which the button does not come up again. -/
def stuckPage : RecordingPage where
  behaviour := { delay := 400, failures := [⟨"up", none, none⟩] }

/-- A drag on it that queues for a while. -/
theorem dispatch_trace_drag :
    ({ env := (), slot := some stuckPage } : World recording).slot = some stuckPage ∧
      (deadline {} 0).instant < horizon ∧
      (Action.drag [⟨1, 2⟩, ⟨3, 4⟩]).StandsFor (Action.drag [⟨1, 2⟩, ⟨3, 4⟩]).plan ∧
      ∃ r w' k' new, (dispatch {} (.drag [⟨1, 2⟩, ⟨3, 4⟩]) .never).run.aloneAfter 100
          ({ env := (), slot := some stuckPage } : World recording)
          { sampler := fun _ ↦ (0, .ok "") } = (.returned r, w', k') ∧
        w'.events = [] ++ new ∧
        (Attempt.begun {} (.drag [⟨1, 2⟩, ⟨3, 4⟩]) .never stuckPage 0 100).Trace r
          (new.map Prod.snd) :=
  ⟨rfl, by decide, dispatch_trace {} (.drag [⟨1, 2⟩, ⟨3, 4⟩]) .never 100
    { env := (), slot := some stuckPage } { sampler := fun _ ↦ (0, .ok "") } stuckPage rfl
    (by decide)⟩

end Dispatch

end BrowserPilot
