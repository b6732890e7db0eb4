import BrowserPilot.Proofs.Dispatch.Held

namespace BrowserPilot

/-!
# The timetable of a dispatch

On a page that never fails, each primitive of a plan takes the same time, and one
deadline bounds them all together with the picture. How far a dispatch gets is then
a matter of arithmetic: what ends at the deadline itself is still in time, and of a
plan that takes longer just as many primitives take effect as fit.
-/

namespace Dispatch

/-- The primitives of a plan that begins at `start`, with the instants at which they take effect
if each of them takes `delay`. -/
def stamped (start : Instant) (delay : Nat) (ps : List Primitive) :
    List (Instant × recording.Event) :=
  ps.zipIdx.map fun p ↦ (start + (p.2 + 1) * delay, .input p.1)

/-- What is reported when a page lets go of all that it holds. -/
def letGoAt (t : Instant) (page : RecordingPage) : List (Instant × recording.Event) :=
  (page.releases ++ [PageEvent.releaseAll]).map fun e ↦ (t, e)

theorem stamped_append_singleton (start : Instant) (delay : Nat) (ps : List Primitive)
    (p : Primitive) : stamped start delay (ps ++ [p]) =
      stamped start delay ps ++ [(start + (ps.length + 1) * delay, .input p)] := by
  simp [stamped, List.zipIdx_append]

namespace Attempt

variable {x : Attempt} {s₀ s : Scene recording} {done : List Primitive}

/-- The plan has kept to the timetable up to the primitives `done`. -/
structure Kept (x : Attempt) (s₀ : Scene recording) (done : List Primitive)
    (s : Scene recording) : Prop where
  slot : s.slot = some (x.page.after done)
  clock : s.clock = x.doneAt done.length
  events : s.events = s₀.events ++ stamped x.granted x.page.behaviour.delay done
  inTime : x.doneAt done.length ≤ x.deadline.instant

/-- The deadline has come after the primitives `done`, before the next one took effect. -/
structure CutOff (x : Attempt) (s₀ : Scene recording) (done : List Primitive)
    (s : Scene recording) : Prop where
  slot : s.slot = some (x.page.after done)
  clock : s.clock = x.deadline.instant
  events : s.events = s₀.events ++ stamped x.granted x.page.behaviour.delay done
  begun : ∃ p rest, x.action.plan = done ++ p :: rest
  inTime : x.doneAt done.length ≤ x.deadline.instant
  late : x.deadline.instant < x.doneAt (done.length + 1)

theorem kept_step {rest : List Primitive} {p : Primitive}
    (hreliable : x.page.behaviour.failures = []) (hplan : x.action.plan = done ++ p :: rest) :
    Task.Meets 0 (x.Kept s₀ done) (Task.primitive p (some x.deadline)) fun r s ↦
      (∀ reply, r = .ok reply → x.Kept s₀ (done ++ [p]) s) ∧
        ∀ e, r = .error e → e = .timeout x.deadline.limit ∧ ∃ done, x.CutOff s₀ done s := by
  have hinput : ∀ q ∈ x.action.plan, q.isInput = true := fun q ↦ Action.isInput_of_mem_plan
  have hp : p.isInput = true := hinput p (by simp [hplan])
  have hbehaviour : (x.page.after done).behaviour = x.page.behaviour :=
    RecordingPage.after_behaviour (fun q hq ↦ hinput q (by simp [hplan, hq])) x.page
  obtain ⟨reply, hok⟩ := RecordingPage.result_of_reliable hp (hbehaviour ▸ hreliable)
  refine Task.Meets.of_forall fun s hs ↦ ?_
  have hnext : s.clock + recording.delay (x.page.after done) p = x.doneAt (done.length + 1) := by
    rw [delay_after_plan hplan, hs.clock, doneAt_succ]
  -- either the primitive takes effect at the next entry, or the deadline lies before that
  refine Task.Meets.primitive hs.slot (by simpa [hs.clock] using hs.inTime) (fun hin ↦ ?_)
    fun d hd hlate ↦ ?_
  · rw [hnext] at hin ⊢
    refine ⟨fun _ _ ↦ ⟨?_, ?_, ?_, ?_⟩, fun e he ↦ ?_⟩
    · rw [RecordingPage.after_append_singleton]
      rfl
    · rw [List.length_append, List.length_singleton]
      rfl
    · rw [stamped_append_singleton, ← List.append_assoc, ← hs.events]
      change s.events ++ ((x.page.after done).apply p).events.map _ = _
      rw [RecordingPage.apply_of_ok hp hok]
      rfl
    · simpa using hin
    · exact absurd (hok.symm.trans he) nofun
  · obtain rfl : x.deadline = d := by simpa using hd
    refine ⟨nofun, fun e he ↦ ⟨by simpa using he.symm, done, ?_⟩⟩
    exact ⟨hs.slot, rfl, hs.events, ⟨p, rest, hplan⟩, hs.inTime, hnext ▸ hlate⟩

theorem perform_timed (hreliable : x.page.behaviour.failures = [])
    (hwait : ∀ requested, x.action ≠ .wait requested) (hslot : s₀.slot = some x.page)
    (hclock : s₀.clock = x.granted) (hgranted : x.granted ≤ x.deadline.instant) :
    Task.Meets 0 (· = s₀) (perform x.config x.action x.cancel x.deadline) fun r s ↦
      (r = .ok () → x.Kept s₀ x.action.plan s) ∧
        ∀ e, r = .error e → e = .timeout x.deadline.limit ∧ ∃ done, x.CutOff s₀ done s := by
  have hstart : ∀ s, s = s₀ → x.Kept s₀ [] s := by
    rintro s rfl
    exact ⟨hslot, by simp [doneAt, hclock], by simp [stamped], by simpa [doneAt] using hgranted⟩
  have hplan : Task.Meets 0 (x.Kept s₀ []) (applyAll x.deadline x.action.plan) fun r s ↦
      (r = .ok () → x.Kept s₀ x.action.plan s) ∧
        ∀ e, r = .error e → e = .timeout x.deadline.limit ∧ ∃ done, x.CutOff s₀ done s :=
    applyAll_meets fun _ _ _ hsplit ↦ kept_step hreliable hsplit
  exact perform_meets (hplan.mono hstart fun _ _ h ↦ h)
    (fun requested ha ↦ absurd ha (hwait requested)) (fun _ _ h ↦ h) fun _ _ h ↦ h

end Attempt

/-- The milliseconds that the plan of an action takes on a page that never fails. -/
def planTime (a : Action) (page : RecordingPage) : Nat := a.plan.length * page.behaviour.delay

/-- The milliseconds that an action is allowed. -/
def allowed (c : Config) : Nat := c.actionTimeoutSeconds.toNat * 1000

/-- What becomes of a dispatch that finds the lock free, by the time that it would take: the picture
may still come at the deadline itself, and what is cut off by the deadline lets go there. -/
structure Timetable (c : Config) (a : Action) (page : RecordingPage) (s₀ : Scene recording)
    (r : Result Observation) (s : Scene recording) : Prop where
  shown : planTime a page + page.behaviour.screenshotDelay ≤ allowed c →
    r = .ok ⟨page.shot⟩ ∧
    s.clock = s₀.clock + (planTime a page + page.behaviour.screenshotDelay) ∧
    s.events = s₀.events ++ stamped s₀.clock page.behaviour.delay a.plan ++
      [(s.clock, .screenshot false)]
  unseen : planTime a page ≤ allowed c →
    allowed c < planTime a page + page.behaviour.screenshotDelay →
    r = .error (.timeout c.actionTimeout) ∧ s.clock = s₀.clock + allowed c ∧
    s.events = s₀.events ++ stamped s₀.clock page.behaviour.delay a.plan
  cutOff : allowed c < planTime a page →
    let done := a.plan.take (allowed c / page.behaviour.delay)
    r = .error (.timeout c.actionTimeout) ∧ s.clock = s₀.clock + allowed c ∧
    s.events = s₀.events ++ stamped s₀.clock page.behaviour.delay done ++
      letGoAt s.clock (page.after done) ∧
    ∃ page', s.slot = some page' ∧ page'.buttons = [] ∧ page'.keys = []

variable {c : Config} {a : Action} {cancel : Cancellation} {page : RecordingPage}
  {s₀ s : Scene recording}

theorem observe_timed (hreliable : page.behaviour.failures = [])
    (hkept : (Attempt.begun c a cancel page s₀.clock 0).Kept s₀ a.plan s) :
    Task.Meets 0 (· = s) (Session.observe (some (deadline c s₀.clock)))
      (Timetable c a page s₀) := by
  have hinput : ∀ p ∈ a.plan, p.isInput = true := fun p ↦ Action.isInput_of_mem_plan
  have hbehaviour : (page.after a.plan).behaviour = page.behaviour :=
    RecordingPage.after_behaviour hinput page
  have hresult : ((page.after a.plan).apply (.screenshot false)).result = .ok page.shot := by
    rw [RecordingPage.apply_screenshot_of_reliable (hbehaviour ▸ hreliable),
      RecordingPage.shot_of_look (RecordingPage.look_after hinput page)]
  have hshown : s.clock + recording.delay (page.after a.plan) (.screenshot false) =
      s₀.clock + (planTime a page + page.behaviour.screenshotDelay) := by
    change s.clock + (page.after a.plan).behaviour.screenshotDelay = _
    rw [hbehaviour, hkept.clock, ← Nat.add_assoc]
    rfl
  have hin : planTime a page ≤ allowed c := Nat.le_of_add_le_add_left hkept.inTime
  have hnow : s.clock ≤ (deadline c s₀.clock).instant := hkept.clock ▸ hkept.inTime
  refine observe_meets (Task.Meets.primitive hkept.slot (by simpa using hnow)
    (fun hintime ↦ ?_) fun d hd hlate ↦ ?_)
  · have hfits : planTime a page + page.behaviour.screenshotDelay ≤ allowed c :=
      Nat.le_of_add_le_add_left (hshown ▸ hintime _ rfl)
    refine ⟨fun _ ↦ ⟨congrArg (Except.map Observation.mk) hresult, hshown, ?_⟩,
      fun _ _ ↦ by omega, fun _ ↦ by omega⟩
    change s.events ++ ((page.after a.plan).apply (.screenshot false)).events.map _ = _
    rw [RecordingPage.apply_screenshot_of_ok hresult, hkept.events]
    rfl
  · obtain rfl : deadline c s₀.clock = d := by simpa using hd
    have hover : allowed c < planTime a page + page.behaviour.screenshotDelay :=
      Nat.lt_of_add_lt_add_left (hshown ▸ hlate)
    exact ⟨fun _ ↦ by omega, fun _ _ ↦ ⟨rfl, rfl, hkept.events⟩, fun _ ↦ by omega⟩

/-- Just as many primitives are done at the deadline as fit before it. -/
theorem length_of_cutOff {done : List Primitive}
    (hcut : (Attempt.begun c a cancel page s₀.clock 0).CutOff s₀ done s) :
    allowed c < planTime a page ∧ done = a.plan.take (allowed c / page.behaviour.delay) := by
  obtain ⟨p, rest, hplan⟩ := hcut.begun
  change a.plan = done ++ p :: rest at hplan
  have hin : done.length * page.behaviour.delay ≤ allowed c :=
    Nat.le_of_add_le_add_left hcut.inTime
  have hlate : allowed c < (done.length + 1) * page.behaviour.delay :=
    Nat.lt_of_add_lt_add_left hcut.late
  -- the deadline lies between two multiples of the delay
  constructor
  · calc allowed c < (done.length + 1) * page.behaviour.delay := hlate
      _ ≤ planTime a page := Nat.mul_le_mul_right _ (by simp [hplan])
  · rw [Nat.div_eq_of_lt_le hin hlate, hplan, List.take_left]

theorem release_timed {done : List Primitive}
    (hcut : (Attempt.begun c a cancel page s₀.clock 0).CutOff s₀ done s) :
    Task.Meets 0 (· = s) release fun r s' ↦
      r = .ok () ∧ Timetable c a page s₀ (.error (.timeout c.actionTimeout)) s' := by
  obtain ⟨hover, hdone⟩ := length_of_cutOff hcut
  refine (release_meets hcut.slot).mono (fun _ h ↦ h) ?_
  rintro r s' ⟨hr, rfl⟩
  refine ⟨hr, fun _ ↦ by omega, fun _ _ ↦ by omega, fun _ ↦ ⟨rfl, hcut.clock, ?_, ?_⟩⟩
  · change s.events ++ ((page.after done).apply .releaseAll).events.map _ = _
    rw [RecordingPage.events_releaseAll, hcut.events, ← hdone]
    rfl
  · obtain ⟨hbuttons, hkeys⟩ := (page.after done).held_releaseAll
    exact ⟨_, rfl, hbuttons, hkeys⟩

theorem dispatch_timed (hslot : s₀.slot = some page) (hreliable : page.behaviour.failures = [])
    (hwait : ∀ requested, a ≠ .wait requested)
    (hfit : (deadline c s₀.clock).instant < horizon) :
    Task.Meets 0 (· = s₀) (BrowserPilot.dispatch c a cancel) (Timetable c a page s₀) := by
  have hgranted : s₀.clock + 0 ≤ (deadline c s₀.clock).instant := le_deadline c s₀.clock
  refine dispatch_granted hslot hfit hgranted (performAndObserve_meets
    (Attempt.perform_timed (x := Attempt.begun c a cancel page s₀.clock 0) hreliable hwait hslot
      rfl hgranted) ?_ fun e ↦ ?_)
  · exact Task.Meets.of_forall fun s hs ↦ observe_timed hreliable (hs.1 rfl)
  · refine Task.Meets.of_forall fun s hs ↦ ?_
    obtain ⟨rfl, done, hcut⟩ := hs.2 e rfl
    exact release_timed hcut

/-- The timetable of a dispatch that finds the lock free, on a page that never fails: it ends the
program if the clock cannot hold its deadline, and otherwise it returns as the timetable says. -/
theorem dispatch_keeps_timetable (c : Config) (a : Action) (cancel : Cancellation)
    (w : World recording) (k : Caller) {page : RecordingPage} (hpage : w.slot = some page)
    (hreliable : page.behaviour.failures = []) (hwait : ∀ requested, a ≠ .wait requested) :
    (horizon ≤ w.clock + allowed c → ∃ reason k',
      (BrowserPilot.dispatch c a cancel).run.alone w k = (.crashed reason, w, k')) ∧
    (w.clock + allowed c < horizon → ∃ r w' k',
      (BrowserPilot.dispatch c a cancel).run.alone w k = (.returned r, w', k') ∧
        Timetable c a page w.scene r w'.scene) := by
  rw [← Operation.aloneAfter_zero]
  refine ⟨fun hover ↦ dispatch_crash a cancel 0 k (if_neg (Nat.not_lt_of_le hover)), fun hfit ↦ ?_⟩
  have htimed : Task.Meets 0 (· = w.scene) (BrowserPilot.dispatch c a cancel)
      (Timetable c a page w.scene) := dispatch_timed hpage hreliable hwait hfit
  exact htimed w k rfl

/-- A session with a page on which every primitive takes half a second. -/
def sleepyWorld : World recording :=
  { env := (), slot := some { behaviour := { delay := 500, screenshotDelay := 100 } } }

/-- A drag there that is allowed one second, in which two of its four primitives fit, the second
one just so. -/
theorem sleepyDrag_keeps_timetable :
    sleepyWorld.slot = some { behaviour := { delay := 500, screenshotDelay := 100 } } ∧
      (∀ requested, Action.drag [⟨1, 2⟩, ⟨3, 4⟩] ≠ .wait requested) ∧
      sleepyWorld.clock + allowed { actionTimeoutSeconds := 1 } < horizon ∧
      ∃ r w' k', (BrowserPilot.dispatch { actionTimeoutSeconds := 1 }
          (.drag [⟨1, 2⟩, ⟨3, 4⟩]) .never).run.alone sleepyWorld
          { sampler := fun _ ↦ (0, .ok "") } = (.returned r, w', k') ∧
        Timetable { actionTimeoutSeconds := 1 } (.drag [⟨1, 2⟩, ⟨3, 4⟩])
          { behaviour := { delay := 500, screenshotDelay := 100 } } sleepyWorld.scene r
          w'.scene :=
  ⟨rfl, nofun, by decide, (dispatch_keeps_timetable { actionTimeoutSeconds := 1 }
    (.drag [⟨1, 2⟩, ⟨3, 4⟩]) .never sleepyWorld { sampler := fun _ ↦ (0, .ok "") } rfl rfl
    nofun).2 (by decide)⟩

example : ((BrowserPilot.dispatch { actionTimeoutSeconds := 1 } (.drag [⟨1, 2⟩, ⟨3, 4⟩])
    .never).run.alone sleepyWorld { sampler := fun _ ↦ (0, .ok "") }).2.1.events =
      [(500, PageEvent.input (.move 1 2)), (1000, PageEvent.input (.down .left)),
        (1000, PageEvent.releaseButton .left), (1000, PageEvent.releaseAll)] := rfl

/-- With the longest timeout that a setting can tell there is all the time for a picture, and none
comes: the program ends. -/
theorem endless_timetable_crashes :
    let config : Config := { actionTimeoutSeconds := 18446744073709551615 }
    let page : RecordingPage := { behaviour := {} }
    let w : World recording := { env := (), slot := some page }
    page.behaviour.failures = [] ∧
      planTime .screenshot page + page.behaviour.screenshotDelay ≤ allowed config ∧
      ∃ reason, ((BrowserPilot.dispatch config .screenshot .never).run.alone w
        { sampler := fun _ ↦ (0, .ok "") }).1 = .crashed reason :=
  ⟨rfl, Nat.zero_le _, _, rfl⟩

end Dispatch

end BrowserPilot
