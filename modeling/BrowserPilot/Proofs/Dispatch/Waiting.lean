import BrowserPilot.Proofs.Dispatch.Timetable

namespace BrowserPilot

/-!
# How long a `wait` lasts

The time that is asked for, or the usual one if none is, is cut to the longest wait of
the settings. A `wait` is over when that time has passed, when its action has to be
done or when its caller gives up, whichever comes first.
-/

variable {B : Backend}

/-- A caller has given up before some time, gives up until a later one, or does not. -/
theorem Cancellation.isPast_cases (cancel : Cancellation) (now u : Instant) :
    cancel.isPast now = true ∨ (∃ t, cancel = .at t ∧ now ≤ t ∧ t < u) ∨
      cancel.isPast u = false := by
  cases cancel with
  | never => exact .inr (.inr rfl)
  | before => exact .inl rfl
  | «at» t =>
      rcases Nat.lt_or_ge t now with hpast | hnow
      · exact .inl (decide_eq_true hpast)
      · rcases Nat.lt_or_ge t u with hmeanwhile | hlater
        · exact .inr (.inl ⟨t, rfl, hnow, hmeanwhile⟩)
        · exact .inr (.inr (decide_eq_false (Nat.not_lt_of_le hlater)))

/-- The scene after a page has let everything go, which it begins at the instant `t`. -/
def Scene.lettingGo (s : Scene B) (page : B.Page) (t : Instant) : Scene B :=
  { s with clock := t + B.delay page .releaseAll }.applied page .releaseAll

/-- It takes a recording page no time to let everything go. -/
theorem Scene.clock_lettingGo (s : Scene recording) (page : RecordingPage) (t : Instant) :
    (s.lettingGo page t).clock = t := rfl

namespace Dispatch

variable {queued : Nat} {c : Config} {requested : Option UInt64} {cancel : Cancellation}
  {s : Scene B} {page : B.Page} {d : Deadline} {ending : Ending} {t : Instant}

/-- What comes of a picture of a page that is asked for in the scene `s₀`: there is time for it, or
there is not. -/
structure Pictured (s₀ : Scene B) (page : B.Page) (d : Deadline) (r : Result Observation)
    (s : Scene B) : Prop where
  seen : s₀.clock + B.delay page (.screenshot false) ≤ d.instant →
    r = Except.map Observation.mk (B.apply (.screenshot false) s₀.env page).result ∧
    s = { s₀ with clock := s₀.clock + B.delay page (.screenshot false) }.applied page
      (.screenshot false)
  unseen : d.instant < s₀.clock + B.delay page (.screenshot false) →
    r = .error (.timeout d.limit) ∧ s = { s₀ with clock := d.instant }

theorem observe_pictured (hslot : s.slot = some page) (hnow : s.clock ≤ d.instant) :
    Task.Meets queued (· = s) (Session.observe (some d)) (Pictured s page d) := by
  refine observe_meets (Task.Meets.primitive hslot (by simpa using hnow) (fun hin ↦ ?_)
    fun d' hd hlate ↦ ?_)
  · exact ⟨fun _ ↦ ⟨rfl, rfl⟩, fun hlate ↦ absurd (hin d rfl) (Nat.not_le_of_lt hlate)⟩
  · obtain rfl : d = d' := by simpa using hd
    exact ⟨fun hin ↦ absurd hin (Nat.not_le_of_lt hlate), fun _ ↦ ⟨rfl, rfl⟩⟩

/-! ## The wait itself -/

/-- What a `wait` waits for that begins at `now`. -/
def rest (c : Config) (requested : Option UInt64) (cancel : Cancellation) (now : Instant) : Wait :=
  ⟨some (now + waitMillis c requested), cancel, some (deadline c now)⟩

/-- How and when a `wait` is over that begins at `now`. -/
def restEnding (c : Config) (requested : Option UInt64) (cancel : Cancellation) (now : Instant) :
    Ending × Instant :=
  (rest c requested cancel now).conclude now (now + waitMillis c requested)

theorem restEnding_of_givenUp {now : Instant} (hpast : cancel.isPast now = true) :
    restEnding c requested cancel now = (.cancelled, now) :=
  Wait.conclude_now_of_cancelled hpast

theorem restEnding_of_interrupted {now : Instant} (hcancel : cancel = .at t) (hnow : now ≤ t)
    (ht : t < now + min (waitMillis c requested) (allowed c)) :
    restEnding c requested cancel now = (.cancelled, t) := by
  have hwait : t < now + waitMillis c requested :=
    Nat.lt_of_lt_of_le ht (Nat.add_le_add_left (Nat.min_le_left _ _) now)
  have hdeadline : t < (deadline c now).instant :=
    Nat.lt_of_lt_of_le ht (Nat.add_le_add_left (Nat.min_le_right _ _) now)
  exact Wait.conclude_of_cancelled_at hcancel hnow hwait (by simpa [rest] using hdeadline)

theorem restEnding_of_completed {now : Instant}
    (hcancel : cancel.isPast (now + waitMillis c requested) = false)
    (hwait : waitMillis c requested ≤ allowed c) :
    restEnding c requested cancel now = (.completed, now + waitMillis c requested) := by
  have hdeadline : now + waitMillis c requested ≤ (deadline c now).instant :=
    Nat.add_le_add_left hwait now
  exact Wait.conclude_of_completed (Nat.le_add_right _ _) hcancel
    (by simpa [rest] using hdeadline)

theorem restEnding_of_expired {now : Instant}
    (hcancel : cancel.isPast (now + allowed c) = false)
    (hwait : allowed c < waitMillis c requested) :
    restEnding c requested cancel now = (.expired (deadline c now), now + allowed c) :=
  Wait.conclude_of_expired rfl (le_deadline c now) (Nat.add_lt_add_left hwait now) hcancel

/-- A `wait` is over by the first of its two limits. -/
theorem restEnding_le (c : Config) (requested : Option UInt64) (cancel : Cancellation)
    (now : Instant) : (restEnding c requested cancel now).2 ≤
      now + min (waitMillis c requested) (allowed c) := by
  rcases cancel.isPast_cases now (now + min (waitMillis c requested) (allowed c)) with
    hpast | ⟨t, hcancel, hnow, ht⟩ | hcancel
  · rw [restEnding_of_givenUp hpast]
    exact Nat.le_add_right _ _
  · rw [restEnding_of_interrupted hcancel hnow ht]
    exact Nat.le_of_lt ht
  · rcases Nat.lt_or_ge (allowed c) (waitMillis c requested) with hwait | hwait
    · rw [Nat.min_eq_right (Nat.le_of_lt hwait)] at hcancel ⊢
      exact Nat.le_of_eq (congrArg Prod.snd (restEnding_of_expired hcancel hwait))
    · rw [Nat.min_eq_left hwait] at hcancel ⊢
      exact Nat.le_of_eq (congrArg Prod.snd (restEnding_of_completed hcancel hwait))

/-! ## The whole dispatch -/

/-- A `wait` that is broken off is followed by letting go. -/
theorem dispatch_rest_broken {e : Failure} (hslot : s.slot = some page)
    (hfit : (deadline c s.clock).instant < horizon)
    (h : restEnding c requested cancel s.clock = (ending, t)) (he : ending.result = .error e) :
    Task.Meets 0 (· = s) (BrowserPilot.dispatch c (.wait requested) cancel) fun r s' ↦
      r = .error e ∧ s' = s.lettingGo page t := by
  have hslot' : ({ s with clock := t } : Scene B).slot = some page := hslot
  refine dispatch_granted hslot hfit (le_deadline c s.clock) ?_
  exact performAndObserve_of_error (he ▸ perform_wait h)
    ((release_meets hslot').mono (fun _ h ↦ h) fun r s' hr ↦ ⟨hr.1, rfl, hr.2⟩)

/-- A `wait` that lasts as long as it is to last is followed by a picture. -/
theorem dispatch_rest_completed (hslot : s.slot = some page)
    (hfit : (deadline c s.clock).instant < horizon)
    (h : restEnding c requested cancel s.clock = (.completed, t)) :
    Task.Meets 0 (· = s) (BrowserPilot.dispatch c (.wait requested) cancel)
      (Pictured { s with clock := t } page (deadline c s.clock)) := by
  have hin : t ≤ (deadline c s.clock).instant := by
    have hle := restEnding_le c requested cancel s.clock
    rw [h] at hle
    exact Nat.le_trans hle (Nat.add_le_add_left (Nat.min_le_right _ _) _)
  refine dispatch_granted hslot hfit (le_deadline c s.clock) ?_
  exact performAndObserve_of_ok (perform_wait h) (observe_pictured hslot hin)

/-- A `wait` that finds the lock free. The time asked for, or the usual one, is cut to the longest
wait of the settings, and the action to its own limit. A caller who gives up before the first of
the two has passed is told so then. If the wait is done by the limit, a picture is asked for next,
and if not, the action ends at its limit. The wait itself is over by the longest wait and by the
limit, whatever was asked for. -/
theorem wait_ends_at_first_limit (c : Config) (requested : Option UInt64) (cancel : Cancellation)
    (w : World B) (k : Caller) {page : B.Page} (hpage : w.slot = some page)
    (hfit : w.clock + c.actionTimeoutSeconds.toNat * 1000 < horizon) :
    let length := min (requested.getD c.waitMillis).toNat c.maxWaitMillis.toNat
    let limit := c.actionTimeoutSeconds.toNat * 1000
    let run := (BrowserPilot.dispatch c (.wait requested) cancel).run.alone w k
    (cancel.isPast w.clock = true → ∃ w' k',
      run = (.returned (.error .cancelled), w', k') ∧
        w'.scene = w.scene.lettingGo page w.clock) ∧
    (∀ t, cancel = .at t → w.clock ≤ t → t < w.clock + min length limit → ∃ w' k',
      run = (.returned (.error .cancelled), w', k') ∧ w'.scene = w.scene.lettingGo page t) ∧
    (cancel.isPast (w.clock + min length limit) = false →
      (length ≤ limit → ∃ r w' k', run = (.returned r, w', k') ∧
        Pictured { w.scene with clock := w.clock + length } page (deadline c w.clock) r
          w'.scene) ∧
      (limit < length → ∃ w' k',
        run = (.returned (.error (.timeout c.actionTimeout)), w', k') ∧
          w'.scene = w.scene.lettingGo page (w.clock + limit))) ∧
    ∃ r w' k', (perform c (.wait requested) cancel (deadline c w.clock)).run.alone w k =
        (.returned r, w', k') ∧
      w'.clock ≤ w.clock + min c.maxWaitMillis.toNat limit := by
  intro length limit run
  have hbroken {ending : Ending} {t : Instant} {e : Failure}
      (h : restEnding c requested cancel w.clock = (ending, t)) (he : ending.result = .error e) :
      ∃ w' k', run = (.returned (.error e), w', k') ∧ w'.scene = w.scene.lettingGo page t := by
    obtain ⟨r, w', k', hrun, rfl, hscene⟩ :=
      (dispatch_rest_broken (s := w.scene) hpage hfit h he).alone k
    exact ⟨w', k', hrun, hscene⟩
  refine ⟨fun hpast ↦ ?_, fun t hcancel hnow ht ↦ ?_, fun hcancel ↦ ⟨fun hwait ↦ ?_,
    fun hwait ↦ ?_⟩, ?_⟩
  · exact hbroken (restEnding_of_givenUp hpast) rfl
  · exact hbroken (restEnding_of_interrupted hcancel hnow ht) rfl
  · rw [Nat.min_eq_left hwait] at hcancel
    exact (dispatch_rest_completed (s := w.scene) hpage hfit
      (restEnding_of_completed hcancel hwait)).alone k
  · rw [Nat.min_eq_right (Nat.le_of_lt hwait)] at hcancel
    exact hbroken (restEnding_of_expired hcancel hwait) rfl
  · have hrest : Task.Meets 0 (· = w.scene)
        (perform c (.wait requested) cancel (deadline c w.clock))
        fun r s' ↦ r = (restEnding c requested cancel w.clock).1.result ∧
          s' = { w.scene with clock := (restEnding c requested cancel w.clock).2 } :=
      perform_wait rfl
    obtain ⟨r, w', k', hrun, -, hscene⟩ := hrest.alone k
    refine ⟨r, w', k', hrun, ?_⟩
    have hcut : min (waitMillis c requested) limit ≤ min c.maxWaitMillis.toNat limit :=
      Nat.le_min.2 ⟨Nat.le_trans (Nat.min_le_left _ _) (Nat.min_le_right _ _), Nat.min_le_right _ _⟩
    calc w'.clock = (restEnding c requested cancel w.clock).2 := congrArg Scene.clock hscene
      _ ≤ w.clock + min (waitMillis c requested) limit := restEnding_le c requested cancel w.clock
      _ ≤ w.clock + min c.maxWaitMillis.toNat limit := Nat.add_le_add_left hcut _

/-- A session with a page on which a picture takes a tenth of a second. -/
def restfulWorld : World recording :=
  { env := (), slot := some { behaviour := { screenshotDelay := 100 } } }

/-- A `wait` there of five seconds, of which the settings allow half a second, and whose caller
gives up after three tenths. -/
theorem restfulWorld_ends_at_first_limit :
    restfulWorld.slot = some { behaviour := { screenshotDelay := 100 } } ∧
      restfulWorld.clock + (1 : UInt64).toNat * 1000 < horizon ∧
      ∃ w' k', (BrowserPilot.dispatch { maxWaitMillis := 500, actionTimeoutSeconds := 1 }
          (.wait (some 5000)) (.at 300)).run.alone restfulWorld
          { sampler := fun _ ↦ (0, .ok "") } = (.returned (.error .cancelled), w', k') ∧
        w'.scene =
          restfulWorld.scene.lettingGo { behaviour := { screenshotDelay := 100 } } 300 ∧
        w'.clock = 300 := by
  have h := wait_ends_at_first_limit { maxWaitMillis := 500, actionTimeoutSeconds := 1 }
    (some 5000) (.at 300) restfulWorld { sampler := fun _ ↦ (0, .ok "") } rfl (by decide)
  obtain ⟨w', k', hrun, hscene⟩ := h.2.1 300 rfl (Nat.zero_le _) (by decide)
  have hclock : w'.clock = 300 :=
    (congrArg Scene.clock hscene).trans (Scene.clock_lettingGo _ _ _)
  exact ⟨rfl, by decide, w', k', hrun, hscene, hclock⟩

example : ((BrowserPilot.dispatch { maxWaitMillis := 500, actionTimeoutSeconds := 1 }
    (.wait (some 5000)) .never).run.alone restfulWorld
      { sampler := fun _ ↦ (0, .ok "") }).2.1.events = [(600, .screenshot false)] := rfl

end Dispatch

end BrowserPilot
