import BrowserPilot.Proofs.Dispatch.Course
import BrowserPilot.Page.Recording

namespace BrowserPilot

/-!
# A caller who gives up before the lock comes

A `wait` notices it as soon as it has the lock, and no picture is taken. No other
action looks at the cancellation, so it takes the course that it takes for a caller
who never gives up.
-/

namespace Dispatch

variable {B : Backend} {queued : Nat} {c : Config} {cancel : Cancellation} {s : Scene B}

/-- How a `wait` ends whose caller gave up before the lock came. -/
inductive GivenUp (s₀ : Scene B) (d : Deadline) (queued : Nat) :
    Result Observation → Scene B → Prop
  /-- The lock does not come by the deadline. -/
  | refused : d.instant < s₀.clock + queued →
      GivenUp s₀ d queued (.error (.timeout d.limit)) { s₀ with clock := d.instant }
  /-- The lock comes, and all that is applied to the page is that everything is let go. -/
  | cancelled {page : B.Page} : s₀.clock + queued ≤ d.instant → s₀.slot = some page →
      GivenUp s₀ d queued (.error .cancelled)
        ({ s₀ with clock := s₀.clock + queued + B.delay page .releaseAll }.applied page .releaseAll)

theorem dispatch_wait_meets (requested : Option UInt64) (hpage : s.slot.isSome = true)
    (hfit : (deadline c s.clock).instant < horizon)
    (hpast : cancel.isPast (s.clock + queued) = true) :
    Task.Meets queued (· = s) (BrowserPilot.dispatch c (.wait requested) cancel)
      (GivenUp s (deadline c s.clock) queued) := by
  obtain ⟨page, hslot⟩ := Option.isSome_iff_exists.1 hpage
  refine dispatch_meets hpage hfit (fun hlate ↦ .refused hlate) fun hgranted ↦ ?_
  have hslot' : ({ s with clock := s.clock + queued } : Scene B).slot = some page := hslot
  refine performAndObserve_of_error (perform_wait (Wait.conclude_now_of_cancelled hpast))
    ((release_meets hslot').mono (fun _ h ↦ h) fun r s' hr ↦ ?_)
  obtain ⟨hr, rfl⟩ := hr
  exact ⟨hr, .cancelled hgranted hslot⟩

/-- Only a `wait` looks at the cancellation. -/
theorem dispatch_unheeding {a : Action} (h : ∀ requested, a ≠ .wait requested)
    (cancel cancel' : Cancellation) :
    (dispatch c a cancel : Task B.Page Observation) = dispatch c a cancel' := by
  have hperform (d : Deadline) :
      (perform c a cancel d : Task B.Page Unit) = perform c a cancel' d := by
    cases a with
    | wait requested => exact absurd rfl (h requested)
    | _ => rfl
  simp only [dispatch, run, performAndObserve, hperform]

/-- What becomes of a dispatch whose caller gave up before it was called or while it queued for
the lock. A `wait` is cancelled as soon as it has the lock. Any other action is dispatched as if
its caller never gave up, primitives, picture and all. -/
theorem given_up_before_the_lock (queued : Nat) {w : World B} (k : Caller)
    (hpage : w.slot.isSome = true) (hfit : (deadline c w.clock).instant < horizon)
    (hpast : cancel.isPast (w.clock + queued) = true) :
    (∀ requested, ∃ r w' k',
      (BrowserPilot.dispatch c (.wait requested) cancel).run.aloneAfter queued w k =
        (.returned r, w', k') ∧ GivenUp w.scene (deadline c w.clock) queued r w'.scene) ∧
    ∀ a, (∀ requested, a ≠ .wait requested) → ∃ r w' k',
      (BrowserPilot.dispatch c a cancel).run.aloneAfter queued w k = (.returned r, w', k') ∧
        (BrowserPilot.dispatch c a .never).run.aloneAfter queued w k = (.returned r, w', k') ∧
        Course w.scene a (deadline c w.clock) r w'.scene := by
  constructor
  · intro requested
    exact dispatch_wait_meets requested hpage hfit hpast w k rfl
  · intro a ha
    have hmeets : Task.Meets queued (· = w.scene) (BrowserPilot.dispatch c a .never)
        (Course w.scene a (deadline c w.clock)) := dispatch_course hpage hfit
    obtain ⟨r, w', k', hrun, hcourse⟩ := hmeets w k rfl
    refine ⟨r, w', k', ?_, hrun, hcourse⟩
    rw [dispatch_unheeding ha cancel .never]
    exact hrun

/-- A session with a page on which nothing fails. -/
def willingWorld : World recording := { env := (), slot := some { behaviour := {} } }

theorem given_up_before_the_click :
    willingWorld.slot.isSome = true ∧ (deadline {} willingWorld.clock).instant < horizon ∧
      Cancellation.before.isPast (willingWorld.clock + 100) = true ∧
      (∀ requested, Action.click 5 6 .left ≠ .wait requested) ∧
      ∃ r w' k', (BrowserPilot.dispatch {} (.click 5 6 .left) .before).run.aloneAfter 100
          willingWorld { sampler := fun _ ↦ (0, .ok "") } = (.returned r, w', k') ∧
        Course willingWorld.scene (.click 5 6 .left) (deadline {} 0) r w'.scene := by
  have hclick : ∀ requested, Action.click 5 6 .left ≠ .wait requested := nofun
  have hpast : Cancellation.before.isPast (willingWorld.clock + 100) = true := rfl
  have h := given_up_before_the_lock 100 (c := {}) (w := willingWorld)
    { sampler := fun _ ↦ (0, .ok "") } rfl (by decide) hpast
  obtain ⟨r, w', k', hrun, -, hcourse⟩ := h.2 (.click 5 6 .left) hclick
  exact ⟨rfl, by decide, rfl, hclick, r, w', k', hrun, hcourse⟩

/-- A click whose caller gave up before the call. -/
def unwantedClick : Outcome (Result Observation) × World recording × Caller :=
  (BrowserPilot.dispatch {} (.click 5 6 .left) .before).run.aloneAfter 0 willingWorld
    { sampler := fun _ ↦ (0, .ok "") }

/-- A click that queues for a tenth of a second, and whose caller gives up halfway through. -/
def queuedClick : Outcome (Result Observation) × World recording × Caller :=
  (BrowserPilot.dispatch {} (.click 5 6 .left) (.at 50)).run.aloneAfter 100 willingWorld
    { sampler := fun _ ↦ (0, .ok "") }

/-- Both clicks reach the page, and a picture is returned. -/
theorem clicks_though_given_up :
    ((∃ o, unwantedClick.1 = .returned (.ok o)) ∧
      unwantedClick.2.1.events = [(0, .input (.click 5 6 .left)), (0, .screenshot false)]) ∧
    Cancellation.isPast (.at 50) 100 = true ∧ (∃ o, queuedClick.1 = .returned (.ok o)) ∧
      queuedClick.2.1.events = [(100, .input (.click 5 6 .left)), (100, .screenshot false)] :=
  ⟨⟨⟨_, rfl⟩, rfl⟩, rfl, ⟨_, rfl⟩, rfl⟩

end Dispatch

end BrowserPilot
