import BrowserPilot.Page.Recording
import BrowserPilot.Proofs.Dispatch.Course
import BrowserPilot.Proofs.Dispatch.Held

namespace BrowserPilot

/-!
# How long a dispatch takes

All that a dispatch waits for ends by its deadline, but for one thing: after an action
that stopped early, letting go takes as long as the page likes, with the lock held.
-/

namespace Dispatch

variable {B : Backend} {c : Config} {a : Action} {cancel : Cancellation} {s₀ s : Scene B}
  {d : Deadline} {r : Result Observation}

/-- When a dispatch is over. -/
inductive Ends (s₀ : Scene B) (a : Action) (d : Deadline) : Result Observation → Scene B → Prop
  | inTime {r : Result Observation} {s : Scene B} : s.clock ≤ d.instant → Ends s₀ a d r s
  /-- The action stopped early by the deadline, and from then on letting go took its time. -/
  | letGo {beats : List (Beat B)} {s : Scene B} {page : B.Page} {e : Failure} :
      s₀.Plays beats s → beats.map Beat.primitive <+: a.plan → s.slot = some page →
        s.clock ≤ d.instant →
        Ends s₀ a d (.error e)
          ({ s with clock := s.clock + B.delay page .releaseAll }.applied page .releaseAll)

theorem Course.ends (h : Course s₀ a d r s) : Ends s₀ a d r s := by
  cases h with
  | refused => exact .inTime (Nat.le_refl _)
  | letGo hunder hplan hpage => exact .letGo hunder.plays hplan hpage hunder.inTime
  | unseen hcarried => exact .inTime hcarried.inTime
  | seen hcarried => exact .inTime hcarried.inTime

/-- If letting go takes no time, neither does a dispatch after its deadline. -/
theorem Ends.inTime_of_prompt (h : Ends s₀ a d r s)
    (hprompt : ∀ page, B.delay page .releaseAll = 0) : s.clock ≤ d.instant := by
  cases h with
  | inTime h => exact h
  | @letGo beats s page e _ _ _ hin =>
      rw [Scene.applied_clock, hprompt page]
      exact hin

theorem Ends.inTime_recording {s₀ s : Scene recording} (h : Ends s₀ a d r s) :
    s.clock ≤ d.instant :=
  h.inTime_of_prompt fun _ ↦ rfl

/-- How a dispatch ends in any session, on whatever page and however long it queues for the lock: a
deadline that the clock cannot hold ends the program at once, and else it returns, by its deadline
unless it has to let go after an action that failed. -/
theorem dispatch_ends (c : Config) (a : Action) (cancel : Cancellation) (queued : Nat)
    (w : World B) (k : Caller) :
    (horizon ≤ (deadline c w.clock).instant ∧ ∃ reason k',
      (BrowserPilot.dispatch c a cancel).run.aloneAfter queued w k = (.crashed reason, w, k')) ∨
    ∃ r w' k', (BrowserPilot.dispatch c a cancel).run.aloneAfter queued w k =
      (.returned r, w', k') ∧ Ends w.scene a (deadline c w.clock) r w'.scene := by
  by_cases hfit : (deadline c w.clock).instant < horizon
  · refine .inr ?_
    have hends : Task.Meets queued (· = w.scene) (BrowserPilot.dispatch c a cancel)
        (Ends w.scene a (deadline c w.clock)) := by
      cases hpage : w.scene.slot.isSome with
      | true => exact (dispatch_course hpage hfit).mono (fun _ h ↦ h) fun _ _ h ↦ h.ends
      | false =>
          exact dispatch_withoutPage hpage hfit (fun _ ↦ .inTime (Nat.le_refl _))
            fun hin ↦ .inTime hin
    exact hends w k rfl
  · have hnone : Deadline.after? w.clock c.actionTimeoutSeconds.toNat = none := if_neg hfit
    exact .inl ⟨Nat.le_of_not_lt hfit, dispatch_crash a cancel queued k hnone⟩

/-- Pages that take five seconds to let go. -/
def sluggish : Backend :=
  { recording with
    delay := fun page p ↦ match p with
      | .releaseAll => 5000
      | p => page.delay p }

/-- A session with such a page, on which clicks fail. -/
def sluggishWorld : World sluggish :=
  { env := (), slot := some { behaviour := { failures := [⟨"click", none, none⟩] } } }

/-- A click there that is allowed one second. -/
def sluggishClick : Outcome (Result Observation) × World sluggish × Caller :=
  (BrowserPilot.dispatch { actionTimeoutSeconds := 1 } (.click 5 6 .left) .never).run.aloneAfter 0
    sluggishWorld { sampler := fun _ ↦ (0, .ok "") }

/-- A picture that is allowed as many seconds as a setting can tell. -/
def endlessPicture : Outcome (Result Observation) × World recording × Caller :=
  let config : Config := { actionTimeoutSeconds := 18446744073709551615 }
  (BrowserPilot.dispatch config .screenshot .never).run.aloneAfter 0
    { env := (), slot := some { behaviour := {} } } { sampler := fun _ ↦ (0, .ok "") }

/-- The click fails at once, and returns four seconds after its deadline. The picture is never
taken: the program ends. -/
theorem click_returns_late :
    (deadline { actionTimeoutSeconds := 1 } sluggishWorld.clock).instant = 1000 ∧
      (∃ e, sluggishClick.1 = .returned (.error e)) ∧ sluggishClick.2.1.clock = 5000 ∧
      ∃ reason, endlessPicture.1 = .crashed reason :=
  ⟨rfl, ⟨_, rfl⟩, rfl, _, rfl⟩

end Dispatch

end BrowserPilot
