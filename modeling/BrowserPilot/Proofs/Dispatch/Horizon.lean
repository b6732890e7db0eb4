import BrowserPilot.CommandLine.Parser
import BrowserPilot.Page.Recording
import BrowserPilot.Proofs.Dispatch.Course
import BrowserPilot.Proofs.Dispatch.Held

namespace BrowserPilot

/-!
# Deadlines beyond the clock

A dispatch crashes if and only if the clock cannot hold its deadline, and no check of the
settings prevents that: of the action timeout, all that is asked is that it is not zero.
-/

/-- Of an action timeout, a session asks nothing but that it is not zero. -/
theorem Config.validate_of_timeout {c : Config} {seconds : UInt64} (hseconds : seconds ≠ 0)
    (h : c.validate = .ok ()) :
    ({ c with actionTimeoutSeconds := seconds } : Config).validate = .ok () := by
  simp only [validate] at h ⊢
  grind

namespace Dispatch

variable {B : Backend}

/-- A dispatch whose deadline the clock can hold returns in any session. -/
theorem dispatch_returns {c : Config} {a : Action} {cancel : Cancellation} {queued : Nat}
    {s : Scene B} (hfit : (deadline c s.clock).instant < horizon) :
    Task.Meets queued (· = s) (BrowserPilot.dispatch c a cancel) fun _ _ ↦ True := by
  cases hpage : s.slot.isSome with
  | true => exact (dispatch_course hpage hfit).mono (fun _ h ↦ h) fun _ _ _ ↦ trivial
  | false => exact dispatch_withoutPage hpage hfit (fun _ ↦ trivial) fun _ ↦ trivial

/-- A deadline that is past the horizon whatever time it is. -/
theorem horizon_le_longest (c : Config) (now : Instant) :
    horizon ≤ (deadline { c with actionTimeoutSeconds := 18446744073709551615 } now).instant := by
  have hlongest : horizon ≤ (18446744073709551615 : UInt64).toNat * 1000 := by decide
  exact Nat.le_trans hlongest (Nat.le_add_left _ _)

/-- In any session, whatever the action and however long it queues for the lock, a dispatch returns
as long as the clock can hold its deadline. From then on it crashes, and leaves the session as it
was. No valid settings are safe from that: with another timeout they are as valid, and crash. -/
theorem crashes_iff_beyond_horizon (c : Config) (a : Action) (cancel : Cancellation) (queued : Nat)
    (w : World B) (k : Caller) :
    let fate (c : Config) := (BrowserPilot.dispatch c a cancel).run.aloneAfter queued w k
    ((∃ r, (fate c).1 = .returned r) ↔ w.clock + c.actionTimeoutSeconds.toNat * 1000 < horizon) ∧
    ((∃ reason, (fate c).1 = .crashed reason) ↔
      horizon ≤ w.clock + c.actionTimeoutSeconds.toNat * 1000) ∧
    ((∃ reason, (fate c).1 = .crashed reason) → (fate c).2.1 = w) ∧
    (c.validate = .ok () → ∃ seconds,
      ({ c with actionTimeoutSeconds := seconds } : Config).validate = .ok () ∧
      ∃ reason, (fate { c with actionTimeoutSeconds := seconds }).1 = .crashed reason) := by
  intro fate
  have hbeyond (c : Config) (hover : horizon ≤ (deadline c w.clock).instant) :
      ∃ reason, (fate c).1 = .crashed reason ∧ (fate c).2.1 = w := by
    obtain ⟨reason, k', hrun⟩ := dispatch_crash a cancel queued k (if_neg (Nat.not_lt_of_le hover))
    exact ⟨reason, congrArg Prod.fst hrun, congrArg (fun x ↦ x.2.1) hrun⟩
  have hraised (hvalid : c.validate = .ok ()) : ∃ seconds,
      ({ c with actionTimeoutSeconds := seconds } : Config).validate = .ok () ∧
      ∃ reason, (fate { c with actionTimeoutSeconds := seconds }).1 = .crashed reason := by
    obtain ⟨reason, hcrash, -⟩ := hbeyond _ (horizon_le_longest c w.clock)
    exact ⟨_, c.validate_of_timeout (by decide) hvalid, reason, hcrash⟩
  -- the two sides exclude each other, so each case settles both equivalences
  rcases Nat.lt_or_ge (deadline c w.clock).instant horizon with hfit | hover
  · have hreturns : Task.Meets queued (· = w.scene) (BrowserPilot.dispatch c a cancel)
        fun _ _ ↦ True := dispatch_returns hfit
    obtain ⟨r, w', k', hrun, -⟩ := hreturns w k rfl
    have hreturn : (fate c).1 = .returned r := congrArg Prod.fst hrun
    have hcrash : ¬ ∃ reason, (fate c).1 = .crashed reason := by simp [hreturn]
    exact ⟨⟨fun _ ↦ hfit, fun _ ↦ ⟨r, hreturn⟩⟩,
      ⟨fun h ↦ absurd h hcrash, fun h ↦ absurd hfit (Nat.not_lt_of_le h)⟩,
      fun h ↦ absurd h hcrash, hraised⟩
  · obtain ⟨reason, hcrash, hworld⟩ := hbeyond c hover
    have hreturn : ¬ ∃ r, (fate c).1 = .returned r := by simp [hcrash]
    exact ⟨⟨fun h ↦ absurd h hreturn, fun h ↦ absurd h (Nat.not_lt_of_le hover)⟩,
      ⟨fun _ ↦ hover, fun _ ↦ ⟨reason, hcrash⟩⟩, fun _ ↦ hworld, hraised⟩

/-- The command line takes an action timeout with which no action is ever carried out: the first
one ends the program. -/
theorem longest_timeout_crashes :
    ∃ given, CommandLine.parse ["--action-timeout-secs", "18446744073709551615"] = .ok given ∧
      (given.config {}).validate = .ok () ∧
      ∀ (a : Action) (cancel : Cancellation) (queued : Nat) (w : World recording) (k : Caller),
        ∃ reason, ((BrowserPilot.dispatch (given.config {}) a cancel).run.aloneAfter queued w k).1 =
          .crashed reason := by
  refine ⟨{ actionTimeout := some 18446744073709551615 }, by rfl, by rfl, ?_⟩
  intro a cancel queued w k
  have hover := horizon_le_longest {} w.clock
  obtain ⟨reason, k', hrun⟩ := dispatch_crash a cancel queued k (if_neg (Nat.not_lt_of_le hover))
  exact ⟨reason, congrArg Prod.fst hrun⟩

end Dispatch

end BrowserPilot
