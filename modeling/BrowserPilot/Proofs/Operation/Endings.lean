import BrowserPilot.Proofs.Operation.Move

namespace BrowserPilot

/-!
# How requests end

Only its own deadline and its own caller end a request early, alone and among others.
-/

namespace Request

variable {π : Type}

def deadline? : Request π → Option Deadline
  | lock d | primitive _ d | pause _ _ d => d
  | _ => none

def cancellation : Request π → Cancellation
  | pause _ c _ | sample _ c => c
  | _ => .never

end Request

/-- Whether a request can end so. -/
def Ending.Fits {π : Type} (ending : Ending) (r : Request π) : Prop :=
  match ending with
  | completed => True
  | expired d => r.deadline? = some d
  | cancelled => r.cancellation ≠ .never

/-- A wait for the end of this request. Only a wait for the lock waits for no instant. -/
structure Wait.For {π : Type} (wait : Wait) (r : Request π) : Prop where
  deadline : wait.deadline = r.deadline?
  cancel : wait.cancel = r.cancellation
  lock : ∀ d, r = .lock d → wait.until? = none

variable {B : Backend} {α : Type} {r : Request B.Page} {wait : Wait} {ending : Ending}

namespace Wait.For

theorem fits_expired (h : wait.For r) {d : Deadline} (hd : wait.deadline = some d) :
    (Ending.expired d).Fits r :=
  h.deadline.symm.trans hd

theorem fits_cancelled (h : wait.For r) (hcancel : wait.cancel ≠ .never) :
    Ending.cancelled.Fits r := by
  rw [h.cancel] at hcancel
  exact hcancel

theorem fits_of_isPast (h : wait.For r) {now : Instant} (hpast : wait.cancel.isPast now = true) :
    Ending.cancelled.Fits r := by
  refine h.fits_cancelled fun hnever ↦ ?_
  simp [hnever, Cancellation.isPast] at hpast

theorem fits_conclude (h : wait.For r) (now t : Instant) : (wait.conclude now t).1.Fits r := by
  have hcancelled {u : Instant} (hlate : ¬ notAfter u (wait.cancelInstant? now) = true) :
      Ending.cancelled.Fits r := by
    refine h.fits_cancelled fun hnever ↦ ?_
    simp [cancelInstant?, hnever, notAfter] at hlate
  simp only [conclude]
  split
  · rename_i hpast
    exact h.fits_of_isPast hpast
  · split
    · rename_i u d hd
      obtain ⟨d', hd', heq⟩ := Option.map_eq_some_iff.1 hd
      obtain ⟨-, rfl⟩ := Prod.mk.inj heq
      split
      · trivial
      · split
        · exact h.fits_expired hd'
        · rename_i hlate
          exact hcancelled hlate
    · split
      · trivial
      · rename_i hlate
        exact hcancelled hlate

end Wait.For

theorem World.for_of_waitFor {w : World B} {c : Caller} (h : w.waitFor c r = some wait) :
    wait.For r := by
  cases r with
  | primitive p d =>
      obtain ⟨page, -, rfl⟩ := Option.map_eq_some_iff.1 h
      exact ⟨rfl, rfl, nofun⟩
  | pause _ _ _ | sample _ _ | launch _ =>
      obtain rfl := Option.some.inj h
      exact ⟨rfl, rfl, nofun⟩
  | _ => simp [waitFor] at h

namespace Shared

variable {s : Shared B} {c : Caller}

theorem begin_of_ne_lock (hr : ∀ d, r ≠ .lock d) :
    s.begin c r = match s.world.waitFor c r with
      | none => .inl .completed
      | some wait =>
        if wait.cancel.isPast s.world.clock then .inl .cancelled
        else if (wait.until?.getD s.world.clock) ≤ s.world.clock then .inl .completed
        else match wait.deadline with
          | some d => if d.instant ≤ s.world.clock then .inl (.expired d) else .inr wait
          | none => .inr wait := by
  cases r with
  | lock d => exact absurd rfl (hr d)
  | _ => rfl

/-- A request that takes effect at once. -/
theorem fits_of_begin (h : s.begin c r = .inl ending) : ending.Fits r := by
  by_cases hr : ∃ d, r = .lock d
  · obtain ⟨d, rfl⟩ := hr
    simp only [begin] at h
    split at h
    · obtain rfl := Sum.inl.inj h
      trivial
    · cases h
  · rw [begin_of_ne_lock fun d hd ↦ hr ⟨d, hd⟩] at h
    split at h
    · obtain rfl := Sum.inl.inj h
      trivial
    · rename_i wait hwait
      have hfor := World.for_of_waitFor hwait
      split at h
      · rename_i hpast
        obtain rfl := Sum.inl.inj h
        exact hfor.fits_of_isPast hpast
      · split at h
        · obtain rfl := Sum.inl.inj h
          trivial
        · split at h
          · rename_i d hd
            split at h
            · obtain rfl := Sum.inl.inj h
              exact hfor.fits_expired hd
            · cases h
          · cases h

/-- A request that is waited for. -/
theorem for_of_begin (h : s.begin c r = .inr wait) : wait.For r := by
  by_cases hr : ∃ d, r = .lock d
  · obtain ⟨d, rfl⟩ := hr
    simp only [begin] at h
    split at h
    · cases h
    · obtain rfl := Sum.inr.inj h
      exact ⟨rfl, rfl, fun _ _ ↦ rfl⟩
  · rw [begin_of_ne_lock fun d hd ↦ hr ⟨d, hd⟩] at h
    split at h
    · cases h
    · rename_i wait' hwait
      have hfor := World.for_of_waitFor hwait
      split at h
      · cases h
      · split at h
        · cases h
        · split at h
          · split at h
            · cases h
            · obtain rfl := Sum.inr.inj h
              exact hfor
          · obtain rfl := Sum.inr.inj h
            exact hfor

/-- What an operation waits for when it has run as far as it can. -/
theorem for_of_run {i : Nat} {p : Operation B.Page α} {next : r.Answer → Operation B.Page α}
    (h : (run i p s c).1 = .waiting r wait next) : wait.For r := by
  induction p generalizing s c with
  | done a => cases h
  | crash reason => cases h
  | ask r' next' ih =>
      cases hbegin : s.begin (c.note r') r' with
      | inl ending =>
          rw [run_of_inl hbegin] at h
          exact ih _ h
      | inr wait' =>
          rw [run_of_inr hbegin] at h
          cases h
          exact for_of_begin hbegin

end Shared

namespace Stage

variable {s : Shared B} {i : Nat} {next : r.Answer → Operation B.Page α}

theorem endingNow?_cases (h : (waiting r wait next).endingNow? s i = some ending) :
    ending = .cancelled ∧ wait.cancel.isPast s.world.clock = true ∨ ending = .completed ∨
      ∃ d, wait.deadline = some d ∧ ending = .expired d := by
  unfold endingNow? at h
  grind

/-- A wait that ends now, among others. -/
theorem fits_of_endsNow (hfor : wait.For r) (h : (waiting r wait next).EndsNow s i ending) :
    ending.Fits r := by
  rcases h with h | ⟨-, h⟩
  · rcases endingNow?_cases h with ⟨rfl, hpast⟩ | rfl | ⟨d, hd, rfl⟩
    · exact hfor.fits_of_isPast hpast
    · trivial
    · exact hfor.fits_expired hd
  · obtain ⟨until?, cancel, deadline⟩ := wait
    cases cancel with
    | «at» t =>
        simp only [cancelledNow?] at h
        split at h
        · obtain rfl := Option.some.inj h
          exact hfor.fits_cancelled (by simp)
        · cases h
    | never => cases h
    | before => cases h

end Stage

end BrowserPilot
