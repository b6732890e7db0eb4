import BrowserPilot.Operation.World

namespace BrowserPilot

/-!
# How waits end

A wait that begins before all its instants ends at the first of them. At one
instant completion comes before the deadline, and the deadline before a caller who
gives up then.
-/

namespace Wait

variable {w : Wait} {now t u : Instant}

/-- A wait is completed if neither the deadline nor the caller ends it before. -/
theorem conclude_of_completed (hnow : now ≤ t) (hcancel : w.cancel.isPast t = false)
    (hdeadline : ∀ d ∈ w.deadline, t ≤ d.instant) : w.conclude now t = (.completed, t) := by
  obtain ⟨u, cancel, deadline⟩ := w
  have hmax : max now t = t := Nat.max_eq_right hnow
  cases cancel with
  | before => simp [Cancellation.isPast] at hcancel
  | never =>
      cases deadline with
      | none =>
          simp [conclude, Cancellation.isPast, deadlineInstant?, cancelInstant?, notAfter, hmax]
      | some d =>
          have ht : t ≤ max now d.instant := by
            have := hdeadline d rfl
            lia
          simp [conclude, Cancellation.isPast, deadlineInstant?, cancelInstant?, notAfter, hmax, ht]
  | «at» v =>
      have hv : t ≤ v := by simpa [Cancellation.isPast] using hcancel
      have hpast : ¬ v < now := by lia
      have hlate : t ≤ max now v := by lia
      cases deadline with
      | none =>
          simp [conclude, Cancellation.isPast, deadlineInstant?, cancelInstant?, notAfter, hmax,
            hpast, hlate]
      | some d =>
          have ht : t ≤ max now d.instant := by
            have := hdeadline d rfl
            lia
          simp [conclude, Cancellation.isPast, deadlineInstant?, cancelInstant?, notAfter, hmax,
            hpast, hlate, ht]

/-- A wait that is not completed by its deadline ends there, unless the caller gives up before. -/
theorem conclude_of_expired {d : Deadline} (hd : w.deadline = some d) (hnow : now ≤ d.instant)
    (ht : d.instant < t) (hcancel : w.cancel.isPast d.instant = false) :
    w.conclude now t = (.expired d, d.instant) := by
  obtain ⟨u, cancel, deadline⟩ := w
  obtain rfl : deadline = some d := hd
  have hmax : max now t = t := by lia
  have hmax' : max now d.instant = d.instant := Nat.max_eq_right hnow
  have hlt : ¬ t ≤ d.instant := Nat.not_le_of_lt ht
  cases cancel with
  | before => simp [Cancellation.isPast] at hcancel
  | never =>
      simp [conclude, Cancellation.isPast, deadlineInstant?, cancelInstant?, notAfter, hmax, hmax',
        hlt]
  | «at» v =>
      have hv : d.instant ≤ v := by simpa [Cancellation.isPast] using hcancel
      have hpast : ¬ v < now := by lia
      have hlate : d.instant ≤ max now v := by lia
      simp [conclude, Cancellation.isPast, deadlineInstant?, cancelInstant?, notAfter, hmax, hmax',
        hlt, hpast, hlate]

/-- A caller who gives up before the wait ends otherwise ends it. -/
theorem conclude_of_cancelled {s : Instant}
    (hs : s = min t ((w.deadline.map Deadline.instant).getD t))
    (hnow : now ≤ s) (hcancel : w.cancel.isPast s = true) :
    ∃ u, w.conclude now t = (.cancelled, u) ∧ now ≤ u ∧ u ≤ s := by
  obtain ⟨until?, cancel, deadline⟩ := w
  cases cancel with
  | never => simp [Cancellation.isPast] at hcancel
  | before => exact ⟨now, by simp [conclude, Cancellation.isPast], Nat.le_refl now, hnow⟩
  | «at» v =>
      have hv : v < s := by simpa [Cancellation.isPast] using hcancel
      by_cases hpast : v < now
      · exact ⟨now, by simp [conclude, Cancellation.isPast, hpast], Nat.le_refl now, hnow⟩
      · refine ⟨max now v, ?_, Nat.le_max_left _ _, by lia⟩
        have hnot : ¬ max now t ≤ max now v := by lia
        cases deadline with
        | none =>
            simp [conclude, Cancellation.isPast, deadlineInstant?, cancelInstant?, notAfter, hpast,
              hnot]
        | some d =>
            have hd : ¬ max now d.instant ≤ max now v := by
              simp only [Option.map_some, Option.getD_some] at hs
              lia
            simp [conclude, Cancellation.isPast, deadlineInstant?, cancelInstant?, notAfter, hpast,
              hnot, hd]

/-- However a wait ends, it ends by its deadline. -/
theorem conclude_inTime {d : Deadline} (hd : w.deadline = some d) (hnow : now ≤ d.instant) :
    (w.conclude now t).2 ≤ d.instant := by
  have hmax : max now d.instant = d.instant := Nat.max_eq_right hnow
  simp only [conclude, deadlineInstant?, hd, Option.map_some, hmax]
  split
  · exact hnow
  · split
    · rename_i h
      exact h.1
    · split
      · exact Nat.le_refl _
      · rename_i h
        cases hcancel : w.cancelInstant? now with
        | none => simp [hcancel, notAfter] at h
        | some u =>
            have hlt : ¬ d.instant ≤ u := by simpa [hcancel, notAfter] using h
            exact Nat.le_of_lt (Nat.lt_of_not_le hlt)

/-- No wait ends before it begins. -/
theorem le_conclude : now ≤ (w.conclude now t).2 := by
  have hcancel : now ≤ (w.cancelInstant? now).getD now := by
    unfold cancelInstant?
    split
    · exact Nat.le_refl now
    · exact Nat.le_refl now
    · exact Nat.le_max_left _ _
  simp only [conclude]
  split
  · exact Nat.le_refl now
  · split
    · rename_i u d hd
      have hu : now ≤ u := by
        obtain ⟨d', -, heq⟩ := Option.map_eq_some_iff.1 hd
        obtain ⟨rfl, -⟩ := Prod.mk.inj heq
        exact Nat.le_max_left _ _
      split
      · exact Nat.le_max_left _ _
      · split
        · exact hu
        · exact hcancel
    · split
      · exact Nat.le_max_left _ _
      · exact hcancel

/-! ## Waits that end at once -/

theorem conclude_now_of_cancelled (h : w.cancel.isPast now = true) :
    w.conclude now t = (.cancelled, now) := by
  simp only [conclude, h, if_true]

theorem conclude_now_of_completed (hcancel : w.cancel.isPast now = false) (ht : t ≤ now) :
    w.conclude now t = (.completed, now) := by
  obtain ⟨until?, cancel, deadline⟩ := w
  have hmax : max now t = now := Nat.max_eq_left ht
  have hlate : ∀ d : Deadline, now ≤ max now d.instant := fun d ↦ Nat.le_max_left _ _
  cases cancel with
  | before => simp [Cancellation.isPast] at hcancel
  | never =>
      cases deadline <;> simp [conclude, hcancel, hmax, deadlineInstant?, cancelInstant?, notAfter,
        hlate]
  | «at» v =>
      have hv : now ≤ max now v := Nat.le_max_left _ _
      cases deadline <;> simp [conclude, hcancel, hmax, deadlineInstant?, cancelInstant?, notAfter,
        hlate, hv]

theorem conclude_now_of_expired {d : Deadline} (hd : w.deadline = some d)
    (hcancel : w.cancel.isPast now = false) (hnow : d.instant ≤ now) (ht : now < t) :
    w.conclude now t = (.expired d, now) := by
  obtain ⟨until?, cancel, deadline⟩ := w
  obtain rfl : deadline = some d := hd
  have hmax : max now t = t := Nat.max_eq_right (Nat.le_of_lt ht)
  have hmax' : max now d.instant = now := Nat.max_eq_left hnow
  have hlate : ¬ t ≤ now := Nat.not_le_of_lt ht
  cases cancel with
  | before => simp [Cancellation.isPast] at hcancel
  | never =>
      simp [conclude, hcancel, hmax, hmax', hlate, deadlineInstant?, cancelInstant?, notAfter]
  | «at» v =>
      have hv : now ≤ max now v := Nat.le_max_left _ _
      simp [conclude, hcancel, hmax, hmax', hlate, deadlineInstant?, cancelInstant?, notAfter, hv]

theorem conclude_of_cancelled_at (hcancel : w.cancel = .at u) (hnow : now ≤ u) (ht : u < t)
    (hdeadline : ∀ d ∈ w.deadline, u < d.instant) : w.conclude now t = (.cancelled, u) := by
  obtain ⟨until?, cancel, deadline⟩ := w
  obtain rfl : cancel = .at u := hcancel
  have hpast : ¬ u < now := Nat.not_lt_of_le hnow
  have hmax : max now u = u := Nat.max_eq_right hnow
  have hmax' : max now t = t := Nat.max_eq_right (Nat.le_of_lt (Nat.lt_of_le_of_lt hnow ht))
  have hlate : ¬ t ≤ u := Nat.not_le_of_lt ht
  cases deadline with
  | none =>
      simp [conclude, Cancellation.isPast, hpast, deadlineInstant?, cancelInstant?, notAfter, hmax,
        hmax', hlate]
  | some d =>
      have hd : ¬ max now d.instant ≤ u := by
        have := hdeadline d rfl
        lia
      simp [conclude, Cancellation.isPast, hpast, deadlineInstant?, cancelInstant?, notAfter, hmax,
        hmax', hlate, hd]

end Wait

end BrowserPilot
