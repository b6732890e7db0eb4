import BrowserPilot.Dispatch
import BrowserPilot.Proofs.Operation.Triple

namespace BrowserPilot

/-!
# The phases of a dispatch

A dispatch gets the lock, performs the action, and then either takes a picture or
lets everything go. Each phase has a rule of its own, and the rule of the whole
dispatch asks for nothing but the phases.
-/

namespace Dispatch

variable {B : Backend} {queued : Nat}

/-- The deadline of a dispatch that begins at `now`. -/
def deadline (c : Config) (now : Instant) : Deadline :=
  ⟨now + c.actionTimeoutSeconds.toNat * 1000, c.actionTimeout⟩

theorem le_deadline (c : Config) (now : Instant) : now ≤ (deadline c now).instant :=
  Nat.le_add_right _ _

theorem after?_eq_some {c : Config} {now : Instant} {d : Deadline} :
    Deadline.after? now c.actionTimeoutSeconds.toNat = some d ↔
      (deadline c now).instant < horizon ∧ deadline c now = d := by
  rw [Deadline.after?, Option.ite_none_right_eq_some, Option.some.injEq]
  rfl

/-! ## Performing -/

/-- What holds after each primitive that had its effect, and what holds when one fails. -/
theorem applyAll_meets {d : Deadline} {I : List Primitive → Scene B → Prop}
    {E : Failure → Scene B → Prop} {ps : List Primitive}
    (hstep : ∀ done p rest, ps = done ++ p :: rest →
      Task.Meets queued (I done) (Task.primitive p (some d)) fun r s ↦
        (∀ reply, r = .ok reply → I (done ++ [p]) s) ∧ ∀ e, r = .error e → E e s) :
    Task.Meets queued (I []) (applyAll d ps) fun r s ↦
      (r = .ok () → I ps s) ∧ ∀ e, r = .error e → E e s := by
  suffices h : ∀ rest done, ps = done ++ rest →
      Task.Meets queued (I done) (applyAll d rest) fun r s ↦
        (r = .ok () → I ps s) ∧ ∀ e, r = .error e → E e s from h ps [] rfl
  intro rest
  induction rest with
  | nil =>
      intro done hps
      obtain rfl : ps = done := by simpa using hps
      exact Task.Meets.pure () fun s hs ↦ ⟨fun _ ↦ hs, fun e h ↦ by simp at h⟩
  | cons p rest ih =>
      intro done hps
      refine (hstep done p rest hps).bind (fun reply ↦ ?_) fun e s h ↦ ?_
      · have hrest := ih (done ++ [p]) (by simpa using hps)
        exact hrest.mono (fun s h ↦ h.1 reply rfl) fun _ _ h ↦ h
      · exact ⟨fun h' ↦ by simp at h', fun e' h' ↦ h.2 e' (by simpa using h')⟩

/-- An action applies its plan, and then only a `wait` goes on. -/
theorem perform_meets {c : Config} {a : Action} {cancel : Cancellation} {d : Deadline}
    {P : Scene B → Prop} {M Q : Result Unit → Scene B → Prop}
    (hplan : Task.Meets queued P (applyAll d a.plan) M)
    (hwait : ∀ requested, a = .wait requested →
      Task.Meets queued (M (.ok ())) (Task.pause (waitMillis c requested) cancel (some d)) Q)
    (hother : (∀ requested, a ≠ .wait requested) → ∀ s, M (.ok ()) s → Q (.ok ()) s)
    (herror : ∀ e s, M (.error e) s → Q (.error e) s) :
    Task.Meets queued P (perform c a cancel d) Q := by
  refine hplan.bind (fun _ ↦ ?_) herror
  cases a with
  | wait requested => exact hwait requested rfl
  | _ => exact Task.Meets.pure () (hother (by simp))

/-- A `wait` applies nothing, and ends as what it waits for ends first. -/
theorem perform_wait {c : Config} {requested : Option UInt64} {cancel : Cancellation}
    {d : Deadline} {s : Scene B} {ending : Ending} {t : Instant}
    (h : (Wait.mk (some (s.clock + waitMillis c requested)) cancel (some d)).conclude s.clock
      (s.clock + waitMillis c requested) = (ending, t)) :
    Task.Meets queued (· = s) (perform c (.wait requested) cancel d) fun r s' ↦
      r = ending.result ∧ s' = { s with clock := t } := by
  have hplan : Task.Meets queued (· = s) (applyAll d (Action.wait requested).plan) fun r s' ↦
      r = .ok () ∧ s' = s := .pure () fun _ hs ↦ ⟨rfl, hs⟩
  refine perform_meets hplan (fun requested' ha ↦ ?_) (fun h ↦ absurd rfl (h requested))
    fun e s' h ↦ by simp at h
  obtain rfl := Action.wait.inj ha
  refine Task.Meets.of_forall fun s' hs' ↦ ?_
  obtain rfl := hs'.2
  exact Task.Meets.pause h ⟨rfl, rfl⟩

/-! ## Letting go, and looking -/

theorem release_meets {s : Scene B} {page : B.Page} (hpage : s.slot = some page) :
    Task.Meets queued (· = s) release fun r s' ↦ r = .ok () ∧
      s' = { s with clock := s.clock + B.delay page .releaseAll }.applied page .releaseAll := by
  have happly : Task.Meets queued (· = s) (Task.primitive .releaseAll none) fun _ s' ↦
      s' = { s with clock := s.clock + B.delay page .releaseAll }.applied page .releaseAll :=
    Task.Meets.primitive hpage (by simp) (fun _ ↦ rfl) (by simp)
  refine happly.result_bind fun r ↦ ?_
  cases r with
  | ok _ => exact Task.Meets.pure () fun _ h ↦ ⟨rfl, h⟩
  | error e => exact Task.Meets.log .warn _ _

theorem observe_meets {d : Option Deadline} {P : Scene B → Prop}
    {Q : Result Observation → Scene B → Prop}
    (hshot : Task.Meets queued P (Task.primitive (.screenshot false) d)
      fun (r : Result (List UInt8)) s ↦ Q (r.map Observation.mk) s) :
    Task.Meets queued P (Session.observe d) Q := by
  refine hshot.bind (fun bytes ↦ ?_) fun e s h ↦ h
  exact (Task.Meets.log .trace _ _).bind (fun _ ↦ Task.Meets.pure _ fun s h ↦ h.2)
    fun e s h ↦ by simp at h

/-! ## The whole dispatch -/

/-- With the lock held, an action that fails is followed by letting go, and one that succeeds by a
picture. -/
theorem performAndObserve_meets {c : Config} {a : Action} {cancel : Cancellation} {d : Deadline}
    {P : Scene B → Prop} {M : Result Unit → Scene B → Prop}
    {Q : Result Observation → Scene B → Prop}
    (hperform : Task.Meets queued P (perform c a cancel d) M)
    (hobserve : Task.Meets queued (M (.ok ())) (Session.observe (some d)) Q)
    (hrelease : ∀ e, Task.Meets queued (M (.error e)) release fun r s ↦
      r = .ok () ∧ Q (.error e) s) :
    Task.Meets queued P (performAndObserve c a cancel d) Q := by
  refine hperform.result_bind fun r ↦ ?_
  cases r with
  | ok _ => exact hobserve
  | error e =>
      exact (hrelease e).bind (fun _ ↦ Task.Meets.throw e fun _ h ↦ h.2) fun e' s h ↦ by simp at h

/-- An action that succeeds is followed by a picture. -/
theorem performAndObserve_of_ok {c : Config} {a : Action} {cancel : Cancellation} {d : Deadline}
    {P M : Scene B → Prop} {Q : Result Observation → Scene B → Prop}
    (hperform : Task.Meets queued P (perform c a cancel d) fun r s ↦ r = .ok () ∧ M s)
    (hobserve : Task.Meets queued M (Session.observe (some d)) Q) :
    Task.Meets queued P (performAndObserve c a cancel d) Q := by
  refine performAndObserve_meets hperform (hobserve.mono (fun _ h ↦ h.2) fun _ _ h ↦ h) fun e ↦ ?_
  exact Task.Meets.of_forall fun s h ↦ by simp at h

/-- An action that fails is followed by letting go. -/
theorem performAndObserve_of_error {c : Config} {a : Action} {cancel : Cancellation} {d : Deadline}
    {e : Failure} {P M : Scene B → Prop} {Q : Result Observation → Scene B → Prop}
    (hperform : Task.Meets queued P (perform c a cancel d) fun r s ↦ r = .error e ∧ M s)
    (hrelease : Task.Meets queued M release fun r s ↦ r = .ok () ∧ Q (.error e) s) :
    Task.Meets queued P (performAndObserve c a cancel d) Q := by
  refine performAndObserve_meets hperform (Task.Meets.of_forall fun s h ↦ by simp at h) fun e' ↦ ?_
  refine Task.Meets.of_forall fun s h ↦ ?_
  obtain rfl : e' = e := Except.error.inj h.1
  exact hrelease.mono (fun s' hs' ↦ hs' ▸ h.2) fun _ _ h ↦ h

end Dispatch

section

variable {B : Backend} {queued : Nat} {c : Config} {a : Action} {cancel : Cancellation}
  {s : Scene B} {Q : Result Observation → Scene B → Prop}

theorem dispatch_of_run (hrun : Task.Meets queued (· = s) (Dispatch.run c a cancel) Q) :
    Task.Meets queued (· = s) (dispatch c a cancel) Q := by
  refine (Task.Meets.inSpan _ hrun).result_bind fun r ↦ ?_
  cases r with
  | ok o =>
      exact (Task.Meets.log .info _ _).bind (fun _ ↦ Task.Meets.pure o fun s h ↦ h.2)
        fun e s h ↦ by simp at h
  | error e =>
      exact (Task.Meets.log .warn _ _).bind (fun _ ↦ Task.Meets.throw e fun s h ↦ h.2)
        fun e' s h ↦ by simp at h

/-- A dispatch on an attached page: either the lock does not come by the deadline, or the phases
follow one another under the lock. -/
theorem dispatch_meets (hpage : s.slot.isSome = true)
    (hfit : (Dispatch.deadline c s.clock).instant < horizon)
    (hlate : (Dispatch.deadline c s.clock).instant < s.clock + queued →
      Q (.error (.timeout c.actionTimeout))
        { s with clock := (Dispatch.deadline c s.clock).instant })
    (hbody : s.clock + queued ≤ (Dispatch.deadline c s.clock).instant →
      Task.Meets queued (· = { s with clock := s.clock + queued })
        (Dispatch.performAndObserve c a cancel (Dispatch.deadline c s.clock)) Q) :
    Task.Meets queued (· = s) (dispatch c a cancel) Q := by
  refine dispatch_of_run (Task.Meets.now_bind fun s' hs' ↦ ?_)
  subst hs'
  rw [Dispatch.after?_eq_some.2 ⟨hfit, rfl⟩]
  exact Task.Meets.withPage hpage (Dispatch.le_deadline c _) hlate hbody

/-- A dispatch that gets the lock by its deadline. -/
theorem dispatch_granted {page : B.Page} (hslot : s.slot = some page)
    (hfit : (Dispatch.deadline c s.clock).instant < horizon)
    (hgranted : s.clock + queued ≤ (Dispatch.deadline c s.clock).instant)
    (hbody : Task.Meets queued (· = { s with clock := s.clock + queued })
      (Dispatch.performAndObserve c a cancel (Dispatch.deadline c s.clock)) Q) :
    Task.Meets queued (· = s) (dispatch c a cancel) Q := by
  have hpage : s.slot.isSome = true := by rw [hslot]; rfl
  exact dispatch_meets hpage hfit (fun hlate ↦ absurd hgranted (Nat.not_le_of_lt hlate))
    fun _ ↦ hbody

/-- A dispatch in a session without a page. -/
theorem dispatch_withoutPage (hpage : s.slot.isSome = false)
    (hfit : (Dispatch.deadline c s.clock).instant < horizon)
    (hlate : (Dispatch.deadline c s.clock).instant < s.clock + queued →
      Q (.error (.timeout c.actionTimeout))
        { s with clock := (Dispatch.deadline c s.clock).instant })
    (hin : s.clock + queued ≤ (Dispatch.deadline c s.clock).instant →
      Q (.error .notStarted) { s with clock := s.clock + queued }) :
    Task.Meets queued (· = s) (dispatch c a cancel) Q := by
  refine dispatch_of_run (Task.Meets.now_bind fun s' hs' ↦ ?_)
  subst hs'
  rw [Dispatch.after?_eq_some.2 ⟨hfit, rfl⟩]
  exact Task.Meets.withoutPage hpage (Dispatch.le_deadline c _) hlate hin

/-- A dispatch that does not get the lock by its deadline is over then, be there a page or not. -/
theorem dispatch_late (hfit : (Dispatch.deadline c s.clock).instant < horizon)
    (hlate : (Dispatch.deadline c s.clock).instant < s.clock + queued) :
    Task.Meets queued (· = s) (dispatch c a cancel) fun r s' ↦
      r = .error (.timeout c.actionTimeout) ∧
        s' = { s with clock := (Dispatch.deadline c s.clock).instant } := by
  refine dispatch_of_run (Task.Meets.now_bind fun s' hs' ↦ ?_)
  subst hs'
  rw [Dispatch.after?_eq_some.2 ⟨hfit, rfl⟩]
  exact Task.Meets.locked_late (Dispatch.le_deadline c _) hlate

end

end BrowserPilot
