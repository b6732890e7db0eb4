import BrowserPilot.Proofs.Dispatch.Phases

namespace BrowserPilot

/-!
# The course of a dispatch

On any page a dispatch applies the primitives of its plan one after the other. If it
stops early it lets everything go, and if not it takes a picture. Only letting go has
no deadline.
-/

variable {B : Backend}

/-- A primitive that was applied to a page, what the page reported, and what came of it. -/
structure Beat (B : Backend) where
  primitive : Primitive
  events : List B.Event
  result : Result primitive.Reply

def Beat.Succeeds (b : Beat B) : Prop := ∃ reply, b.result = .ok reply

namespace Scene

/-- All that a scene has reported. -/
def log (s : Scene B) : List B.Event := s.events.map Prod.snd

theorem Shows.log_eq {s₀ s : Scene B} {events : List B.Event} (h : s₀.Shows s events) :
    s.log = s₀.log ++ events := by
  obtain ⟨new, hevents, rfl⟩ := h
  exact (congrArg (List.map Prod.snd) hevents).trans List.map_append

/-- What a primitive comes to on the page of a scene. -/
def beat (s : Scene B) (page : B.Page) (p : Primitive) : Beat B :=
  ⟨p, (B.apply p s.env page).events, (B.apply p s.env page).result⟩

/-- Primitives are applied to the page of a scene one after the other, at whatever times. -/
inductive Plays (s₀ : Scene B) : List (Beat B) → Scene B → Prop
  | start : Plays s₀ [] s₀
  | later {beats : List (Beat B)} {s : Scene B} {t : Instant} :
      Plays s₀ beats s → s.clock ≤ t → Plays s₀ beats { s with clock := t }
  | applied {beats : List (Beat B)} {s : Scene B} {page : B.Page} (p : Primitive) :
      Plays s₀ beats s → s.slot = some page →
        Plays s₀ (beats ++ [s.beat page p]) (s.applied page p)

namespace Plays

variable {s₀ s s' : Scene B} {beats beats' : List (Beat B)}

theorem trans (h : s₀.Plays beats s) (h' : s.Plays beats' s') :
    s₀.Plays (beats ++ beats') s' := by
  induction h' with
  | start =>
      rw [List.append_nil]
      exact h
  | later _ ht ih => exact .later ih ht
  | applied p _ hpage ih =>
      rw [← List.append_assoc]
      exact .applied p ih hpage

theorem shows (h : s₀.Plays beats s) : s₀.Shows s (beats.flatMap Beat.events) := by
  induction h with
  | start => exact .refl rfl
  | later _ _ ih => exact ih.congr rfl rfl
  | @applied beats s page p _ _ ih =>
      have happlied : s₀.Shows (s.applied page p)
          (beats.flatMap Beat.events ++ (s.beat page p).events) := ih.applied rfl
      rw [List.flatMap_append, List.flatMap_singleton]
      exact happlied

end Plays

end Scene

namespace Dispatch

/-- By the scene `s`, which is not past the deadline, some primitives have been applied. -/
structure Underway (s₀ : Scene B) (d : Deadline) (beats : List (Beat B)) (s : Scene B) :
    Prop where
  plays : s₀.Plays beats s
  page : s.slot.isSome = true
  inTime : s.clock ≤ d.instant

/-- By the scene `s` the primitives `done` have been applied, and nothing has failed. -/
structure CarriedOut (s₀ : Scene B) (done : List Primitive) (d : Deadline)
    (beats : List (Beat B)) (s : Scene B) : Prop extends Underway s₀ d beats s where
  primitives : beats.map Beat.primitive = done
  succeeds : ∀ b ∈ beats, b.Succeeds

/-- The course of a dispatch that begins in the scene `s₀`, by what it returns and the scene it
leaves. -/
inductive Course (s₀ : Scene B) (a : Action) (d : Deadline) :
    Result Observation → Scene B → Prop
  /-- The lock does not come by the deadline. -/
  | refused : Course s₀ a d (.error (.timeout d.limit)) { s₀ with clock := d.instant }
  /-- The action stops early, and everything is let go. -/
  | letGo {beats : List (Beat B)} {s : Scene B} {page : B.Page} {e : Failure} :
      Underway s₀ d beats s → beats.map Beat.primitive <+: a.plan → s.slot = some page →
        Course s₀ a d (.error e)
          ({ s with clock := s.clock + B.delay page .releaseAll }.applied page .releaseAll)
  /-- The action is done, but there is no time left for the picture. -/
  | unseen {beats : List (Beat B)} {s : Scene B} :
      CarriedOut s₀ a.plan d beats s → s.clock = d.instant →
        Course s₀ a d (.error (.timeout d.limit)) s
  /-- The action is done, and a picture is taken. -/
  | seen {beats : List (Beat B)} {s : Scene B} {page : B.Page} {shot : Result (List UInt8)} :
      CarriedOut s₀ a.plan d beats s → s.slot = some page →
        (B.apply (.screenshot false) s.env page).result = shot →
        Course s₀ a d (shot.map Observation.mk) (s.applied page (.screenshot false))

variable {queued : Nat} {s₀ : Scene B} {a : Action} {d : Deadline} {beats : List (Beat B)}

theorem Underway.later {s : Scene B} (h : Underway s₀ d beats s) {t : Instant}
    (ht : s.clock ≤ t) (hin : t ≤ d.instant) : Underway s₀ d beats { s with clock := t } :=
  ⟨.later h.plays ht, h.page, hin⟩

theorem Underway.applied {s : Scene B} (h : Underway s₀ d beats s) {page : B.Page}
    (hpage : s.slot = some page) (p : Primitive) :
    Underway s₀ d (beats ++ [s.beat page p]) (s.applied page p) :=
  ⟨.applied p h.plays hpage, rfl, h.inTime⟩

/-- A primitive is applied in time, or not at all. -/
theorem Underway.primitive {s : Scene B} (h : Underway s₀ d beats s) (p : Primitive) :
    Task.Meets queued (· = s) (Task.primitive p (some d)) fun r s' ↦
      (∃ events, Underway s₀ d (beats ++ [⟨p, events, r⟩]) s') ∨
        r = .error (.timeout d.limit) ∧ Underway s₀ d beats s' ∧ s'.clock = d.instant := by
  obtain ⟨page, hpage⟩ := Option.isSome_iff_exists.1 h.page
  refine Task.Meets.primitive hpage (by simpa using h.inTime) (fun hin ↦ ?_) fun d' hd _ ↦ ?_
  · have hlater := h.later (Nat.le_add_right s.clock (B.delay page p)) (hin d rfl)
    exact .inl ⟨_, hlater.applied hpage p⟩
  · obtain rfl : d = d' := by simpa using hd
    exact .inr ⟨rfl, h.later h.inTime (Nat.le_refl _), rfl⟩

/-- The action has stopped early. -/
def Halted (s₀ : Scene B) (a : Action) (d : Deadline) (s : Scene B) : Prop :=
  ∃ beats, Underway s₀ d beats s ∧ beats.map Beat.primitive <+: a.plan

theorem CarriedOut.later {done : List Primitive} {s : Scene B} (h : CarriedOut s₀ done d beats s)
    {t : Instant} (ht : s.clock ≤ t) (hin : t ≤ d.instant) :
    CarriedOut s₀ done d beats { s with clock := t } :=
  ⟨h.toUnderway.later ht hin, h.primitives, h.succeeds⟩

/-- One more primitive of the plan. -/
theorem CarriedOut.primitive {done rest : List Primitive} {p : Primitive}
    (hplan : a.plan = done ++ p :: rest) {s : Scene B} (h : CarriedOut s₀ done d beats s) :
    Task.Meets queued (· = s) (Task.primitive p (some d)) fun r s' ↦
      (∀ reply, r = .ok reply → ∃ beats, CarriedOut s₀ (done ++ [p]) d beats s') ∧
        ∀ e, r = .error e → Halted s₀ a d s' := by
  refine (h.toUnderway.primitive p).mono (fun _ hs ↦ hs) fun r s' hr ↦ ?_
  rcases hr with ⟨events, hlater⟩ | ⟨rfl, hlater, -⟩
  · let last : Beat B := ⟨p, events, r⟩
    have hmap : (beats ++ [last]).map Beat.primitive = done ++ [p] := by
      rw [List.map_append, h.primitives]
      rfl
    refine ⟨fun reply hok ↦ ⟨beats ++ [last], hlater, hmap, fun b hb ↦ ?_⟩, fun e _ ↦ ?_⟩
    · rcases List.mem_append.1 hb with hb | hb
      · exact h.succeeds b hb
      · obtain rfl := List.mem_singleton.1 hb
        exact ⟨reply, hok⟩
    · refine ⟨beats ++ [last], hlater, ?_⟩
      rw [hmap, hplan]
      exact ⟨rest, List.append_assoc _ _ _⟩
  · refine ⟨fun reply hok ↦ by simp at hok, fun e _ ↦ ⟨beats, hlater, ?_⟩⟩
    rw [h.primitives, hplan]
    exact List.prefix_append _ _

theorem applyAll_course {s : Scene B} (h : Underway s₀ d [] s) :
    Task.Meets queued (· = s) (applyAll d a.plan) fun r s' ↦
      (r = .ok () → ∃ beats, CarriedOut s₀ a.plan d beats s') ∧
        ∀ e, r = .error e → Halted s₀ a d s' := by
  have hsteps : Task.Meets queued (fun s ↦ ∃ beats, CarriedOut s₀ [] d beats s)
      (applyAll d a.plan) fun r s' ↦
        (r = .ok () → ∃ beats, CarriedOut s₀ a.plan d beats s') ∧
          ∀ e, r = .error e → Halted s₀ a d s' := by
    refine applyAll_meets (I := fun done s ↦ ∃ beats, CarriedOut s₀ done d beats s)
      (E := fun _ s ↦ Halted s₀ a d s) fun done p rest hplan ↦ ?_
    exact Task.Meets.of_forall fun s ⟨beats, hdone⟩ ↦ hdone.primitive hplan
  refine hsteps.mono (fun s' hs' ↦ ?_) fun _ _ hr ↦ hr
  subst hs'
  exact ⟨[], h, rfl, fun b hb ↦ absurd hb List.not_mem_nil⟩

theorem perform_course {c : Config} {cancel : Cancellation} {s : Scene B}
    (h : Underway s₀ d [] s) :
    Task.Meets queued (· = s) (perform c a cancel d) fun r s' ↦
      (r = .ok () → ∃ beats, CarriedOut s₀ a.plan d beats s') ∧
        ∀ e, r = .error e → Halted s₀ a d s' := by
  refine perform_meets (applyAll_course h) (fun requested _ ↦ ?_) (fun _ s hs ↦ hs) fun e s hs ↦ hs
  refine Task.Meets.of_forall fun s hs ↦ ?_
  obtain ⟨beats, hcarried⟩ := hs.1 rfl
  let wait : Wait := ⟨some (s.clock + waitMillis c requested), cancel, some d⟩
  cases hconclude : wait.conclude s.clock (s.clock + waitMillis c requested) with
  | mk ending u =>
      have hle : s.clock ≤ u := by
        have hle : s.clock ≤ (wait.conclude s.clock (s.clock + waitMillis c requested)).2 :=
          wait.le_conclude
        rwa [hconclude] at hle
      have hin : u ≤ d.instant := by
        have hin := wait.conclude_inTime (t := s.clock + waitMillis c requested) rfl
          hcarried.inTime
        rwa [hconclude] at hin
      have hlater := hcarried.later hle hin
      refine Task.Meets.pause hconclude ⟨fun _ ↦ ⟨beats, hlater⟩, fun e _ ↦ ?_⟩
      exact ⟨beats, hlater.toUnderway, hlater.primitives ▸ List.prefix_rfl⟩

theorem release_course {e : Failure} :
    Task.Meets queued (Halted s₀ a d) release fun r s ↦
      r = .ok () ∧ Course s₀ a d (.error e) s := by
  refine Task.Meets.of_forall ?_
  rintro s ⟨beats, hunder, hplan⟩
  obtain ⟨page, hpage⟩ := Option.isSome_iff_exists.1 hunder.page
  refine (release_meets hpage).mono (fun _ hs ↦ hs) ?_
  rintro r s' ⟨hr, rfl⟩
  exact ⟨hr, .letGo hunder hplan hpage⟩

theorem observe_course :
    Task.Meets queued (fun s ↦ ∃ beats, CarriedOut s₀ a.plan d beats s) (Session.observe (some d))
      (Course s₀ a d) := by
  refine Task.Meets.of_forall ?_
  rintro s ⟨beats, hcarried⟩
  obtain ⟨page, hpage⟩ := Option.isSome_iff_exists.1 hcarried.page
  refine observe_meets (Task.Meets.primitive hpage (by simpa using hcarried.inTime) (fun hin ↦ ?_)
    fun d' hd _ ↦ ?_)
  · exact .seen (hcarried.later (Nat.le_add_right _ _) (hin d rfl)) hpage rfl
  · obtain rfl : d = d' := by simpa using hd
    exact .unseen (hcarried.later hcarried.inTime (Nat.le_refl _)) rfl

end Dispatch

/-- The course of a dispatch on any attached page. -/
theorem dispatch_course {c : Config} {a : Action} {cancel : Cancellation} {queued : Nat}
    {s : Scene B} (hpage : s.slot.isSome = true)
    (hfit : (Dispatch.deadline c s.clock).instant < horizon) :
    Task.Meets queued (· = s) (dispatch c a cancel)
      (Dispatch.Course s a (Dispatch.deadline c s.clock)) := by
  refine dispatch_meets hpage hfit (fun _ ↦ .refused) fun hgranted ↦ ?_
  have hbegin : Dispatch.Underway s (Dispatch.deadline c s.clock) []
      { s with clock := s.clock + queued } :=
    ⟨.later .start (Nat.le_add_right _ _), hpage, hgranted⟩
  refine Dispatch.performAndObserve_meets (Dispatch.perform_course hbegin) ?_ fun e ↦ ?_
  · exact Dispatch.observe_course.mono (fun s hs ↦ hs.1 rfl) fun _ _ h ↦ h
  · exact Dispatch.release_course.mono (fun s hs ↦ hs.2 e rfl) fun _ _ h ↦ h

end BrowserPilot
