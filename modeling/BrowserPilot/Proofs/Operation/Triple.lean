import BrowserPilot.Proofs.Operation.Queued

namespace BrowserPilot

/-!
# What a task guarantees

A task that runs alone, or alone but for the time it queues for the lock, is judged
by the scene it finds and the scene it leaves: everything of the world but the log.
There is one rule for each way in which tasks are put together.
-/

/-- A world without its log. -/
structure Scene (B : Backend) where
  env : B.Env
  clock : Instant
  slot : Option B.Page
  events : List (Instant × B.Event)

variable {B : Backend} {α β : Type}

namespace World

/-- What is left of a world without its log. -/
def scene (w : World B) : Scene B := ⟨w.env, w.clock, w.slot, w.events⟩

@[simp] theorem scene_record (w : World B) (c : Caller) (entries : List LogEntry) :
    (w.record c entries).scene = w.scene := rfl

@[simp] theorem scene_setClock (w : World B) (t : Instant) :
    { w with clock := t }.scene = { w.scene with clock := t } := rfl

end World

namespace Scene

/-- The scene after a primitive has had its effect on the page. -/
def applied (s : Scene B) (page : B.Page) (p : Primitive) : Scene B :=
  let effect := B.apply p s.env page
  { env := effect.env
    clock := s.clock
    slot := some effect.page
    events := s.events ++ effect.events.map fun e ↦ (s.clock, e) }

@[simp] theorem applied_clock (s : Scene B) (page : B.Page) (p : Primitive) :
    (s.applied page p).clock = s.clock := rfl

/-- What a scene has reported since another. -/
def Shows (s₀ s : Scene B) (events : List B.Event) : Prop :=
  ∃ new, s.events = s₀.events ++ new ∧ new.map Prod.snd = events

theorem Shows.refl {s₀ s : Scene B} (h : s.events = s₀.events) : s₀.Shows s [] :=
  ⟨[], by simpa using h, rfl⟩

theorem Shows.congr {s₀ s s' : Scene B} {events events' : List B.Event}
    (h : s₀.Shows s events) (hs : s'.events = s.events) (hevents : events' = events) :
    s₀.Shows s' events' := by
  obtain ⟨new, hnew, hmap⟩ := h
  exact ⟨new, hs.trans hnew, hmap.trans hevents.symm⟩

theorem Shows.applied {s₀ s : Scene B} {events more : List B.Event} (h : s₀.Shows s events)
    {page : B.Page} {p : Primitive} (hmore : (B.apply p s.env page).events = more) :
    s₀.Shows (s.applied page p) (events ++ more) := by
  obtain ⟨new, hnew, hmap⟩ := h
  refine ⟨new ++ (B.apply p s.env page).events.map fun e ↦ (s.clock, e), ?_, ?_⟩
  · simp [Scene.applied, hnew]
  · simp [hmap, hmore, Function.comp_def]

theorem scene_apply {w : World B} {page : B.Page} (hpage : w.slot = some page) (c : Caller)
    (p : Primitive) :
    (w.apply c p).1 = (B.apply p w.env page).result ∧
      (w.apply c p).2.scene = w.scene.applied page p := by
  constructor
  · simp only [World.apply, hpage]
  · simp only [World.apply, hpage]
    rfl

end Scene

namespace World

theorem serve_primitive {w : World B} {page : B.Page} (hpage : w.slot = some page) (c : Caller)
    (p : Primitive) (deadline : Option Deadline) {ending : Ending} {t : Instant}
    (h : (Wait.mk (some (w.clock + B.delay page p)) .never deadline).conclude w.clock
      (w.clock + B.delay page p) = (ending, t)) :
    w.serve c (.primitive p deadline) =
      { w with clock := t }.answer c ending (.primitive p deadline) := by
  have hwait : w.waitFor c (.primitive p deadline) =
      some ⟨some (w.clock + B.delay page p), .never, deadline⟩ := by
    simp [waitFor, hpage]
  simp only [serve, Caller.note, hwait, Option.getD_some, h]

theorem serve_pause (w : World B) (c : Caller) (millis : Nat) (cancel : Cancellation)
    (deadline : Option Deadline) {ending : Ending} {t : Instant}
    (h : (Wait.mk (some (w.clock + millis)) cancel deadline).conclude w.clock
      (w.clock + millis) = (ending, t)) :
    w.serve c (.pause millis cancel deadline) = (ending.result, { w with clock := t }, c) := by
  simp only [serve, Caller.note, waitFor, Option.getD_some, h]
  rfl

end World

/-- From every world whose scene satisfies `P`, a task that gets the lock `queued` milliseconds
after it asks for it returns, and its result and the scene it leaves satisfy `Q`. -/
def Task.Meets (queued : Nat) (P : Scene B → Prop) (t : Task B.Page α)
    (Q : Result α → Scene B → Prop) : Prop :=
  ∀ w c, P w.scene → ∃ r w' c',
    t.run.aloneAfter queued w c = (.returned r, w', c') ∧ Q r w'.scene

namespace Task.Meets

variable {queued : Nat} {P P' : Scene B → Prop} {t : Task B.Page α} {f : α → Task B.Page β}
  {M Q Q' : Result α → Scene B → Prop} {R : Result β → Scene B → Prop}

theorem mono (ht : Meets queued P t Q) (hP : ∀ s, P' s → P s) (hQ : ∀ r s, Q r s → Q' r s) :
    Meets queued P' t Q' := by
  intro w c hw
  obtain ⟨r, w', c', hrun, hr⟩ := ht w c (hP _ hw)
  exact ⟨r, w', c', hrun, hQ _ _ hr⟩

/-- It is enough to look at one scene at a time. -/
theorem of_forall (h : ∀ s, P s → Meets queued (· = s) t Q) : Meets queued P t Q :=
  fun w c hw ↦ h w.scene hw w c rfl

/-- What a task guarantees that finds the lock free. -/
theorem alone {w : World B} (ht : Meets 0 (· = w.scene) t Q) (c : Caller) :
    ∃ r w' c', t.run.alone w c = (.returned r, w', c') ∧ Q r w'.scene := by
  rw [← Operation.aloneAfter_zero]
  exact ht w c rfl

theorem pure (a : α) (h : ∀ s, P s → Q (.ok a) s) :
    Meets queued P (Pure.pure a : Task B.Page α) Q :=
  fun w c hw ↦ ⟨.ok a, w, c, rfl, h _ hw⟩

theorem throw (e : Failure) (h : ∀ s, P s → Q (.error e) s) :
    Meets queued P (MonadExcept.throw e : Task B.Page α) Q :=
  fun w c hw ↦ ⟨.error e, w, c, rfl, h _ hw⟩

theorem settled (r : Result α) (h : ∀ s, P s → Q r s) :
    Meets queued P (Task.attempt (.done r) : Task B.Page α) Q :=
  fun w c hw ↦ ⟨r, w, c, rfl, h _ hw⟩

theorem bind (ht : Meets queued P t M) (hok : ∀ a, Meets queued (M (.ok a)) (f a) R)
    (herror : ∀ e s, M (.error e) s → R (.error e) s) : Meets queued P (t >>= f) R := by
  intro w c hw
  obtain ⟨r, w₁, c₁, hrun, hr⟩ := ht w c hw
  have hbind : (t >>= f).run.aloneAfter queued w c =
      (ExceptT.bindCont f r : Operation B.Page (Result β)).aloneAfter queued w₁ c₁ :=
    Operation.aloneAfter_bind hrun _
  cases r with
  | ok a =>
      obtain ⟨r', w', c', hrun', hr'⟩ := hok a w₁ c₁ hr
      exact ⟨r', w', c', hbind.trans hrun', hr'⟩
  | error e => exact ⟨.error e, w₁, c₁, hbind, herror e _ hr⟩

/-- Nothing comes after a failure. -/
theorem error_bind {e : Failure} (ht : Meets queued P t fun r _ ↦ r = .error e) :
    Meets queued P (t >>= f) fun r _ ↦ r = .error e :=
  ht.bind (fun a ↦ of_forall fun s h ↦ by simp at h) fun e' s h ↦ by simpa using h

/-- A task whose result is looked at, be it a failure. -/
theorem result_bind {g : Result α → Task B.Page β} (ht : Meets queued P t M)
    (hg : ∀ r, Meets queued (M r) (g r) R) : Meets queued P (Task.result t >>= g) R := by
  intro w c hw
  obtain ⟨r, w₁, c₁, hrun, hr⟩ := ht w c hw
  have hresult : (Task.result t).run.aloneAfter queued w c = (.returned (.ok r), w₁, c₁) :=
    Operation.aloneAfter_bind hrun _
  obtain ⟨r', w', c', hrun', hr'⟩ := hg r w₁ c₁ hr
  exact ⟨r', w', c', (Operation.aloneAfter_bind hresult _).trans hrun', hr'⟩

/-- A request that leaves the scene as it is. -/
theorem lift_request {r : Request B.Page} {Q : Result r.Answer → Scene B → Prop}
    (hscene : ∀ (w : World B) c, (w.serveAfter queued c r).2.1.scene = w.scene)
    (h : ∀ (w : World B) c, P w.scene → Q (.ok (w.serveAfter queued c r).1) w.scene) :
    Meets queued P (Task.lift (Operation.request r)) Q := by
  intro w c hw
  refine ⟨.ok (w.serveAfter queued c r).1, (w.serveAfter queued c r).2.1,
    (w.serveAfter queued c r).2.2, rfl, ?_⟩
  rw [hscene]
  exact h w c hw

theorem log (level : LogLevel) (message : String) (fields : LogFields) :
    Meets queued P (Task.log level message fields) (fun r s ↦ r = .ok () ∧ P s) :=
  lift_request (fun _ _ ↦ rfl) fun _ _ hw ↦ ⟨rfl, hw⟩

theorem now_bind {g : Instant → Task B.Page β}
    (hg : ∀ s, P s → Meets queued (· = s) (g s.clock) R) :
    Meets queued P (Task.now >>= g) R := by
  refine of_forall fun s hs ↦ ?_
  have hnow : Meets queued (· = s) (Task.now : Task B.Page Instant)
      (fun r s' ↦ r = .ok s.clock ∧ s' = s) :=
    lift_request (fun _ _ ↦ rfl) fun w c hw ↦ ⟨by rw [← hw]; rfl, hw⟩
  refine hnow.bind (fun t ↦ ?_) fun e s' h ↦ by simp at h
  refine of_forall fun s' h ↦ ?_
  obtain ⟨ht, rfl⟩ := h
  obtain rfl : t = s'.clock := by simpa using ht
  exact hg s' hs

theorem hasPage_bind {s : Scene B} {g : Bool → Task B.Page β}
    (hg : Meets queued (· = s) (g s.slot.isSome) R) :
    Meets queued (· = s) (Task.hasPage >>= g) R := by
  have hpage : Meets queued (· = s) (Task.hasPage : Task B.Page Bool)
      (fun r s' ↦ r = .ok s.slot.isSome ∧ s' = s) :=
    lift_request (fun _ _ ↦ rfl) fun w c hw ↦ ⟨by rw [← hw]; rfl, hw⟩
  refine hpage.bind (fun b ↦ ?_) fun e s' h ↦ by simp at h
  refine of_forall fun s' h ↦ ?_
  obtain ⟨hb, rfl⟩ := h
  obtain rfl : b = s'.slot.isSome := by simpa using hb
  exact hg

theorem mount {s : Scene B} (page : B.Page) :
    Meets queued (· = s) (Task.mount page) fun r s' ↦
      r = .ok () ∧ s' = { s with slot := some page } := by
  rintro w c rfl
  exact ⟨_, _, _, rfl, rfl, rfl⟩

theorem unmount {s : Scene B} :
    Meets queued (· = s) (Task.unmount : Task B.Page Unit) fun r s' ↦
      r = .ok () ∧ s' = { s with slot := none } := by
  rintro w c rfl
  refine ⟨_, _, _, rfl, rfl, ?_⟩
  change (w.answer c .completed .unmount).2.1.scene = { w.scene with slot := none }
  cases hslot : w.slot with
  | none => simp only [World.answer, World.scene, hslot]
  | some page =>
      simp only [World.answer, World.scene, hslot]
      rfl

theorem discard (page : B.Page) :
    Meets queued P (Task.discard page) fun r s ↦ r = .ok () ∧ P s :=
  lift_request (fun _ _ ↦ rfl) fun _ _ hw ↦ ⟨rfl, hw⟩

/-- Spans are seen in the log alone. -/
theorem inSpan (span : Span) (ht : Meets queued P t Q) :
    Meets queued P (Task.inSpan span t) Q := by
  have henter : Meets queued P (Task.lift (Operation.request (.enter span)))
      (fun r s ↦ r = .ok () ∧ P s) :=
    lift_request (fun _ _ ↦ rfl) fun _ _ hw ↦ ⟨rfl, hw⟩
  refine henter.bind (fun _ ↦ ?_) fun e s h ↦ by simp at h
  refine (ht.mono (fun s h ↦ h.2) fun _ _ h ↦ h).result_bind fun r ↦ ?_
  have hleave : Meets queued (Q r) (Task.lift (Operation.request .leave))
      (fun r' s ↦ r' = .ok () ∧ Q r s) :=
    lift_request (fun _ _ ↦ rfl) fun _ _ hw ↦ ⟨rfl, hw⟩
  exact hleave.bind (fun _ ↦ settled r fun s h ↦ h.2) fun e s h ↦ by simp at h

/-- A primitive either has its effect in time or is given up at the deadline. -/
theorem primitive {s : Scene B} {page : B.Page} {p : Primitive} {deadline : Option Deadline}
    {Q : Result p.Reply → Scene B → Prop} (hpage : s.slot = some page)
    (hnow : ∀ d ∈ deadline, s.clock ≤ d.instant)
    (hdone : (∀ d ∈ deadline, s.clock + B.delay page p ≤ d.instant) →
      Q (B.apply p s.env page).result
        ({ s with clock := s.clock + B.delay page p }.applied page p))
    (hlate : ∀ d ∈ deadline, d.instant < s.clock + B.delay page p →
      Q (.error (.timeout d.limit)) { s with clock := d.instant }) :
    Meets queued (· = s) (Task.primitive p deadline) Q := by
  intro w c hw
  subst hw
  have hrun : ∀ x, w.serve c (.primitive p deadline) = x →
      (Task.primitive p deadline).run.aloneAfter queued w c = (.returned x.1, x.2.1, x.2.2) := by
    rintro _ rfl
    rfl
  by_cases hin : ∀ d ∈ deadline, w.clock + B.delay page p ≤ d.instant
  · have hserve := World.serve_primitive hpage c p deadline
      (Wait.conclude_of_completed (Nat.le_add_right _ _) rfl hin)
    obtain ⟨hresult, hscene⟩ := Scene.scene_apply
      (w := { w with clock := w.clock + B.delay page p }) hpage c p
    refine ⟨_, _, _, hrun _ hserve, ?_⟩
    simp only [World.answer, Ending.result]
    rw [hresult, hscene]
    exact hdone hin
  · obtain ⟨d, hd⟩ := Classical.not_forall.1 hin
    obtain ⟨hd, hlt⟩ := Classical.not_imp.1 hd
    replace hlt := Nat.lt_of_not_le hlt
    have hserve := World.serve_primitive hpage c p deadline
      (Wait.conclude_of_expired hd (hnow d hd) hlt rfl)
    exact ⟨_, _, _, hrun _ hserve, hlate d hd hlt⟩

theorem pause {s : Scene B} {millis : Nat} {cancel : Cancellation} {deadline : Option Deadline}
    {ending : Ending} {u : Instant} {Q : Result Unit → Scene B → Prop}
    (h : (Wait.mk (some (s.clock + millis)) cancel deadline).conclude s.clock
      (s.clock + millis) = (ending, u))
    (hQ : Q ending.result { s with clock := u }) :
    Meets queued (· = s) (Task.pause millis cancel deadline) Q := by
  intro w c hw
  subst hw
  refine ⟨ending.result, { w with clock := u }, c, ?_, hQ⟩
  have hserve := World.serve_pause w c millis cancel deadline h
  calc (Task.pause millis cancel deadline).run.aloneAfter queued w c
      = (.returned (w.serve c (.pause millis cancel deadline)).1,
          (w.serve c (.pause millis cancel deadline)).2.1,
          (w.serve c (.pause millis cancel deadline)).2.2) := rfl
    _ = _ := by rw [hserve]

/-- The lock comes in time, or the deadline comes first. -/
theorem lock {s : Scene B} {d : Deadline} (hnow : s.clock ≤ d.instant) :
    Meets queued (· = s) (Task.lock (some d) : Task B.Page Unit) fun r s' ↦
      (s.clock + queued ≤ d.instant ∧ r = .ok () ∧ s' = { s with clock := s.clock + queued }) ∨
      (d.instant < s.clock + queued ∧ r = .error (.timeout d.limit) ∧
        s' = { s with clock := d.instant }) := by
  intro w c hw
  subst hw
  have hrun : ∀ x, w.serveAfter queued c (.lock (some d)) = x →
      (Task.lock (some d) : Task B.Page Unit).run.aloneAfter queued w c =
        (.returned x.1, x.2.1, x.2.2) := by
    rintro _ rfl
    rfl
  by_cases hin : w.clock + queued ≤ d.instant
  · exact ⟨_, _, _, hrun _ (World.serveAfter_lock_of_le c (by simpa using hin)),
      .inl ⟨hin, rfl, rfl⟩⟩
  · have hlt := Nat.lt_of_not_le hin
    exact ⟨_, _, _, hrun _ (World.serveAfter_lock_of_lt c hnow hlt), .inr ⟨hlt, rfl, rfl⟩⟩

/-- Without a deadline the lock comes in any case. -/
theorem lock_none {s : Scene B} :
    Meets queued (· = s) (Task.lock none : Task B.Page Unit) fun r s' ↦
      r = .ok () ∧ s' = { s with clock := s.clock + queued } := by
  rintro w c rfl
  have hserve : w.serveAfter queued c (.lock none) =
      (.ok (), { w with clock := w.clock + queued }, c) := World.serveAfter_lock_of_le c nofun
  have hrun : (Task.lock none : Task B.Page Unit).run.aloneAfter queued w c =
      (.returned (.ok ()), { w with clock := w.clock + queued }, c) :=
    calc (Task.lock none : Task B.Page Unit).run.aloneAfter queued w c
        = (.returned (w.serveAfter queued c (.lock none)).1,
            (w.serveAfter queued c (.lock none)).2.1,
            (w.serveAfter queued c (.lock none)).2.2) := rfl
      _ = _ := by rw [hserve]
  exact ⟨_, _, _, hrun, rfl, rfl⟩

/-- What a task does with the lock, it does between getting it and giving it up. -/
theorem locked_of_lock {d : Option Deadline} {M : Result Unit → Scene B → Prop}
    (hlock : Meets queued P (Task.lock d) M) (herror : ∀ e s, M (.error e) s → Q (.error e) s)
    (hbody : Meets queued (M (.ok ())) t Q) : Meets queued P (Task.locked d t) Q := by
  refine hlock.bind (fun _ ↦ hbody.result_bind fun r ↦ ?_) herror
  have hunlock : Meets queued (Q r) (Task.unlock : Task B.Page Unit)
      (fun r' s ↦ r' = .ok () ∧ Q r s) :=
    lift_request (fun _ _ ↦ rfl) fun _ _ hw ↦ ⟨rfl, hw⟩
  exact hunlock.bind (fun _ ↦ settled r fun s h ↦ h.2) fun e s h ↦ by simp at h

/-- A task either gets the lock in time or gives up at the deadline. -/
theorem locked {s : Scene B} {d : Deadline} (hnow : s.clock ≤ d.instant)
    (hlate : d.instant < s.clock + queued →
      Q (.error (.timeout d.limit)) { s with clock := d.instant })
    (hbody : s.clock + queued ≤ d.instant →
      Meets queued (· = { s with clock := s.clock + queued }) t Q) :
    Meets queued (· = s) (Task.locked (some d) t) Q := by
  refine locked_of_lock (lock hnow) (fun e s' h ↦ ?_) (of_forall fun s' h ↦ ?_)
  · obtain ⟨-, h, -⟩ | ⟨hlt, h, rfl⟩ := h
    · simp at h
    · obtain rfl : e = .timeout d.limit := by simpa using h
      exact hlate hlt
  · obtain ⟨hin, -, rfl⟩ | ⟨-, h, -⟩ := h
    · exact hbody hin
    · simp at h

/-- A task that does not get the lock by its deadline gives up then. -/
theorem locked_late {s : Scene B} {d : Deadline} (hnow : s.clock ≤ d.instant)
    (hlate : d.instant < s.clock + queued) :
    Meets queued (· = s) (Task.locked (some d) t) fun r s' ↦
      r = .error (.timeout d.limit) ∧ s' = { s with clock := d.instant } :=
  locked hnow (fun _ ↦ ⟨rfl, rfl⟩) fun hin ↦ absurd hlate (Nat.not_lt_of_le hin)

theorem withPage {s : Scene B} {d : Deadline} (hpage : s.slot.isSome = true)
    (hnow : s.clock ≤ d.instant)
    (hlate : d.instant < s.clock + queued →
      Q (.error (.timeout d.limit)) { s with clock := d.instant })
    (hbody : s.clock + queued ≤ d.instant →
      Meets queued (· = { s with clock := s.clock + queued }) t Q) :
    Meets queued (· = s) (Task.withPage (some d) t) Q := by
  refine locked hnow hlate fun hin ↦ hasPage_bind ?_
  simp only [hpage, ↓reduceIte]
  exact hbody hin

/-- A task on the page finds none. -/
theorem withoutPage {s : Scene B} {d : Deadline} (hpage : s.slot.isSome = false)
    (hnow : s.clock ≤ d.instant)
    (hlate : d.instant < s.clock + queued →
      Q (.error (.timeout d.limit)) { s with clock := d.instant })
    (hin : s.clock + queued ≤ d.instant →
      Q (.error .notStarted) { s with clock := s.clock + queued }) :
    Meets queued (· = s) (Task.withPage (some d) t) Q := by
  refine locked hnow hlate fun h ↦ hasPage_bind ?_
  simp only [hpage, Bool.false_eq_true, ↓reduceIte]
  exact Task.Meets.throw _ fun s' hs' ↦ hs' ▸ hin h

end Task.Meets

end BrowserPilot
