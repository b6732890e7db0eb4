import BrowserPilot.Operation.Together
import BrowserPilot.Proofs.Operation.Triple
import BrowserPilot.Proofs.Operation.Visit

namespace BrowserPilot

/-!
# One caller among others

What an operation does among others is compared with what it does alone. While it has
the lock, the world that all share is the world it would have alone, but for what was
reported before. While it has not asked for the lock, only the clock is the same.
-/

variable {B : Backend} {α : Type}

namespace Scene

/-- A scene with events that were reported before it began. -/
def behind (before : List (Instant × B.Event)) (s : Scene B) : Scene B :=
  { s with events := before ++ s.events }

end Scene

/-! ## Waits -/

namespace Wait

/-- Nothing that a wait waits for has passed at `t`. -/
structure Awaits (w : Wait) (t : Instant) : Prop where
  until_le : ∀ u ∈ w.until?, t ≤ u
  wanted : w.cancel.isPast t = false
  inTime : ∀ d ∈ w.deadline, t ≤ d.instant

end Wait

namespace World

theorem waitFor_until {w : World B} {c : Caller} {r : Request B.Page} {wait : Wait}
    (h : w.waitFor c r = some wait) : ∃ u, wait.until? = some u := by
  cases r with
  | primitive p d =>
      obtain ⟨page, -, rfl⟩ := Option.map_eq_some_iff.1 h
      exact ⟨_, rfl⟩
  | pause _ _ _ | sample _ _ | launch _ =>
      obtain rfl := Option.some.inj h
      exact ⟨_, rfl⟩
  | _ => simp [waitFor] at h

theorem serve_of_none {w : World B} {c : Caller} {r : Request B.Page}
    (h : w.waitFor (c.note r) r = none) : w.serve c r = w.answer (c.note r) .completed r := by
  simp only [serve, h]

theorem serve_of_conclude {w : World B} {c : Caller} {r : Request B.Page} {wait : Wait}
    {ending : Ending} {u t : Instant} (h : w.waitFor (c.note r) r = some wait)
    (hu : wait.until? = some u) (hconclude : wait.conclude w.clock u = (ending, t)) :
    w.serve c r = { w with clock := t }.answer (c.note r) ending r := by
  simp only [serve, h, hu, Option.getD_some, hconclude]

variable {a b : World B} {before : List (Instant × B.Event)}

theorem scene_eq_behind : b.scene = a.scene.behind before ↔
    b.env = a.env ∧ b.clock = a.clock ∧ b.slot = a.slot ∧ b.events = before ++ a.events := by
  simp only [scene, Scene.behind, Scene.mk.injEq]

theorem waitFor_behind (h : b.scene = a.scene.behind before) (c : Caller)
    (r : Request B.Page) : b.waitFor c r = a.waitFor c r := by
  obtain ⟨henv, hclock, hslot, -⟩ := scene_eq_behind.1 h
  cases r <;> simp only [waitFor, henv, hclock, hslot]

/-- The answer to a request made with the lock does not depend on what was reported before. -/
theorem answer_behind (h : b.scene = a.scene.behind before) (c : Caller) (ending : Ending)
    {r : Request B.Page} (hr : r.isWork = true) :
    (b.answer c ending r).1 = (a.answer c ending r).1 ∧
      (b.answer c ending r).2.2 = (a.answer c ending r).2.2 ∧
        (b.answer c ending r).2.1.scene = (a.answer c ending r).2.1.scene.behind before := by
  obtain ⟨env, clock, slot, events, logs, wallClock⟩ := a
  obtain ⟨henv, hclock, hslot, hevents⟩ := scene_eq_behind.1 h
  obtain ⟨env', clock', slot', events', logs', wallClock'⟩ := b
  simp only at henv hclock hslot hevents
  subst henv hclock hslot hevents
  cases r with
  | lock _ | unlock | wallClock _ => simp [Request.isWork] at hr
  | primitive p d =>
      cases ending with
      | completed =>
          cases slot' with
          | none => exact ⟨rfl, rfl, rfl⟩
          | some page =>
              refine ⟨rfl, rfl, ?_⟩
              simp [answer, apply, Ending.result, scene, Scene.behind, report, record]
      | _ => exact ⟨rfl, rfl, rfl⟩
  | sample request cancel => cases ending <;> exact ⟨rfl, rfl, rfl⟩
  | launch config =>
      refine ⟨rfl, rfl, ?_⟩
      simp [answer, launch, scene, Scene.behind, report, record]
  | unmount => cases slot' <;> exact ⟨rfl, rfl, rfl⟩
  | _ => exact ⟨rfl, rfl, rfl⟩

theorem answer_clock (w : World B) (c : Caller) (ending : Ending) (r : Request B.Page) :
    (w.answer c ending r).2.1.clock = w.clock := by
  cases r with
  | primitive p d =>
      cases ending with
      | completed => cases h : w.slot <;> simp [answer, Ending.result, apply, h, record, report]
      | _ => rfl
  | sample request cancel => cases ending <;> rfl
  | unmount => cases h : w.slot <;> simp [answer, h, farewell, record]
  | _ => rfl

end World

namespace Shared

variable {s : Shared B} {a : World B} {before : List (Instant × B.Event)} {c : Caller}
  {r : Request B.Page}

theorem begin_of_some {wait : Wait} {u : Instant} (hr : r.isWork = true)
    (hwait : s.world.waitFor c r = some wait) (hu : wait.until? = some u) :
    s.begin c r =
      if wait.cancel.isPast s.world.clock then .inl .cancelled
      else if u ≤ s.world.clock then .inl .completed
      else match wait.deadline with
        | some d => if d.instant ≤ s.world.clock then .inl (.expired d) else .inr wait
        | none => .inr wait := by
  cases r with
  | lock _ => simp [Request.isWork] at hr
  | _ =>
      cases hd : wait.deadline with
      | none => simp only [begin, hwait, hu, hd, Option.getD_some]
      | some d => simp only [begin, hwait, hu, hd, Option.getD_some]

/-- A request other than for the lock either takes effect at once, as it would alone, or is waited
for, and alone it would be waited for in the same way. -/
theorem begin_cases (hr : r.isWork = true) (h : s.world.scene = a.scene.behind before) :
    (∃ ending, s.begin (c.note r) r = .inl ending ∧ a.serve c r = a.answer (c.note r) ending r) ∨
      ∃ wait u, s.begin (c.note r) r = .inr wait ∧ a.waitFor (c.note r) r = some wait ∧
        wait.until? = some u ∧ a.clock < u ∧ wait.Awaits a.clock := by
  have hclock : s.world.clock = a.clock := (World.scene_eq_behind.1 h).2.1
  have hsame := World.waitFor_behind h (c.note r) r
  cases hwait : a.waitFor (c.note r) r with
  | none =>
      refine .inl ⟨.completed, ?_, World.serve_of_none hwait⟩
      rw [hwait] at hsame
      cases r with
      | lock _ => simp [Request.isWork] at hr
      | _ => simp only [begin, hsame]
  | some wait =>
      obtain ⟨u, hu⟩ := World.waitFor_until hwait
      rw [hwait] at hsame
      rw [begin_of_some hr hsame hu, hclock]
      by_cases hcancel : wait.cancel.isPast a.clock = true
      · rw [if_pos hcancel]
        exact .inl ⟨.cancelled, rfl, World.serve_of_conclude hwait hu
          (Wait.conclude_now_of_cancelled hcancel)⟩
      · rw [if_neg hcancel]
        rw [Bool.not_eq_true] at hcancel
        by_cases hdone : u ≤ a.clock
        · rw [if_pos hdone]
          exact .inl ⟨.completed, rfl, World.serve_of_conclude hwait hu
            (Wait.conclude_now_of_completed hcancel hdone)⟩
        · rw [if_neg hdone]
          have hlt : a.clock < u := Nat.lt_of_not_le hdone
          have huntil : ∀ v ∈ wait.until?, a.clock ≤ v := by
            intro v hv
            obtain rfl : u = v := by simpa [hu] using hv
            exact Nat.le_of_lt hlt
          cases hd : wait.deadline with
          | none =>
              exact .inr ⟨wait, u, rfl, rfl, hu, hlt, huntil, hcancel, by simp [hd]⟩
          | some d =>
              by_cases hexpired : d.instant ≤ a.clock
              · simp only [if_pos hexpired]
                exact .inl ⟨.expired d, rfl, World.serve_of_conclude hwait hu
                  (Wait.conclude_now_of_expired hd hcancel hexpired hlt)⟩
              · simp only [if_neg hexpired]
                have hin : ∀ d' ∈ wait.deadline, a.clock ≤ d'.instant := by
                  intro d' hd'
                  obtain rfl : d = d' := by simpa [hd] using hd'
                  exact Nat.le_of_lt (Nat.lt_of_not_le hexpired)
                exact .inr ⟨wait, u, rfl, rfl, hu, hlt, huntil, hcancel, hin⟩

theorem run_of_inl {i : Nat} {next : r.Answer → Operation B.Page α} {ending : Ending}
    (h : s.begin (c.note r) r = .inl ending) :
    run i (.ask r next) s c = run i (next (s.answer i (c.note r) ending r).1)
      (s.answer i (c.note r) ending r).2.1 (s.answer i (c.note r) ending r).2.2 := by
  simp only [run, h]

theorem run_of_inr {i : Nat} {next : r.Answer → Operation B.Page α} {wait : Wait}
    (h : s.begin (c.note r) r = .inr wait) :
    run i (.ask r next) s c = (.waiting r wait next, s.enqueue i r, c.note r) := by
  simp only [run, h]

theorem answer_of_work (s : Shared B) (i : Nat) (c : Caller) (ending : Ending)
    (hr : r.isWork = true) : s.answer i c ending r = ((s.world.answer c ending r).1,
      { s with world := (s.world.answer c ending r).2.1 }, (s.world.answer c ending r).2.2) := by
  cases r with
  | lock _ | unlock => simp [Request.isWork] at hr
  | _ => rfl

theorem enqueue_of_work (s : Shared B) (i : Nat) (hr : r.isWork = true) : s.enqueue i r = s := by
  cases r with
  | lock _ => simp [Request.isWork] at hr
  | _ => rfl

end Shared

/-! ## Requests that nobody else notices -/

/-- A request made at `t` is over at `u`, among others as alone, and changes nothing but the log. -/
structure Quiet (r : Request B.Page) (c : Caller) (t u : Instant) (x : r.Answer) (c' : Caller) :
    Prop where
  le : t ≤ u
  alone : ∀ a : World B, a.clock = t →
    ∃ a', a.serve c r = (x, a', c') ∧ a'.scene = { a.scene with clock := u }
  answer : ∀ (s : Shared B) (i : Nat), s.world.clock = u →
    ∃ b, s.answer i (c.note r) .completed r = (x, { s with world := b }, c') ∧
      b.scene = s.world.scene
  atOnce : u = t → ∀ s : Shared B, s.world.clock = t → s.begin (c.note r) r = .inl .completed
  later : t < u → ∀ s : Shared B, s.world.clock = t →
    s.begin (c.note r) r = .inr ⟨some u, .never, none⟩

theorem quiet_now (t : Instant) (c : Caller) :
    Quiet (.now : Request B.Page) c t t t c := by
  refine ⟨Nat.le_refl t, fun a ha ↦ ⟨a, ?_, ?_⟩, fun s i hs ↦ ⟨s.world, ?_, rfl⟩,
    fun _ _ _ ↦ rfl, fun h ↦ absurd h (Nat.lt_irrefl t)⟩
  · rw [← ha]
    rfl
  · rw [← ha]
    rfl
  · rw [← hs]
    rfl

theorem quiet_note {r : Request B.Page} (hr : r.isNote = true) (t : Instant) (c : Caller) :
    ∃ x c', Quiet r c t t x c' := by
  have hnever : ∀ {p : Prop}, t < t → p := fun h ↦ absurd h (Nat.lt_irrefl t)
  cases r with
  | now => exact ⟨t, c, quiet_now t c⟩
  | log entry =>
      exact ⟨(), c, Nat.le_refl t, fun a ha ↦ ⟨a.record c [entry], rfl, by rw [← ha]; rfl⟩,
        fun s i hs ↦ ⟨s.world.record c [entry], rfl, rfl⟩, fun _ _ _ ↦ rfl, hnever⟩
  | enter span =>
      exact ⟨(), { c with spans := c.spans ++ [span] }, Nat.le_refl t,
        fun a ha ↦ ⟨a, rfl, by rw [← ha]; rfl⟩, fun s i hs ↦ ⟨s.world, rfl, rfl⟩,
        fun _ _ _ ↦ rfl, hnever⟩
  | leave =>
      exact ⟨(), { c with spans := c.spans.dropLast }, Nat.le_refl t,
        fun a ha ↦ ⟨a, rfl, by rw [← ha]; rfl⟩, fun s i hs ↦ ⟨s.world, rfl, rfl⟩,
        fun _ _ _ ↦ rfl, hnever⟩
  | _ => simp [Request.isNote] at hr

theorem quiet_wait {r : Request B.Page} {c c' : Caller} {t u : Instant} {x : r.Answer}
    (hr : r.isWork = true) (hle : t ≤ u)
    (hwait : ∀ w : World B, w.clock = t →
      w.waitFor (c.note r) r = some ⟨some u, .never, none⟩)
    (hanswer : ∀ w : World B, w.answer (c.note r) .completed r = (x, w, c')) :
    Quiet r c t u x c' := by
  refine ⟨hle, fun a ha ↦ ⟨{ a with clock := u }, ?_, rfl⟩, fun s i _ ↦ ⟨s.world, ?_, rfl⟩,
    fun hu s hs ↦ ?_, fun hu s hs ↦ ?_⟩
  · have hconclude : (Wait.mk (some u) .never none).conclude a.clock u = (.completed, u) :=
      Wait.conclude_of_completed (ha ▸ hle) rfl (by simp)
    rw [World.serve_of_conclude (hwait a ha) rfl hconclude, hanswer]
  · rw [Shared.answer_of_work s i _ _ hr, hanswer]
  · rw [Shared.begin_of_some hr (hwait s.world hs) rfl, hs, hu]
    simp [Cancellation.isPast]
  · rw [Shared.begin_of_some hr (hwait s.world hs) rfl, hs]
    simp [Cancellation.isPast, Nat.not_le_of_lt hu]

theorem quiet_idle {r : Request B.Page} (hr : r.isIdle = true) (t : Instant) (c : Caller) :
    ∃ u x c', Quiet r c t u x c' := by
  cases r with
  | pause millis cancel d =>
      cases cancel <;> cases d <;> simp [Request.isIdle] at hr
      exact ⟨t + millis, .ok (), c, quiet_wait rfl (Nat.le_add_right _ _)
        (fun w hw ↦ by rw [← hw]; rfl) fun _ ↦ rfl⟩
  | sample request cancel =>
      cases cancel <;> simp [Request.isIdle] at hr
      exact ⟨_, _, _, quiet_wait rfl (Nat.le_add_right t _) (fun w hw ↦ by rw [← hw]; rfl)
        fun _ ↦ rfl⟩
  | log entry => exact ⟨t, quiet_note (r := .log entry) rfl t c⟩
  | enter span => exact ⟨t, quiet_note (r := .enter span) rfl t c⟩
  | leave => exact ⟨t, quiet_note (r := .leave) rfl t c⟩
  | _ => simp [Request.isIdle] at hr

theorem Quiet.run {r : Request B.Page} {c c' : Caller} {t : Instant} {x : r.Answer}
    (h : Quiet r c t t x c') {s : Shared B} (ht : s.world.clock = t) (i : Nat)
    (next : r.Answer → Operation B.Page α) :
    ∃ b, b.scene = s.world.scene ∧
      Shared.run i (.ask r next) s c = Shared.run i (next x) { s with world := b } c' := by
  obtain ⟨b, hanswer, hb⟩ := h.answer s i ht
  exact ⟨b, hb, by rw [Shared.run_of_inl (h.atOnce rfl s ht), hanswer]⟩

/-! ## Running with the lock -/

theorem World.serveAfter_of_work {r : Request B.Page} (hr : r.isWork = true) (queued : Nat)
    (w : World B) (c : Caller) : w.serveAfter queued c r = w.serve c r :=
  serveAfter_of_ne_lock queued w c fun d h ↦ by simp [h, Request.isWork] at hr

theorem Request.isWork_of_isNote {r : Request B.Page} (hr : r.isNote = true) :
    r.isWork = true := by
  cases r <;> simp [isNote, isWork] at hr ⊢

/-- Whoever only takes notes is at the end at once. -/
theorem run_notes {p : Operation B.Page α} (hp : p.Only Request.isNote) (queued i : Nat)
    (s : Shared B) (a : World B) (c : Caller) (h : s.world.clock = a.clock) :
    ∃ x b c' a', Shared.run i p s c =
        (.ended (.returned x) s.world.clock, { s with world := b }, c') ∧
      b.scene = s.world.scene ∧ p.aloneAfter queued a c = (.returned x, a', c') ∧
      a'.scene = a.scene := by
  induction hp generalizing s a c with
  | done x => exact ⟨x, s.world, c, a, rfl, rfl, rfl, rfl⟩
  | @ask r next hr _ ih =>
      obtain ⟨x, c₁, hquiet⟩ := quiet_note hr a.clock c
      obtain ⟨b, hb, hrun₁⟩ := hquiet.run h i next
      obtain ⟨a₁, hserve, ha⟩ := hquiet.alone a rfl
      have hbclock : b.clock = s.world.clock := congrArg Scene.clock hb
      have haclock : a₁.clock = a.clock := congrArg Scene.clock ha
      obtain ⟨y, b', c', a', hrun, hb', halone, ha'⟩ :=
        ih x { s with world := b } a₁ c₁ (hbclock.trans (h.trans haclock.symm))
      refine ⟨y, b', c', a', ?_, hb'.trans hb, ?_, ha'.trans ha⟩
      · rw [hrun₁, ← hbclock]
        exact hrun
      · rw [Operation.aloneAfter_ask, World.serveAfter_of_work (Request.isWork_of_isNote hr),
          hserve]
        exact halone

/-- A thread waits in the middle of its block, on the way to what it comes to alone. -/
inductive Midway (queued : Nat) (fate : Outcome α × World B × Caller)
    (before : List (Instant × B.Event)) (s : Scene B) : Thread B α → Prop
  | waiting {r : Request B.Page} {next : r.Answer → Operation B.Page α} {c : Caller} {a : World B}
      {wait : Wait} {u : Instant} :
      r.isWork = true → (∀ x, (next x).Stays) →
        s = Scene.behind before { a.scene with clock := s.clock } → a.clock ≤ s.clock →
        a.waitFor (c.note r) r = some wait → wait.until? = some u → wait.Awaits s.clock →
        fate = (Operation.ask r next).aloneAfter queued a c →
        Midway queued fate before s ⟨c.note r, .waiting r wait next⟩

/-- What becomes of an operation that runs with the lock: it waits in the middle of its block, or
it is over and the lock is given up. -/
inductive Ran (queued : Nat) (fate : Outcome α × World B × Caller)
    (before : List (Instant × B.Event)) (s : Shared B) : Stage B α × Shared B × Caller → Prop
  | midway {stage : Stage B α} {b : World B} {c : Caller} :
      b.clock = s.world.clock → Midway queued fate before b.scene ⟨c, stage⟩ →
        Ran queued fate before s (stage, { s with world := b }, c)
  | ended {x : α} {a b : World B} {c : Caller} :
      b.clock = s.world.clock → b.scene = a.scene.behind before → fate = (.returned x, a, c) →
        Ran queued fate before s (.ended (.returned x) b.clock,
          Shared.unlock { s with world := b }, c)

theorem Ran.of_world {queued : Nat} {fate : Outcome α × World B × Caller}
    {before : List (Instant × B.Event)} {s : Shared B} {b : World B}
    {x : Stage B α × Shared B × Caller} (h : Ran queued fate before { s with world := b } x)
    (hclock : b.clock = s.world.clock) : Ran queued fate before s x := by
  cases h with
  | midway hb hmidway => exact .midway (hb.trans hclock) hmidway
  | ended hb hscene hfate => exact .ended (hb.trans hclock) hscene hfate

theorem Shared.unlock_world (s : Shared B) (b : World B) :
    { s.unlock with world := b } = Shared.unlock { s with world := b } := by
  obtain ⟨world, holder, queue⟩ := s
  cases queue <;> rfl

theorem Shared.world_unlock (s : Shared B) : s.unlock.world = s.world := by
  unfold Shared.unlock
  split <;> rfl

theorem Shared.unlock_nil {s : Shared B} (h : s.queue = []) :
    s.unlock = { s with holder := none } := by
  simp only [Shared.unlock, h]

theorem Shared.unlock_cons {s : Shared B} {first : Nat} {rest : List Nat}
    (h : s.queue = first :: rest) :
    s.unlock = { s with holder := some first, queue := rest } := by
  simp only [Shared.unlock, h]

/-- One run of an operation with the lock is part of what it does alone. -/
theorem run_stays {p : Operation B.Page α} (hp : p.Stays) {queued i : Nat} {s : Shared B}
    {a : World B} {before : List (Instant × B.Event)} {c : Caller}
    (h : s.world.scene = a.scene.behind before) :
    Ran queued (p.aloneAfter queued a c) before s (Shared.run i p s c) := by
  induction hp generalizing s a c with
  | @unlock next hnext =>
      have hworld : s.unlock.world = s.world := s.world_unlock
      have hclock : s.unlock.world.clock = a.clock := by
        rw [hworld]
        exact (World.scene_eq_behind.1 h).2.1
      obtain ⟨x, b, c', a', hrun, hb, halone, ha⟩ := run_notes hnext queued i s.unlock a c hclock
      have hb' : b.scene = s.world.scene := hb.trans (congrArg World.scene hworld)
      have hbclock : b.clock = s.world.clock := congrArg Scene.clock hb'
      have hended : Shared.run i (.ask .unlock next) s c =
          (.ended (.returned x) b.clock, Shared.unlock { s with world := b }, c') := by
        rw [← s.unlock_world b, hbclock, ← hworld]
        exact hrun
      rw [hended]
      exact .ended hbclock (hb'.trans (h.trans (congrArg (Scene.behind before) ha.symm))) halone
  | @ask r next hr hnext ih =>
      have hclock : s.world.clock = a.clock := (World.scene_eq_behind.1 h).2.1
      rcases Shared.begin_cases (c := c) hr h with ⟨ending, hbegin, hserve⟩ |
        ⟨wait, u, hbegin, hwait, hu, hlt, hawaits⟩
      · obtain ⟨hx, hc, hscene⟩ := World.answer_behind h (c.note r) ending hr
        have hnext' : Shared.run i (.ask r next) s c =
            Shared.run i (next (s.world.answer (c.note r) ending r).1)
              { s with world := (s.world.answer (c.note r) ending r).2.1 }
              (s.world.answer (c.note r) ending r).2.2 := by
          rw [Shared.run_of_inl hbegin, Shared.answer_of_work s i _ _ hr]
        rw [hnext', hx, hc, Operation.aloneAfter_ask, World.serveAfter_of_work hr, hserve]
        exact (ih (a.answer (c.note r) ending r).1 hscene).of_world (World.answer_clock _ _ _ _)
      · rw [Shared.run_of_inr hbegin, Shared.enqueue_of_work s i hr]
        refine .midway rfl (.waiting hr hnext ?_ ?_ hwait hu ?_ rfl)
        · rw [h]
          simp [Scene.behind, World.scene]
        · exact Nat.le_of_eq hclock.symm
        · change wait.Awaits s.world.clock
          rw [hclock]
          exact hawaits

/-- The wait of the caller at place `i` ends now. A caller who gives up at this very instant comes
last. -/
def Stage.EndsNow (stage : Stage B α) (s : Shared B) (i : Nat) (ending : Ending) : Prop :=
  stage.endingNow? s i = some ending ∨
    stage.endingNow? s i = none ∧ stage.cancelledNow? s = some ending

/-- A wait among others ends when and as it does alone. -/
theorem Stage.EndsNow.conclude {s : Shared B} {i : Nat} {ending : Ending} {r : Request B.Page}
    {wait : Wait} {next : r.Answer → Operation B.Page α} {now u : Instant}
    (h : (Stage.waiting r wait next).EndsNow s i ending) (hu : wait.until? = some u)
    (hnow : now ≤ s.world.clock) (hawaits : wait.Awaits s.world.clock) :
    wait.conclude now u = (ending, s.world.clock) := by
  have hlate : s.world.clock ≤ u := hawaits.until_le u hu
  have hnotPast : ¬ wait.cancel.isPast s.world.clock = true := by simp [hawaits.wanted]
  rcases h with h | ⟨hnone, h⟩
  · simp only [endingNow?, hu, decide_eq_true_eq, if_neg hnotPast] at h
    by_cases hdone : u ≤ s.world.clock
    · obtain rfl : u = s.world.clock := Nat.le_antisymm hdone hlate
      obtain rfl : Ending.completed = ending := by simpa using h
      exact Wait.conclude_of_completed hnow hawaits.wanted hawaits.inTime
    · rw [if_neg hdone] at h
      cases hd : wait.deadline with
      | none => simp [hd] at h
      | some d =>
          simp only [hd, Option.ite_none_right_eq_some, Option.some.injEq] at h
          obtain ⟨hexpired, rfl⟩ := h
          have hclock : d.instant = s.world.clock := Nat.le_antisymm hexpired (hawaits.inTime d hd)
          rw [← hclock] at hnow hdone ⊢
          refine Wait.conclude_of_expired hd hnow (Nat.lt_of_not_le hdone) ?_
          rw [hclock]
          exact hawaits.wanted
  · obtain ⟨until?, cancel, deadline⟩ := wait
    obtain rfl : until? = some u := hu
    cases cancel with
    | «at» v =>
        simp only [cancelledNow?, Option.ite_none_right_eq_some, Option.some.injEq] at h
        obtain ⟨hv, rfl⟩ := h
        have hnotLt : ¬ v < s.world.clock := by simpa [Cancellation.isPast] using hawaits.wanted
        have hclock : v = s.world.clock := Nat.le_antisymm hv (Nat.le_of_not_lt hnotLt)
        simp only [endingNow?, decide_eq_true_eq, if_neg hnotPast] at hnone
        have hnotDone : ¬ u ≤ s.world.clock := fun hdone ↦ by simp [hdone] at hnone
        rw [if_neg hnotDone] at hnone
        rw [← hclock] at hnow hnotDone hnone ⊢
        refine Wait.conclude_of_cancelled_at rfl hnow (Nat.lt_of_not_le hnotDone) fun d hd ↦ ?_
        obtain rfl : deadline = some d := hd
        exact Nat.lt_of_not_le fun hexpired ↦ by simp [hexpired] at hnone
    | _ => simp [cancelledNow?] at h

/-- A thread that waits in the middle of its block goes on as it does alone. -/
theorem Midway.resume {queued i : Nat} {fate : Outcome α × World B × Caller}
    {before : List (Instant × B.Event)} {s : Shared B} {c : Caller} {r : Request B.Page}
    {wait : Wait} {next : r.Answer → Operation B.Page α} {ending : Ending}
    (h : Midway queued fate before s.world.scene ⟨c, .waiting r wait next⟩)
    (hends : (Stage.waiting r wait next).EndsNow s i ending) :
    Ran queued fate before s (Shared.run i (next (s.answer i c ending r).1)
      (s.answer i c ending r).2.1 (s.answer i c ending r).2.2) := by
  cases h with
  | @waiting _ _ c a _ u hr hnext hscene hclock hwait hu hawaits hfate =>
      have hconclude : wait.conclude a.clock u = (ending, s.world.clock) :=
        hends.conclude hu hclock hawaits
      have hscene' : s.world.scene =
          ({ a with clock := s.world.clock } : World B).scene.behind before := hscene
      obtain ⟨hx, hc, hlater⟩ := World.answer_behind hscene' (c.note r) ending hr
      have hserve := World.serve_of_conclude hwait hu hconclude
      rw [hfate, Shared.answer_of_work s i _ _ hr, Operation.aloneAfter_ask,
        World.serveAfter_of_work hr, hserve, hx, hc]
      exact (run_stays (hnext _) hlater).of_world (World.answer_clock _ _ _ _)

end BrowserPilot
