import BrowserPilot.Proofs.Operation.Shared

namespace BrowserPilot

/-!
# Before the lock

A visitor that has not asked for the lock yet does what it does alone, whatever page it
will find. When it asks, and by when it wants the lock, is therefore known beforehand.
-/

variable {B : Backend} {α β : Type}

namespace Operation

/-- When an operation asks for the lock if nobody else has it before, and by when it wants it. -/
def asked? (w : World B) (c : Caller) : Operation B.Page α → Option (Instant × Option Deadline)
  | .done _ => none
  | .crash _ => none
  | .ask (.lock d) _ => some (w.clock, d)
  | .ask r next => (next (w.serve c r).1).asked? (w.serve c r).2.1 (w.serve c r).2.2

section

variable {w : World B} {c : Caller}

theorem asked?_ask (w : World B) (c : Caller) {r : Request B.Page} (hr : r.isWork = true)
    (next : r.Answer → Operation B.Page α) :
    (ask r next).asked? w c =
      (next (w.serve c r).1).asked? (w.serve c r).2.1 (w.serve c r).2.2 := by
  cases r with
  | lock d => simp [Request.isWork] at hr
  | _ => rfl

theorem asked?_notes {p : Operation B.Page α} (hp : p.Only Request.isNote) :
    p.asked? w c = none := by
  induction hp generalizing w c with
  | done a => rfl
  | ask hr _ ih =>
      rw [asked?_ask w c (Request.isWork_of_isNote hr)]
      exact ih _

theorem asked?_bind {p : Operation B.Page α} {f : α → Operation B.Page β}
    (hf : ∀ a, (f a).Only Request.isNote) : (p.bind f).asked? w c = p.asked? w c := by
  induction p generalizing w c with
  | done a => exact asked?_notes (hf a)
  | crash reason => rfl
  | ask r next ih =>
      cases r with
      | lock d => rfl
      | _ => exact ih _

end

end Operation

section

variable {w : World B} {c : Caller}

namespace Task

theorem asked?_bind {t : Task B.Page α} {f : α → Task B.Page β}
    (hf : ∀ a, (f a).run.Only Request.isNote) :
    (t >>= f).run.asked? w c = t.run.asked? w c := by
  refine Operation.asked?_bind fun r ↦ ?_
  cases r with
  | ok a => exact hf a
  | error e => exact .done _

theorem asked?_bind_pure {t : Task B.Page α} {f : α → β} :
    (t >>= fun a ↦ pure (f a)).run.asked? w c = t.run.asked? w c :=
  asked?_bind fun _ ↦ .done _

theorem asked?_result_bind {t : Task B.Page α} {g : Result α → Task B.Page β}
    (hg : ∀ r, (g r).run.Only Request.isNote) :
    (result t >>= g).run.asked? w c = t.run.asked? w c := by
  rw [run_result_bind]
  exact Operation.asked?_bind hg

theorem asked?_now_bind {f : Instant → Task B.Page β} :
    (now >>= f).run.asked? w c = (f w.clock).run.asked? w c := rfl

theorem asked?_sample_bind {request : SamplingRequest} {cancel : Cancellation}
    {f : String → Task B.Page β} {asked : Instant × Option Deadline}
    (h : (sample request cancel >>= f).run.asked? w c = some asked) :
    ∃ answer w' c', (f answer).run.asked? w' c' = some asked := by
  have hnext : ∀ x : Result String × World B × Caller,
      (ExceptT.bindCont f x.1 : Operation B.Page (Result β)).asked? x.2.1 x.2.2 = some asked →
      ∃ answer w' c', (f answer).run.asked? w' c' = some asked := by
    rintro ⟨r, w', c'⟩ hr
    cases r with
    | ok answer => exact ⟨answer, w', c', hr⟩
    | error e => cases hr
  exact hnext (w.serve c (.sample request cancel)) h

end Task

end

/-- From the instant `t₀` on, whatever the page is, the operation `p₀` alone comes to be at the
operation `p` at the instant `t`, and nothing has happened meanwhile. -/
def Reaches (t₀ : Instant) (p₀ : Operation B.Page α) (c₀ : Caller) (t : Instant)
    (p : Operation B.Page α) (c : Caller) : Prop :=
  ∀ a : World B, a.clock = t₀ → ∃ a', a'.scene = { a.scene with clock := t } ∧
    (∀ queued, p₀.aloneAfter queued a c₀ = p.aloneAfter queued a' c) ∧
      p₀.asked? a c₀ = p.asked? a' c

theorem Reaches.refl (t : Instant) (p : Operation B.Page α) (c : Caller) : Reaches t p c t p c :=
  fun a ha ↦ ⟨a, by rw [← ha]; rfl, fun _ ↦ rfl, rfl⟩

theorem Reaches.quiet {t₀ t u : Instant} {p₀ : Operation B.Page α} {c₀ c c' : Caller}
    {r : Request B.Page} {next : r.Answer → Operation B.Page α} {x : r.Answer}
    (h : Reaches t₀ p₀ c₀ t (.ask r next) c) (hr : r.isWork = true)
    (hquiet : Quiet r c t u x c') : Reaches t₀ p₀ c₀ u (next x) c' := by
  intro a ha
  obtain ⟨a₁, hscene, halone, hasked⟩ := h a ha
  have hclock : a₁.clock = t := congrArg Scene.clock hscene
  obtain ⟨a₂, hserve, hscene'⟩ := hquiet.alone a₁ hclock
  refine ⟨a₂, by rw [hscene', hscene], fun queued ↦ ?_, ?_⟩
  · rw [halone, Operation.aloneAfter_ask, World.serveAfter_of_work hr, hserve]
  · rw [hasked, Operation.asked?_ask a₁ c hr, hserve]

theorem Reaches.asked {t₀ asked : Instant} {p₀ : Operation B.Page α} {c₀ c : Caller}
    {d : Option Deadline} {next : Result Unit → Operation B.Page α}
    (h : Reaches t₀ p₀ c₀ asked (.ask (.lock d) next) c) {a : World B} (ha : a.clock = t₀) :
    p₀.asked? a c₀ = some (asked, d) := by
  obtain ⟨a', hscene, -, hasked⟩ := h a ha
  have hclock : a'.clock = asked := congrArg Scene.clock hscene
  rw [hasked, ← hclock]
  rfl

/-- A thread that has not asked for the lock waits for the instant `u`. -/
inductive Idles (t₀ : Instant) (p₀ : Operation B.Page α) (c₀ : Caller) (u : Instant) :
    Thread B α → Prop
  | waiting {r : Request B.Page} {next : r.Answer → Operation B.Page α} {c c' : Caller}
      {t : Instant} {x : r.Answer} :
      r.isIdle = true → Quiet r c t u x c' → (next x).Visits u →
        Reaches t₀ p₀ c₀ u (next x) c' →
        Idles t₀ p₀ c₀ u ⟨c.note r, .waiting r ⟨some u, .never, none⟩ next⟩

/-- An operation that ends at `t` without having asked for the lock. -/
def Passes (t₀ : Instant) (p₀ : Operation B.Page α) (c₀ : Caller) (t : Instant)
    (o : Outcome α) : Prop :=
  ∀ a : World B, a.clock = t₀ → p₀.asked? a c₀ = none ∧
    ∃ a' c', p₀.alone a c₀ = (o, a', c') ∧ a'.scene = { a.scene with clock := t }

/-- What becomes of a visitor that runs before it has the lock: it waits, it ends, or it asks for
the lock. -/
inductive Came (t₀ : Instant) (p₀ : Operation B.Page α) (c₀ : Caller) (i : Nat) (s : Shared B) :
    Stage B α × Shared B × Caller → Prop
  | idle {u : Instant} {stage : Stage B α} {b : World B} {c : Caller} :
      s.world.clock < u → b.scene = s.world.scene → Idles t₀ p₀ c₀ u ⟨c, stage⟩ →
        Came t₀ p₀ c₀ i s (stage, { s with world := b }, c)
  | passed {o : Outcome α} {b : World B} {c : Caller} :
      b.scene = s.world.scene → Passes t₀ p₀ c₀ s.world.clock o →
        Came t₀ p₀ c₀ i s (.ended o s.world.clock, { s with world := b }, c)
  | asks {d : Option Deadline} {next : Result Unit → Operation B.Page α} {b : World B}
      {c : Caller} :
      b.scene = s.world.scene → (∀ d' ∈ d, s.world.clock ≤ d'.instant) → (next (.ok ())).Stays →
        (∀ e, (next (.error e)).Only Request.isNote) →
        Reaches t₀ p₀ c₀ s.world.clock (.ask (.lock d) next) c →
        Came t₀ p₀ c₀ i s (Shared.run i (.ask (.lock d) next) { s with world := b } c)

theorem Came.of_world {t₀ : Instant} {p₀ : Operation B.Page α} {c₀ : Caller} {i : Nat}
    {s : Shared B} {b : World B} {x : Stage B α × Shared B × Caller}
    (h : Came t₀ p₀ c₀ i { s with world := b } x) (hb : b.scene = s.world.scene) :
    Came t₀ p₀ c₀ i s x := by
  have hclock : b.clock = s.world.clock := congrArg Scene.clock hb
  cases h with
  | idle hlt hscene hidles => exact .idle (hclock ▸ hlt) (hscene.trans hb) hidles
  | passed hscene hpasses =>
      change Came t₀ p₀ c₀ i s (.ended _ b.clock, _, _)
      rw [hclock]
      exact .passed (hscene.trans hb) (hclock ▸ hpasses)
  | asks hscene hd hstay herror hreaches =>
      exact .asks (hscene.trans hb) (hclock ▸ hd) hstay herror (hclock ▸ hreaches)

theorem Request.isWork_of_isIdle {r : Request B.Page} (hr : r.isIdle = true) :
    r.isWork = true := by
  cases r <;> simp [isIdle, isWork] at hr ⊢

theorem Reaches.passes {t₀ t : Instant} {p p₀ : Operation B.Page α} {c c₀ : Caller}
    {o : Outcome α} (h : Reaches t₀ p₀ c₀ t p c) (hasked : ∀ a, p.asked? a c = none)
    (halone : ∀ a, p.aloneAfter 0 a c = (o, a, c)) : Passes t₀ p₀ c₀ t o := by
  intro a ha
  obtain ⟨a', hscene, halone', hasked'⟩ := h a ha
  refine ⟨hasked'.trans (hasked a'), a', c, ?_, hscene⟩
  rw [← Operation.aloneAfter_zero, halone', halone]

/-- One run of a visitor before it has the lock. -/
theorem run_visits {t₀ t : Instant} {p p₀ : Operation B.Page α} {c c₀ : Caller} {i : Nat}
    {s : Shared B} (hp : p.Visits t) (ht : s.world.clock = t) (h : Reaches t₀ p₀ c₀ t p c) :
    Came t₀ p₀ c₀ i s (Shared.run i p s c) := by
  induction hp generalizing s c with
  | done x =>
      subst ht
      exact .passed (b := s.world) rfl (h.passes (fun _ ↦ rfl) fun _ ↦ rfl)
  | crash reason =>
      subst ht
      exact .passed (b := s.world) rfl (h.passes (fun _ ↦ rfl) fun _ ↦ rfl)
  | lock hd hstay herror =>
      subst ht
      exact .asks (b := s.world) rfl hd hstay herror h
  | @now t next hnext ih =>
      have hquiet := quiet_now (B := B) t c
      obtain ⟨b, hb, hrun⟩ := hquiet.run ht i next
      have hclock : b.clock = t := (congrArg Scene.clock hb).trans ht
      have hrest := ih (s := { s with world := b }) hclock (h.quiet rfl hquiet)
      exact (congrArg (Came t₀ p₀ c₀ i s) hrun).mpr (hrest.of_world hb)
  | @ask t r next hr hnext ih =>
      have hwork := Request.isWork_of_isIdle hr
      obtain ⟨u, x, c', hquiet⟩ := quiet_idle hr t c
      rcases Nat.eq_or_lt_of_le hquiet.le with rfl | hlt
      · obtain ⟨b, hb, hrun⟩ := hquiet.run ht i next
        rw [hrun]
        have hclock : b.clock = t := (congrArg Scene.clock hb).trans ht
        exact (ih x t hquiet.le (s := { s with world := b }) hclock
          (h.quiet hwork hquiet)).of_world hb
      · rw [Shared.run_of_inr (hquiet.later hlt s ht), Shared.enqueue_of_work s i hwork]
        exact .idle (b := s.world) (ht ▸ hlt) rfl
          (.waiting hr hquiet (hnext x u hquiet.le) (h.quiet hwork hquiet))

theorem Idles.resume {t₀ u : Instant} {p₀ : Operation B.Page α} {c c₀ : Caller} {i : Nat}
    {s : Shared B} {r : Request B.Page} {wait : Wait} {next : r.Answer → Operation B.Page α}
    (h : Idles t₀ p₀ c₀ u ⟨c, .waiting r wait next⟩) (hu : s.world.clock = u) :
    Came t₀ p₀ c₀ i s (Shared.run i (next (s.answer i c .completed r).1)
      (s.answer i c .completed r).2.1 (s.answer i c .completed r).2.2) := by
  cases h with
  | waiting hr hquiet hvisits hreaches =>
      obtain ⟨b, hanswer, hb⟩ := hquiet.answer s i hu
      rw [hanswer]
      have hclock : b.clock = u := (congrArg Scene.clock hb).trans hu
      exact (run_visits (s := { s with world := b }) hvisits hclock hreaches).of_world hb

end BrowserPilot
