import BrowserPilot.Proofs.Operation.Shared

namespace BrowserPilot

/-!
# A run that is cut short

A caller who gives up at some instant gets to see what everybody gets to see until then.
A task that gives up on its way is compared with the same task that never does: up to the
instant the two make the same requests to the model, and there the first one ends.
-/

variable {B : Backend} {α β : Type}

/-! ## Time goes on -/

namespace World

theorem le_serve_clock (w : World B) (c : Caller) (r : Request B.Page) :
    w.clock ≤ (w.serve c r).2.1.clock := by
  cases hwait : w.waitFor (c.note r) r with
  | none =>
      rw [serve_of_none hwait]
      exact Nat.le_of_eq (answer_clock ..).symm
  | some wait =>
      obtain ⟨u, hu⟩ := waitFor_until hwait
      rw [serve_of_conclude hwait hu rfl, answer_clock]
      exact Wait.le_conclude

theorem answer_asked (w : World B) (c : Caller) (ending : Ending) (r : Request B.Page) :
    (w.answer c ending r).2.2.asked = c.asked := by
  cases r with
  | primitive _ _ | sample _ _ => cases ending <;> rfl
  | unmount => cases hslot : w.slot <;> simp [answer, hslot]
  | _ => rfl

theorem serve_asked (w : World B) (c : Caller) (r : Request B.Page) :
    (w.serve c r).2.2.asked = (c.note r).asked := by
  cases hwait : w.waitFor (c.note r) r with
  | none => rw [serve_of_none hwait, answer_asked]
  | some wait =>
      obtain ⟨u, hu⟩ := waitFor_until hwait
      rw [serve_of_conclude hwait hu rfl, answer_asked]

end World

namespace Operation

variable {w w' : World B} {c c' : Caller} {p : Operation B.Page α} {a : α}

theorem alone_ask (w : World B) (c : Caller) (r : Request B.Page)
    (next : r.Answer → Operation B.Page α) :
    (ask r next).alone w c = (next (w.serve c r).1).alone (w.serve c r).2.1 (w.serve c r).2.2 := rfl

theorem le_alone_clock (p : Operation B.Page α) (w : World B) (c : Caller) :
    w.clock ≤ (p.alone w c).2.1.clock := by
  induction p generalizing w c with
  | done a => exact Nat.le_refl _
  | crash reason => exact Nat.le_refl _
  | ask r next ih => exact Nat.le_trans (w.le_serve_clock c r) (ih _ _ _)

/-- The second of two operations begins when the first has returned. -/
theorem exists_of_alone_bind {f : α → Operation B.Page β} {b : β}
    (h : (p.bind f).alone w c = (.returned b, w', c')) :
    ∃ a w₁ c₁, p.alone w c = (.returned a, w₁, c₁) ∧
      (f a).alone w₁ c₁ = (.returned b, w', c') := by
  induction p generalizing w c with
  | done a => exact ⟨a, w, c, rfl, h⟩
  | crash reason => simp [bind, alone] at h
  | ask r next ih => exact ih _ h

/-! ## What the model is asked, and when -/

/-- The requests that an operation makes to the caller's model, each with its instant. -/
def inquiries (w : World B) (c : Caller) : Operation B.Page α → List (Instant × SamplingRequest)
  | .done _ => []
  | .crash _ => []
  | .ask r next =>
    let later := (next (w.serve c r).1).inquiries (w.serve c r).2.1 (w.serve c r).2.2
    match r with
    | .sample request _ => (w.clock, request) :: later
    | _ => later

theorem inquiries_bind (h : p.alone w c = (.returned a, w', c')) (f : α → Operation B.Page β) :
    (p.bind f).inquiries w c = p.inquiries w c ++ (f a).inquiries w' c' := by
  induction p generalizing w c with
  | done b =>
      obtain ⟨hb, rfl, rfl⟩ := by simpa [alone] using h
      subst hb
      rfl
  | crash reason => simp [alone] at h
  | ask r next ih =>
      cases r with
      | sample request cancel => exact congrArg (_ :: ·) (ih _ h)
      | _ => exact ih _ h

/-- The caller keeps a note of every request. -/
theorem asked_alone (p : Operation B.Page α) (w : World B) (c : Caller) :
    (p.alone w c).2.2.asked = c.asked ++ (p.inquiries w c).map Prod.snd := by
  induction p generalizing w c with
  | done a => exact (List.append_nil _).symm
  | crash reason => exact (List.append_nil _).symm
  | ask r next ih =>
      rw [alone_ask, ih, World.serve_asked]
      cases r with
      | sample request cancel => exact List.append_assoc _ _ _
      | _ => rfl

/-- Requests are made between the beginning and the end. -/
theorem between_of_mem_inquiries {p : Operation B.Page α} {x : Instant × SamplingRequest}
    (h : x ∈ p.inquiries w c) : w.clock ≤ x.1 ∧ x.1 ≤ (p.alone w c).2.1.clock := by
  induction p generalizing w c with
  | done a => cases h
  | crash reason => cases h
  | ask r next ih =>
      have hnow := w.le_serve_clock c r
      have hlater (h : x ∈ (next (w.serve c r).1).inquiries (w.serve c r).2.1 (w.serve c r).2.2) :
          w.clock ≤ x.1 ∧ x.1 ≤ ((ask r next).alone w c).2.1.clock :=
        ⟨Nat.le_trans hnow (ih _ h).1, (ih _ h).2⟩
      cases r with
      | sample request cancel =>
          rcases List.mem_cons.1 h with rfl | h
          · exact ⟨Nat.le_refl _, le_alone_clock _ w c⟩
          · exact hlater h
      | _ => exact hlater h

end Operation

/-! ## Two runs side by side -/

namespace Task

variable {p whole : Task B.Page α} {t : Instant}

/-- From `w` on, `p` is broken off at `t`, and has asked what `whole` asks by then. -/
def BrokenOff (t : Instant) (p whole : Task B.Page α) (w : World B) (c : Caller) : Prop :=
  (∃ w' c', p.run.alone w c = (.returned (.error .cancelled), w', c') ∧ w'.clock = t) ∧
    ∃ later, whole.run.inquiries w c = p.run.inquiries w c ++ later ∧ ∀ x ∈ later, t ≤ x.1

/-- `p` is what `whole` is to a caller who gives up at `t`: the same if it returns by then, and
else broken off. -/
def Cut (t : Instant) (p whole : Task B.Page α) : Prop :=
  ∀ ⦃w : World B⦄ ⦃c : Caller⦄ ⦃r : Result α⦄ ⦃w₀ : World B⦄ ⦃c₀ : Caller⦄, w.clock ≤ t →
    whole.run.alone w c = (.returned r, w₀, c₀) →
      (w₀.clock ≤ t → p.run.alone w c = (.returned r, w₀, c₀) ∧
        p.run.inquiries w c = whole.run.inquiries w c) ∧
      (t < w₀.clock → BrokenOff t p whole w c)

theorem BrokenOff.le_of_mem_inquiries {w : World B} {c : Caller} (h : BrokenOff t p whole w c)
    {x : Instant × SamplingRequest} (hx : x ∈ p.run.inquiries w c) : x.1 ≤ t := by
  obtain ⟨⟨w', c', hrun, rfl⟩, -⟩ := h
  have hle := (Operation.between_of_mem_inquiries hx).2
  rwa [hrun] at hle

/-- If the first task is broken off, the second does not begin. -/
theorem BrokenOff.bind {w : World B} {c : Caller} (h : BrokenOff t p whole w c)
    (f : α → Task B.Page β) {whole' : α → Task B.Page β} {r : Result α} {w₁ : World B} {c₁ : Caller}
    (hfirst : whole.run.alone w c = (.returned r, w₁, c₁)) (hlate : t ≤ w₁.clock) :
    BrokenOff t (p >>= f) (whole >>= whole') w c := by
  obtain ⟨⟨w', c', hp, hclock⟩, later, hlater, hafter⟩ := h
  have hasked : (p >>= f).run.inquiries w c = p.run.inquiries w c :=
    (Operation.inquiries_bind hp _).trans (List.append_nil _)
  refine ⟨⟨w', c', Operation.alone_bind hp _, hclock⟩,
    later ++ (ExceptT.bindCont whole' r : Operation B.Page (Result β)).inquiries w₁ c₁, ?_, ?_⟩
  · rw [hasked, ← List.append_assoc, ← hlater]
    exact Operation.inquiries_bind hfirst _
  · intro x hx
    rcases List.mem_append.1 hx with hx | hx
    · exact hafter x hx
    · exact Nat.le_trans hlate (Operation.between_of_mem_inquiries hx).1

namespace Cut

/-- A task that takes no time is not broken off. -/
theorem of_instant (h : ∀ (w : World B) (c : Caller), (p.run.alone w c).2.1.clock = w.clock) :
    Cut t p p := by
  intro w c r w₀ c₀ hw hrun
  have hclock : w₀.clock = w.clock := by
    rw [← h w c, hrun]
  exact ⟨fun _ ↦ ⟨hrun, rfl⟩, fun hlate ↦ absurd (hclock ▸ hlate) (Nat.not_lt_of_le hw)⟩

theorem pure (a : α) : Cut t (Pure.pure a : Task B.Page α) (Pure.pure a) := of_instant fun _ _ ↦ rfl

theorem throw (e : Failure) : Cut t (MonadExcept.throw e : Task B.Page α) (MonadExcept.throw e) :=
  of_instant fun _ _ ↦ rfl

theorem log (level : LogLevel) (message : String) (fields : LogFields) :
    Cut t (Task.log level message fields : Task B.Page Unit) (Task.log level message fields) :=
  of_instant fun _ _ ↦ rfl

theorem wallClock (zone : Zone) :
    Cut t (Task.wallClock zone : Task B.Page CivilTime) (Task.wallClock zone) :=
  of_instant fun _ _ ↦ rfl

theorem sample (request : SamplingRequest) :
    Cut t (Task.sample request (.at t) : Task B.Page String) (Task.sample request .never) := by
  intro w c r w₀ c₀ hw hrun
  -- The reply is there at `u`, if it is waited for.
  obtain ⟨u, hu⟩ : ∃ u, u = w.clock + (c.sampler (c.asked ++ [request])).1 := ⟨_, rfl⟩
  have hnow : w.clock ≤ u := hu ▸ Nat.le_add_right _ _
  have hwhole := Task.sample_alone request hu
    (Wait.conclude_of_completed (w := ⟨some u, .never, none⟩) hnow rfl nofun)
  obtain ⟨hr, rfl, rfl⟩ := by simpa using hwhole.symm.trans hrun
  constructor
  · intro hin
    have hcancel : (Cancellation.at t).isPast u = false := decide_eq_false (Nat.not_lt_of_le hin)
    have hreply := Task.sample_alone request hu
      (Wait.conclude_of_completed (w := ⟨some u, .at t, none⟩) hnow hcancel nofun)
    rw [hreply, ← hr]
    exact ⟨rfl, rfl⟩
  · intro hlate
    have hbroken := Task.sample_alone request hu
      (Wait.conclude_of_cancelled_at (w := ⟨some u, .at t, none⟩) rfl hw hlate nofun)
    exact ⟨⟨_, _, hbroken, rfl⟩, [], (List.append_nil _).symm, nofun⟩

theorem bind {f whole' : α → Task B.Page β} (h : Cut t p whole) (hf : ∀ a, Cut t (f a) (whole' a)) :
    Cut t (p >>= f) (whole >>= whole') := by
  intro w c r w₀ c₀ hw hrun
  obtain ⟨r₁, w₁, c₁, hfirst, hsecond⟩ := Operation.exists_of_alone_bind hrun
  obtain ⟨hsame, hbroken⟩ := h hw hfirst
  rcases Nat.lt_or_ge t w₁.clock with hlate | hin
  · have hend : w₁.clock ≤ w₀.clock := by
      have hle := Operation.le_alone_clock (ExceptT.bindCont whole' r₁) w₁ c₁
      rwa [hsecond] at hle
    exact ⟨fun hin ↦ absurd (Nat.lt_of_lt_of_le hlate hend) (Nat.not_lt_of_le hin),
      fun _ ↦ (hbroken hlate).bind f hfirst (Nat.le_of_lt hlate)⟩
  · obtain ⟨hp, hasked⟩ := hsame hin
    have hwhole : (whole >>= whole').run.inquiries w c = whole.run.inquiries w c ++
        (ExceptT.bindCont whole' r₁ : Operation B.Page (Result β)).inquiries w₁ c₁ :=
      Operation.inquiries_bind hfirst _
    have hbind : (p >>= f).run.alone w c =
        (ExceptT.bindCont f r₁ : Operation B.Page (Result β)).alone w₁ c₁ :=
      Operation.alone_bind hp _
    have hinquiries : (p >>= f).run.inquiries w c = whole.run.inquiries w c ++
        (ExceptT.bindCont f r₁ : Operation B.Page (Result β)).inquiries w₁ c₁ := by
      rw [← hasked]
      exact Operation.inquiries_bind hp _
    cases r₁ with
    | error e =>
        obtain ⟨-, rfl, -⟩ := by simpa using hsecond
        exact ⟨fun _ ↦ ⟨hbind.trans hsecond, hinquiries.trans hwhole.symm⟩,
          fun hlate ↦ absurd hin (Nat.not_le_of_lt hlate)⟩
    | ok a =>
        obtain ⟨hsame', hbroken'⟩ := hf a hin hsecond
        rw [BrokenOff, hbind, hinquiries, hwhole]
        refine ⟨fun hin' ↦ ⟨(hsame' hin').1, congrArg _ (hsame' hin').2⟩, fun hlate ↦ ?_⟩
        obtain ⟨hended, later, hlater, hafter⟩ := hbroken' hlate
        refine ⟨hended, later, ?_, hafter⟩
        rw [List.append_assoc]
        exact congrArg _ hlater

end Cut

end Task

end BrowserPilot
