import BrowserPilot.Proofs.Operation.Tenure
import BrowserPilot.Proofs.Operation.Visit

namespace BrowserPilot

/-!
# Paths of an operation

Whatever surrounds an operation, what it comes to is told by a path: its requests are
answered one after the other, and the primitives among them are the calls that the page
gets from it. What holds along all paths is proved by the way in which tasks are put together.
-/

/-- The calls on the page after a request, which is answered so. -/
def Request.noted {π : Type} (calls : List Called) : (r : Request π) → r.Answer → List Called
  | .primitive p _, reply => calls ++ [⟨p, reply⟩]
  | _, _ => calls

namespace Operation

variable {π α β : Type} {X : Prop} {A : (r : Request π) → r.Answer → Prop}
  {J : List Called → Prop} {Q : List Called → α → Prop} {k k' : List Called} {p q : Operation π α}

/-- An operation comes from one point to another, by answers of which `A` holds. -/
inductive Path (A : (r : Request π) → r.Answer → Prop) :
    List Called → Operation π α → List Called → Operation π α → Prop
  | here (k : List Called) (p : Operation π α) : Path A k p k p
  | ask {k k' : List Called} {r : Request π} {next : r.Answer → Operation π α} {a : r.Answer}
      {q : Operation π α} :
      A r a → Path A (r.noted k a) (next a) k' q → Path A k (.ask r next) k' q

/-- From the calls `k` on, `J` holds of the calls all along every path, and `Q` at its end. The
operation may crash if `X` holds. -/
inductive Always (X : Prop) (A : (r : Request π) → r.Answer → Prop) (J : List Called → Prop)
    (Q : List Called → α → Prop) : List Called → Operation π α → Prop
  | done {k : List Called} {a : α} : J k → Q k a → Always X A J Q k (.done a)
  | crash {k : List Called} {reason : String} : X → J k → Always X A J Q k (.crash reason)
  | ask {k : List Called} {r : Request π} {next : r.Answer → Operation π α} :
      J k → (∀ a, A r a → Always X A J Q (r.noted k a) (next a)) → Always X A J Q k (.ask r next)

namespace Path

theorem snoc {r : Request π} {next : r.Answer → Operation π α} {a : r.Answer}
    (h : Path A k p k' (.ask r next)) (ha : A r a) : Path A k p (r.noted k' a) (next a) := by
  -- the induction is on the path, so its end must not be a request yet
  generalize hq : Operation.ask r next = q at h
  induction h with
  | here k p =>
      subst hq
      exact .ask ha (.here _ _)
  | ask ha' _ ih => exact .ask ha' (ih hq)

/-- A path through two operations in a row goes through the end of the first. -/
theorem of_bind {f : α → Operation π β} {b : β} (h : Path A k (p.bind f) k' (.done b)) :
    ∃ k₁ a, Path A k p k₁ (.done a) ∧ Path A k₁ (f a) k' (.done b) := by
  induction p generalizing k with
  | done a => exact ⟨k, a, .here _ _, h⟩
  | crash reason => cases h
  | ask r next ih =>
      cases h with
      | ask ha hnext =>
          obtain ⟨k₁, a, hfirst, hsecond⟩ := ih _ hnext
          exact ⟨k₁, a, .ask ha hfirst, hsecond⟩

end Path

namespace Always

theorem holds (h : Always X A J Q k p) : J k := by
  cases h <;> assumption

/-- What holds along all paths holds along each. -/
theorem path (h : Always X A J Q k p) (hpath : Path A k p k' q) : Always X A J Q k' q := by
  induction hpath with
  | here _ _ => exact h
  | ask ha _ ih =>
      cases h with
      | ask _ hnext => exact ih (hnext _ ha)

theorem of_done {a : α} (h : Always X A J Q k (.done a)) : Q k a := by
  cases h
  assumption

theorem of_crash {reason : String} (h : Always X A J Q k (.crash reason)) : X := by
  cases h
  assumption

theorem mono {X' : Prop} {J' : List Called → Prop} {Q' : List Called → α → Prop}
    (h : Always X A J Q k p) (hX : X → X') (hJ : ∀ k, J k → J' k)
    (hQ : ∀ k a, J k → Q k a → Q' k a) : Always X' A J' Q' k p := by
  induction h with
  | done hj hq => exact .done (hJ _ hj) (hQ _ _ hj hq)
  | crash hx hj => exact .crash (hX hx) (hJ _ hj)
  | ask hj _ ih => exact .ask (hJ _ hj) ih

theorem bind {R : List Called → β → Prop} {f : α → Operation π β} (h : Always X A J Q k p)
    (hf : ∀ k a, J k → Q k a → Always X A J R k (f a)) : Always X A J R k (p.bind f) := by
  induction h with
  | done hj hq => exact hf _ _ hj hq
  | crash hx hj => exact .crash hx hj
  | ask hj _ ih => exact .ask hj ih

end Always

end Operation

/-! ## Tasks -/

namespace Task

open Operation (Always)

variable {π α β : Type} {X : Prop} {A : (r : Request π) → r.Answer → Prop}
  {J : List Called → Prop} {M Q : List Called → Result α → Prop}
  {R : List Called → Result β → Prop} {k : List Called} {t : Task π α}

theorem always_bind {f : α → Task π β} (ht : Always X A J M k t.run)
    (hok : ∀ k a, J k → M k (.ok a) → Always X A J R k (f a).run)
    (herror : ∀ k e, M k (.error e) → R k (.error e)) : Always X A J R k (t >>= f).run := by
  refine ht.bind fun k r hj hr ↦ ?_
  cases r with
  | ok a => exact hok k a hj hr
  | error e => exact .done hj (herror k e hr)

theorem always_result_bind {g : Result α → Task π β} (ht : Always X A J M k t.run)
    (hg : ∀ k r, J k → M k r → Always X A J R k (g r).run) :
    Always X A J R k (result t >>= g).run := by
  rw [run_result_bind]
  exact ht.bind hg

/-- A request that has nothing to do with the page. -/
theorem always_lift_bind {r : Request π} {g : r.Answer → Task π β} (hj : J k)
    (hnoted : ∀ a, r.noted k a = k) (hg : ∀ a, Always X A J R k (g a).run) :
    Always X A J R k (lift (Operation.request r) >>= g).run :=
  .ask hj fun a _ ↦ (hnoted a).symm ▸ hg a

theorem always_inSpan {span : Span} (ht : Always X A J Q k t.run) :
    Always X A J Q k (inSpan span t).run := by
  refine always_lift_bind ht.holds (fun _ ↦ rfl) fun _ ↦ always_result_bind ht fun k r hj hr ↦ ?_
  exact always_lift_bind hj (fun _ ↦ rfl) fun _ ↦ .done hj hr

theorem always_locked {d : Option Deadline} (ht : Always X A J Q k t.run)
    (hrefused : ∀ e, A (.lock d) (.error e) → Q k (.error e)) :
    Always X A J Q k (locked d t).run := by
  refine .ask ht.holds fun r hr ↦ ?_
  cases r with
  | error e => exact .done ht.holds (hrefused e hr)
  | ok _ =>
      have hbody : Always X A J Q k
          (result t >>= fun r ↦ unlock >>= fun _ ↦ attempt (.done r)).run :=
        always_result_bind ht fun k r hj hr ↦
          always_lift_bind hj (fun _ ↦ rfl) fun _ ↦ .done hj hr
      exact hbody

theorem always_withPage {d : Option Deadline} (ht : Always X A J Q k t.run)
    (hrefused : ∀ e, A (.lock d) (.error e) → Q k (.error e))
    (hnone : Q k (.error .notStarted)) : Always X A J Q k (withPage d t).run := by
  refine always_locked (always_lift_bind ht.holds (fun _ ↦ rfl) fun page ↦ ?_) hrefused
  cases page with
  | true => exact ht
  | false => exact .done ht.holds hnone

end Task

/-! ## The answers of the world -/

section

variable {B : Backend}

theorem Caller.note_sampler {π : Type} (c : Caller) (r : Request π) :
    (c.note r).sampler = c.sampler := by
  cases r <;> rfl

namespace World

theorem answer_sampler (w : World B) (c : Caller) (ending : Ending) (r : Request B.Page) :
    (w.answer c ending r).2.2.sampler = c.sampler := by
  cases r with
  | primitive _ _ | sample _ _ => cases ending <;> rfl
  | unmount => cases hslot : w.slot <;> simp [answer, hslot]
  | _ => rfl

/-- However a request is waited for, the world answers it at some time. -/
theorem serveAfter_eq_answer (queued : Nat) (w : World B) (c : Caller) (r : Request B.Page) :
    ∃ (t : Instant) (c' : Caller) (ending : Ending), c'.sampler = c.sampler ∧
      w.serveAfter queued c r = { w with clock := t }.answer c' ending r := by
  have hserve : ∃ (t : Instant) (c' : Caller) (ending : Ending), c'.sampler = c.sampler ∧
      w.serve c r = { w with clock := t }.answer c' ending r := by
    simp only [serve]
    split
    · exact ⟨w.clock, _, _, c.note_sampler r, rfl⟩
    · exact ⟨_, _, _, c.note_sampler r, rfl⟩
  cases r with
  | lock d => exact ⟨_, c, _, rfl, rfl⟩
  | _ => exact hserve

end World

/-- What holds along all paths on which the world answers, holds when an operation runs alone. -/
theorem Operation.Always.alone {α : Type} {X : Prop} {A : (r : Request B.Page) → r.Answer → Prop}
    {J : List Called → Prop} {Q : List Called → α → Prop} {P : Sampler → Prop} {k : List Called}
    {p : Operation B.Page α} (h : Always X A J Q k p)
    (hA : ∀ (w : World B) (c : Caller) (ending : Ending) (r : Request B.Page),
      P c.sampler → A r (w.answer c ending r).1)
    (queued : Nat) (w : World B) {c : Caller} (hc : P c.sampler) :
    (∃ a k', (p.aloneAfter queued w c).1 = .returned a ∧ Q k' a) ∨
      ∃ reason, (p.aloneAfter queued w c).1 = .crashed reason ∧ X := by
  induction h generalizing w c with
  | @done k a _ hq => exact .inl ⟨a, k, rfl, hq⟩
  | @crash k reason hx _ => exact .inr ⟨reason, rfl, hx⟩
  | @ask k r next _ _ ih =>
      -- the world moves on while the request is waited for, but the caller keeps its model
      obtain ⟨t, c', ending, hsampler, hserve⟩ := World.serveAfter_eq_answer queued w c r
      have hc' : P c'.sampler := hsampler ▸ hc
      rw [aloneAfter_ask, hserve]
      exact ih _ (hA { w with clock := t } c' ending r hc') _
        ((World.answer_sampler { w with clock := t } c' ending r).symm ▸ hc')

end

end BrowserPilot
