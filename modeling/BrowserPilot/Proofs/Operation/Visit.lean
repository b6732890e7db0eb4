import BrowserPilot.Proofs.Operation.Queued

namespace BrowserPilot

/-!
# Visits

An operation that visits the shared page asks for the lock at most once. Until then it
touches nothing that is shared but the log. With the lock it does what it likes, and
once it has given the lock up it only takes notes.
-/

namespace Request

variable {π : Type}

/-- Whether a request takes no time and touches nothing but the log. -/
def isNote : Request π → Bool
  | now | log _ | enter _ | leave => true
  | _ => false

/-- Whether a request touches nothing but the log, is waited for to its end, and has an answer that
does not tell the time. -/
def isIdle : Request π → Bool
  | pause _ .never none | sample _ .never | log _ | enter _ | leave => true
  | _ => false

/-- Whether a request may be made with the lock: all but those for the lock itself and for the time
of day. -/
def isWork : Request π → Bool
  | lock _ | unlock | wallClock _ => false
  | _ => true

end Request

namespace Operation

variable {π α β : Type}

/-- All requests of an operation are of one kind, and it does not crash. -/
inductive Only (kind : Request π → Bool) : Operation π α → Prop
  | done (a : α) : Only kind (.done a)
  | ask {r : Request π} {next : r.Answer → Operation π α} :
      kind r = true → (∀ a, Only kind (next a)) → Only kind (.ask r next)

/-- An operation that has the lock gives it up before it ends, and then only takes notes. -/
inductive Stays : Operation π α → Prop
  | unlock {next : Unit → Operation π α} :
      (next ()).Only Request.isNote → Stays (.ask .unlock next)
  | ask {r : Request π} {next : r.Answer → Operation π α} :
      r.isWork = true → (∀ a, Stays (next a)) → Stays (.ask r next)

/-- An operation, from the instant `t` on, is a visit. Its deadline for the lock is not over when it
asks. -/
inductive Visits : (t : Instant) → Operation π α → Prop
  | done {t : Instant} (a : α) : Visits t (.done a)
  | crash {t : Instant} (reason : String) : Visits t (.crash reason)
  | lock {t : Instant} {d : Option Deadline} {next : Result Unit → Operation π α} :
      (∀ d' ∈ d, t ≤ d'.instant) → (next (.ok ())).Stays →
        (∀ e, (next (.error e)).Only Request.isNote) → Visits t (.ask (.lock d) next)
  | now {t : Instant} {next : Instant → Operation π α} :
      Visits t (next t) → Visits t (.ask .now next)
  | ask {t : Instant} {r : Request π} {next : r.Answer → Operation π α} :
      r.isIdle = true → (∀ a u, t ≤ u → Visits u (next a)) → Visits t (.ask r next)

namespace Only

variable {kind : Request π → Bool} {p : Operation π α} {f : α → Operation π β}

theorem bind (hp : p.Only kind) (hf : ∀ a, (f a).Only kind) : (p.bind f).Only kind := by
  induction hp with
  | done a => exact hf a
  | ask hr _ ih => exact .ask hr ih

theorem stays_bind (hp : p.Only Request.isWork) (hf : ∀ a, (f a).Stays) : (p.bind f).Stays := by
  induction hp with
  | done a => exact hf a
  | ask hr _ ih => exact .ask hr ih

theorem visits (hp : p.Only Request.isNote) (t : Instant) : p.Visits t := by
  induction hp generalizing t with
  | done a => exact .done a
  | @ask r next hr _ ih =>
      cases r with
      | now => exact .now (ih t t)
      | log _ | enter _ | leave => exact .ask rfl fun a u _ ↦ ih a u
      | _ => simp [Request.isNote] at hr

theorem visits_bind {t : Instant} (hp : p.Only Request.isIdle)
    (hf : ∀ a u, t ≤ u → (f a).Visits u) : (p.bind f).Visits t := by
  induction hp generalizing t with
  | done a => exact hf a t (Nat.le_refl t)
  | ask hr _ ih => exact .ask hr fun a u hu ↦ ih a fun b v hv ↦ hf b v (Nat.le_trans hu hv)

end Only

theorem Stays.bind {p : Operation π α} {f : α → Operation π β} (hp : p.Stays)
    (hf : ∀ a, (f a).Only Request.isNote) : (p.bind f).Stays := by
  induction hp with
  | unlock h => exact .unlock (h.bind hf)
  | ask hr _ ih => exact .ask hr ih

theorem Visits.bind {t : Instant} {p : Operation π α} {f : α → Operation π β} (hp : p.Visits t)
    (hf : ∀ a, (f a).Only Request.isNote) : (p.bind f).Visits t := by
  induction hp with
  | done a => exact (hf a).visits _
  | crash reason => exact .crash reason
  | lock hd hstay herror => exact .lock hd (hstay.bind hf) fun e ↦ (herror e).bind hf
  | now _ ih => exact .now ih
  | ask hr _ ih => exact .ask hr ih

end Operation

/-! ## Tasks that visit -/

namespace Task

variable {π α β : Type} {kind : Request π → Bool} {t : Task π α} {f : α → Task π β}
  {u : Instant}

theorem run_result_bind (t : Task π α) (g : Result α → Task π β) :
    (result t >>= g).run = t.run.bind fun r ↦ (g r).run :=
  Operation.bind_assoc _ _ _

theorem only_bind (ht : t.run.Only kind) (hf : ∀ a, (f a).run.Only kind) :
    (t >>= f).run.Only kind := by
  refine ht.bind fun r ↦ ?_
  cases r with
  | ok a => exact hf a
  | error e => exact .done _

theorem only_result (ht : t.run.Only kind) : (result t).run.Only kind :=
  ht.bind fun _ ↦ .done _

theorem only_lift {r : Request π} (hr : kind r = true) :
    (lift (Operation.request r)).run.Only kind :=
  .ask hr fun _ ↦ .done _

theorem visits_bind (ht : t.run.Visits u) (hf : ∀ a, (f a).run.Only Request.isNote) :
    (t >>= f).run.Visits u := by
  refine ht.bind fun r ↦ ?_
  cases r with
  | ok a => exact hf a
  | error e => exact .done _

theorem visits_of_idle (ht : t.run.Only Request.isIdle)
    (hf : ∀ a v, u ≤ v → (f a).run.Visits v) : (t >>= f).run.Visits u := by
  refine ht.visits_bind fun r v hv ↦ ?_
  cases r with
  | ok a => exact hf a v hv
  | error e => exact .done _

theorem visits_now_bind {g : Instant → Task π β} (hg : (g u).run.Visits u) :
    (now >>= g).run.Visits u :=
  .now hg

theorem visits_result (ht : t.run.Visits u) : (result t).run.Visits u :=
  ht.bind fun _ ↦ .done _

/-- Whoever holds the lock for some work visits. -/
theorem visits_locked {d : Option Deadline} (hd : ∀ d' ∈ d, u ≤ d'.instant)
    (ht : t.run.Only Request.isWork) : (locked d t).run.Visits u := by
  refine .lock hd ?_ fun e ↦ .done _
  have hstay : (result t >>= fun r ↦ unlock >>= fun _ ↦ attempt (.done r)).run.Stays := by
    rw [run_result_bind]
    exact ht.stays_bind fun r ↦ .unlock (.done r)
  exact hstay

end Task

end BrowserPilot
