import BrowserPilot.Operation.Alone
import BrowserPilot.Proofs.Operation.Wait

namespace BrowserPilot

/-!
# An operation that queues for the lock

An operation that runs alone finds the lock free. Among others it may have to
queue, and all that this changes for it is the time at which the lock comes: some
milliseconds after it is asked for, or not at all if the deadline comes first.
-/

variable {B : Backend} {α β : Type}

namespace World

/-- Answers a request of an operation that gets the lock `queued` milliseconds after it asks for
it, unless the deadline comes first. -/
def serveAfter (queued : Nat) (w : World B) (c : Caller) :
    (r : Request B.Page) → r.Answer × World B × Caller
  | .lock deadline =>
    let granted := w.clock + queued
    let (ending, t) := (Wait.mk (some granted) .never deadline).conclude w.clock granted
    { w with clock := t }.answer c ending (.lock deadline)
  | r => w.serve c r

theorem serveAfter_of_ne_lock (queued : Nat) (w : World B) (c : Caller) {r : Request B.Page}
    (hr : ∀ d, r ≠ .lock d) : w.serveAfter queued c r = w.serve c r := by
  cases r with
  | lock d => exact absurd rfl (hr d)
  | _ => rfl

/-- A lock that comes by the deadline, if there is one, is had. -/
theorem serveAfter_lock_of_le {queued : Nat} {w : World B} {deadline : Option Deadline}
    (c : Caller) (h : ∀ d ∈ deadline, w.clock + queued ≤ d.instant) :
    w.serveAfter queued c (.lock deadline) =
      (.ok (), { w with clock := w.clock + queued }, c) := by
  have hconclude : (Wait.mk (some (w.clock + queued)) .never deadline).conclude w.clock
      (w.clock + queued) = (.completed, w.clock + queued) :=
    Wait.conclude_of_completed (Nat.le_add_right _ _) rfl h
  simp only [serveAfter, hconclude]
  rfl

theorem serveAfter_lock_of_lt {queued : Nat} {w : World B} {d : Deadline} (c : Caller)
    (hnow : w.clock ≤ d.instant) (h : d.instant < w.clock + queued) :
    w.serveAfter queued c (.lock (some d)) =
      (.error (.timeout d.limit), { w with clock := d.instant }, c) := by
  have hconclude : (Wait.mk (some (w.clock + queued)) .never (some d)).conclude w.clock
      (w.clock + queued) = (.expired d, d.instant) :=
    Wait.conclude_of_expired rfl hnow h rfl
  simp only [serveAfter, hconclude]
  rfl

theorem serveAfter_zero (w : World B) (c : Caller) (r : Request B.Page) :
    w.serveAfter 0 c r = w.serve c r := by
  cases r with
  | lock deadline =>
      have hconclude : (Wait.mk (some w.clock) .never deadline).conclude w.clock w.clock =
          (.completed, w.clock) := by
        cases deadline with
        | none => simp [Wait.conclude, Cancellation.isPast, Wait.deadlineInstant?,
            Wait.cancelInstant?, Wait.notAfter]
        | some d => simp [Wait.conclude, Cancellation.isPast, Wait.deadlineInstant?,
            Wait.cancelInstant?, Wait.notAfter, Nat.le_max_left w.clock d.instant]
      simp only [serveAfter, Nat.add_zero, hconclude]
      rfl
  | _ => rfl

end World

namespace Operation

/-- Runs an operation to its end that gets the lock `queued` milliseconds after it asks for it. -/
def aloneAfter (queued : Nat) (w : World B) (c : Caller) :
    Operation B.Page α → Outcome α × World B × Caller
  | .done a => (.returned a, w, c)
  | .crash reason => (.crashed reason, w, c)
  | .ask r next =>
    let (a, w, c) := w.serveAfter queued c r
    (next a).aloneAfter queued w c

@[simp] theorem aloneAfter_done (queued : Nat) (w : World B) (c : Caller) (a : α) :
    (done a : Operation B.Page α).aloneAfter queued w c = (.returned a, w, c) := rfl

@[simp] theorem aloneAfter_crash (queued : Nat) (w : World B) (c : Caller) (reason : String) :
    (crash reason : Operation B.Page α).aloneAfter queued w c = (.crashed reason, w, c) := rfl

theorem aloneAfter_ask (queued : Nat) (w : World B) (c : Caller) (r : Request B.Page)
    (next : r.Answer → Operation B.Page α) :
    (ask r next).aloneAfter queued w c =
      (next (w.serveAfter queued c r).1).aloneAfter queued (w.serveAfter queued c r).2.1
        (w.serveAfter queued c r).2.2 := rfl

theorem aloneAfter_lock_of_le {queued : Nat} {w : World B} {d : Option Deadline} (c : Caller)
    (next : Result Unit → Operation B.Page α) (h : ∀ d' ∈ d, w.clock + queued ≤ d'.instant) :
    (ask (.lock d) next).aloneAfter queued w c =
      (next (.ok ())).aloneAfter queued { w with clock := w.clock + queued } c := by
  have hserve := World.serveAfter_lock_of_le c h
  calc (ask (.lock d) next).aloneAfter queued w c
      = (next (w.serveAfter queued c (.lock d)).1).aloneAfter queued
          (w.serveAfter queued c (.lock d)).2.1 (w.serveAfter queued c (.lock d)).2.2 := rfl
    _ = _ := by rw [hserve]

theorem aloneAfter_lock_of_lt {queued : Nat} {w : World B} {d : Deadline} (c : Caller)
    (next : Result Unit → Operation B.Page α) (hnow : w.clock ≤ d.instant)
    (h : d.instant < w.clock + queued) :
    (ask (.lock (some d)) next).aloneAfter queued w c =
      (next (.error (.timeout d.limit))).aloneAfter queued { w with clock := d.instant } c := by
  have hserve := World.serveAfter_lock_of_lt c hnow h
  calc (ask (.lock (some d)) next).aloneAfter queued w c
      = (next (w.serveAfter queued c (.lock (some d))).1).aloneAfter queued
          (w.serveAfter queued c (.lock (some d))).2.1
          (w.serveAfter queued c (.lock (some d))).2.2 := rfl
    _ = _ := by rw [hserve]

/-- Who does not queue runs as if alone. -/
theorem aloneAfter_zero (w : World B) (c : Caller) (p : Operation B.Page α) :
    p.aloneAfter 0 w c = p.alone w c := by
  induction p generalizing w c with
  | done a => rfl
  | crash reason => rfl
  | ask r next ih =>
      rw [aloneAfter_ask, World.serveAfter_zero]
      exact ih _ _ _

theorem aloneAfter_bind {queued : Nat} {w w' : World B} {c c' : Caller} {p : Operation B.Page α}
    {a : α} (h : p.aloneAfter queued w c = (.returned a, w', c'))
    (f : α → Operation B.Page β) :
    (p.bind f).aloneAfter queued w c = (f a).aloneAfter queued w' c' := by
  induction p generalizing w c with
  | done b =>
      obtain ⟨hb, rfl, rfl⟩ := by simpa using h
      subst hb
      rfl
  | crash reason => simp at h
  | ask r next ih =>
      rw [aloneAfter_ask] at h
      exact ih _ h

theorem aloneAfter_bind_of_crash {queued : Nat} {w w' : World B} {c c' : Caller}
    {p : Operation B.Page α} {reason : String}
    (h : p.aloneAfter queued w c = (.crashed reason, w', c')) (f : α → Operation B.Page β) :
    (p.bind f).aloneAfter queued w c = (.crashed reason, w', c') := by
  induction p generalizing w c with
  | done a => simp at h
  | crash reason' =>
      obtain ⟨rfl, rfl, rfl⟩ := by simpa using h
      rfl
  | ask r next ih =>
      rw [aloneAfter_ask] at h
      exact ih _ h

theorem alone_bind {w w' : World B} {c c' : Caller} {p : Operation B.Page α} {a : α}
    (h : p.alone w c = (.returned a, w', c')) (f : α → Operation B.Page β) :
    (p.bind f).alone w c = (f a).alone w' c' := by
  rw [← aloneAfter_zero] at h ⊢
  rw [← aloneAfter_zero]
  exact aloneAfter_bind h f

end Operation

theorem Task.aloneAfter_now_bind (queued : Nat) (w : World B) (c : Caller)
    (f : Instant → Task B.Page α) :
    (Task.now >>= f).run.aloneAfter queued w c = (f w.clock).run.aloneAfter queued w c := rfl

/-- The model is asked at once. Its reply is had unless the caller has given up before it is
there. -/
theorem Task.sample_alone (request : SamplingRequest) {w : World B} {c : Caller}
    {cancel : Cancellation} {ending : Ending} {u t : Instant}
    (hu : u = w.clock + (c.sampler (c.asked ++ [request])).1)
    (h : (Wait.mk (some u) cancel none).conclude w.clock u = (ending, t)) :
    (Task.sample request cancel : Task B.Page String).run.alone w c =
      (.returned (ending.result.bind fun _ ↦ (c.sampler (c.asked ++ [request])).2),
        { w with clock := t }, { c with asked := c.asked ++ [request] }) := by
  subst hu
  simp only [Task.sample, Task.attempt, Operation.request, ExceptT.run, ExceptT.mk,
    Operation.alone, World.serve, Caller.note, World.waitFor, Option.getD_some, h]
  cases ending <;> rfl

end BrowserPilot
