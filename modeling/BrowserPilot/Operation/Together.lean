import BrowserPilot.Operation.World

namespace BrowserPilot

/-!
# Operations side by side

Several operations share one world and one lock. An operation runs until it has to
wait. Operations that can go on at the same instant do so in the order of the list,
the lock is handed on in the order in which it was asked for, and the clock moves
only when no operation can go on.
-/

variable {B : Backend} {α : Type}

/-- Where an operation stands: it waits for the end of a request, or it has ended. -/
inductive Stage (B : Backend) (α : Type)
  | waiting (r : Request B.Page) (wait : Wait) (next : r.Answer → Operation B.Page α)
  | ended (outcome : Outcome α) (instant : Instant)

/-- One of several callers and its operation. -/
structure Thread (B : Backend) (α : Type) where
  caller : Caller
  stage : Stage B α

/-- What the callers share: the world, and who holds the lock and who waits for it, by place. -/
structure Shared (B : Backend) where
  world : World B
  holder : Option Nat := none
  queue : List Nat := []

namespace Shared

/-- Hands the lock to the first that waits for it. -/
def unlock (s : Shared B) : Shared B :=
  match s.queue with
  | [] => { s with holder := none }
  | i :: rest => { s with holder := some i, queue := rest }

/-- The effect of a request of the caller at place `i` whose wait has ended. -/
def answer (s : Shared B) (i : Nat) (c : Caller) (ending : Ending) (r : Request B.Page) :
    r.Answer × Shared B × Caller :=
  let (a, world, c) := s.world.answer c ending r
  let s := { s with world := world }
  match r with
  | .lock _ =>
    match ending with
    | .completed => (a, { s with holder := some i }, c)
    | _ => (a, { s with queue := s.queue.filter (· != i) }, c)
  | .unlock => (a, s.unlock, c)
  | _ => (a, s, c)

/-- Whether the request of the caller at place `i` takes effect at once, and if not, what it
waits for. -/
def begin (s : Shared B) (c : Caller) (r : Request B.Page) : Ending ⊕ Wait :=
  match r with
  | .lock deadline =>
    if s.holder.isNone then .inl .completed else .inr ⟨none, .never, deadline⟩
  | r =>
    match s.world.waitFor c r with
    | none => .inl .completed
    | some wait =>
      let now := s.world.clock
      if wait.cancel.isPast now then .inl .cancelled
      else if (wait.until?.getD now) ≤ now then .inl .completed
      else match wait.deadline with
        | some d => if d.instant ≤ now then .inl (.expired d) else .inr wait
        | none => .inr wait

/-- Notes that the caller at place `i` waits for the lock, if it does. -/
def enqueue (s : Shared B) (i : Nat) : Request B.Page → Shared B
  | .lock _ => { s with queue := s.queue ++ [i] }
  | _ => s

/-- Runs the operation of the caller at place `i` until it has to wait. -/
def run (i : Nat) : Operation B.Page α → Shared B → Caller → Stage B α × Shared B × Caller
  | .done a, s, c => (.ended (.returned a) s.world.clock, s, c)
  | .crash reason, s, c => (.ended (.crashed reason) s.world.clock, s, c)
  | .ask r next, s, c =>
    let c := c.note r
    match s.begin c r with
    | .inr wait => (.waiting r wait next, s.enqueue i r, c)
    | .inl ending =>
      let (a, s, c) := s.answer i c ending r
      run i (next a) s c

end Shared

/-- Callers side by side. `cursor` is the place after the one that ran last. -/
structure Pool (B : Backend) (α : Type) where
  shared : Shared B
  threads : List (Thread B α)
  cursor : Nat := 0

namespace Stage

/-- How the wait of the caller at place `i` ends now, if it does. A caller who gives up at this
very instant is left out. -/
def endingNow? (s : Shared B) (i : Nat) : Stage B α → Option Ending
  | .ended .. => none
  | .waiting _ wait _ =>
    let completed := match wait.until? with
      | some t => decide (t ≤ s.world.clock)
      | none => s.holder == some i
    if wait.cancel.isPast s.world.clock then some .cancelled
    else if completed then some .completed
    else match wait.deadline with
      | some d => if d.instant ≤ s.world.clock then some (.expired d) else none
      | none => none

/-- Whether the caller gives up at this very instant. -/
def cancelledNow? (s : Shared B) : Stage B α → Option Ending
  | .waiting _ ⟨_, .at t, _⟩ _ => if t ≤ s.world.clock then some .cancelled else none
  | _ => none

/-- The next instant at which something happens to the wait. -/
def nextInstant? : Stage B α → Option Instant
  | .ended .. => none
  | .waiting _ wait _ =>
    let cancel := match wait.cancel with
      | .at t => [t]
      | _ => []
    (wait.until?.toList ++ cancel ++ (wait.deadline.map Deadline.instant).toList).min?

/-- What is left of an operation. -/
def rest : Stage B α → Operation B.Page α
  | .waiting r _ next => .ask r next
  | .ended (.returned a) _ => .done a
  | .ended (.crashed reason) _ => .crash reason

end Stage

/-! ## One operation is part of another -/

/-- What is left of an operation after one or more answers. -/
inductive Operation.Tail {π : Type} : Operation π α → Operation π α → Prop
  | here (r : Request π) (next : r.Answer → Operation π α) (a : r.Answer) :
    Tail (next a) (.ask r next)
  | later (r : Request π) (next : r.Answer → Operation π α) (a : r.Answer)
    {q : Operation π α} : Tail q (next a) → Tail q (.ask r next)

theorem Operation.acc_tail {π : Type} (p : Operation π α) : Acc Operation.Tail p := by
  induction p with
  | done a => exact ⟨_, fun q h ↦ nomatch h⟩
  | crash reason => exact ⟨_, fun q h ↦ nomatch h⟩
  | ask r next ih =>
    refine ⟨_, fun q h ↦ ?_⟩
    rcases h with ⟨_, _, a⟩ | ⟨_, _, a, h⟩
    · exact ih a
    · exact (ih a).inv h

/-- One place of a list holds less than before. -/
def Shrunk {π : Type} (new old : List (Operation π α)) : Prop :=
  ∃ i p q, old[i]? = some p ∧ q.Tail p ∧ new = old.set i q

theorem acc_shrunk_cons {π : Type} {p : Operation π α} (hp : Acc Operation.Tail p)
    {l : List (Operation π α)} (hl : Acc Shrunk l) : Acc Shrunk (p :: l) := by
  induction hp generalizing l with
  | intro p hp ihp =>
    induction hl with
    | intro l hl ihl =>
      refine ⟨_, fun new h ↦ ?_⟩
      obtain ⟨i, p', q, hget, hq, rfl⟩ := h
      cases i with
      | zero =>
        simp only [List.getElem?_cons_zero, Option.some.injEq] at hget
        subst hget
        exact ihp q hq ⟨l, hl⟩
      | succ i => exact ihl _ ⟨i, p', q, by simpa using hget, hq, rfl⟩

theorem acc_shrunk {π : Type} (l : List (Operation π α)) : Acc Shrunk l := by
  induction l with
  | nil => exact ⟨_, fun new ⟨i, p, q, h, _⟩ ↦ by simp at h⟩
  | cons p l ih => exact acc_shrunk_cons p.acc_tail ih

/-- What is left of each operation. -/
structure Rests (π α : Type) where
  list : List (Operation π α)

instance {π : Type} : WellFoundedRelation (Rests π α) where
  rel new old := Shrunk new.list old.list
  wf := ⟨fun r ↦ InvImage.accessible Rests.list (acc_shrunk r.list)⟩

theorem Shared.rest_run (i : Nat) (p : Operation B.Page α) (s : Shared B) (c : Caller) :
    (Shared.run i p s c).1.rest = p ∨ (Shared.run i p s c).1.rest.Tail p := by
  induction p generalizing s c with
  | done a => exact .inl rfl
  | crash reason => exact .inl rfl
  | ask r next ih =>
    simp only [Shared.run]
    split
    · exact .inl rfl
    · rcases ih _ (Shared.answer s i (c.note r) _ r).2.1 (Shared.answer s i (c.note r) _ r).2.2
        with h | h
      · right
        rw [h]
        exact .here r next _
      · exact .inr (.later r next _ h)

/-! ## Running a pool -/

namespace Pool

/-- Runs every operation for the first time, in the order of the list. -/
def startFrom (s : Shared B) (i : Nat) :
    List (Caller × Operation B.Page α) → Shared B × List (Thread B α)
  | [] => (s, [])
  | (c, p) :: rest =>
    let (stage, s, c) := Shared.run i p s c
    let (s, threads) := startFrom s (i + 1) rest
    (s, ⟨c, stage⟩ :: threads)

/-- The pool after every operation has run for the first time. -/
def start (w : World B) (operations : List (Caller × Operation B.Page α)) : Pool B α :=
  let (s, threads) := startFrom { world := w } 0 operations
  { shared := s, threads := threads, cursor := operations.length }

/-- The first thread at place `i` or later of which `f` says how its wait ends. -/
def findFrom (f : Nat → Stage B α → Option Ending) (i : Nat) :
    List (Thread B α) → Option (Nat × Ending)
  | [] => none
  | t :: rest =>
    match f i t.stage with
    | some ending => some (i, ending)
    | none => findFrom f (i + 1) rest

/-- Whose wait ends now, and how. -/
def ready? (p : Pool B α) : Option (Nat × Ending) :=
  let now (i : Nat) (stage : Stage B α) := stage.endingNow? p.shared i
  (findFrom now p.cursor (p.threads.drop p.cursor)).or <|
    (findFrom now 0 p.threads).or <|
      findFrom (fun _ stage ↦ stage.cancelledNow? p.shared) 0 p.threads

/-- Moves the clock to the next instant at which something happens. -/
def tick (p : Pool B α) : Pool B α :=
  match (p.threads.filterMap fun t ↦ t.stage.nextInstant?).min? with
  | none => p
  | some t =>
    let world := p.shared.world
    { p with shared := { p.shared with world := { world with clock := max world.clock t } }
             cursor := 0 }

/-- The pool after the wait of the thread at place `i` has ended. -/
def resume (p : Pool B α) (i : Nat) (ending : Ending) : Option (Pool B α) :=
  match p.threads[i]? with
  | some ⟨c, .waiting r _ next⟩ =>
    let (a, s, c) := p.shared.answer i c ending r
    let (stage, s, c) := Shared.run i (next a) s c
    some { shared := s, threads := p.threads.set i ⟨c, stage⟩, cursor := i + 1 }
  | _ => none

/-- Lets the next thread go on. -/
def step (p : Pool B α) : Option (Pool B α) :=
  match p.ready? with
  | some (i, ending) => p.resume i ending
  | none =>
    match p.tick.ready? with
    | some (i, ending) => p.tick.resume i ending
    | none => none

/-- What is left of each operation. -/
def rests (p : Pool B α) : Rests B.Page α := ⟨p.threads.map fun t ↦ t.stage.rest⟩

@[simp] theorem rests_tick (p : Pool B α) : p.tick.rests = p.rests := by
  unfold tick
  split <;> rfl

theorem shrunk_resume {p q : Pool B α} {i : Nat} {ending : Ending}
    (h : p.resume i ending = some q) : Shrunk q.rests.list p.rests.list := by
  unfold resume at h
  split at h
  · rename_i c r wait next hget
    simp only [Option.some.injEq] at h
    subst h
    refine ⟨i, .ask r next, (Shared.run i (next (p.shared.answer i c ending r).1)
      (p.shared.answer i c ending r).2.1 (p.shared.answer i c ending r).2.2).1.rest, ?_, ?_,
      by simp only [rests, List.map_set]⟩
    · simp [rests, hget, Stage.rest]
    · rcases Shared.rest_run i (next (p.shared.answer i c ending r).1)
          (p.shared.answer i c ending r).2.1 (p.shared.answer i c ending r).2.2 with h | h
      · rw [h]
        exact .here r next _
      · exact .later r next _ h
  · cases h

theorem shrunk_step {p q : Pool B α} (h : p.step = some q) :
    Shrunk q.rests.list p.rests.list := by
  unfold step at h
  split at h
  · exact shrunk_resume h
  · split at h
    · have := shrunk_resume h
      rwa [rests_tick] at this
    · cases h

/-- Runs all operations to their ends. -/
def finish (p : Pool B α) : Pool B α :=
  match _h : p.step with
  | none => p
  | some q => q.finish
termination_by p.rests
decreasing_by exact shrunk_step _h

end Pool

/-- Runs operations side by side from one instant on. -/
def Operation.together (w : World B) (operations : List (Caller × Operation B.Page α)) :
    Pool B α :=
  (Pool.start w operations).finish

end BrowserPilot
