import BrowserPilot.Proofs.Operation.Shared

namespace BrowserPilot

/-!
# The floor

What the callers share, but for the log, and what a move of one caller leaves as it is
for the others.
-/

variable {B : Backend} {α : Type}

/-- What the callers share, but for the log. -/
structure Floor (B : Backend) where
  scene : Scene B
  holder : Option Nat
  queue : List Nat

namespace Floor

variable (f : Floor B)

/-- The caller at place `i` has the lock or waits for it. -/
def Involves (i : Nat) : Prop := f.holder = some i ∨ i ∈ f.queue

/-- The caller at place `i` asks for the lock: it has it if it is free, and waits if not. -/
def join (i : Nat) : Floor B :=
  match f.holder with
  | none => { f with holder := some i }
  | some _ => { f with queue := f.queue ++ [i] }

/-- The caller at place `i` does not wait for the lock any longer. -/
def without (i : Nat) : Floor B := { f with queue := f.queue.filter (· != i) }

/-- Only the caller at place `i` moves. No time passes, and the others have the lock or wait for
it as before. -/
structure Moves (i : Nat) (f f' : Floor B) : Prop where
  clock : f'.scene.clock = f.scene.clock
  involves : ∀ j ≠ i, (f'.Involves j ↔ f.Involves j)
  holder : ∀ j ≠ i, f.holder = some j → f'.holder = some j

@[simp] theorem join_scene (i : Nat) : (f.join i).scene = f.scene := by
  unfold join
  split <;> rfl

theorem involves_join (i j : Nat) : (f.join i).Involves j ↔ f.Involves j ∨ j = i := by
  obtain ⟨scene, holder, queue⟩ := f
  cases holder with
  | none =>
      simp only [join, Involves, Option.some.injEq, reduceCtorEq, false_or]
      rw [or_comm, eq_comm]
  | some k =>
      simp only [join, Involves, List.mem_append, List.mem_singleton]
      exact or_assoc.symm

theorem mem_queue_join {i j : Nat} (h : j ∈ (f.join i).queue) : j ∈ f.queue ∨ j = i := by
  obtain ⟨scene, holder, queue⟩ := f
  cases holder with
  | none => exact .inl h
  | some k => simpa [join] using h

theorem holder_join {i j : Nat} (h : f.holder = some j) : (f.join i).holder = some j := by
  simp [join, h]

theorem without_of_notMem {i : Nat} (h : i ∉ f.queue) : f.without i = f := by
  have hfilter : f.queue.filter (· != i) = f.queue := by
    refine List.filter_eq_self.2 fun j hj ↦ ?_
    have hji : j ≠ i := fun hji ↦ h (hji ▸ hj)
    simpa using hji
  rw [without, hfilter]

theorem mem_queue_without {i j : Nat} : j ∈ (f.without i).queue ↔ j ∈ f.queue ∧ j ≠ i := by
  simp [without]

namespace Moves

variable {f} {f' f'' : Floor B} {i : Nat}

theorem refl (f : Floor B) (i : Nat) : Moves i f f := ⟨rfl, fun _ _ ↦ .rfl, fun _ _ ↦ id⟩

theorem trans (h : Moves i f f') (h' : Moves i f' f'') : Moves i f f'' :=
  ⟨h'.clock.trans h.clock, fun j hji ↦ (h'.involves j hji).trans (h.involves j hji),
    fun j hji hj ↦ h'.holder j hji (h.holder j hji hj)⟩

theorem join (f : Floor B) (i : Nat) : Moves i f (f.join i) := by
  refine ⟨by rw [f.join_scene i], fun j hji ↦ ?_, fun j _ hj ↦ f.holder_join hj⟩
  rw [f.involves_join i j]
  exact or_iff_left hji

theorem without (f : Floor B) (i : Nat) : Moves i f (f.without i) := by
  refine ⟨rfl, fun j hji ↦ ?_, fun _ _ hj ↦ hj⟩
  have hmem : j ∈ (f.without i).queue ↔ j ∈ f.queue :=
    f.mem_queue_without.trans (and_iff_left hji)
  exact or_congr_right hmem

theorem next (hclock : f'.scene.clock = f.scene.clock) (hi : f.holder = some i)
    (hholder : f'.holder = f.queue.head?) (hqueue : f'.queue = f.queue.tail) : Moves i f f' := by
  refine ⟨hclock, fun j hji ↦ ?_, fun j hji hj ↦ ?_⟩
  · have hij : i ≠ j := Ne.symm hji
    simp only [Involves, hholder, hqueue, hi, Option.some.injEq, hij, false_or]
    cases f.queue <;> simp [eq_comm]
  · exact absurd (Option.some.inj (hi.symm.trans hj)).symm hji

end Moves

end Floor

namespace Shared

/-- What is shared, without the log. -/
def floor (s : Shared B) : Floor B := ⟨s.world.scene, s.holder, s.queue⟩

theorem floor_of_scene {s : Shared B} {b : World B} (h : b.scene = s.world.scene) :
    ({ s with world := b } : Shared B).floor = s.floor := by
  simp [floor, h]

theorem floor_unlock (s : Shared B) :
    s.unlock.floor = ⟨s.world.scene, s.queue.head?, s.queue.tail⟩ := by
  obtain ⟨world, holder, queue⟩ := s
  cases queue <;> rfl

end Shared

/-! ## Callers by place -/

/-- The callers by place, with a new one at place `i`. -/
def seat (T : Nat → Option (Thread B α)) (i : Nat) (t : Thread B α) :
    Nat → Option (Thread B α) :=
  fun j ↦ if j = i then some t else T j

@[simp] theorem seat_self (T : Nat → Option (Thread B α)) (i : Nat) (t : Thread B α) :
    seat T i t i = some t := if_pos rfl

theorem seat_ne (T : Nat → Option (Thread B α)) {i j : Nat} (t : Thread B α) (h : j ≠ i) :
    seat T i t j = T j := if_neg h

@[simp] theorem seat_seat (T : Nat → Option (Thread B α)) (i : Nat) (t t' : Thread B α) :
    seat (seat T i t) i t' = seat T i t' := by
  funext j
  by_cases h : j = i <;> simp [seat, h]

namespace Stage

/-- Whether a caller waits for the lock. -/
def isAsking : Stage B α → Bool
  | .waiting (.lock _) _ _ => true
  | _ => false

/-- The instant for which a caller waits, if it does not wait for the lock. -/
def until? : Stage B α → Option Instant
  | .waiting _ wait _ => wait.until?
  | .ended .. => none

end Stage

/-- The caller at place `i`, which has not asked for the lock, has waited long enough. -/
def Floor.Due (f : Floor B) (T : Nat → Option (Thread B α)) (i : Nat) : Prop :=
  ¬ f.Involves i ∧ ∃ t u, T i = some t ∧ t.stage.until? = some u ∧ u ≤ f.scene.clock

theorem Floor.due_seat_self {f : Floor B} {T : Nat → Option (Thread B α)} {i : Nat}
    {t : Thread B α} : f.Due (seat T i t) i ↔
      ¬ f.Involves i ∧ ∃ u, t.stage.until? = some u ∧ u ≤ f.scene.clock := by
  simp only [Due, seat_self, Option.some.injEq]
  refine and_congr_right fun _ ↦ ⟨?_, ?_⟩
  · rintro ⟨t', u, rfl, hu⟩
    exact ⟨u, hu⟩
  · rintro ⟨u, hu⟩
    exact ⟨t, u, rfl, hu⟩

/-- When one caller moves, the others are due as before. -/
theorem Floor.Moves.due {f f' : Floor B} {T : Nat → Option (Thread B α)} {t : Thread B α}
    {i j : Nat} (h : f.Moves i f') (hji : j ≠ i) : f'.Due (seat T i t) j ↔ f.Due T j := by
  rw [Due, Due, h.involves j hji, seat_ne T t hji, h.clock]

theorem Shared.answer_clock (s : Shared B) (i : Nat) (c : Caller) (ending : Ending)
    (r : Request B.Page) : (s.answer i c ending r).2.1.world.clock = s.world.clock := by
  have hclock := World.answer_clock s.world c ending r
  cases r with
  | lock d => cases ending <;> rfl
  | unlock =>
      obtain ⟨world, holder, queue⟩ := s
      cases queue <;> rfl
  | _ => exact hclock

theorem Shared.run_clock (i : Nat) (p : Operation B.Page α) (s : Shared B) (c : Caller) :
    (Shared.run i p s c).2.1.world.clock = s.world.clock := by
  induction p generalizing s c with
  | done a => rfl
  | crash reason => rfl
  | ask r next ih =>
      cases hbegin : s.begin (c.note r) r with
      | inl ending =>
          rw [run_of_inl hbegin, ih, answer_clock]
      | inr wait =>
          rw [run_of_inr hbegin]
          cases r <;> rfl

theorem Shared.lt_of_begin {s : Shared B} {c : Caller} {r : Request B.Page} {wait : Wait}
    {u : Instant} (h : s.begin c r = .inr wait) (hu : wait.until? = some u) :
    s.world.clock < u := by
  cases hwait : s.world.waitFor c r with
  | none =>
      cases r with
      | lock d =>
          simp only [begin] at h
          split at h
          · cases h
          · obtain rfl := Sum.inr.inj h
            cases hu
      | _ => simp [begin, hwait] at h
  | some wait' =>
      have hr : r.isWork = true := by cases r <;> first | rfl | cases hwait
      obtain ⟨u', hu'⟩ := World.waitFor_until hwait
      rw [begin_of_some hr hwait hu'] at h
      split at h
      · cases h
      · split at h
        · cases h
        · rename_i hlate
          have hsame : wait' = wait := by
            split at h
            · split at h
              · cases h
              · exact Sum.inr.inj h
            · exact Sum.inr.inj h
          obtain rfl : u' = u := by simpa [hsame, hu] using hu'.symm
          exact Nat.lt_of_not_le hlate

/-- A run that ends in a wait for an instant waits for one that is still to come. -/
theorem Shared.lt_of_run {i : Nat} {p : Operation B.Page α} {s : Shared B} {c : Caller}
    {u : Instant} (h : (Shared.run i p s c).1.until? = some u) :
    (Shared.run i p s c).2.1.world.clock < u := by
  induction p generalizing s c with
  | done a => cases h
  | crash reason => cases h
  | ask r next ih =>
      cases hbegin : s.begin (c.note r) r with
      | inl ending =>
          rw [run_of_inl hbegin] at h ⊢
          exact ih _ h
      | inr wait =>
          rw [run_of_inr hbegin] at h ⊢
          have hworld : (s.enqueue i r).world = s.world := by cases r <;> rfl
          rw [hworld]
          exact s.lt_of_begin hbegin h

end BrowserPilot
