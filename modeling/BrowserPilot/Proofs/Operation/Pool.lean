import BrowserPilot.Proofs.Operation.Move

namespace BrowserPilot

/-!
# Visitors take turns

The pool moves one caller at a time, and lets time pass when nobody can move. Between two
moves the queue is orderly, so that in the end all visitors have had their turns in the
order in which they asked for the lock.
-/

variable {B : Backend} {α : Type}

/-! ## What comes next -/

/-- Something may happen to a wait at `x`. -/
def Wait.Heeds (wait : Wait) (x : Instant) : Prop :=
  wait.until? = some x ∨ wait.cancel = .at x ∨ wait.deadline.map Deadline.instant = some x

namespace Stage

variable {s : Shared B} {i : Nat} {stage : Stage B α} {r : Request B.Page} {wait : Wait}
  {next : r.Answer → Operation B.Page α}

theorem nextInstant?_eq_some {n : Instant} :
    (Stage.waiting r wait next).nextInstant? = some n ↔
      wait.Heeds n ∧ ∀ x, wait.Heeds x → n ≤ x := by
  obtain ⟨until?, cancel, deadline⟩ := wait
  have hat : ∀ u v, (Cancellation.at u = .at v) = (v = u) := fun u v ↦ by simp [eq_comm]
  cases cancel <;>
    simp only [nextInstant?, List.min?_eq_some_iff, List.mem_append, Option.mem_toList,
      List.mem_singleton, List.not_mem_nil, or_false, Wait.Heeds, hat, reduceCtorEq, false_or,
      or_assoc]

theorem exists_nextInstant (r : Request B.Page) (next : r.Answer → Operation B.Page α)
    {x : Instant} (h : wait.Heeds x) :
    ∃ n, (Stage.waiting r wait next).nextInstant? = some n := by
  cases hn : (Stage.waiting r wait next).nextInstant? with
  | some n => exact ⟨n, rfl⟩
  | none =>
      obtain ⟨until?, cancel, deadline⟩ := wait
      rw [nextInstant?, List.min?_eq_none_iff] at hn
      rcases h with rfl | rfl | h
      · simp at hn
      · simp at hn
      · obtain ⟨d, rfl, -⟩ := Option.map_eq_some_iff.1 h
        simp at hn

/-- A caller whose wait goes on. -/
structure Still (stage : Stage B α) (s : Shared B) (i : Nat) : Prop where
  ending : stage.endingNow? s i = none
  cancelled : stage.cancelledNow? s = none

theorem endingNow?_of_until {u : Instant} (h : stage.until? = some u) (hu : u ≤ s.world.clock) :
    stage.endingNow? s i ≠ none := by
  cases stage with
  | ended => cases h
  | waiting r wait next =>
      have huntil : wait.until? = some u := h
      by_cases hpast : wait.cancel.isPast s.world.clock = true <;>
        simp [endingNow?, huntil, hu, hpast]

theorem Still.not_holder (h : (Stage.waiting r wait next).Still s i)
    (hlock : wait.until? = none) : s.holder ≠ some i := by
  intro hi
  have hnone := h.ending
  by_cases hpast : wait.cancel.isPast s.world.clock = true <;>
    simp [endingNow?, hlock, hi, hpast] at hnone

theorem Still.wanted (h : (Stage.waiting r wait next).Still s i) :
    wait.cancel.isPast s.world.clock ≠ true := by
  intro hpast
  have hnone := h.ending
  simp [endingNow?, hpast] at hnone

/-- While a wait goes on, what it heeds is still to come. -/
theorem Still.lt (h : (Stage.waiting r wait next).Still s i) {x : Instant} (hx : wait.Heeds x) :
    s.world.clock < x := by
  have hwanted := h.wanted
  refine Nat.lt_of_not_le fun hle ↦ ?_
  rcases hx with hu | hcancel | hdeadline
  · have hends : (Stage.waiting r wait next).endingNow? s i ≠ none := endingNow?_of_until hu hle
    exact hends h.ending
  · obtain ⟨until?, cancel, deadline⟩ := wait
    obtain rfl : cancel = .at x := hcancel
    have hnone := h.cancelled
    simp [cancelledNow?, hle] at hnone
  · obtain ⟨d, hd, rfl⟩ := Option.map_eq_some_iff.1 hdeadline
    have hnone := h.ending
    simp only [endingNow?, if_neg hwanted] at hnone
    split at hnone <;> simp only [hd, if_pos hle] at hnone <;> split at hnone <;> cases hnone

/-- A wait that goes on has nothing behind it at the next instant at which something happens. -/
theorem Still.awaits {t : Instant} (h : (Stage.waiting r wait next).Still s i)
    (ht : ∀ x, wait.Heeds x → t ≤ x) : wait.Awaits t := by
  refine ⟨fun u hu ↦ ht u (.inl hu), ?_, fun d hd ↦ ht _ (.inr (.inr ?_))⟩
  · obtain ⟨until?, cancel, deadline⟩ := wait
    cases cancel with
    | never => rfl
    | before => exact absurd rfl h.wanted
    | «at» v =>
        have hv : t ≤ v := ht v (.inr (.inl rfl))
        simpa [Cancellation.isPast] using hv
  · exact Option.map_eq_some_iff.2 ⟨d, hd, rfl⟩

end Stage

variable {w : World B} {ops : List (Caller × Operation B.Page α)} {f : Floor B}
  {T : Nat → Option (Thread B α)} {turns : List (Turn B α)} {h : Handover B}

/-- Time passes while nobody can move. -/
theorem Orderly.later (ho : Orderly w ops f T turns h) {t : Instant} (hlt : f.scene.clock < t)
    (hwaits : ∀ i c r wait next, T i = some ⟨c, .waiting r wait next⟩ → wait.Awaits t)
    (hlock : ∀ i th, f.holder = some i → T i = some th → th.stage.isAsking = false) :
    Orderly w ops { f with scene := { f.scene with clock := t } } T turns h := by
  have hle : f.scene.clock ≤ t := Nat.le_of_lt hlt
  have hadvance : ∀ {s : Scene B}, f.scene = s →
      { f.scene with clock := t } = { s with clock := t } :=
    fun hs ↦ congrArg (fun s : Scene B ↦ { s with clock := t }) hs
  refine ⟨ho.served, Nat.le_trans ho.since hle, ho.inOrder,
    fun k hk ↦ Nat.le_trans (ho.past k hk) hle,
    fun i _ k hk ↦ .inl (Nat.lt_of_le_of_lt (ho.past k hk) hlt), ho.queued, ?_, ?_⟩
  · cases ho.current with
    | free hnone hqueue hscene => exact .free hnone hqueue (hadvance hscene)
    | handed hi hT hasking => simp [hlock _ _ hi hT] at hasking
    | working hi hT hop hasked hin hgranted hmidway =>
        refine .working hi hT hop hasked hin (Nat.le_trans hgranted hle) ?_
        cases hmidway with
        | waiting hr hstays hscene hclock hwait hu hawaits hfate =>
            exact .waiting hr hstays (hadvance hscene) (Nat.le_trans hclock hle) hwait hu
              (hwaits _ _ _ _ _ hT) hfate
  · intro i th hi
    obtain ⟨c, p, hop, hs⟩ := ho.standing i th hi
    refine ⟨c, p, hop, ?_⟩
    cases hs with
    | idle hfree _ hidles =>
        refine .idle hfree ?_ hidles
        cases hidles with
        | waiting => exact (hwaits _ _ _ _ _ hi).until_le _ rfl
    | asking hin _ hstay herror hreaches =>
        exact .asking hin (hwaits _ _ _ _ _ hi).inTime hstay herror hreaches
    | working hj hr => exact .working hj hr
    | ended hfate => exact .ended hfate
    | refused hd hasked hrefuses hne hblocked =>
        exact .refused (Nat.le_trans hd hle) hasked hrefuses hne hblocked

theorem Orderly.isAsking_of_still {s : Shared B} (ho : Orderly w ops f T turns h) {i : Nat}
    {t : Thread B α} (hi : s.holder = some i) (hT : T i = some t) (hstill : t.stage.Still s i) :
    t.stage.isAsking = false := by
  obtain ⟨c, stage⟩ := t
  cases stage with
  | ended => rfl
  | waiting r wait next =>
      cases r with
      | lock d =>
          obtain ⟨_, _, _, _, rfl, _⟩ := ho.asking_of_seat hT
          exact absurd hi (hstill.not_holder rfl)
      | _ => rfl

/-- Where callers that took turns have come to. -/
structure Settled (w : World B) (ops : List (Caller × Operation B.Page α)) (s : Shared B)
    (T : Nat → Option (Thread B α)) (turns : List (Turn B α)) (h : Handover B) : Prop where
  served : Served w ops turns h
  inOrder : (turns.map Turn.key).Pairwise Precedes
  scene : s.world.scene = ⟨h.env, s.world.clock, h.slot, reported w turns⟩
  holder : s.holder = none
  queue : s.queue = []
  fates : ∀ i c p, ops[i]? = some (c, p) → ∃ c' o u, T i = some ⟨c', .ended o u⟩ ∧
    Fate w turns i c p o u

theorem Settled.nodup {s : Shared B} (hs : Settled w ops s T turns h) :
    (turns.map Turn.place).Nodup := by
  have hkeys : turns.Pairwise fun t t' ↦ Precedes t.key t'.key := List.pairwise_map.1 hs.inOrder
  refine List.pairwise_map.2 (hkeys.imp_of_mem fun ht ht' hprecedes hplace ↦ ?_)
  rw [hs.served.key_eq _ ht, hs.served.key_eq _ ht', hplace] at hprecedes
  exact Precedes.irrefl _ hprecedes

/-- If nobody is to move and nobody waits for an instant, all have ended. -/
theorem Orderly.settled {s : Shared B} (ho : Orderly w ops s.floor T turns h)
    (hstill : ∀ i t, T i = some t → t.stage.Still s i)
    (hnever : ∀ i t, T i = some t → t.stage.nextInstant? = none)
    (hseats : ∀ i c p, ops[i]? = some (c, p) → ∃ t, T i = some t) :
    Settled w ops s T turns h := by
  have hlost : ∀ {i c r wait next u}, T i = some ⟨c, .waiting r wait next⟩ →
      wait.until? ≠ some u := by
    intro i c r wait next u hi hu
    obtain ⟨n, hn⟩ := Stage.exists_nextInstant r next (.inl hu)
    cases hn.symm.trans (hnever i _ hi)
  have hfree : s.holder = none ∧ s.queue = [] ∧
      s.world.scene = ⟨h.env, s.world.clock, h.slot, reported w turns⟩ := by
    cases ho.current with
    | free hnone hqueue hscene => exact ⟨hnone, hqueue, hscene⟩
    | handed hi hT hasking =>
        simp [ho.isAsking_of_still hi hT (hstill _ _ hT)] at hasking
    | working hi hT _ _ _ _ hmidway =>
        cases hmidway with
        | waiting _ _ _ _ _ hu => exact absurd hu (hlost hT)
  obtain ⟨hholder, hqueue, hscene⟩ := hfree
  have hkeys : keys w ops s.floor turns = turns.map Turn.key := by
    simp [keys, Shared.floor, hholder, hqueue]
  refine ⟨ho.served, hkeys ▸ ho.inOrder, hscene, hholder, hqueue, fun i c p hop ↦ ?_⟩
  obtain ⟨t, ht⟩ := hseats i c p hop
  obtain ⟨c', p', hop', hs⟩ := ho.standing i t ht
  obtain ⟨rfl, rfl⟩ : c = c' ∧ p = p' := by simpa using hop.symm.trans hop'
  cases hs with
  | idle _ _ hidles =>
      cases hidles with
      | waiting => exact absurd rfl (hlost ht)
  | asking hin =>
      rcases hin with hi | hi
      · cases hi.symm.trans hholder
      · simp [Shared.floor, hqueue] at hi
  | working hi => cases hi.symm.trans hholder
  | ended hfate => exact ⟨_, _, _, ht, hfate⟩
  | refused _ hasked hrefuses hne hblocked =>
      rcases hblocked with hturn | ⟨k, hk, -⟩
      · exact ⟨_, _, _, ht, .refused hasked hrefuses hne hturn⟩
      · cases hk.symm.trans hholder

namespace Pool

/-! ## Who moves next -/

theorem findFrom_eq_none {g : Nat → Stage B α → Option Ending} {i : Nat}
    {threads : List (Thread B α)} (hnone : findFrom g i threads = none) {j : Nat}
    {t : Thread B α} (hj : threads[j]? = some t) : g (i + j) t.stage = none := by
  induction threads generalizing i j with
  | nil => simp at hj
  | cons t' rest ih =>
      simp only [findFrom] at hnone
      split at hnone
      · cases hnone
      · rename_i hhead
        cases j with
        | zero =>
            obtain rfl : t' = t := by simpa using hj
            exact hhead
        | succ j =>
            have hrest := ih hnone (j := j) (by simpa using hj)
            rwa [Nat.add_right_comm] at hrest

/-- The thread that is found is the first of which there is something to say. -/
theorem findFrom_eq_some {g : Nat → Stage B α → Option Ending} {i k : Nat} {ending : Ending}
    {threads : List (Thread B α)} (hsome : findFrom g i threads = some (k, ending)) :
    ∃ j t, k = i + j ∧ threads[j]? = some t ∧ g k t.stage = some ending ∧
      ∀ j' < j, ∀ t', threads[j']? = some t' → g (i + j') t'.stage = none := by
  induction threads generalizing i with
  | nil => simp [findFrom] at hsome
  | cons t rest ih =>
      simp only [findFrom] at hsome
      split at hsome
      · rename_i hhead
        obtain ⟨rfl, rfl⟩ := by simpa using hsome
        exact ⟨0, t, rfl, rfl, hhead, fun j' hj' ↦ absurd hj' (Nat.not_lt_zero j')⟩
      · rename_i hhead
        obtain ⟨j, t', rfl, hj, hg, hbefore⟩ := ih hsome
        refine ⟨j + 1, t', by lia, by simpa using hj, hg, fun j' hj' t'' ht'' ↦ ?_⟩
        cases j' with
        | zero =>
            obtain rfl : t = t'' := by simpa using ht''
            exact hhead
        | succ j' =>
            have hrest := hbefore j' (Nat.lt_of_succ_lt_succ hj') t'' (by simpa using ht'')
            rwa [Nat.add_right_comm] at hrest

variable {p : Pool B α}

def seats (p : Pool B α) : Nat → Option (Thread B α) := fun i ↦ p.threads[i]?

theorem still_of_ready?_eq_none (hready : p.ready? = none) {i : Nat} {t : Thread B α}
    (ht : p.seats i = some t) : t.stage.Still p.shared i := by
  simp only [ready?, Option.or_eq_none_iff] at hready
  obtain ⟨-, hending, hcancelled⟩ := hready
  refine ⟨?_, findFrom_eq_none hcancelled ht⟩
  have hnone := findFrom_eq_none hending ht
  rwa [Nat.zero_add] at hnone

/-- Whoever is ready goes before all who are due after it. -/
theorem of_ready?_eq_some {i : Nat} {ending : Ending} (hready : p.ready? = some (i, ending))
    (hturn : ∀ j, p.shared.floor.Due p.seats j → p.cursor ≤ j) :
    ∃ t, p.seats i = some t ∧ t.stage.EndsNow p.shared i ending ∧
      ∀ j, p.shared.floor.Due p.seats j → i ≤ j := by
  have hdue : ∀ j t, p.shared.floor.Due p.seats j → p.seats j = some t →
      t.stage.endingNow? p.shared j ≠ none := by
    rintro j t ⟨-, t', u, ht', hu, hle⟩ ht
    obtain rfl := Option.some.inj (ht'.symm.trans ht)
    exact t'.stage.endingNow?_of_until hu hle
  have hseat : ∀ {j}, p.shared.floor.Due p.seats j → ∃ t, p.seats j = some t :=
    fun ⟨_, t, _, ht, _⟩ ↦ ⟨t, ht⟩
  -- Nobody is due if nobody at the cursor or after it is ready.
  have hnobody : findFrom (fun i (stage : Stage B α) ↦ stage.endingNow? p.shared i) p.cursor
      (p.threads.drop p.cursor) = none → ∀ j, ¬ p.shared.floor.Due p.seats j := by
    intro hnone j hj
    obtain ⟨t, ht⟩ := hseat hj
    have hle := hturn j hj
    have hdrop : (p.threads.drop p.cursor)[j - p.cursor]? = some t := by
      rw [List.getElem?_drop, Nat.add_sub_cancel' hle]
      exact ht
    have hending := findFrom_eq_none hnone hdrop
    rw [Nat.add_sub_cancel' hle] at hending
    exact hdue j t hj ht hending
  simp only [ready?, Option.or_eq_some_iff] at hready
  rcases hready with hfirst | ⟨hnone, hsecond | ⟨hnone', hthird⟩⟩
  · obtain ⟨k, t, rfl, hk, hending, hbefore⟩ := findFrom_eq_some hfirst
    rw [List.getElem?_drop] at hk
    refine ⟨t, hk, .inl hending, fun j hj ↦ Nat.le_of_not_lt fun hlt ↦ ?_⟩
    obtain ⟨t', ht'⟩ := hseat hj
    have hle := hturn j hj
    have hstill := hbefore (j - p.cursor) (by lia) t' (by
      rw [List.getElem?_drop, Nat.add_sub_cancel' hle]
      exact ht')
    rw [Nat.add_sub_cancel' hle] at hstill
    exact hdue j t' hj ht' hstill
  · obtain ⟨k, t, hik, hk, hending, -⟩ := findFrom_eq_some hsecond
    rw [Nat.zero_add] at hik
    subst hik
    exact ⟨t, hk, .inl hending, fun j hj ↦ absurd hj (hnobody hnone j)⟩
  · obtain ⟨k, t, hik, hk, hcancelled, -⟩ := findFrom_eq_some hthird
    rw [Nat.zero_add] at hik
    subst hik
    have hending := findFrom_eq_none hnone' hk
    rw [Nat.zero_add] at hending
    exact ⟨t, hk, .inr ⟨hending, hcancelled⟩, fun j hj ↦ absurd hj (hnobody hnone j)⟩

/-- What holds of a pool of visitors between two moves. Whoever is due is at the cursor or after
it. -/
structure Fair (w : World B) (ops : List (Caller × Operation B.Page α)) (p : Pool B α) : Prop where
  length : p.threads.length = ops.length
  orderly : ∃ turns h, Orderly w ops p.shared.floor p.seats turns h
  turn : ∀ j, p.shared.floor.Due p.seats j → p.cursor ≤ j

theorem seats_set {s : Shared B} {cursor i : Nat} {t t' : Thread B α} (hi : p.seats i = some t) :
    (Pool.mk s (p.threads.set i t') cursor).seats = seat p.seats i t' := by
  obtain ⟨hlt, -⟩ := List.getElem?_eq_some_iff.1 hi
  funext j
  by_cases hji : j = i
  · subst hji
    rw [seat_self]
    exact List.getElem?_set_self hlt
  · rw [seat_ne p.seats t' hji]
    exact List.getElem?_set_ne (Ne.symm hji)

/-- A move of the first caller whose wait ends keeps a pool fair. -/
theorem Fair.move (hp : Fair w ops p) {i : Nat} {c : Caller} {r : Request B.Page} {wait : Wait}
    {next : r.Answer → Operation B.Page α} {ending : Ending}
    {x : Stage B α × Shared B × Caller} (ht : p.seats i = some ⟨c, .waiting r wait next⟩)
    (hends : (Stage.waiting r wait next).EndsNow p.shared i ending)
    (hfirst : ∀ j, p.shared.floor.Due p.seats j → i ≤ j)
    (hx : x = Shared.run i (next (p.shared.answer i c ending r).1)
      (p.shared.answer i c ending r).2.1 (p.shared.answer i c ending r).2.2) :
    Fair w ops ⟨x.2.1, p.threads.set i ⟨x.2.2, x.1⟩, i + 1⟩ := by
  obtain ⟨turns, h, ho⟩ := hp.orderly
  obtain ⟨hmoves, hlater⟩ := hx ▸ ho.goes ht hends hfirst
  refine ⟨?_, ?_, ?_⟩
  · rw [List.length_set]
    exact hp.length
  · rw [seats_set ht]
    exact hlater
  · rw [seats_set ht]
    intro j hj
    have hji : j ≠ i := by
      rintro rfl
      obtain ⟨-, u, hu, hle⟩ := Floor.due_seat_self.1 hj
      subst hx
      exact Nat.not_lt_of_le hle (Shared.lt_of_run hu)
    have hij : i ≤ j := hfirst j ((hmoves.due hji).1 hj)
    exact Nat.lt_of_le_of_ne hij (Ne.symm hji)

theorem Fair.resume (hp : Fair w ops p) {i : Nat} {ending : Ending}
    (hready : p.ready? = some (i, ending)) : ∃ q, p.resume i ending = some q ∧ Fair w ops q := by
  obtain ⟨⟨c, stage⟩, ht, hends, hfirst⟩ := of_ready?_eq_some hready hp.turn
  have hget : p.threads[i]? = some ⟨c, stage⟩ := ht
  cases stage with
  | ended => rcases hends with hends | ⟨-, hends⟩ <;> cases hends
  | waiting r wait next =>
      refine ⟨_, ?_, hp.move ht hends hfirst rfl⟩
      simp only [Pool.resume, hget]

/-- The clock moves to the first instant at which something happens to anybody. -/
theorem tick_eq (p : Pool B α) : p.tick = p ∧ (∀ i t, p.seats i = some t →
      t.stage.nextInstant? = none) ∨
    ∃ n i t, p.seats i = some t ∧ t.stage.nextInstant? = some n ∧
      (∀ j t' n', p.seats j = some t' → t'.stage.nextInstant? = some n' → n ≤ n') ∧
      p.tick = { p with shared := { p.shared with world :=
        { p.shared.world with clock := max p.shared.world.clock n } }, cursor := 0 } := by
  cases hmin : (p.threads.filterMap fun t ↦ t.stage.nextInstant?).min? with
  | none =>
      refine .inl ⟨by simp only [tick, hmin], fun i t ht ↦ ?_⟩
      rw [List.min?_eq_none_iff, List.filterMap_eq_nil_iff] at hmin
      exact hmin t (List.mem_of_getElem? ht)
  | some n =>
      obtain ⟨hmem, hle⟩ := List.min?_eq_some_iff.1 hmin
      obtain ⟨t, ht, hn⟩ := List.mem_filterMap.1 hmem
      obtain ⟨i, hi⟩ := List.getElem?_of_mem ht
      refine .inr ⟨n, i, t, hi, hn, fun j t' n' ht' hn' ↦ ?_, by simp only [tick, hmin]⟩
      exact hle n' (List.mem_filterMap.2 ⟨t', List.mem_of_getElem? ht', hn'⟩)

theorem Fair.tick (hp : Fair w ops p) (hready : p.ready? = none) : Fair w ops p.tick := by
  rcases p.tick_eq with ⟨heq, -⟩ | ⟨n, i, t, ht, hn, hfirst, heq⟩
  · rw [heq]
    exact hp
  · obtain ⟨turns, h, ho⟩ := hp.orderly
    have hstill : ∀ {j t'}, p.seats j = some t' → t'.stage.Still p.shared j :=
      fun ht' ↦ still_of_ready?_eq_none hready ht'
    have hlt : p.shared.world.clock < n := by
      obtain ⟨c, stage⟩ := t
      cases stage with
      | ended => cases hn
      | waiting => exact (hstill ht).lt (Stage.nextInstant?_eq_some.1 hn).1
    have hmax : max p.shared.world.clock n = n := Nat.max_eq_right (Nat.le_of_lt hlt)
    have hlater := ho.later hlt (fun j c r wait next hj ↦ ?_) fun j t' hj ht' ↦ ?_
    · rw [heq, hmax]
      exact ⟨hp.length, ⟨turns, h, hlater⟩, fun j _ ↦ Nat.zero_le j⟩
    · refine (hstill hj).awaits fun x hx ↦ ?_
      obtain ⟨n', hn'⟩ := Stage.exists_nextInstant r next hx
      exact Nat.le_trans (hfirst j _ n' hj hn') ((Stage.nextInstant?_eq_some.1 hn').2 x hx)
    · exact ho.isAsking_of_still hj ht' (hstill ht')

/-- If nobody can move, not even after some time, nobody waits for an instant. -/
theorem Fair.still (hp : Fair w ops p) (hstep : p.step = none) :
    (∀ i t, p.seats i = some t → t.stage.Still p.shared i) ∧
      ∀ i t, p.seats i = some t → t.stage.nextInstant? = none := by
  have hready : p.ready? = none := by
    cases hready : p.ready? with
    | none => rfl
    | some x =>
        obtain ⟨q, hq, -⟩ := hp.resume hready
        simp [step, hready, hq] at hstep
  have hready' : p.tick.ready? = none := by
    cases hready' : p.tick.ready? with
    | none => rfl
    | some x =>
        obtain ⟨q, hq, -⟩ := (hp.tick hready).resume hready'
        simp [step, hready, hready', hq] at hstep
  refine ⟨fun i t ht ↦ still_of_ready?_eq_none hready ht, ?_⟩
  rcases p.tick_eq with ⟨-, hnever⟩ | ⟨n, j, t, ht, hn, -, heq⟩
  · exact hnever
  · have hseat : p.tick.seats j = some t := by
      rw [heq]
      exact ht
    have hstill := still_of_ready?_eq_none hready' hseat
    obtain ⟨c, stage⟩ := t
    cases stage with
    | ended => cases hn
    | waiting =>
        have hlt := hstill.lt (Stage.nextInstant?_eq_some.1 hn).1
        rw [heq] at hlt
        exact absurd (Nat.le_max_right _ _) (Nat.not_le_of_lt hlt)

/-- A pool of visitors stands still only when all have ended. -/
theorem Fair.settled (hp : Fair w ops p) (hstep : p.step = none) :
    ∃ turns h, Settled w ops p.shared p.seats turns h := by
  obtain ⟨hstill, hnever⟩ := hp.still hstep
  obtain ⟨turns, h, ho⟩ := hp.orderly
  refine ⟨turns, h, ho.settled hstill hnever fun i c q hop ↦ ?_⟩
  obtain ⟨hi, -⟩ := List.getElem?_eq_some_iff.1 hop
  rw [← hp.length] at hi
  exact ⟨p.threads[i], List.getElem?_eq_getElem hi⟩

/-! ## From the beginning to the end -/

theorem Fair.step {q : Pool B α} (hp : Fair w ops p) (hstep : p.step = some q) :
    Fair w ops q := by
  simp only [Pool.step] at hstep
  split at hstep
  · rename_i i ending hready
    obtain ⟨q', hq', hfair⟩ := hp.resume hready
    obtain rfl := Option.some.inj (hq'.symm.trans hstep)
    exact hfair
  · rename_i hready
    split at hstep
    · rename_i i ending hready'
      obtain ⟨q', hq', hfair⟩ := (hp.tick hready).resume hready'
      obtain rfl := Option.some.inj (hq'.symm.trans hstep)
      exact hfair
    · cases hstep

theorem Fair.finish (hp : Fair w ops p) : ∃ turns h,
    Settled w ops p.finish.shared p.finish.seats turns h := by
  induction p using Pool.finish.induct with
  | case1 p hstep =>
      rw [Pool.finish, hstep]
      exact hp.settled hstep
  | case2 p q hstep ih =>
      rw [Pool.finish, hstep]
      exact ih (hp.step hstep)

/-- A visitor that has not begun waits for the beginning. -/
def newcomer (w : World B) (op : Caller × Operation B.Page α) : Thread B α :=
  ⟨op.1, .waiting (.pause 0 .never none) ⟨some w.clock, .never, none⟩ fun _ ↦ op.2⟩

theorem idles_newcomer {c : Caller} {p : Operation B.Page α} (hp : p.Visits w.clock) :
    Idles w.clock p c w.clock (newcomer w (c, p)) := by
  have hquiet : Quiet (.pause 0 .never none : Request B.Page) c w.clock w.clock (.ok ()) c :=
    quiet_wait rfl (Nat.le_refl _) (fun a ha ↦ by rw [← ha]; rfl) fun _ ↦ rfl
  exact .waiting (c := c) rfl hquiet hp (.refl _ _ _)

theorem orderly_newcomers (hops : ∀ op ∈ ops, op.2.Visits w.clock) :
    Orderly w ops (Shared.floor { world := w }) (fun i ↦ ops[i]?.map (newcomer w)) []
      ⟨w.clock, w.env, w.slot⟩ := by
  refine ⟨.nil, Nat.le_refl _, .nil, nofun, fun _ _ ↦ nofun, nofun, .free rfl rfl ?_, ?_⟩
  · simp [Shared.floor, World.scene, reported]
  · intro i t ht
    obtain ⟨⟨c, p⟩, hop, rfl⟩ := Option.map_eq_some_iff.1 ht
    have hvisits := hops _ (List.mem_of_getElem? hop)
    refine ⟨c, p, hop, .idle ?_ (Nat.le_refl _) (idles_newcomer hvisits)⟩
    rintro (hi | hi) <;> cases hi

/-- The newcomers begin one after the other. -/
theorem fair_startFrom (done : List (Thread B α)) {rest : List (Caller × Operation B.Page α)}
    {s : Shared B} (hclock : s.world.clock = w.clock)
    (hp : Fair w ops ⟨s, done ++ rest.map (newcomer w), done.length⟩) :
    Fair w ops ⟨(startFrom s done.length rest).1, done ++ (startFrom s done.length rest).2,
      ops.length⟩ := by
  induction rest generalizing done s with
  | nil =>
      have hlength : done.length = ops.length := by simpa using hp.length
      rw [← hlength]
      exact hp
  | cons op rest ih =>
      obtain ⟨c, q⟩ := op
      have ht : (Pool.mk s (done ++ ((c, q) :: rest).map (newcomer w)) done.length).seats
          done.length = some (newcomer w (c, q)) := by
        simp [seats]
      have hends : (newcomer w (c, q)).stage.EndsNow s done.length .completed := by
        simp [newcomer, Stage.EndsNow, Stage.endingNow?, Cancellation.isPast, hclock]
      have hmove := hp.move (x := Shared.run done.length q s c) ht hends hp.turn rfl
      have hclock' : (Shared.run done.length q s c).2.1.world.clock = w.clock := by
        rw [Shared.run_clock, hclock]
      simp only [startFrom]
      generalize Shared.run done.length q s c = x at hmove hclock' ⊢
      have hrest : Fair w ops ⟨x.2.1, done ++ [Thread.mk x.2.2 x.1] ++ rest.map (newcomer w),
          (done ++ [Thread.mk x.2.2 x.1]).length⟩ := by
        simpa using hmove
      have hfair := ih _ hclock' hrest
      simpa using hfair

end Pool

/-- Visitors that share a page take turns at it, in the order in which they ask for the lock. -/
theorem Operation.together_settled (hops : ∀ op ∈ ops, op.2.Visits w.clock) :
    ∃ turns h, Settled w ops (together w ops).shared (together w ops).seats turns h := by
  have hstart : Pool.Fair w ops ⟨{ world := w }, ops.map (Pool.newcomer w), 0⟩ := by
    refine ⟨List.length_map _, ⟨[], ⟨w.clock, w.env, w.slot⟩, ?_⟩, fun j _ ↦ Nat.zero_le j⟩
    have hseats : (Pool.mk { world := w } (ops.map (Pool.newcomer w)) 0).seats =
        fun i ↦ ops[i]?.map (Pool.newcomer w) := by
      funext i
      exact List.getElem?_map
    rw [hseats]
    exact Pool.orderly_newcomers hops
  have hclock : (Shared.mk w none []).world.clock = w.clock := rfl
  exact (Pool.fair_startFrom [] hclock hstart).finish

end BrowserPilot
