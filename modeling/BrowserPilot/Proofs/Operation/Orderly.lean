import BrowserPilot.Proofs.Operation.Floor
import BrowserPilot.Proofs.Operation.Turns

namespace BrowserPilot

/-!
# The queue is orderly

What holds at every moment while visitors share a page. All have asked in the order in
which they had their turns, have the lock or wait for it; whoever has the lock is in the
middle of its turn, or has just been handed it.
-/

variable {B : Backend} {α : Type}

section

variable (w : World B) (ops : List (Caller × Operation B.Page α))

/-- When the caller at place `i` asks for the lock, with its place. -/
def key (i : Nat) : Instant × Nat :=
  (((ops[i]?.bind fun op ↦ op.2.asked? w op.1).map Prod.fst).getD 0, i)

theorem key_eq {i : Nat} {c : Caller} {p : Operation B.Page α} {asked : Instant}
    {d : Option Deadline} (hop : ops[i]? = some (c, p))
    (hasked : p.asked? w c = some (asked, d)) : key w ops i = (asked, i) := by
  simp [key, hop, hasked]

/-- All who have asked for the lock and were not refused, in order. -/
def keys (f : Floor B) (turns : List (Turn B α)) : List (Instant × Nat) :=
  turns.map Turn.key ++ (f.holder.toList ++ f.queue).map (key w ops)

/-- The events of all turns. -/
def reported (turns : List (Turn B α)) : List (Instant × B.Event) :=
  w.events ++ turns.flatMap Turn.block

/-- One who asked before `asked` had the lock at the deadline, or has it still. -/
def Blocked (f : Floor B) (turns : List (Turn B α)) (h : Handover B) (i : Nat) (asked : Instant)
    (d : Deadline) : Prop :=
  (∃ t ∈ turns, Precedes t.key (asked, i) ∧ t.granted ≤ d.instant ∧ d.instant ≤ t.ended) ∨
    ∃ j, f.holder = some j ∧ Precedes (key w ops j) (asked, i) ∧
      max h.since (key w ops j).1 ≤ d.instant

/-- Where the caller at place `i` stands. -/
inductive Standing (f : Floor B) (turns : List (Turn B α)) (h : Handover B) (i : Nat)
    (c₀ : Caller) (p₀ : Operation B.Page α) : Thread B α → Prop
  /-- It has not asked for the lock. -/
  | idle {u : Instant} {t : Thread B α} :
      ¬ f.Involves i → f.scene.clock ≤ u → Idles w.clock p₀ c₀ u t →
        Standing f turns h i c₀ p₀ t
  /-- It waits for the lock, which may have been handed to it already. -/
  | asking {asked : Instant} {d : Option Deadline} {next : Result Unit → Operation B.Page α}
      {c : Caller} :
      f.Involves i → (∀ d' ∈ d, f.scene.clock ≤ d'.instant) → (next (.ok ())).Stays →
        (∀ e, (next (.error e)).Only Request.isNote) →
        Reaches w.clock p₀ c₀ asked (.ask (.lock d) next) c →
        Standing f turns h i c₀ p₀ ⟨c, .waiting (.lock d) ⟨none, .never, d⟩ next⟩
  /-- It is in the middle of its turn. -/
  | working {r : Request B.Page} {wait : Wait} {next : r.Answer → Operation B.Page α}
      {c : Caller} :
      f.holder = some i → r.isWork = true → Standing f turns h i c₀ p₀ ⟨c, .waiting r wait next⟩
  /-- It has ended. -/
  | ended {o : Outcome α} {u : Instant} {c : Caller} :
      Fate w turns i c₀ p₀ o u → Standing f turns h i c₀ p₀ ⟨c, .ended o u⟩
  /-- It was refused. -/
  | refused {o : Outcome α} {asked : Instant} {d : Deadline} {c : Caller} :
      d.instant ≤ f.scene.clock → p₀.asked? w c₀ = some (asked, some d) →
        Refuses w c₀ p₀ asked d o → (∀ t ∈ turns, t.place ≠ i) →
        Blocked w ops f turns h i asked d →
        Standing f turns h i c₀ p₀ ⟨c, .ended o d.instant⟩

/-- What the page is like, and who has the lock. -/
inductive Current (f : Floor B) (T : Nat → Option (Thread B α)) (turns : List (Turn B α))
    (h : Handover B) : Prop
  | free :
      f.holder = none → f.queue = [] →
        f.scene = ⟨h.env, f.scene.clock, h.slot, reported w turns⟩ → Current f T turns h
  | handed {i : Nat} {t : Thread B α} :
      f.holder = some i → T i = some t → t.stage.isAsking = true →
        max h.since (key w ops i).1 = f.scene.clock →
        f.scene = ⟨h.env, f.scene.clock, h.slot, reported w turns⟩ → Current f T turns h
  | working {i : Nat} {t : Thread B α} {c : Caller} {p : Operation B.Page α} {asked : Instant}
      {d : Option Deadline} :
      f.holder = some i → T i = some t → ops[i]? = some (c, p) →
        p.asked? w c = some (asked, d) → (∀ d' ∈ d, max h.since asked ≤ d'.instant) →
        max h.since asked ≤ f.scene.clock →
        Midway (max h.since asked - asked)
          (p.aloneAfter (max h.since asked - asked) (w.onTaking h) c) (reported w turns) f.scene t →
        Current f T turns h

/-- What holds at every moment. -/
structure Orderly (f : Floor B) (T : Nat → Option (Thread B α)) (turns : List (Turn B α))
    (h : Handover B) : Prop where
  served : Served w ops turns h
  since : h.since ≤ f.scene.clock
  inOrder : (keys w ops f turns).Pairwise Precedes
  past : ∀ k ∈ keys w ops f turns, k.1 ≤ f.scene.clock
  before : ∀ i, f.Due T i → ∀ k ∈ keys w ops f turns, Precedes k (f.scene.clock, i)
  queued : ∀ i ∈ f.queue, ∃ t, T i = some t ∧ t.stage.isAsking = true
  current : Current w ops f T turns h
  standing : ∀ i t, T i = some t → ∃ c p, ops[i]? = some (c, p) ∧
    Standing w ops f turns h i c p t

/-- The caller at place `i` has moved, and all is orderly. -/
def Proceeds (f : Floor B) (T : Nat → Option (Thread B α)) (i : Nat)
    (x : Stage B α × Shared B × Caller) : Prop :=
  f.Moves i x.2.1.floor ∧
    ∃ turns h, Orderly w ops x.2.1.floor (seat T i ⟨x.2.2, x.1⟩) turns h

end

variable {w : World B} {ops : List (Caller × Operation B.Page α)} {f f' : Floor B}
  {T : Nat → Option (Thread B α)} {turns turns' : List (Turn B α)} {h h' : Handover B}

theorem Fate.mono {i : Nat} {c : Caller} {p : Operation B.Page α} {o : Outcome α} {u : Instant}
    (hf : Fate w turns i c p o u) (hturns : turns ⊆ turns')
    (hplace : ∀ t ∈ turns', t ∈ turns ∨ t.place ≠ i) : Fate w turns' i c p o u := by
  cases hf with
  | passed hasked halone hevents => exact .passed hasked halone hevents
  | served ht hi => exact .served (hturns ht) hi
  | refused hasked hrefuses hne hblocked =>
      obtain ⟨t, ht, hrest⟩ := hblocked
      exact .refused hasked hrefuses (fun t ht ↦ (hplace t ht).elim (hne t) id)
        ⟨t, hturns ht, hrest⟩

/-- Where a caller stands does not change while another one moves. -/
theorem Standing.frame {i j : Nat} {c : Caller} {p : Operation B.Page α} {t : Thread B α}
    (hs : Standing w ops f turns h j c p t) (hmoves : f.Moves i f') (hji : j ≠ i)
    (hturns : turns ⊆ turns') (hplace : ∀ t ∈ turns', t ∈ turns ∨ t.place = i)
    (hblocked : ∀ asked d, d.instant ≤ f.scene.clock → Blocked w ops f turns h j asked d →
      Blocked w ops f' turns' h' j asked d) :
    Standing w ops f' turns' h' j c p t := by
  have hclock := hmoves.clock
  have hplace' : ∀ t ∈ turns', t ∈ turns ∨ t.place ≠ j :=
    fun t ht ↦ (hplace t ht).imp id fun hi hj ↦ hji (hj.symm.trans hi)
  cases hs with
  | idle hfree hle hidles => exact .idle (mt (hmoves.involves j hji).1 hfree) (hclock ▸ hle) hidles
  | asking hin hd hstay herror hreaches =>
      exact .asking ((hmoves.involves j hji).2 hin) (hclock ▸ hd) hstay herror hreaches
  | working hj hr => exact .working (hmoves.holder j hji hj) hr
  | ended hfate => exact .ended (hfate.mono hturns hplace')
  | refused hle hasked hrefuses hne hb =>
      exact .refused (hclock ▸ hle) hasked hrefuses (fun t ht ↦ (hplace' t ht).elim (hne t) id)
        (hblocked _ _ hle hb)

namespace Orderly

theorem holder_notMem (ho : Orderly w ops f T turns h) {i : Nat} (hi : f.holder = some i) :
    i ∉ f.queue := by
  intro hmem
  have hpair := (List.pairwise_append.1 ho.inOrder).2.1
  rw [hi, Option.toList_some, List.singleton_append, List.map_cons, List.pairwise_cons] at hpair
  exact Precedes.irrefl _ (hpair.1 _ (List.mem_map_of_mem hmem))

/-- When the caller at place `i` moves, the others stand where they stood. -/
theorem standing_seat (ho : Orderly w ops f T turns h) {i : Nat} {t : Thread B α}
    (hmoves : f.Moves i f') (hturns : turns ⊆ turns')
    (hplace : ∀ t ∈ turns', t ∈ turns ∨ t.place = i)
    (hblocked : ∀ j asked d, d.instant ≤ f.scene.clock → Blocked w ops f turns h j asked d →
      Blocked w ops f' turns' h' j asked d)
    (ht : ∃ c p, ops[i]? = some (c, p) ∧ Standing w ops f' turns' h' i c p t) :
    ∀ j t', seat T i t j = some t' → ∃ c p, ops[j]? = some (c, p) ∧
      Standing w ops f' turns' h' j c p t' := by
  intro j t' hj
  by_cases hji : j = i
  · subst hji
    rw [seat_self] at hj
    obtain rfl : t = t' := by simpa using hj
    exact ht
  · rw [seat_ne T t hji] at hj
    obtain ⟨c, p, hop, hs⟩ := ho.standing j t' hj
    exact ⟨c, p, hop, hs.frame hmoves hji hturns hplace (hblocked j)⟩

/-- When the caller at place `i` moves and is not due then, whoever is due was due before. -/
theorem before_seat (ho : Orderly w ops f T turns h) {i : Nat} {t : Thread B α}
    (hmoves : f.Moves i f') (hi : ¬ f'.Due (seat T i t) i)
    (hkeys : ∀ k ∈ keys w ops f' turns', k ∈ keys w ops f turns) :
    ∀ j, f'.Due (seat T i t) j → ∀ k ∈ keys w ops f' turns', Precedes k (f'.scene.clock, j) := by
  intro j hj k hk
  have hji : j ≠ i := fun hji ↦ hi (hji ▸ hj)
  rw [hmoves.clock]
  exact ho.before j ((hmoves.due hji).1 hj) k (hkeys k hk)

/-- When a turn is over, the lock is handed to the first in the queue. -/
theorem turn_ended (ho : Orderly w ops f T turns h) {i : Nat} {c c' : Caller}
    {p : Operation B.Page α}
    {d : Option Deadline} {t : Turn B α} (hi : f.holder = some i) (hop : ops[i]? = some (c, p))
    (hplace : t.place = i) (hasked : p.asked? w c = some (t.asked, d))
    (hgranted : t.granted = max h.since t.asked) (hended : t.ended = f.scene.clock)
    (hserved : Served w ops (turns ++ [t]) h') (hsince : h'.since = f.scene.clock)
    (hscene : f'.scene = ⟨h'.env, f.scene.clock, h'.slot, reported w (turns ++ [t])⟩)
    (hholder : f'.holder = f.queue.head?) (hqueue : f'.queue = f.queue.tail) :
    Orderly w ops f' (seat T i ⟨c', .ended t.outcome t.ended⟩) (turns ++ [t]) h' := by
  have hne : ∀ j ∈ f.queue, j ≠ i := fun j hj hji ↦ ho.holder_notMem hi (hji ▸ hj)
  have hclock : f'.scene.clock = f.scene.clock := by rw [hscene]
  have hkey : key w ops i = t.key := by rw [key_eq w ops hop hasked, Turn.key, hplace]
  have hkeys : keys w ops f' (turns ++ [t]) = keys w ops f turns := by
    have hline : f'.holder.toList ++ f'.queue = f.queue := by
      rw [hholder, hqueue]
      cases f.queue <;> rfl
    simp [keys, hline, hi, hkey]
  have hmoves : f.Moves i f' := .next hclock hi hholder hqueue
  have hblocked : ∀ j asked d, d.instant ≤ f.scene.clock → Blocked w ops f turns h j asked d →
      Blocked w ops f' (turns ++ [t]) h' j asked d := by
    rintro j asked d hle (⟨t', ht', hrest⟩ | ⟨k, hk, hprecedes, hmax⟩)
    · exact .inl ⟨t', by simp [ht'], hrest⟩
    · obtain rfl : i = k := by simpa [hi] using hk
      rw [hkey] at hprecedes hmax
      exact .inl ⟨t, by simp, hprecedes, hgranted ▸ hmax, hended ▸ hle⟩
  refine ⟨hserved, ?_, hkeys ▸ ho.inOrder, ?_, ?_, ?_, ?_, ?_⟩
  · exact Nat.le_of_eq (hsince.trans hclock.symm)
  · rw [hkeys, hclock]
    exact ho.past
  · refine ho.before_seat hmoves ?_ fun k hk ↦ hkeys ▸ hk
    rw [Floor.due_seat_self]
    rintro ⟨-, u, hu, -⟩
    cases hu
  · intro j hj
    have hmem : j ∈ f.queue := List.mem_of_mem_tail (hqueue ▸ hj)
    rw [seat_ne T _ (hne j hmem)]
    exact ho.queued j hmem
  · cases hq : f.queue with
    | nil =>
        refine .free (by rw [hholder, hq]; rfl) (by rw [hqueue, hq]; rfl) ?_
        rw [hclock]
        exact hscene
    | cons j rest =>
        have hmem : j ∈ f.queue := by simp [hq]
        obtain ⟨t', ht', hasking⟩ := ho.queued j hmem
        have hpast : (key w ops j).1 ≤ f.scene.clock :=
          ho.past _ (List.mem_append_right _ (List.mem_map_of_mem (by simp [hmem])))
        refine .handed (by rw [hholder, hq]; rfl) ((seat_ne T _ (hne j hmem)).trans ht') hasking
          ?_ ?_
        · rw [hsince, hclock]
          exact Nat.max_eq_left hpast
        · rw [hclock]
          exact hscene
  · refine ho.standing_seat hmoves (by simp) (fun t' ht' ↦ ?_) hblocked
      ⟨c, p, hop, .ended (.served (by simp) hplace)⟩
    rcases List.mem_append.1 ht' with ht' | ht'
    · exact .inl ht'
    · obtain rfl : t' = t := by simpa using ht'
      exact .inr hplace

/-- The caller that has the lock goes on with its turn, and perhaps ends it. -/
theorem ran {s : Shared B} (ho : Orderly w ops s.floor T turns h) {i : Nat} {c : Caller}
    {p : Operation B.Page α} {asked : Instant} {d : Option Deadline} (hi : s.holder = some i)
    (hop : ops[i]? = some (c, p)) (hasked : p.asked? w c = some (asked, d))
    (hd : ∀ d' ∈ d, max h.since asked ≤ d'.instant) (hgranted : max h.since asked ≤ s.world.clock)
    {x : Stage B α × Shared B × Caller}
    (hran : Ran (max h.since asked - asked)
      (p.aloneAfter (max h.since asked - asked) (w.onTaking h) c) (reported w turns) s x) :
    Proceeds w ops s.floor T i x := by
  have hne : ∀ j ∈ s.queue, j ≠ i := fun j hj hji ↦ ho.holder_notMem hi (hji ▸ hj)
  cases hran with
  | @midway stage b c' hclock hmidway =>
      have hmoves : s.floor.Moves i (Shared.floor { s with world := b }) :=
        ⟨hclock, fun _ _ ↦ .rfl, fun _ _ ↦ id⟩
      have hsince : h.since ≤ b.clock := by
        rw [hclock]
        exact ho.since
      have hpast : ∀ k ∈ keys w ops s.floor turns, k.1 ≤ b.clock := by
        rw [hclock]
        exact ho.past
      refine ⟨hmoves, turns, h, ho.served, hsince, ho.inOrder, hpast, ?_, ?_, ?_, ?_⟩
      · exact ho.before_seat hmoves (fun hdue ↦ hdue.1 (.inl hi)) fun _ hk ↦ hk
      · intro j hj
        rw [seat_ne T _ (hne j hj)]
        exact ho.queued j hj
      · refine .working hi (seat_self T i _) hop hasked hd ?_ hmidway
        rw [hmoves.clock]
        exact hgranted
      · refine ho.standing_seat hmoves (List.Subset.refl _) (fun _ ht ↦ .inl ht)
          (fun _ _ _ _ hb ↦ hb) ⟨c, p, hop, ?_⟩
        cases hmidway with
        | waiting hr => exact .working hi hr
  | @ended v a b c' hclock hscene hfate =>
      obtain ⟨henv, haclock, hslot, hevents⟩ := World.scene_eq_behind.1 hscene
      have hended : a.clock = s.floor.scene.clock := haclock.symm.trans hclock
      have hserved : Served w ops
          (turns ++ [⟨i, asked, max h.since asked, a.clock, .returned v, a.events⟩])
          ⟨a.clock, a.env, a.slot⟩ :=
        .snoc ho.served hop hasked rfl hd hfate rfl rfl
      have hleft : b.scene = ⟨a.env, s.world.clock, a.slot, reported w
          (turns ++ [⟨i, asked, max h.since asked, a.clock, .returned v, a.events⟩])⟩ := by
        rw [World.scene, henv, hslot, hevents, hclock]
        simp [reported]
      have hfloor := Shared.floor_unlock { s with world := b }
      have hholder : (Shared.unlock { s with world := b }).floor.holder = s.floor.queue.head? := by
        rw [hfloor]
        rfl
      have hqueue : (Shared.unlock { s with world := b }).floor.queue = s.floor.queue.tail := by
        rw [hfloor]
        rfl
      have hscene' : (Shared.unlock { s with world := b }).floor.scene = b.scene := by rw [hfloor]
      rw [haclock]
      exact ⟨.next (by rw [hscene']; exact hclock) hi hholder hqueue, _, _,
        ho.turn_ended hi hop rfl hasked rfl hended hserved hended (hscene'.trans hleft) hholder
          hqueue⟩

theorem asking_of_seat (ho : Orderly w ops f T turns h) {i : Nat} {c : Caller}
    {d : Option Deadline} {wait : Wait} {next : Result Unit → Operation B.Page α}
    (hT : T i = some ⟨c, .waiting (.lock d) wait next⟩) :
    ∃ c₀ p asked, ops[i]? = some (c₀, p) ∧ wait = ⟨none, .never, d⟩ ∧ f.Involves i ∧
      (∀ d' ∈ d, f.scene.clock ≤ d'.instant) ∧ (next (.ok ())).Stays ∧
      (∀ e, (next (.error e)).Only Request.isNote) ∧
      Reaches w.clock p c₀ asked (.ask (.lock d) next) c := by
  obtain ⟨c₀, p, hop, hs⟩ := ho.standing i _ hT
  cases hs with
  | idle _ _ hidles =>
      cases hidles with
      | waiting hr => simp [Request.isIdle] at hr
  | asking hin hd hstay herror hreaches =>
      exact ⟨c₀, p, _, hop, rfl, hin, hd, hstay, herror, hreaches⟩
  | working _ hr => simp [Request.isWork] at hr

/-- The caller to which the lock was handed begins its turn. -/
theorem handed {s : Shared B} (ho : Orderly w ops s.floor T turns h) {i : Nat} {c : Caller}
    {d : Option Deadline} {wait : Wait} {next : Result Unit → Operation B.Page α}
    (hi : s.holder = some i) (hT : T i = some ⟨c, .waiting (.lock d) wait next⟩) :
    Proceeds w ops s.floor T i (Shared.run i (next (.ok ())) s c) := by
  obtain ⟨c₀, p, asked, hop, -, -, hd, hstay, -, hreaches⟩ := ho.asking_of_seat hT
  have hasked : p.asked? w c₀ = some (asked, d) := hreaches.asked rfl
  have hkey : key w ops i = (asked, i) := key_eq w ops hop hasked
  have hcurrent : max h.since asked = s.world.clock ∧
      s.world.scene = ⟨h.env, s.world.clock, h.slot, reported w turns⟩ := by
    cases ho.current with
    | free hnone => cases hi.symm.trans hnone
    | handed hj _ _ hmax hscene =>
        obtain rfl := Option.some.inj (hi.symm.trans hj)
        rw [hkey] at hmax
        exact ⟨hmax, hscene⟩
    | working hj hT' _ _ _ _ hmidway =>
        obtain rfl := Option.some.inj (hi.symm.trans hj)
        obtain rfl := Option.some.inj (hT.symm.trans hT')
        cases hmidway with
        | waiting hr => simp [Request.isWork] at hr
  obtain ⟨hmax, hscene⟩ := hcurrent
  obtain ⟨a, ha, halone, -⟩ := hreaches (w.onTaking h) rfl
  have haclock : a.clock = asked := congrArg Scene.clock ha
  have hgranted : a.clock + (max h.since asked - asked) = s.world.clock := by
    rw [haclock, ← hmax]
    lia
  have hfate : p.aloneAfter (max h.since asked - asked) (w.onTaking h) c₀ =
      (next (.ok ())).aloneAfter (max h.since asked - asked)
        { a with clock := a.clock + (max h.since asked - asked) } c := by
    rw [halone]
    refine Operation.aloneAfter_lock_of_le c next ?_
    rw [hgranted]
    exact hd
  have hbehind : s.world.scene = Scene.behind (reported w turns)
      ({ a with clock := a.clock + (max h.since asked - asked) } : World B).scene := by
    rw [hscene, World.scene_setClock, ha, hgranted]
    simp [Scene.behind, World.onTaking, World.scene]
  refine ho.ran hi hop hasked (fun d' hd' ↦ ?_) (Nat.le_of_eq hmax) ?_
  · rw [hmax]
    exact hd d' hd'
  · rw [hfate]
    exact run_stays hstay hbehind

theorem eq_nil_of_free (ho : Orderly w ops f T turns h) (hnone : f.holder = none) :
    f.queue = [] := by
  cases ho.current with
  | free _ hqueue => exact hqueue
  | handed hj | working hj => cases hnone.symm.trans hj

theorem keys_join (ho : Orderly w ops f T turns h) (i : Nat) :
    keys w ops (f.join i) turns = keys w ops f turns ++ [key w ops i] := by
  have hline : (f.join i).holder.toList ++ (f.join i).queue =
      f.holder.toList ++ f.queue ++ [i] := by
    cases hholder : f.holder with
    | none => simp [Floor.join, hholder, ho.eq_nil_of_free hholder]
    | some j => simp [Floor.join, hholder]
  simp only [keys, hline, List.map_append, List.map_cons, List.map_nil, List.append_assoc]

/-- A caller asks for the lock after all who have asked before. -/
theorem joined (ho : Orderly w ops f T turns h) {i : Nat} {c c₀ : Caller} {p : Operation B.Page α}
    {d : Option Deadline} {next : Result Unit → Operation B.Page α} (hop : ops[i]? = some (c₀, p))
    (hfree : ¬ f.Involves i) (hd : ∀ d' ∈ d, f.scene.clock ≤ d'.instant)
    (hstay : (next (.ok ())).Stays) (herror : ∀ e, (next (.error e)).Only Request.isNote)
    (hreaches : Reaches w.clock p c₀ f.scene.clock (.ask (.lock d) next) c)
    (hlast : ∀ k ∈ keys w ops f turns, Precedes k (f.scene.clock, i))
    (hothers : ∀ j, f.Due T j → i ≤ j) :
    Orderly w ops (f.join i) (seat T i ⟨c, .waiting (.lock d) ⟨none, .never, d⟩ next⟩) turns h := by
  have hkey : key w ops i = (f.scene.clock, i) := key_eq w ops hop (hreaches.asked rfl)
  have hkeys : keys w ops (f.join i) turns = keys w ops f turns ++ [(f.scene.clock, i)] := by
    rw [ho.keys_join i, hkey]
  have hin : (f.join i).Involves i := (f.involves_join i i).2 (.inr rfl)
  have hmoves := Floor.Moves.join f i
  have hne : ∀ j, f.Involves j → j ≠ i := fun j hj hji ↦ hfree (hji ▸ hj)
  refine ⟨ho.served, ?_, ?_, ?_, ?_, ?_, ?_, ?_⟩
  · rw [f.join_scene i]
    exact ho.since
  · rw [hkeys, List.pairwise_append]
    exact ⟨ho.inOrder, List.pairwise_singleton _ _, by simpa using hlast⟩
  · rw [hkeys, f.join_scene i]
    intro k hk
    rcases List.mem_append.1 hk with hk | hk
    · exact ho.past k hk
    · obtain rfl : k = (f.scene.clock, i) := by simpa using hk
      exact Nat.le_refl _
  · intro j hj k hk
    have hji : j ≠ i := fun hji ↦ hj.1 (hji ▸ hin)
    have hdue : f.Due T j := (hmoves.due hji).1 hj
    rw [f.join_scene i]
    rw [hkeys] at hk
    rcases List.mem_append.1 hk with hk | hk
    · exact ho.before j hdue k hk
    · obtain rfl : k = (f.scene.clock, i) := by simpa using hk
      exact .inr ⟨rfl, Nat.lt_of_le_of_ne (hothers j hdue) (Ne.symm hji)⟩
  · intro j hj
    by_cases hji : j = i
    · subst hji
      exact ⟨_, seat_self T j _, rfl⟩
    · rw [seat_ne T _ hji]
      exact ho.queued j ((f.mem_queue_join hj).resolve_right hji)
  · cases ho.current with
    | free hnone _ hscene =>
        refine .handed (i := i) (by simp [Floor.join, hnone]) (seat_self T i _) rfl ?_ ?_
        · rw [hkey, f.join_scene i]
          exact Nat.max_eq_right ho.since
        · rw [f.join_scene i]
          exact hscene
    | handed hj ht hasking hmax hscene =>
        refine .handed (f.holder_join hj) ((seat_ne T _ (hne _ (.inl hj))).trans ht) hasking ?_ ?_
        · rw [f.join_scene i]
          exact hmax
        · rw [f.join_scene i]
          exact hscene
    | working hj ht hjop hasked hin hgranted hmidway =>
        refine .working (f.holder_join hj) ((seat_ne T _ (hne _ (.inl hj))).trans ht) hjop hasked
          hin ?_ ?_
        · rw [f.join_scene i]
          exact hgranted
        · rw [f.join_scene i]
          exact hmidway
  · refine ho.standing_seat hmoves (List.Subset.refl _) (fun _ ht ↦ .inl ht) ?_
      ⟨c₀, p, hop, ?_⟩
    · rintro j asked d' - (hturn | ⟨k, hk, hrest⟩)
      · exact .inl hturn
      · exact .inr ⟨k, f.holder_join hk, hrest⟩
    · refine .asking hin ?_ hstay herror hreaches
      rw [f.join_scene i]
      exact hd

end Orderly

end BrowserPilot
