import BrowserPilot.Proofs.Operation.Orderly

namespace BrowserPilot

/-!
# Every move is orderly

When the wait of a caller ends, it goes on until it has to wait again. Whatever it does
meanwhile, and whether it asks for the lock, has it, gives it up or is refused, the
queue is orderly afterwards.
-/

variable {B : Backend} {α : Type} {w : World B} {ops : List (Caller × Operation B.Page α)}
  {f : Floor B} {T : Nat → Option (Thread B α)} {turns : List (Turn B α)} {h : Handover B}

namespace Stage.EndsNow

variable {s : Shared B} {i : Nat} {ending : Ending} {r : Request B.Page}
  {next : r.Answer → Operation B.Page α}

theorem of_until {u : Instant}
    (hends : (Stage.waiting r ⟨some u, .never, none⟩ next).EndsNow s i ending) :
    ending = .completed ∧ u ≤ s.world.clock := by
  rcases hends with hends | ⟨-, hends⟩
  · by_cases hu : u ≤ s.world.clock
    · simp [endingNow?, Cancellation.isPast, hu] at hends
      exact ⟨hends.symm, hu⟩
    · simp [endingNow?, Cancellation.isPast, hu] at hends
  · cases hends

theorem of_lock {d : Option Deadline}
    (hends : (Stage.waiting r ⟨none, .never, d⟩ next).EndsNow s i ending) :
    s.holder = some i ∧ ending = .completed ∨
      s.holder ≠ some i ∧ ∃ d', d = some d' ∧ ending = .expired d' ∧
        d'.instant ≤ s.world.clock := by
  rcases hends with hends | ⟨-, hends⟩
  · by_cases hi : s.holder = some i
    · simp [endingNow?, Cancellation.isPast, hi] at hends
      exact .inl ⟨hi, hends.symm⟩
    · cases d with
      | none => simp [endingNow?, Cancellation.isPast, hi] at hends
      | some d' =>
          simp [endingNow?, Cancellation.isPast, hi] at hends
          exact .inr ⟨hi, d', rfl, hends.2.symm, hends.1⟩
  · cases hends

end Stage.EndsNow

theorem Served.key_eq (hserved : Served w ops turns h) :
    ∀ t ∈ turns, t.key = key w ops t.place := by
  induction hserved with
  | nil => simp
  | snoc hserved hop hasked _ _ _ _ _ ih =>
      intro t ht
      rcases List.mem_append.1 ht with ht | ht
      · exact ih t ht
      · obtain rfl := List.mem_singleton.1 ht
        exact (BrowserPilot.key_eq w ops hop hasked).symm

/-- Who is refused where it has come to ask for the lock ends at once, and comes to the same alone
however late the lock would have come. -/
theorem Reaches.refuses {p : Operation B.Page α} {c₀ c : Caller} {asked : Instant} {d : Deadline}
    {next : Result Unit → Operation B.Page α}
    (hreaches : Reaches w.clock p c₀ asked (.ask (.lock (some d)) next) c)
    (hnotes : (next (.error (.timeout d.limit))).Only Request.isNote) (hd : asked ≤ d.instant)
    (i : Nat) {s : Shared B} (hclock : s.world.clock = d.instant) :
    ∃ x b c', Shared.run i (next (.error (.timeout d.limit))) s c =
        (.ended (.returned x) s.world.clock, { s with world := b }, c') ∧
      b.scene = s.world.scene ∧ Refuses w c₀ p asked d (.returned x) := by
  obtain ⟨x, b, c', -, hrun, hb, -, -⟩ := run_notes hnotes 0 i s s.world c rfl
  refine ⟨x, b, c', hrun, hb, fun queued hlt ↦ ?_⟩
  obtain ⟨a, hscene, halone, -⟩ := hreaches w rfl
  have hasked : a.clock = asked := congrArg Scene.clock hscene
  obtain ⟨y, b', c'', a', hrun', -, hlate, ha'⟩ :=
    run_notes hnotes queued i s { a with clock := d.instant } c hclock
  have hstage := congrArg Prod.fst (hrun.symm.trans hrun')
  obtain rfl : x = y := by simpa using hstage
  refine ⟨a', c'', ?_, ha'.trans ?_⟩
  · rw [halone, Operation.aloneAfter_lock_of_lt c next (hasked ▸ hd) (hasked ▸ hlt), hlate]
  · rw [World.scene_setClock, hscene]

namespace Orderly

/-- A caller that does not have the lock is not in the queue any longer. -/
theorem left (ho : Orderly w ops f T turns h) {i : Nat} {t : Thread B α}
    (hi : f.holder ≠ some i) (hlate : ∀ u, t.stage.until? = some u → f.scene.clock < u)
    (ht : ∃ c p, ops[i]? = some (c, p) ∧ Standing w ops (f.without i) turns h i c p t) :
    Orderly w ops (f.without i) (seat T i t) turns h := by
  have hmoves := Floor.Moves.without f i
  have hsub : (keys w ops (f.without i) turns).Sublist (keys w ops f turns) := by
    have hqueue : (f.without i).queue.Sublist f.queue := List.filter_sublist
    exact (List.Sublist.refl _).append (((List.Sublist.refl _).append hqueue).map _)
  have hkeys : ∀ k ∈ keys w ops (f.without i) turns, k ∈ keys w ops f turns :=
    fun k hk ↦ hsub.subset hk
  have hne : ∀ {j}, f.holder = some j → j ≠ i := fun hj hji ↦ hi (hji ▸ hj)
  refine ⟨ho.served, ho.since, ho.inOrder.sublist hsub, fun k hk ↦ ho.past k (hkeys k hk),
    ?_, ?_, ?_, ?_⟩
  · refine ho.before_seat hmoves ?_ hkeys
    rw [Floor.due_seat_self]
    rintro ⟨-, u, hu, hle⟩
    exact Nat.not_lt_of_le hle (hlate u hu)
  · intro j hj
    obtain ⟨hj, hji⟩ := f.mem_queue_without.1 hj
    rw [seat_ne T t hji]
    exact ho.queued j hj
  · cases ho.current with
    | free hnone hqueue hscene => exact .free hnone (by simp [Floor.without, hqueue]) hscene
    | handed hj ht hasking hmax hscene =>
        exact .handed hj ((seat_ne T _ (hne hj)).trans ht) hasking hmax hscene
    | working hj ht hop hasked hin hgranted hmidway =>
        exact .working hj ((seat_ne T _ (hne hj)).trans ht) hop hasked hin hgranted hmidway
  · exact ho.standing_seat hmoves (List.Subset.refl _) (fun _ ht ↦ .inl ht)
      (fun _ _ _ _ hb ↦ hb) ht

/-- A caller that has not asked for the lock goes on, and nobody else notices. -/
theorem unnoticed {s : Shared B} (ho : Orderly w ops s.floor T turns h) {i : Nat} {c : Caller}
    {b : World B} {stage : Stage B α} (hfree : ¬ s.floor.Involves i)
    (hb : b.scene = s.world.scene) (hlate : ∀ u, stage.until? = some u → s.world.clock < u)
    (ht : ∃ c₀ p, ops[i]? = some (c₀, p) ∧ Standing w ops s.floor turns h i c₀ p ⟨c, stage⟩) :
    Proceeds w ops s.floor T i (stage, { s with world := b }, c) := by
  have hwithout : s.floor.without i = s.floor :=
    s.floor.without_of_notMem fun hi ↦ hfree (.inr hi)
  have hleft := ho.left (t := ⟨c, stage⟩) (fun hi ↦ hfree (.inl hi)) hlate (by rwa [hwithout])
  have hfloor : (Shared.floor { s with world := b }) = s.floor := Shared.floor_of_scene hb
  rw [hwithout, ← hfloor] at hleft
  exact ⟨hfloor ▸ .refl _ i, turns, h, hleft⟩

/-- A caller asks for the lock, and has it at once if it is free. -/
theorem asks {s : Shared B} (ho : Orderly w ops s.floor T turns h) {i : Nat} {c c₀ : Caller}
    {p : Operation B.Page α} {d : Option Deadline} {next : Result Unit → Operation B.Page α}
    (hop : ops[i]? = some (c₀, p)) (hfree : ¬ s.floor.Involves i)
    (hd : ∀ d' ∈ d, s.world.clock ≤ d'.instant) (hstay : (next (.ok ())).Stays)
    (herror : ∀ e, (next (.error e)).Only Request.isNote)
    (hreaches : Reaches w.clock p c₀ s.world.clock (.ask (.lock d) next) c)
    (hlast : ∀ k ∈ keys w ops s.floor turns, Precedes k (s.world.clock, i))
    (hothers : ∀ j, s.floor.Due T j → i ≤ j) :
    Proceeds w ops s.floor T i (Shared.run i (.ask (.lock d) next) s c) := by
  have hjoined := ho.joined hop hfree hd hstay herror hreaches hlast hothers
  have hmoves := Floor.Moves.join s.floor i
  cases hholder : s.holder with
  | some k =>
      have hbegin : s.begin c (.lock d) = .inr ⟨none, .never, d⟩ := by
        simp [Shared.begin, hholder]
      have hfloor : (s.enqueue i (.lock d)).floor = s.floor.join i := by
        simp [Shared.enqueue, Shared.floor, Floor.join, hholder]
      have hrun : Shared.run i (.ask (.lock d) next) s c =
          (.waiting (.lock d) ⟨none, .never, d⟩ next, s.enqueue i (.lock d), c) :=
        Shared.run_of_inr hbegin
      rw [← hfloor] at hjoined hmoves
      rw [hrun]
      exact ⟨hmoves, turns, h, hjoined⟩
  | none =>
      have hbegin : s.begin c (.lock d) = .inl .completed := by
        simp [Shared.begin, hholder]
      have hfloor : Shared.floor { s with holder := some i } = s.floor.join i := by
        simp [Shared.floor, Floor.join, hholder]
      have hrun : Shared.run i (.ask (.lock d) next) s c =
          Shared.run i (next (.ok ())) { s with holder := some i } c :=
        Shared.run_of_inl (r := .lock d) hbegin
      rw [← hfloor] at hjoined hmoves
      obtain ⟨hmoves', turns', h', hlater⟩ := hjoined.handed rfl (seat_self T i _)
      rw [seat_seat] at hlater
      rw [hrun]
      exact ⟨hmoves.trans hmoves', turns', h', hlater⟩

theorem place_ne_of_queued (ho : Orderly w ops f T turns h) {i : Nat} (hi : i ∈ f.queue) :
    ∀ t ∈ turns, t.place ≠ i := by
  intro t ht hplace
  have hprecedes := (List.pairwise_append.1 ho.inOrder).2.2 t.key (List.mem_map_of_mem ht)
    (key w ops i) (List.mem_map_of_mem (List.mem_append_right _ hi))
  rw [ho.served.key_eq t ht, hplace] at hprecedes
  exact Precedes.irrefl _ hprecedes

/-- Whoever waits for the lock waits for one who asked before it. -/
theorem blocked_of_queued (ho : Orderly w ops f T turns h) {i : Nat} {d : Deadline}
    (hi : i ∈ f.queue) (hd : d.instant = f.scene.clock) :
    Blocked w ops f turns h i (key w ops i).1 d := by
  cases hholder : f.holder with
  | none => simp [ho.eq_nil_of_free hholder] at hi
  | some k =>
      have hpair := (List.pairwise_append.1 ho.inOrder).2.1
      rw [hholder, Option.toList_some, List.singleton_append, List.map_cons,
        List.pairwise_cons] at hpair
      have hprecedes := hpair.1 _ (List.mem_map_of_mem hi)
      have hpast : (key w ops k).1 ≤ f.scene.clock :=
        ho.past _ (List.mem_append_right _ (List.mem_map_of_mem (by simp [hholder])))
      refine .inr ⟨k, hholder, hprecedes, ?_⟩
      rw [hd]
      exact Nat.max_le.2 ⟨ho.since, hpast⟩

/-- A caller that does not have the lock by its deadline ends then. -/
theorem refused {s : Shared B} (ho : Orderly w ops s.floor T turns h) {i : Nat} {c : Caller}
    {d : Deadline} {wait : Wait} {next : Result Unit → Operation B.Page α}
    (hi : s.holder ≠ some i) (hd : d.instant ≤ s.world.clock)
    (hT : T i = some ⟨c, .waiting (.lock (some d)) wait next⟩) :
    Proceeds w ops s.floor T i (Shared.run i (next (.error (.timeout d.limit)))
      { s with queue := s.queue.filter (· != i) } c) := by
  obtain ⟨c₀, p, asked, hop, -, hin, hin', -, herror, hreaches⟩ := ho.asking_of_seat hT
  have hclock : s.world.clock = d.instant := Nat.le_antisymm (hin' d rfl) hd
  have hasked : p.asked? w c₀ = some (asked, some d) := hreaches.asked rfl
  have hkey : key w ops i = (asked, i) := key_eq w ops hop hasked
  have hqueue : i ∈ s.floor.queue := hin.resolve_left hi
  have hle : (key w ops i).1 ≤ s.world.clock :=
    ho.past _ (List.mem_append_right _ (List.mem_map_of_mem (List.mem_append_right _ hqueue)))
  have hblocked := ho.blocked_of_queued hqueue hclock.symm
  rw [hkey] at hle hblocked
  obtain ⟨x, b, c', hrun, hb, hrefuses⟩ := hreaches.refuses (herror _) (hclock ▸ hle) i
    (s := { s with queue := s.queue.filter (· != i) }) hclock
  have hstanding : Standing w ops (s.floor.without i) turns h i c₀ p
      ⟨c', .ended (.returned x) s.world.clock⟩ := by
    rw [hclock]
    exact .refused hd hasked hrefuses (ho.place_ne_of_queued hqueue) hblocked
  have hleft := ho.left (t := ⟨c', .ended (.returned x) s.world.clock⟩) hi (fun u hu ↦ by cases hu)
    ⟨c₀, p, hop, hstanding⟩
  have hfloor : Shared.floor { s with queue := s.queue.filter (· != i), world := b } =
      s.floor.without i := by
    simp [Shared.floor, Floor.without, hb]
  rw [← hfloor] at hleft
  rw [hrun]
  exact ⟨hfloor ▸ .without s.floor i, turns, h, hleft⟩

theorem came {s : Shared B} (ho : Orderly w ops s.floor T turns h) {i : Nat} {c₀ : Caller}
    {p : Operation B.Page α} {x : Stage B α × Shared B × Caller} (hop : ops[i]? = some (c₀, p))
    (hfree : ¬ s.floor.Involves i)
    (hlast : ∀ k ∈ keys w ops s.floor turns, Precedes k (s.world.clock, i))
    (hothers : ∀ j, s.floor.Due T j → i ≤ j) (hcame : Came w.clock p c₀ i s x) :
    Proceeds w ops s.floor T i x := by
  cases hcame with
  | @idle u stage b c hlt hscene hidles =>
      refine ho.unnoticed hfree hscene (fun v hv ↦ ?_)
        ⟨c₀, p, hop, .idle hfree (Nat.le_of_lt hlt) hidles⟩
      cases hidles with
      | waiting => exact Option.some.inj hv ▸ hlt
  | @passed o b c hscene hpasses =>
      obtain ⟨hasked, a, c', halone, ha⟩ := hpasses w rfl
      have hclock : a.clock = s.world.clock := congrArg Scene.clock ha
      have hevents : a.events = w.events := congrArg Scene.events ha
      have hfate : Fate w turns i c₀ p o s.world.clock :=
        hclock ▸ .passed hasked halone hevents
      exact ho.unnoticed hfree hscene (fun v hv ↦ by cases hv) ⟨c₀, p, hop, .ended hfate⟩
  | @asks d next b c hscene hd hstay herror hreaches =>
      have hfloor : Shared.floor { s with world := b } = s.floor := Shared.floor_of_scene hscene
      have hclock : b.clock = s.world.clock := congrArg Scene.clock hscene
      rw [← hfloor] at ho hfree hlast hothers ⊢
      rw [← hclock] at hd hreaches hlast
      exact ho.asks hop hfree hd hstay herror hreaches hlast hothers

theorem resumed {s : Shared B} (ho : Orderly w ops s.floor T turns h) {i : Nat} {c : Caller}
    {r : Request B.Page} {wait : Wait} {next : r.Answer → Operation B.Page α} {ending : Ending}
    (hi : s.holder = some i) (hr : r.isWork = true) (hT : T i = some ⟨c, .waiting r wait next⟩)
    (hends : (Stage.waiting r wait next).EndsNow s i ending) :
    Proceeds w ops s.floor T i (Shared.run i (next (s.answer i c ending r).1)
      (s.answer i c ending r).2.1 (s.answer i c ending r).2.2) := by
  cases ho.current with
  | free hnone => cases hi.symm.trans hnone
  | handed hj hT' hasking =>
      obtain rfl := Option.some.inj (hi.symm.trans hj)
      obtain rfl := Option.some.inj (hT.symm.trans hT')
      cases r with
      | lock _ => simp [Request.isWork] at hr
      | _ => simp [Stage.isAsking] at hasking
  | working hj hT' hop hasked hd hgranted hmidway =>
      obtain rfl := Option.some.inj (hi.symm.trans hj)
      obtain rfl := Option.some.inj (hT.symm.trans hT')
      exact ho.ran hi hop hasked hd hgranted (hmidway.resume hends)

/-- The first caller whose wait ends goes on. -/
theorem goes {s : Shared B} (ho : Orderly w ops s.floor T turns h) {i : Nat} {c : Caller}
    {r : Request B.Page} {wait : Wait} {next : r.Answer → Operation B.Page α} {ending : Ending}
    (hT : T i = some ⟨c, .waiting r wait next⟩)
    (hends : (Stage.waiting r wait next).EndsNow s i ending)
    (hfirst : ∀ j, s.floor.Due T j → i ≤ j) :
    Proceeds w ops s.floor T i (Shared.run i (next (s.answer i c ending r).1)
      (s.answer i c ending r).2.1 (s.answer i c ending r).2.2) := by
  obtain ⟨c₀, p, hop, hs⟩ := ho.standing i _ hT
  cases hs with
  | @idle u _ hfree hle hidles =>
      have hwait : wait = ⟨some u, .never, none⟩ := by
        cases hidles
        rfl
      subst hwait
      obtain ⟨rfl, hu⟩ := hends.of_until
      have hclock : s.world.clock = u := Nat.le_antisymm hle hu
      have hdue : s.floor.Due T i := ⟨hfree, _, u, hT, rfl, hu⟩
      exact ho.came hop hfree (ho.before i hdue) hfirst (hidles.resume hclock)
  | @asking asked d next =>
      rcases hends.of_lock with ⟨hi, rfl⟩ | ⟨hi, d', rfl, rfl, hd'⟩
      · have hshared : { s with holder := some i } = s := by rw [← hi]
        have hrun := congrArg (fun s ↦ Shared.run i (next (.ok ())) s c) hshared
        exact (congrArg (Proceeds w ops s.floor T i) hrun).mpr (ho.handed hi hT)
      · exact ho.refused hi hd' hT
  | working hi hr => exact ho.resumed hi hr hT hends

end Orderly

end BrowserPilot
