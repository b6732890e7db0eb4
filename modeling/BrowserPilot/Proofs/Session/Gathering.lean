import BrowserPilot.Proofs.Operation.Pool
import BrowserPilot.Proofs.Session.Line

namespace BrowserPilot

/-!
# A gathering is traffic

Guests who call on a session side by side, as a pool of operations runs them, make traffic:
each move of the pool is a step of the traffic or several.
-/

/-- Somebody who comes to a session with a call some milliseconds after the beginning. -/
structure Guest (B : Backend) where
  caller : Caller
  after : Nat
  call : Session.Call B.Page

variable {B : Backend} {c : Config} {w : World B}

namespace Guest

def entry (c : Config) (g : Guest B) : Caller × Operation B.Page (Result Session.Reply) :=
  (g.caller, (Traffic.newcomer c g.after g.call).rest)

/-- Guests of one session side by side. -/
def pool (c : Config) (w : World B) (guests : List (Guest B)) : Pool B (Result Session.Reply) :=
  Operation.together w (guests.map (entry c))

end Guest

namespace Traffic

variable {T : Traffic B} {i : Nat} {call : Session.Call B.Page} {k : Caller} {ending : Ending}
  {r : Request B.Page} {wait : Wait} {next : r.Answer → Operation B.Page (Result Session.Reply)}

/-- The client at place `i` does not wait for the lock. -/
structure Idle (T : Traffic B) (i : Nat) : Prop where
  absent : i ∉ T.shared.queue
  present : T.shared.holder = some i → T.present ≠ none

theorem mayEnd_of_begin (h : T.shared.begin k r = .inl ending) : T.MayEnd i ending r := by
  refine ⟨Shared.fits_of_begin h, ?_⟩
  rintro d rfl
  simp only [Shared.begin] at h
  split at h
  · rename_i hnone
    obtain rfl := Sum.inl.inj h
    exact .inl (Option.isNone_iff_eq_none.1 hnone)
  · cases h

theorem mayEnd_of_endsNow (hfor : wait.For r)
    (h : (Stage.waiting r wait next).EndsNow T.shared i ending) : T.MayEnd i ending r := by
  refine ⟨Stage.fits_of_endsNow hfor h, ?_⟩
  rintro d rfl
  obtain ⟨until?, cancel, deadline⟩ := wait
  obtain rfl : until? = none := hfor.lock d rfl
  obtain rfl : cancel = .never := hfor.cancel
  rcases h.of_lock with ⟨hholder, rfl⟩ | ⟨hholder, d', -, rfl, -⟩
  · exact .inr hholder
  · exact hholder

theorem Orderly.idle_lock (ho : Orderly T) {d : Option Deadline}
    {next : Result Unit → Operation B.Page (Result Session.Reply)}
    (hmay : T.MayEnd i ending (.lock d)) : (T.go i call k ending (.lock d) next).Idle i := by
  have ho' : Orderly (T.go i call k ending (.lock d) next) := ho.lock hmay
  obtain ⟨hfits, hfree⟩ := hmay
  replace hfree := hfree d rfl
  cases ending with
  | completed =>
      rw [go_locked] at ho' ⊢
      exact ⟨ho'.apart i rfl, fun _ ↦ nofun⟩
  | expired d' =>
      rw [go_expired]
      exact ⟨by simp, fun h ↦ absurd h hfree⟩
  | cancelled => simp [Ending.Fits, Request.cancellation] at hfits

theorem Orderly.idle_unlock (ho : Orderly T)
    {next : Unit → Operation B.Page (Result Session.Reply)} {t : Tenure}
    (hholder : T.shared.holder = some i) (hpresent : T.present = some t) :
    (T.go i call k ending .unlock next).Idle i := by
  have habsent := ho.apart i hholder
  rw [go_unlock hpresent]
  cases hqueue : T.shared.queue with
  | nil =>
      rw [Shared.unlock_nil hqueue]
      exact ⟨habsent, fun h ↦ by simp at h⟩
  | cons first rest =>
      rw [Shared.unlock_cons hqueue]
      rw [hqueue] at habsent
      refine ⟨fun h ↦ habsent (List.mem_cons_of_mem _ h), fun h ↦ ?_⟩
      obtain rfl := Option.some.inj h
      exact absurd List.mem_cons_self habsent

theorem Orderly.idle_work (ho : Orderly T) (hi : T.clients[i]? = some ⟨call, .ask r next⟩)
    (hlock : ∀ d, r ≠ .lock d) (hunlock : r ≠ .unlock) : (T.go i call k ending r next).Idle i := by
  rw [go_work hlock hunlock]
  refine ⟨fun h ↦ (ho.waits i h).ne hi hlock rfl, fun hholder ↦ ?_⟩
  have hpresent : T.present ≠ none := fun h ↦ (ho.handed i hholder h).ne hi hlock rfl
  change (if _ then _ else _) ≠ none
  rw [if_pos hholder]
  simpa using hpresent

/-- Whoever goes on does not wait in line any more. -/
theorem idle_go (hs : Sound c T) (ho : Orderly T) (hi : T.clients[i]? = some ⟨call, .ask r next⟩)
    (hmay : T.MayEnd i ending r) : (T.go i call k ending r next).Idle i := by
  cases r with
  | lock d => exact ho.idle_lock hmay
  | unlock =>
      obtain ⟨t, hholder, hpresent⟩ := hs.of_unlock hi
      exact ho.idle_unlock hholder hpresent
  | _ => exact ho.idle_work hi nofun nofun

/-- Who runs without waiting in line may ask for the lock that another has. -/
theorem Idle.asks (hidle : T.Idle i) (hs : Sound c T) {d : Option Deadline}
    {next : Result Unit → Operation B.Page (Result Session.Reply)}
    (hi : T.clients[i]? = some ⟨call, .ask (.lock d) next⟩)
    (hheld : T.shared.holder.isSome = true) :
    Step c T { T with shared := T.shared.enqueue i (.lock d) } := by
  refine .asks hi hheld (fun hholder ↦ ?_) hidle.absent
  exact hidle.present hholder (present_of_none (hs.follows i call _ hi).of_lock hholder)

/-- An operation of the pool runs until it has to wait. -/
theorem reachable_run (hslot : w.slot = none) (p : Operation B.Page (Result Session.Reply))
    {T : Traffic B} (hT : Reachable c w T) (hi : T.clients[i]? = some ⟨call, p⟩)
    (hidle : T.Idle i) (k : Caller) :
    ∃ T', Reachable c w T' ∧ T'.shared = (Shared.run i p T.shared k).2.1 ∧
      T'.clients = T.clients.set i ⟨call, (Shared.run i p T.shared k).1.rest⟩ := by
  induction p generalizing T k with
  | done a => exact ⟨T, hT, rfl, (set_same hi).symm⟩
  | crash reason => exact ⟨T, hT, rfl, (set_same hi).symm⟩
  | ask r next ih =>
      have hs := hT.sound hslot
      have ho := hT.orderly hslot
      cases hbegin : T.shared.begin (k.note r) r with
      | inl ending =>
          have hmay : T.MayEnd i ending r := mayEnd_of_begin hbegin
          have hlt := (List.getElem?_eq_some_iff.1 hi).1
          have hnext : (T.go i call (k.note r) ending r next).clients[i]? =
              some ⟨call, next (T.shared.answer i (k.note r) ending r).1⟩ :=
            List.getElem?_set_self hlt
          obtain ⟨T', hT', hshared, hclients⟩ := ih _
            (hT.step (.goes (k.note r) ending hi hmay)) hnext (idle_go hs ho hi hmay)
            (T.shared.answer i (k.note r) ending r).2.2
          rw [Shared.run_of_inl hbegin]
          refine ⟨T', hT', hshared, hclients.trans ?_⟩
          exact List.set_set _
      | inr wait =>
          -- only to wait for the lock is a step of the traffic
          rw [Shared.run_of_inr hbegin]
          by_cases hr : ∃ d, r = .lock d
          · obtain ⟨d, rfl⟩ := hr
            have hheld : T.shared.holder.isSome = true := by
              cases hholder : T.shared.holder with
              | none => simp [Shared.begin, hholder] at hbegin
              | some j => rfl
            exact ⟨_, hT.step (hidle.asks hs hi hheld), rfl, (set_same hi).symm⟩
          · have henqueue : T.shared.enqueue i r = T.shared := by
              cases r with
              | lock d => exact absurd ⟨d, rfl⟩ hr
              | _ => rfl
            exact ⟨T, hT, henqueue.symm, (set_same hi).symm⟩

/-! ## Pools -/

/-- The traffic has come to where the pool is. -/
structure Mirrors (T : Traffic B) (p : Pool B (Result Session.Reply)) : Prop where
  shared : T.shared = p.shared
  rests : T.clients.map Client.rest = p.threads.map fun t ↦ t.stage.rest

/-- Every thread of a pool waits for the end of its own request. -/
def Awaited (p : Pool B (Result Session.Reply)) : Prop :=
  ∀ (i : Nat) (k : Caller) (r : Request B.Page) (wait : Wait)
    (next : r.Answer → Operation B.Page (Result Session.Reply)),
    p.threads[i]? = some ⟨k, .waiting r wait next⟩ → wait.For r

theorem Mirrors.client {p : Pool B (Result Session.Reply)} (hm : T.Mirrors p)
    {t : Thread B (Result Session.Reply)} (ht : p.threads[i]? = some t) :
    ∃ call, T.clients[i]? = some ⟨call, t.stage.rest⟩ := by
  have hrest : (T.clients.map Client.rest)[i]? = some t.stage.rest := by
    rw [hm.rests]
    simp [ht]
  rw [List.getElem?_map] at hrest
  obtain ⟨⟨call, q⟩, hget, rfl⟩ := Option.map_eq_some_iff.1 hrest
  exact ⟨call, hget⟩

theorem Mirrors.move {p : Pool B (Result Session.Reply)} (hm : T.Mirrors p) (hp : Awaited p)
    (hslot : w.slot = none) (hT : Reachable c w T)
    (ht : p.threads[i]? = some ⟨k, .waiting r wait next⟩)
    (hends : (Stage.waiting r wait next).EndsNow p.shared i ending)
    {x : Stage B (Result Session.Reply) × Shared B × Caller}
    (hx : x = Shared.run i (next (p.shared.answer i k ending r).1)
      (p.shared.answer i k ending r).2.1 (p.shared.answer i k ending r).2.2) :
    ∃ T', Reachable c w T' ∧ T'.clients.map Client.call = T.clients.map Client.call ∧
      T'.Mirrors ⟨x.2.1, p.threads.set i ⟨x.2.2, x.1⟩, i + 1⟩ := by
  obtain ⟨call, hi⟩ := hm.client ht
  have hlt := (List.getElem?_eq_some_iff.1 hi).1
  rw [← hm.shared] at hends hx
  have hmay : T.MayEnd i ending r := mayEnd_of_endsNow (hp i k r wait next ht) hends
  have hnext : (T.go i call k ending r next).clients[i]? =
      some ⟨call, next (T.shared.answer i k ending r).1⟩ := List.getElem?_set_self hlt
  obtain ⟨T', hT', hshared, hclients⟩ := reachable_run hslot _
    (hT.step (.goes k ending hi hmay)) hnext (idle_go (hT.sound hslot) (hT.orderly hslot) hi hmay)
    (T.shared.answer i k ending r).2.2
  have hclients' : T'.clients = T.clients.set i ⟨call, x.1.rest⟩ := by
    rw [hclients, hx]
    exact List.set_set _
  have hcalls : T'.clients.map Client.call = T.clients.map Client.call := by
    rw [hclients']
    exact map_call_set hi _
  refine ⟨T', hT', hcalls, ?_, ?_⟩
  · rw [hshared, hx]
    rfl
  · rw [hclients', List.map_set, List.map_set, hm.rests]

theorem Awaited.move {p : Pool B (Result Session.Reply)} (hp : Awaited p) {cursor : Nat}
    (q : Operation B.Page (Result Session.Reply)) (s : Shared B) (k : Caller) :
    Awaited ⟨(Shared.run i q s k).2.1,
      p.threads.set i ⟨(Shared.run i q s k).2.2, (Shared.run i q s k).1⟩, cursor⟩ := by
  intro j k' r wait next hj
  by_cases hji : j = i
  · subst hji
    obtain ⟨hlt, hget⟩ := List.getElem?_eq_some_iff.1 hj
    rw [List.getElem_set_self] at hget
    obtain ⟨-, hstage⟩ := Thread.mk.inj hget
    exact Shared.for_of_run hstage
  · rw [List.getElem?_set_ne (Ne.symm hji)] at hj
    exact hp j k' r wait next hj

/-- Some traffic of these calls has come to where the pool is. -/
structure Hosts (c : Config) (w : World B) (calls : List (Session.Call B.Page))
    (p : Pool B (Result Session.Reply)) : Prop where
  awaited : Awaited p
  mirrored : ∃ T, Reachable c w T ∧ T.clients.map Client.call = calls ∧ T.Mirrors p

variable {calls : List (Session.Call B.Page)} {p q : Pool B (Result Session.Reply)}

theorem endsNow_of_ready? (h : p.ready? = some (i, ending)) :
    ∃ t, p.threads[i]? = some t ∧ t.stage.EndsNow p.shared i ending := by
  -- a thread from the cursor on, any thread, or one whose caller has given up
  simp only [Pool.ready?, Option.or_eq_some_iff] at h
  rcases h with hfirst | ⟨-, hsecond | ⟨hnone, hthird⟩⟩
  · obtain ⟨j, t, rfl, hj, hends, -⟩ := Pool.findFrom_eq_some hfirst
    rw [List.getElem?_drop] at hj
    exact ⟨t, hj, .inl hends⟩
  · obtain ⟨j, t, hij, hj, hends, -⟩ := Pool.findFrom_eq_some hsecond
    rw [Nat.zero_add] at hij
    subst hij
    exact ⟨t, hj, .inl hends⟩
  · obtain ⟨j, t, hij, hj, hends, -⟩ := Pool.findFrom_eq_some hthird
    rw [Nat.zero_add] at hij
    subst hij
    have hstill := Pool.findFrom_eq_none hnone hj
    rw [Nat.zero_add] at hstill
    exact ⟨t, hj, .inr ⟨hstill, hends⟩⟩

theorem Hosts.resume (hp : Hosts c w calls p) (hslot : w.slot = none)
    (hready : p.ready? = some (i, ending)) (hq : p.resume i ending = some q) :
    Hosts c w calls q := by
  obtain ⟨T, hT, hcalls, hm⟩ := hp.mirrored
  obtain ⟨⟨k, stage⟩, ht, hends⟩ := endsNow_of_ready? hready
  cases stage with
  | ended o t => simp [Pool.resume, ht] at hq
  | waiting r wait next =>
      obtain ⟨T', hT', hcalls', hm'⟩ := hm.move hp.awaited hslot hT ht hends rfl
      simp only [Pool.resume, ht, Option.some.injEq] at hq
      rw [← hq]
      exact ⟨hp.awaited.move _ _ _, T', hT', hcalls'.trans hcalls, hm'⟩

theorem Hosts.tick (hp : Hosts c w calls p) : Hosts c w calls p.tick := by
  rcases p.tick_eq with ⟨heq, -⟩ | ⟨n, i, t, -, -, -, heq⟩
  · rw [heq]
    exact hp
  · obtain ⟨T, hT, hcalls, hm⟩ := hp.mirrored
    have hlater : T.shared.world.clock ≤ max p.shared.world.clock n := by
      rw [hm.shared]
      exact Nat.le_max_left _ _
    rw [heq]
    exact ⟨hp.awaited, _, hT.step (.later hlater), hcalls, by rw [← hm.shared], hm.rests⟩

theorem Hosts.step (hp : Hosts c w calls p) (hslot : w.slot = none) (hq : p.step = some q) :
    Hosts c w calls q := by
  simp only [Pool.step] at hq
  split at hq
  · rename_i i ending hready
    exact hp.resume hslot hready hq
  · split at hq
    · rename_i i ending hready
      exact hp.tick.resume hslot hready hq
    · cases hq

theorem Hosts.finish (hp : Hosts c w calls p) (hslot : w.slot = none) :
    Hosts c w calls p.finish := by
  induction p using Pool.finish.induct with
  | case1 p hstep =>
      rw [Pool.finish, hstep]
      exact hp
  | case2 p q hstep ih =>
      rw [Pool.finish, hstep]
      exact ih (hp.step hslot hstep)

/-- One more guest comes and goes on as far as possible. -/
theorem Hosts.comes (hslot : w.slot = none) {s : Shared B}
    {done : List (Thread B (Result Session.Reply))} {m : Nat} (hp : Hosts c w calls ⟨s, done, m⟩)
    (g : Guest B) {x : Stage B (Result Session.Reply) × Shared B × Caller}
    (hx : x = Shared.run done.length (newcomer c g.after g.call).rest s g.caller) :
    Hosts c w (calls ++ [g.call]) ⟨x.2.1, done ++ [⟨x.2.2, x.1⟩], m⟩ := by
  obtain ⟨T, hT, hcalls, hm⟩ := hp.mirrored
  obtain rfl : T.shared = s := hm.shared
  have hlength : T.clients.length = done.length := by simpa using congrArg List.length hm.rests
  have hplace {i : Nat} (h : T.shared.holder = some i ∨ i ∈ T.shared.queue) : i < done.length :=
    hlength ▸ (hT.sound hslot).places i h
  have hidle : Idle { T with clients := T.clients ++ [newcomer c g.after g.call] } done.length :=
    ⟨fun h ↦ Nat.lt_irrefl _ (hplace (.inr h)), fun h ↦ absurd (hplace (.inl h)) (Nat.lt_irrefl _)⟩
  have hget (client : Client B) : (T.clients ++ [client])[done.length]? = some client := by
    simp [← hlength]
  obtain ⟨T', hT', hshared, hclients⟩ := reachable_run hslot _
    (hT.step (.comes g.after g.call)) (hget _) hidle g.caller
  have hclients' : T'.clients = T.clients ++ [⟨g.call, x.1.rest⟩] := by
    subst hx
    refine hclients.trans ?_
    rw [List.set_append_right _ _ (Nat.le_of_eq hlength), hlength, Nat.sub_self]
    rfl
  refine ⟨fun j k r wait next hj ↦ ?_, T', hT', ?_, ?_, ?_⟩
  · rcases Nat.lt_or_ge j done.length with hlt | hge
    · rw [List.getElem?_append_left hlt] at hj
      exact hp.awaited j k r wait next hj
    · rw [List.getElem?_append_right hge] at hj
      obtain ⟨_, hthread⟩ := List.getElem?_eq_some_iff.1 hj
      rw [List.getElem_singleton] at hthread
      obtain ⟨-, hstage⟩ := Thread.mk.inj hthread
      exact Shared.for_of_run (hx ▸ hstage)
  · rw [hclients', List.map_append, hcalls]
    rfl
  · subst hx
    exact hshared
  · rw [hclients', List.map_append, List.map_append, hm.rests]
    rfl

/-- The guests begin one after the other. -/
theorem Hosts.startFrom (hslot : w.slot = none) {s : Shared B}
    {done : List (Thread B (Result Session.Reply))} {m : Nat} (hp : Hosts c w calls ⟨s, done, m⟩)
    (rest : List (Guest B)) :
    Hosts c w (calls ++ rest.map Guest.call)
      ⟨(Pool.startFrom s done.length (rest.map (Guest.entry c))).1,
        done ++ (Pool.startFrom s done.length (rest.map (Guest.entry c))).2, m⟩ := by
  induction rest generalizing s done calls with
  | nil => simpa [Pool.startFrom] using hp
  | cons g rest ih =>
      have hcomes := hp.comes hslot g rfl
      have hrest := ih hcomes
      simpa [Pool.startFrom, Guest.entry] using hrest

end Traffic

/-- What guests come to side by side is what some traffic comes to. -/
theorem Guest.pool_mirrored (hslot : w.slot = none) (guests : List (Guest B)) :
    ∃ T : Traffic B, Traffic.Reachable c w T ∧ T.clients.map Client.call = guests.map Guest.call ∧
      T.Mirrors (Guest.pool c w guests) := by
  have hempty : Traffic.Hosts c w [] ⟨{ world := w }, [], (guests.map (entry c)).length⟩ :=
    ⟨fun _ _ _ _ _ h ↦ absurd h (by simp), _, .refl, rfl, rfl, rfl⟩
  have hstart := hempty.startFrom hslot guests
  simp only [List.nil_append, List.length_nil] at hstart
  exact (hstart.finish hslot).mirrored

end BrowserPilot
