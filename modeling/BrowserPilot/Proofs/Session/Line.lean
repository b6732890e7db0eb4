import BrowserPilot.Proofs.Session.Traffic

namespace BrowserPilot

/-!
# Waiting in line

Who waits for the lock asks for it and for nothing else, and the lock is handed only to
who waits for it. So a traffic never comes to a standstill: as long as a call has not
ended, some request of some call can end.
-/

namespace Traffic

variable {B : Backend} {c : Config} {T T' : Traffic B} {i j : Nat} {call : Session.Call B.Page}
  {k : Caller} {ending : Ending}

theorem set_same {α : Type} {l : List α} {a : α} (h : l[i]? = some a) : l.set i a = l := by
  obtain ⟨hlt, rfl⟩ := List.getElem?_eq_some_iff.1 h
  exact List.set_getElem_self hlt

theorem map_call_set {q : Operation B.Page (Result Session.Reply)}
    (hi : T.clients[i]? = some ⟨call, q⟩) (q' : Operation B.Page (Result Session.Reply)) :
    (T.clients.set i ⟨call, q'⟩).map Client.call = T.clients.map Client.call := by
  have hcall : (T.clients.map Client.call)[i]? = some call := by simp [hi]
  rw [List.map_set]
  exact set_same hcall

def Asks (T : Traffic B) (i : Nat) : Prop :=
  ∃ call d next, T.clients[i]? = some ⟨call, .ask (.lock d) next⟩

/-- Who waits for the lock waits once, and who has it does not. -/
structure Orderly (T : Traffic B) : Prop where
  free : T.shared.holder = none → T.shared.queue = []
  once : T.shared.queue.Nodup
  apart : ∀ i, T.shared.holder = some i → i ∉ T.shared.queue
  waits : ∀ i ∈ T.shared.queue, T.Asks i
  handed : ∀ i, T.shared.holder = some i → T.present = none → T.Asks i

theorem Asks.set {client : Client B} (h : T.Asks j) (hj : j ≠ i)
    (hclients : T'.clients = T.clients.set i client) : T'.Asks j := by
  obtain ⟨call, d, next, hget⟩ := h
  refine ⟨call, d, next, ?_⟩
  rw [hclients, List.getElem?_set_ne (Ne.symm hj)]
  exact hget

theorem Asks.ne {r : Request B.Page} {next : r.Answer → Operation B.Page (Result Session.Reply)}
    (h : T.Asks j) (hi : T.clients[i]? = some ⟨call, .ask r next⟩) (hr : ∀ d, r ≠ .lock d) :
    j ≠ i := by
  rintro rfl
  obtain ⟨call', d, next', hget⟩ := h
  have hclient := hi.symm.trans hget
  simp only [Option.some.injEq, Client.mk.injEq, Operation.ask.injEq] at hclient
  exact hr d hclient.2.1

theorem orderly_start {w : World B} : Orderly ({ shared := { world := w } } : Traffic B) where
  free := fun _ ↦ rfl
  once := List.nodup_nil
  apart := nofun
  waits := nofun
  handed := nofun

theorem Orderly.comes (ho : Orderly T) (client : Client B) :
    Orderly { T with clients := T.clients ++ [client] } where
  free := ho.free
  once := ho.once
  apart := ho.apart
  waits := fun i hi ↦ by
    obtain ⟨call, d, next, hget⟩ := ho.waits i hi
    have hlt := (List.getElem?_eq_some_iff.1 hget).1
    exact ⟨call, d, next, (List.getElem?_append_left hlt).trans hget⟩
  handed := fun i hi hpresent ↦ by
    obtain ⟨call, d, next, hget⟩ := ho.handed i hi hpresent
    have hlt := (List.getElem?_eq_some_iff.1 hget).1
    exact ⟨call, d, next, (List.getElem?_append_left hlt).trans hget⟩

theorem Orderly.later (ho : Orderly T) (t : Instant) :
    Orderly { T with shared := { T.shared with world := { T.shared.world with clock := t } } } :=
  ⟨ho.free, ho.once, ho.apart, ho.waits, ho.handed⟩

theorem Orderly.asks (ho : Orderly T) {d : Option Deadline} (hi : T.Asks i)
    (hheld : T.shared.holder.isSome = true) (hother : T.shared.holder ≠ some i)
    (hnew : i ∉ T.shared.queue) : Orderly { T with shared := T.shared.enqueue i (.lock d) } where
  free := fun h ↦ by
    change T.shared.holder = none at h
    simp [h] at hheld
  once := List.nodup_append.2 ⟨ho.once, by simp, by
    rintro j hj _ hji rfl
    rw [List.mem_singleton.1 hji] at hj
    exact hnew hj⟩
  apart := fun j hj hmem ↦ by
    rcases List.mem_append.1 hmem with hmem | hmem
    · exact ho.apart j hj hmem
    · rw [List.mem_singleton.1 hmem] at hj
      exact hother hj
  waits := fun j hj ↦ by
    rcases List.mem_append.1 hj with hj | hj
    · exact ho.waits j hj
    · rw [List.mem_singleton.1 hj]
      exact hi
  handed := ho.handed

theorem Orderly.lock (ho : Orderly T) {d : Option Deadline}
    {next : Result Unit → Operation B.Page (Result Session.Reply)}
    (hmay : T.MayEnd i ending (.lock d)) :
    Orderly (T.go i call k ending (.lock d) next) := by
  obtain ⟨hfits, hfree⟩ := hmay
  replace hfree := hfree d rfl
  cases ending with
  | completed =>
      rw [if_pos rfl] at hfree
      have hqueue : i ∉ T.shared.queue := by
        rcases hfree with hfree | hfree
        · simp [ho.free hfree]
        · exact ho.apart i hfree
      rw [go_locked]
      refine ⟨nofun, ho.once, fun j hj ↦ ?_, fun j hj ↦ ?_, nofun⟩
      · rw [← Option.some.inj hj]
        exact hqueue
      · refine (ho.waits j hj).set (fun h ↦ ?_) rfl
        exact hqueue (h ▸ hj)
  | expired d' =>
      rw [if_neg nofun] at hfree
      rw [go_expired]
      have hmem {j : Nat} (hj : j ∈ T.shared.queue.filter (· != i)) :
          j ∈ T.shared.queue ∧ j ≠ i := by
        simpa using hj
      refine ⟨fun h ↦ ?_, ho.once.filter _, fun j hj h ↦ ho.apart j hj (hmem h).1,
        fun j hj ↦ (ho.waits j (hmem hj).1).set (hmem hj).2 rfl, fun j hj hpresent ↦ ?_⟩
      · simp [ho.free h]
      · refine (ho.handed j hj hpresent).set (fun h ↦ ?_) rfl
        exact hfree (h ▸ hj)
  | cancelled => simp [Ending.Fits, Request.cancellation] at hfits

theorem Orderly.unlock (ho : Orderly T) {next : Unit → Operation B.Page (Result Session.Reply)}
    {t : Tenure} (hholder : T.shared.holder = some i) (hpresent : T.present = some t) :
    Orderly (T.go i call k ending .unlock next) := by
  have hother {j : Nat} (hj : j ∈ T.shared.queue) : j ≠ i := fun h ↦ ho.apart i hholder (h ▸ hj)
  have honce := ho.once
  rw [go_unlock hpresent]
  cases hqueue : T.shared.queue with
  | nil =>
      rw [Shared.unlock_nil hqueue]
      exact ⟨fun _ ↦ hqueue, honce, nofun, fun j hj ↦ (ho.waits j hj).set (hother hj) rfl, nofun⟩
  | cons first rest =>
      rw [hqueue] at honce
      obtain ⟨hfirst, hrest⟩ := List.nodup_cons.1 honce
      have hmem {j : Nat} (hj : j ∈ first :: rest) : j ∈ T.shared.queue := hqueue ▸ hj
      have hstill {j : Nat} (hj : j ∈ first :: rest) :
          (T.go i call k ending .unlock next).Asks j :=
        (ho.waits j (hmem hj)).set (hother (hmem hj)) rfl
      rw [go_unlock hpresent] at hstill
      rw [Shared.unlock_cons hqueue] at hstill ⊢
      refine ⟨nofun, hrest, fun j hj ↦ ?_, fun j hj ↦ hstill (List.mem_cons_of_mem _ hj),
        fun j hj _ ↦ ?_⟩
      · rw [← Option.some.inj hj]
        exact hfirst
      · rw [← Option.some.inj hj]
        exact hstill List.mem_cons_self

theorem Orderly.work (ho : Orderly T) {r : Request B.Page}
    {next : r.Answer → Operation B.Page (Result Session.Reply)}
    (hi : T.clients[i]? = some ⟨call, .ask r next⟩) (hlock : ∀ d, r ≠ .lock d)
    (hunlock : r ≠ .unlock) : Orderly (T.go i call k ending r next) := by
  rw [go_work hlock hunlock]
  refine ⟨ho.free, ho.once, ho.apart,
    fun j hj ↦ (ho.waits j hj).set ((ho.waits j hj).ne hi hlock) rfl, fun j hj hpresent ↦ ?_⟩
  have hnone : T.present = none := by
    change (if _ then _ else _) = none at hpresent
    split at hpresent
    · exact Option.map_eq_none_iff.1 hpresent
    · exact hpresent
  have hasks := ho.handed j hj hnone
  exact hasks.set (hasks.ne hi hlock) rfl

theorem Sound.of_unlock (hs : Sound c T) {next : Unit → Operation B.Page (Result Session.Reply)}
    (hi : T.clients[i]? = some ⟨call, .ask .unlock next⟩) :
    ∃ t, T.shared.holder = some i ∧ T.present = some t := by
  obtain ⟨t, ht⟩ := (hs.follows i call _ hi).of_unlock
  exact ⟨t, present_of_some ht⟩

theorem Orderly.step (ho : Orderly T) (hs : Sound c T) (h : Step c T T') : Orderly T' := by
  cases h with
  | comes millis call => exact ho.comes _
  | later _ => exact ho.later _
  | asks hi hheld hother hnew => exact ho.asks ⟨_, _, _, hi⟩ hheld hother hnew
  | @goes i call r next k ending hi hmay =>
      cases r with
      | lock d => exact ho.lock hmay
      | unlock =>
          obtain ⟨t, hholder, hpresent⟩ := hs.of_unlock hi
          exact ho.unlock hholder hpresent
      | _ => exact ho.work hi nofun nofun

theorem Reachable.orderly {w : World B} (h : Reachable c w T) (hslot : w.slot = none) :
    Orderly T := by
  induction h with
  | refl => exact orderly_start
  | step h hstep ih => exact ih.step (Reachable.sound h hslot) hstep

/-! ## No standstill -/

/-- The client at place `i` waits for the end of a request. -/
def Awaits (T : Traffic B) (i : Nat) (r : Request B.Page) : Prop :=
  ∃ call next, T.clients[i]? = some ⟨call, .ask r next⟩

/-- Who has a tenure has not ended. -/
theorem Sound.awaits (hs : Sound c T) {t : Tenure} (hholder : T.shared.holder = some i)
    (hpresent : T.present = some t) : ∃ r, T.Awaits i r := by
  have hlt : i < T.clients.length := hs.places i (.inl hholder)
  have hrecord : (T.record i).present = some t := by rw [record, if_pos hholder, hpresent]
  obtain ⟨⟨call, q⟩, hget⟩ : ∃ client, T.clients[i]? = some client :=
    ⟨_, List.getElem?_eq_getElem hlt⟩
  cases q with
  | done a => simp [(hs.follows i call _ hget).returned.1] at hrecord
  | crash reason => simp [(hs.follows i call _ hget).crashed.1] at hrecord
  | ask r next => exact ⟨r, call, next, hget⟩

/-- As long as somebody waits, somebody goes on: who has the lock, or anybody if it is free. -/
theorem exists_mayEnd (hs : Sound c T) (ho : Orderly T) {r : Request B.Page}
    (hi : T.Awaits i r) : ∃ j r', T.Awaits j r' ∧ T.MayEnd j .completed r' := by
  cases hholder : T.shared.holder with
  | none => exact ⟨i, r, hi, trivial, fun _ _ ↦ .inl hholder⟩
  | some j =>
      have hawaits : ∃ r', T.Awaits j r' := by
        cases hpresent : T.present with
        | none =>
            obtain ⟨call, d, next, hget⟩ := ho.handed j hholder hpresent
            exact ⟨.lock d, call, next, hget⟩
        | some t => exact hs.awaits hholder hpresent
      obtain ⟨r', hr'⟩ := hawaits
      exact ⟨j, r', hr', trivial, fun _ _ ↦ .inr hholder⟩

/-- Nobody has to wait for ever: all who have come can end, and nobody else need come. -/
theorem Reachable.exists_ended {w : World B} (hT : Reachable c w T) (hslot : w.slot = none) :
    ∃ T', Runs c T T' ∧ T'.clients.map Client.call = T.clients.map Client.call ∧
      ∀ i r, ¬ T'.Awaits i r := by
  -- by induction on what is left of the calls, of which each request that ends takes one away
  generalize hrests : T.clients.map Client.rest = rests
  induction acc_shrunk rests generalizing T with
  | intro rests _ ih =>
      subst hrests
      by_cases hawaits : ∃ i r, T.Awaits i r
      · obtain ⟨i, r, hi⟩ := hawaits
        obtain ⟨j, r', ⟨call, next, hj⟩, hmay⟩ :=
          exists_mayEnd (hT.sound hslot) (hT.orderly hslot) hi
        have hstep : Step c T (T.go j call ⟨default, [], []⟩ .completed r' next) :=
          .goes _ _ hj hmay
        have hshrunk : Shrunk ((T.clients.set j ⟨call, next (T.shared.answer j ⟨default, [], []⟩
            .completed r').1⟩).map Client.rest) (T.clients.map Client.rest) := by
          refine ⟨j, _, _, ?_, .here r' next _, List.map_set⟩
          simp [hj]
        obtain ⟨T', hruns, hcalls, hended⟩ := ih _ hshrunk (hT.step hstep) rfl
        exact ⟨T', (Runs.step .refl hstep).trans hruns, hcalls.trans (map_call_set hj _), hended⟩
      · exact ⟨T, .refl, rfl, fun i r hi ↦ hawaits ⟨i, r, hi⟩⟩

end Traffic

end BrowserPilot
