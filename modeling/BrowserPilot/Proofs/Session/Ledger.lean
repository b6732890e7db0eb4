import BrowserPilot.Proofs.Session.Line

namespace BrowserPilot.Traffic

/-!
# Records of clients

A request that ends is entered in the record of its client and in no other. So whatever an
operation leads to, it leads to still when the traffic has moved on.
-/

open Operation (Leads)

variable {B : Backend} {c : Config} {T : Traffic B} {i j : Nat} {call : Session.Call B.Page}
  {k : Caller} {ending : Ending} {r : Request B.Page}

/-! ## The record of who goes on -/

section

variable {next : r.Answer → Operation B.Page (Result Session.Reply)}

theorem record_go_work (hlock : ∀ d, r ≠ .lock d) (hunlock : r ≠ .unlock) :
    (T.go i call k ending r next).record i = ⟨T.past i, (T.record i).present.map
      (·.after (T.shared.world.answer k ending r).2.1.slot.isSome r
        (T.shared.world.answer k ending r).1)⟩ := by
  rw [go_work hlock hunlock]
  by_cases hholder : T.shared.holder = some i
  · simp only [record, if_pos hholder]
    rfl
  · simp only [record, if_neg hholder]
    rfl

/-- A request that tells nothing new of the page leaves the record as it is. -/
theorem Sound.record_go_still (hs : Sound c T) (hlock : ∀ d, r ≠ .lock d) (hunlock : r ≠ .unlock)
    (hprimitive : ∀ p d, r ≠ .primitive p d)
    (hslot : (T.shared.world.answer k ending r).2.1.slot = T.shared.world.slot) :
    (T.go i call k ending r next).record i = T.record i := by
  rw [record_go_work hlock hunlock, hslot]
  have hsame : (T.record i).present.map
      (·.after T.shared.world.slot.isSome r (T.shared.world.answer k ending r).1) =
        (T.record i).present := by
    cases hpresent : (T.record i).present with
    | none => rfl
    | some t => rw [hs.left hpresent, Option.map_some, t.after_left hprimitive]
  rw [hsame]
  rfl

end

theorem record_go_locked {d : Option Deadline}
    {next : Result Unit → Operation B.Page (Result Session.Reply)} :
    (T.go i call k .completed (.lock d) next).record i =
      ⟨T.past i, some ⟨T.shared.world.slot.isSome, [], T.shared.world.slot.isSome⟩⟩ := by
  simp only [go_locked, record, if_pos]
  rfl

theorem record_go_expired {d : Option Deadline} {d' : Deadline}
    {next : Result Unit → Operation B.Page (Result Session.Reply)}
    (hholder : T.shared.holder ≠ some i) :
    (T.go i call k (.expired d') (.lock d) next).record i = ⟨T.past i, none⟩ := by
  rw [go_expired]
  exact congrArg (Record.mk (T.past i)) (if_neg hholder)

theorem record_go_unlock {next : Unit → Operation B.Page (Result Session.Reply)} {t : Tenure}
    (ht : T.present = some t) :
    (T.go i call k ending .unlock next).record i = ⟨T.past i ++ [t], none⟩ := by
  simp [go_unlock ht, record, past]

/-! ## The records of the others -/

theorem record_go_work_of_ne {next : r.Answer → Operation B.Page (Result Session.Reply)}
    (hlock : ∀ d, r ≠ .lock d) (hunlock : r ≠ .unlock) (hj : j ≠ i) :
    (T.go i call k ending r next).record j = T.record j := by
  rw [go_work hlock hunlock]
  by_cases hholder : T.shared.holder = some j
  · have hother : T.shared.holder ≠ some i := fun h ↦ hj (Option.some.inj (hholder.symm.trans h))
    simp only [record, if_neg hother]
    rfl
  · simp only [record, if_neg hholder]
    rfl

theorem record_go_locked_of_ne {d : Option Deadline}
    {next : Result Unit → Operation B.Page (Result Session.Reply)}
    (hother : T.shared.holder ≠ some j) (hj : j ≠ i) :
    (T.go i call k .completed (.lock d) next).record j = T.record j := by
  have hne : some i ≠ some j := fun h ↦ hj (Option.some.inj h).symm
  rw [go_locked]
  exact congrArg (Record.mk (T.past j)) ((if_neg hne).trans (if_neg hother).symm)

theorem record_go_unlock_of_ne {next : Unit → Operation B.Page (Result Session.Reply)} {t : Tenure}
    (ht : T.present = some t) (hother : T.shared.holder ≠ some j) (hj : j ≠ i) :
    (T.go i call k ending .unlock next).record j = T.record j := by
  simp [go_unlock ht, record, past, if_neg hother, Ne.symm hj]

theorem Sound.record_go_of_ne (hs : Sound c T)
    {next : r.Answer → Operation B.Page (Result Session.Reply)}
    (hi : T.clients[i]? = some ⟨call, .ask r next⟩) (hmay : T.MayEnd i ending r) (hj : j ≠ i) :
    (T.go i call k ending r next).record j = T.record j := by
  have hne : some i ≠ some j := fun h ↦ hj (Option.some.inj h).symm
  cases r with
  | lock d =>
      cases ending with
      | completed =>
          refine record_go_locked_of_ne (fun h ↦ ?_) hj
          rcases hmay.2 d rfl with hfree | hfree <;> rw [hfree] at h
          · cases h
          · exact hne h
      | expired d' => rfl
      | cancelled => exact absurd rfl hmay.1
  | unlock =>
      obtain ⟨t, hholder, hpresent⟩ := hs.of_unlock hi
      exact record_go_unlock_of_ne hpresent (hholder ▸ hne) hj
  | _ => exact record_go_work_of_ne nofun nofun hj

section

variable {α : Type} {X : Prop} {E : Tenure → Operation B.Page α → Prop} {Q : Record → α → Prop}

theorem leads_of_eq {before after : Record} {p : Operation B.Page α} (hrecord : after = before)
    (h : Leads X E Q before p) : Leads X E Q after p :=
  hrecord ▸ h

/-- Whatever a part of a client's operation leads to, what is left of it after a request does. -/
theorem Sound.leads_go (hs : Sound c T) (hmay : T.MayEnd i ending r)
    {part : r.Answer → Operation B.Page α} (h : Leads X E Q (T.record i) (.ask r part))
    (next : r.Answer → Operation B.Page (Result Session.Reply)) :
    Leads X E Q ((T.go i call k ending r next).record i)
      (part (T.shared.world.answer k ending r).1) := by
  generalize hrecord : T.record i = before at h
  have hpast : T.past i = before.past := hrecord ▸ rfl
  have hpresent : (T.record i).present = before.present := hrecord ▸ rfl
  cases h with
  | lock hok herror =>
      obtain ⟨hfits, hfree⟩ := hmay
      replace hfree := hfree _ rfl
      cases ending with
      | completed => exact leads_of_eq record_go_locked (hpast ▸ hok _)
      | expired d' =>
          rw [if_neg nofun] at hfree
          exact leads_of_eq (record_go_expired hfree) (hpast ▸ herror d' hfits)
      | cancelled => exact absurd rfl hfits
  | unlock hended hnext =>
      exact leads_of_eq (record_go_unlock (present_of_some hpresent).2) (hpast ▸ hnext)
  | @hasPage _ _ part hnext =>
      refine leads_of_eq (hs.record_go_still nofun nofun nofun rfl) ?_
      change Leads _ _ _ _ (part T.shared.world.slot.isSome)
      rw [hrecord, hs.left hpresent]
      exact hnext
  | @primitive _ t p d _ hleft hnext =>
      have hslot : (T.shared.world.answer k ending (.primitive p d)).2.1.slot.isSome = true :=
        World.slot_answer_primitive ((hs.left hpresent).trans hleft) k ending p d
      refine leads_of_eq (record_go_work nofun nofun) ?_
      rw [hslot, hpast, hpresent]
      simp only [Option.map_some, t.after_primitive hleft]
      exact hnext _
  | mount hleft hnext =>
      refine leads_of_eq (record_go_work nofun nofun) ?_
      rw [hpast, hpresent]
      exact hnext
  | unmount hnext =>
      refine leads_of_eq (record_go_work nofun nofun) ?_
      rw [World.slot_answer_unmount, hpast, hpresent]
      exact hnext
  | pause hnext =>
      refine leads_of_eq (hs.record_go_still nofun nofun nofun rfl) ?_
      rw [hrecord]
      exact hnext ending hmay.1
  | aside hr hnext =>
      refine leads_of_eq (hs.record_go_still ?_ ?_ ?_
        (World.slot_answer_aside hr T.shared.world k ending)) ?_
      · rintro d rfl
        simp [Request.isAside] at hr
      · rintro rfl
        simp [Request.isAside] at hr
      · rintro p d rfl
        simp [Request.isAside] at hr
      · rw [hrecord]
        exact hnext _

end

end BrowserPilot.Traffic
