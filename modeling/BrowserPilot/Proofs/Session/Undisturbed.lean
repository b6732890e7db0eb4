import BrowserPilot.Proofs.Session.Line

namespace BrowserPilot

/-!
# Calls that nobody disturbs

While nobody has the lock, whatever a call does alone it can do among others, so that a
session that has no page can be given one at any time.
-/

variable {B : Backend} {c : Config}

/-! ## Attaching a page alone -/

namespace Session

/-- A page that takes the size and the start address it is given. -/
structure Preparable (c : Config) (env : B.Env) (page : B.Page) : Prop where
  sized : (B.apply (.setViewport c.viewportWidth c.viewportHeight) env page).result = .ok ()
  opened : (B.apply (.goto c.startUrl)
    (B.apply (.setViewport c.viewportWidth c.viewportHeight) env page).env
    (B.apply (.setViewport c.viewportWidth c.viewportHeight) env page).page).result = .ok ()

variable {env : B.Env} {page : B.Page} {queued : Nat}

theorem prepare_meets (hpage : Preparable c env page) :
    Task.Meets queued (fun s : Scene B ↦ s.env = env ∧ s.slot = some page)
      (prepare c : Task B.Page Unit) fun r s ↦ r = .ok () ∧ s.slot.isSome = true := by
  obtain ⟨hsized, hopened⟩ := hpage
  refine .of_forall ?_
  rintro s ⟨rfl, hslot⟩
  have hfirst : Task.Meets queued (· = s)
      (Task.primitive (.setViewport c.viewportWidth c.viewportHeight) none)
      fun r s' ↦ r = .ok () ∧
        s'.env = (B.apply (.setViewport c.viewportWidth c.viewportHeight) s.env page).env ∧
        s'.slot = some (B.apply (.setViewport c.viewportWidth c.viewportHeight) s.env page).page :=
    .primitive hslot nofun (fun _ ↦ ⟨hsized, rfl, rfl⟩) nofun
  refine hfirst.bind (fun _ ↦ .of_forall ?_) fun e s' h ↦ by simp at h
  rintro s' ⟨-, henv, hslot'⟩
  have hsecond : Task.Meets queued (· = s') (Task.primitive (.goto c.startUrl) none)
      fun r s'' ↦ r = .ok () ∧ s''.slot.isSome = true :=
    .primitive hslot' nofun (fun _ ↦ ⟨henv ▸ hopened, rfl⟩) nofun
  refine hsecond.bind (fun _ ↦ ?_) fun e s'' h ↦ by simp at h
  exact (Task.Meets.log _ _ _).mono (fun s h ↦ h.2) fun _ _ h ↦ h

theorem occupy_meets (hpage : Preparable c env page) :
    Task.Meets queued (fun s : Scene B ↦ s.env = env ∧ s.slot = none) (occupy c page)
      fun r s ↦ r = .ok () ∧ s.slot.isSome = true := by
  refine .of_forall ?_
  rintro s ⟨henv, hslot⟩
  refine .hasPage_bind ?_
  rw [hslot]
  refine (Task.Meets.mount page).bind (fun _ ↦ .of_forall ?_) fun e s' h ↦ by simp at h
  rintro s₁ ⟨-, rfl⟩
  have hprepare : Task.Meets queued (· = { s with slot := some page }) (prepare c)
      fun r s' ↦ r = .ok () ∧ s'.slot.isSome = true :=
    (prepare_meets hpage).mono (by rintro _ rfl; exact ⟨henv, rfl⟩) fun _ _ h ↦ h
  refine hprepare.result_bind fun r ↦ .of_forall ?_
  rintro s' ⟨rfl, hslot'⟩
  exact .pure _ fun _ h ↦ ⟨rfl, h ▸ hslot'⟩

theorem attach_meets (hvalid : c.validate = .ok ()) (hpage : Preparable c env page) :
    Task.Meets queued (fun s : Scene B ↦ s.env = env ∧ s.slot = none) (attach c page)
      fun r s ↦ r = .ok () ∧ s.slot.isSome = true := by
  simp only [attach, hvalid]
  refine .of_forall ?_
  rintro s ⟨henv, hslot⟩
  refine .locked_of_lock .lock_none (fun e s' h ↦ by simp at h) ?_
  exact (occupy_meets hpage).mono (fun s' h ↦ h.2 ▸ ⟨henv, hslot⟩) fun _ _ h ↦ h

theorem newcomer_meets (queued : Nat) (hvalid : c.validate = .ok ())
    (hpage : Preparable c env page) :
    Task.Meets queued (fun s : Scene B ↦ s.env = env ∧ s.slot = none)
      (Task.pause 0 .never none >>= fun _ ↦ (Call.attach page).task c)
      fun r s ↦ r = .ok .nothing ∧ s.slot.isSome = true := by
  refine .of_forall ?_
  rintro s ⟨henv, hslot⟩
  have hpause : Task.Meets queued (· = s) (Task.pause 0 .never none)
      fun r s' ↦ r = .ok () ∧ s'.env = env ∧ s'.slot = none :=
    .pause (Wait.conclude_of_completed (Nat.le_add_right _ _) rfl nofun) ⟨rfl, henv, hslot⟩
  refine hpause.bind (fun _ ↦ ?_) fun e s' h ↦ by simp at h
  have hattach : Task.Meets queued
      (fun s ↦ .ok () = (.ok () : Result Unit) ∧ s.env = env ∧ s.slot = none) (attach c page)
      fun r s ↦ r = .ok () ∧ s.slot.isSome = true :=
    (attach_meets hvalid hpage).mono (fun s h ↦ h.2) fun _ _ h ↦ h
  refine hattach.bind (fun _ ↦ .pure _ fun s h ↦ ⟨rfl, h.2⟩) fun e s' h ↦ by simp at h

end Session

/-! ## Alone among others -/

namespace Traffic

variable {T : Traffic B} {i : Nat} {call : Session.Call B.Page} {k k' : Caller} {ending : Ending}

/-- Nobody else has the lock or waits for it. -/
structure Undisturbed (T : Traffic B) (i : Nat) : Prop where
  free : T.shared.holder = none ∨ T.shared.holder = some i
  queue : T.shared.queue = []

theorem go_world (r : Request B.Page) (next : r.Answer → Operation B.Page (Result Session.Reply)) :
    (T.go i call k ending r next).shared.world = (T.shared.world.answer k ending r).2.1 := by
  cases r with
  | lock d => cases ending <;> rfl
  | unlock =>
      change T.shared.unlock.world = T.shared.world
      exact T.shared.world_unlock
  | _ => rfl

theorem Undisturbed.go (h : T.Undisturbed i) (r : Request B.Page)
    (next : r.Answer → Operation B.Page (Result Session.Reply)) :
    (T.go i call k ending r next).Undisturbed i := by
  obtain ⟨hfree, hqueue⟩ := h
  cases r with
  | lock d =>
      cases ending with
      | completed => exact ⟨.inr rfl, hqueue⟩
      | expired _ | cancelled =>
          exact ⟨hfree, by simp [Traffic.go, Shared.answer, World.answer, hqueue]⟩
  | unlock =>
      have hshared := Shared.unlock_nil hqueue
      have hgo : (T.go i call k ending .unlock next).shared = T.shared.unlock := rfl
      exact ⟨.inl (by rw [hgo, hshared]), by rw [hgo, hshared, hqueue]⟩
  | _ => exact ⟨hfree, hqueue⟩

theorem go_clients (r : Request B.Page)
    (next : r.Answer → Operation B.Page (Result Session.Reply)) :
    (T.go i call k ending r next).clients =
      T.clients.set i ⟨call, next (T.shared.world.answer k ending r).1⟩ := by
  cases r with
  | lock d => cases ending <;> rfl
  | _ => rfl

theorem Undisturbed.runs_serve (h : T.Undisturbed i) {r : Request B.Page}
    {next : r.Answer → Operation B.Page (Result Session.Reply)}
    (hi : T.clients[i]? = some ⟨call, .ask r next⟩) (k : Caller) :
    ∃ T', Runs c T T' ∧ T'.Undisturbed i ∧
      T'.clients = T.clients.set i ⟨call, next (T.shared.world.serve k r).1⟩ ∧
      T'.shared.world = (T.shared.world.serve k r).2.1 := by
  cases hwait : T.shared.world.waitFor (k.note r) r with
  | none =>
      have hmay : T.MayEnd i .completed r := ⟨trivial, fun _ _ ↦ h.free⟩
      rw [World.serve_of_none hwait]
      exact ⟨_, .step .refl (.goes _ _ hi hmay), h.go r next, go_clients r next, go_world r next⟩
  | some wait =>
      obtain ⟨u, hu⟩ := World.waitFor_until hwait
      cases hconclude : wait.conclude T.shared.world.clock u with
      | mk ending t =>
          let later : Traffic B :=
            { T with shared := { T.shared with world := { T.shared.world with clock := t } } }
          have hclock : T.shared.world.clock ≤ t := by
            have hle : T.shared.world.clock ≤ (wait.conclude T.shared.world.clock u).2 :=
              wait.le_conclude
            rwa [hconclude] at hle
          have hlater : later.Undisturbed i := ⟨h.free, h.queue⟩
          have hfits : ending.Fits r := by
            have hfits := (World.for_of_waitFor hwait).fits_conclude T.shared.world.clock u
            rwa [hconclude] at hfits
          have hmay : later.MayEnd i ending r := by
            refine ⟨hfits, ?_⟩
            rintro d rfl
            simp [World.waitFor] at hwait
          rw [World.serve_of_conclude hwait hu hconclude]
          exact ⟨_, .step (.step .refl (.later hclock)) (.goes _ _ hi hmay), hlater.go r next,
            go_clients r next, go_world r next⟩

/-- Whatever a call does alone, it can do while nobody has the lock. -/
theorem Undisturbed.runs_alone (h : T.Undisturbed i) {p : Operation B.Page (Result Session.Reply)}
    (hi : T.clients[i]? = some ⟨call, p⟩) {r : Result Session.Reply} {w' : World B}
    (halone : p.alone T.shared.world k = (.returned r, w', k')) :
    ∃ T', Runs c T T' ∧ T'.Undisturbed i ∧ T'.clients = T.clients.set i ⟨call, .done r⟩ ∧
      T'.shared.world = w' := by
  -- by induction on the operation: after each request it is undisturbed still
  induction p generalizing T k with
  | done a =>
      obtain ⟨ha, hw, -⟩ : Outcome.returned a = .returned r ∧ T.shared.world = w' ∧ k = k' := by
        simpa [Operation.alone] using halone
      obtain rfl := Outcome.returned.inj ha
      exact ⟨T, .refl, h, (set_same hi).symm, hw⟩
  | crash reason => simp [Operation.alone] at halone
  | ask r' next ih =>
      obtain ⟨T₁, hruns, h₁, hclients, hworld⟩ := h.runs_serve hi k
      have hlt := (List.getElem?_eq_some_iff.1 hi).1
      have hi₁ : T₁.clients[i]? = some ⟨call, next (T.shared.world.serve k r').1⟩ := by
        rw [hclients]
        exact List.getElem?_set_self hlt
      have halone₁ : (next (T.shared.world.serve k r').1).alone T₁.shared.world
          (T.shared.world.serve k r').2.2 = (.returned r, w', k') := by
        rw [hworld]
        exact halone
      obtain ⟨T', hruns', h', hclients', hworld'⟩ := ih _ h₁ hi₁ halone₁
      refine ⟨T', hruns.trans hruns', h', ?_, hworld'⟩
      rw [hclients', hclients, List.set_set]

/-- A session without a page can be given one while nobody has the lock, whatever was tried
before. -/
theorem Orderly.exists_attached (ho : Orderly T) (hfree : T.shared.holder = none)
    (hempty : T.shared.world.slot = none) (hvalid : c.validate = .ok ()) {page : B.Page}
    (hpage : Session.Preparable c T.shared.world.env page) :
    ∃ T', Runs c T T' ∧ T'.clients = T.clients ++ [⟨.attach page, .done (.ok .nothing)⟩] ∧
      T'.shared.world.slot.isSome = true := by
  obtain ⟨r, w', k', halone, rfl, hslot⟩ := Session.newcomer_meets 0 hvalid hpage T.shared.world
    ⟨default, [], []⟩ ⟨rfl, hempty⟩
  rw [Operation.aloneAfter_zero] at halone
  let come : Traffic B := { T with clients := T.clients ++ [newcomer c 0 (.attach page)] }
  have hundisturbed : come.Undisturbed T.clients.length := ⟨.inl hfree, ho.free hfree⟩
  have hi : come.clients[T.clients.length]? = some (newcomer c 0 (.attach page)) := by
    simp [come]
  obtain ⟨T', hruns, -, hclients, hworld⟩ := hundisturbed.runs_alone hi halone
  refine ⟨T', (Runs.step .refl (.comes 0 (.attach page))).trans hruns, ?_, hworld ▸ hslot⟩
  rw [hclients]
  simp [come]

end Traffic

end BrowserPilot
