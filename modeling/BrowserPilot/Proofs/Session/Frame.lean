import BrowserPilot.Proofs.Page.Shown
import BrowserPilot.Proofs.Session.Undisturbed
import BrowserPilot.Proofs.Tool.Looks

namespace BrowserPilot

/-!
# The frame of the session's page

A page that has been attached keeps the size it was given then, and what it shows is a
picture of this size of the address that was opened last. Nothing that takes the page as
it is changes that, and neither does a second page that is refused.
-/

variable {α : Type} {width height : UInt32} {last : Option (List UInt8)}

namespace Scene

/-- Whatever page there is has this size, and the address that was opened last. -/
def Framed (width height : UInt32) (s : Scene recording) : Prop :=
  ∀ page : RecordingPage, s.slot = some page → page.Sized width height ∧
    ∃ url, page.url = some url ∧ latest? s.events = some url

/-- What the latest call has shown is what the page would show now. -/
structure Exposed (width height : UInt32) (last : Option (List UInt8)) (s : Scene recording) :
    Prop where
  framed : s.Framed width height
  shown : ∀ bytes, last = some bytes → ∃ url, latest? s.events = some url ∧
    bytes = picture width height url

variable {s s' : Scene recording}

theorem Framed.exposed (h : s.Framed width height) : s.Exposed width height none :=
  ⟨h, fun _ hbytes ↦ by cases hbytes⟩

theorem framed_of_none (h : s.slot = none) : s.Framed width height := by
  intro page hpage
  rw [h] at hpage
  cases hpage

theorem Framed.congr (h : s.Framed width height) (hslot : s'.slot = s.slot)
    (hevents : s'.events = s.events) : s'.Framed width height := by
  intro page hpage
  rw [hevents]
  exact h page (hslot.symm.trans hpage)

/-- A call on the page that does not size it. -/
theorem Framed.applied (h : s.Framed width height) {page : RecordingPage}
    (hpage : s.slot = some page) {p : Primitive}
    (hp : ∀ width height, p ≠ .setViewport width height) :
    (s.applied page p).Exposed width height (p.shown? (page.apply p).result) := by
  obtain ⟨hsized, url, hurl, hlatest⟩ := h page hpage
  let new : List (Instant × PageEvent) := (page.apply p).events.map fun e ↦ (s.clock, e)
  have hevents : latest? (s.applied page p).events = (latest? new).or (some url) := by
    rw [← hlatest]
    exact latest?_append s.events new
  refine ⟨?_, fun bytes hbytes ↦ ?_⟩
  · rintro page' hpage'
    obtain rfl : (page.apply p).page = page' := Option.some.inj hpage'
    have hurl' : (page.apply p).page.url = (latest? new).or (some url) := by
      rw [← hurl]
      exact page.url_apply p s.clock
    refine ⟨hsized.apply hp, (latest? new).getD url, ?_, ?_⟩
    · rw [hurl']
      cases latest? new <;> rfl
    · rw [hevents]
      cases latest? new <;> rfl
  · -- a picture has been taken, and nothing has been opened with it
    cases p with
    | screenshot full =>
        cases hresult : (page.apply (.screenshot full)).result with
        | error e =>
            rw [hresult] at hbytes
            cases hbytes
        | ok taken =>
            rw [hresult] at hbytes
            obtain rfl : taken = bytes := Option.some.inj hbytes
            have hnone : latest? new = none := by
              refine latest?_eq_none fun e he ↦ ?_
              obtain ⟨event, hevent, rfl⟩ := List.mem_map.1 he
              exact RecordingPage.opened?_of_mem (by rintro _ ⟨⟩) page event hevent
            refine ⟨url, ?_, ?_⟩
            · rw [hevents, hnone]
              rfl
            · exact (RecordingPage.shot_of_ok hresult).trans (hsized.shot_eq hurl)
    | _ => cases hbytes

end Scene

theorem Primitive.shown?_error (p : Primitive) (e : Failure) : p.shown? (.error e) = none := by
  cases p <;> rfl

namespace World

variable {w : World recording}

theorem exposed_apply (h : w.scene.Framed width height) (c : Caller) {p : Primitive}
    (hp : ∀ width height, p ≠ .setViewport width height) :
    (w.apply c p).2.scene.Exposed width height (p.shown? (w.apply c p).1) := by
  cases hslot : w.slot with
  | none =>
      simp only [apply, hslot, Primitive.shown?_error]
      exact h.exposed
  | some page =>
      obtain ⟨hresult, hscene⟩ := Scene.scene_apply hslot c p
      rw [hresult, hscene]
      exact h.applied hslot hp

theorem exposed_answer (h : w.scene.Exposed width height last) (c : Caller) (ending : Ending)
    {r : Request recording.Page} (hr : r.keepsFrame = true) :
    (w.answer c ending r).2.1.scene.Exposed width height
      (r.shown last (w.answer c ending r).1) := by
  cases r with
  | primitive p d =>
      have hp : ∀ width height, p ≠ .setViewport width height := by
        rintro width height rfl
        cases hr
      cases ending with
      | completed => exact exposed_apply h.framed c hp
      | expired _ | cancelled =>
          simp only [answer, Ending.result, Request.shown, Primitive.shown?_error]
          exact h.framed.exposed
  | unmount =>
      cases hslot : w.slot with
      | none =>
          simp only [answer, hslot]
          exact h
      | some page =>
          simp only [answer, hslot]
          exact ⟨Scene.framed_of_none rfl, h.shown⟩
  | sample _ _ => cases ending <;> exact h
  | launch _ | mount _ => cases hr
  | _ => exact h

end World

theorem Operation.Looks.exposed {Q : Option (List UInt8) → α → Prop}
    {p : Operation recording.Page α} (hp : p.Looks Q last) (queued : Nat) {w : World recording}
    (c : Caller) (h : w.scene.Exposed width height last) :
    ∃ last', (p.aloneAfter queued w c).2.1.scene.Exposed width height last' ∧
      ∀ a, (p.aloneAfter queued w c).1 = .returned a → Q last' a := by
  induction hp generalizing w c with
  | @done last a hq => exact ⟨last, h, fun a' ha' ↦ Outcome.returned.inj ha' ▸ hq⟩
  | @crash last reason => exact ⟨last, h, fun a' ha' ↦ by cases ha'⟩
  | @ask last r next hr _ ih =>
      -- while the request is waited for, nothing moves but the clock
      obtain ⟨t, c', ending, -, hserve⟩ := World.serveAfter_eq_answer queued w c r
      have hnow : ({ w with clock := t } : World recording).scene.Exposed width height last :=
        ⟨h.framed, h.shown⟩
      rw [Operation.aloneAfter_ask, hserve]
      exact ih _ _ (World.exposed_answer hnow c' ending hr)

/-! ## Pages that are attached -/

namespace Session

variable {queued : Nat} {c : Config} {s : Scene recording}

/-- A page that has been prepared has the size of the settings, and shows the start address. -/
theorem prepare_frames (c : Config) (page : RecordingPage) (hpage : s.slot = some page) :
    Task.Meets queued (· = s) (prepare c : Task recording.Page Unit) fun r s' ↦
      r = .ok () → page.behaviour.screenshot = none →
        s'.Framed c.viewportWidth c.viewportHeight := by
  have hsize : Task.Meets queued (· = s)
      (Task.primitive (.setViewport c.viewportWidth c.viewportHeight) none) fun r s' ↦
        r = .ok () → ∃ page', s'.slot = some page' ∧ (page.behaviour.screenshot = none →
          RecordingPage.Sized c.viewportWidth c.viewportHeight page') := by
    refine .primitive hpage nofun (fun _ hok ↦ ⟨_, rfl, fun hshot ↦ ?_⟩) nofun
    change (page.apply _).result = _ at hok
    change (page.apply _).page.Sized _ _
    rcases page.apply_setViewport c.viewportWidth c.viewportHeight with ⟨e, h⟩ | h
    · rw [h] at hok
      cases hok
    · rw [h]
      exact ⟨rfl, rfl, hshot⟩
  refine hsize.bind (fun _ ↦ .of_forall ?_) fun e s' _ h ↦ by cases h
  intro s₁ h₁
  obtain ⟨page', hpage', hsized⟩ := h₁ rfl
  have hopen : Task.Meets queued (· = s₁) (Task.primitive (.goto c.startUrl) none) fun r s' ↦
      r = .ok () → page.behaviour.screenshot = none →
        s'.Framed c.viewportWidth c.viewportHeight := by
    refine .primitive hpage' nofun (fun _ hok hshot ↦ ?_) nofun
    change (page'.apply (.goto c.startUrl)).result = _ at hok
    rcases page'.apply_goto c.startUrl with ⟨e, h⟩ | h
    · rw [h] at hok
      cases hok
    · rintro page'' hpage''
      obtain rfl : (page'.apply (.goto c.startUrl)).page = page'' := Option.some.inj hpage''
      refine ⟨(hsized hshot).apply (by rintro _ _ ⟨⟩), c.startUrl, by rw [h], ?_⟩
      refine (latest?_append s₁.events _).trans ?_
      change Option.or (latest? ((page'.apply (.goto c.startUrl)).events.map _)) _ = _
      rw [h]
      rfl
  refine hopen.bind (fun _ ↦ ?_) fun e s' _ h ↦ by cases h
  exact (Task.Meets.log _ _ _).mono (fun _ h ↦ h rfl) fun _ _ h _ ↦ h.2

/-- A page that is turned away leaves everything as it is. -/
theorem turnAway_frames (page : RecordingPage) (e : Failure) :
    Task.Meets queued (· = s) (do
      Task.discard page
      throw e : Task recording.Page Unit) fun r s' ↦ r = .error e ∧ s' = s := by
  refine (Task.Meets.discard (B := recording) page).bind (fun _ ↦ ?_) fun e s' h ↦ nomatch h.1
  exact .throw e fun _ h ↦ ⟨rfl, h.2⟩

/-- To attach a page either gives the session the page, or takes nothing away from what it had. -/
theorem attach_frames (page : RecordingPage) :
    Task.Meets queued (· = s) (attach c page : Task recording.Page Unit) fun r s' ↦
      (r = .ok () → page.behaviour.screenshot = none →
        s'.Framed c.viewportWidth c.viewportHeight) ∧
      ∀ e, r = .error e → s'.slot = none ∨ s'.slot = s.slot ∧ s'.events = s.events := by
  unfold attach
  cases c.validate with
  | error e =>
      refine (turnAway_frames page e).mono (fun _ h ↦ h) ?_
      rintro r s' ⟨rfl, rfl⟩
      exact ⟨nofun, fun _ _ ↦ .inr ⟨rfl, rfl⟩⟩
  | ok _ =>
      refine .locked_of_lock .lock_none (fun e s' h ↦ nomatch h.1) (.of_forall ?_)
      rintro s₁ ⟨-, rfl⟩
      refine .hasPage_bind ?_
      cases hslot : s.slot with
      | some page₀ =>
          refine (turnAway_frames page _).mono (fun _ h ↦ h) ?_
          rintro r s' ⟨rfl, rfl⟩
          exact ⟨nofun, fun _ _ ↦ .inr ⟨rfl, rfl⟩⟩
      | none =>
          refine (Task.Meets.mount (B := recording) page).bind (fun _ ↦ .of_forall ?_)
            fun e s' h ↦ nomatch h.1
          rintro s₁ ⟨-, rfl⟩
          -- the page goes again unless it can be prepared
          refine (prepare_frames c page rfl).result_bind fun prepared ↦ ?_
          cases prepared with
          | ok _ => exact .pure _ fun s' h ↦ ⟨fun _ ↦ h rfl, nofun⟩
          | error e =>
              refine .of_forall fun s₂ _ ↦ ?_
              refine Task.Meets.unmount.bind (fun _ ↦ .throw e ?_) fun e s' h ↦ nomatch h.1
              rintro _ ⟨-, rfl⟩
              exact ⟨nofun, fun _ _ ↦ .inl rfl⟩

/-- No browser can be launched for a recording page. -/
theorem launch_fails (c : Config) :
    Task.Meets queued (· = s) (Task.launch c : Task recording.Page recording.Page) fun r s' ↦
      (∃ e, r = .error e) ∧ s'.slot = s.slot ∧ s'.events = s.events := by
  rintro w k rfl
  obtain ⟨t, k', ending, -, hserve⟩ := World.serveAfter_eq_answer queued w k (.launch c)
  refine ⟨(w.serveAfter queued k (.launch c)).1, (w.serveAfter queued k (.launch c)).2.1,
    (w.serveAfter queued k (.launch c)).2.2, rfl, ?_⟩
  rw [hserve]
  exact ⟨⟨_, rfl⟩, rfl, List.append_nil _⟩

theorem start_fails (c : Config) :
    Task.Meets queued (· = s) (start c : Task recording.Page Unit) fun r s' ↦
      (∃ e, r = .error e) ∧ s'.slot = s.slot ∧ s'.events = s.events := by
  unfold start
  cases c.validate with
  | error e => exact .throw e fun s' h ↦ ⟨⟨e, rfl⟩, h ▸ rfl, h ▸ rfl⟩
  | ok _ =>
      have hactive : Task.Meets queued (· = s) (isActive : Task recording.Page Bool)
          fun r s' ↦ s'.slot = s.slot ∧ s'.events = s.events := by
        refine .locked_of_lock .lock_none (fun e s' h ↦ nomatch h.1) ?_
        refine .lift_request (fun _ _ ↦ rfl) fun w k h ↦ ?_
        rw [h.2]
        exact ⟨rfl, rfl⟩
      refine hactive.bind (fun active ↦ .of_forall ?_) fun e s' h ↦ ⟨⟨e, rfl⟩, h⟩
      rintro s₁ ⟨hslot, hevents⟩
      cases active with
      | true => exact .throw alreadyStarted fun s' h ↦ ⟨⟨_, rfl⟩, h ▸ hslot, h ▸ hevents⟩
      | false =>
          refine (launch_fails c).bind (fun page ↦ .of_forall ?_) ?_
          · rintro s₂ ⟨⟨e, he⟩, -⟩
            cases he
          · rintro e s₂ ⟨-, hslot', hevents'⟩
            exact ⟨⟨e, rfl⟩, hslot'.trans hslot, hevents'.trans hevents⟩

/-- Who fails to give the session a page leaves the one it has as it is. -/
theorem opening_frames (c : Config) {call : Call recording.Page} (hcall : call.isOpening = true) :
    Task.Meets queued (· = s) (call.task c) fun r s' ↦ ∀ e, r = .error e →
      s.Framed width height → s'.Framed width height := by
  cases call with
  | attach page =>
      refine (attach_frames page).bind (fun _ ↦ .pure Reply.nothing (by rintro _ _ _ ⟨⟩)) ?_
      rintro e s' ⟨-, herror⟩ _ - hs
      rcases herror e rfl with hnone | ⟨hslot, hevents⟩
      · exact Scene.framed_of_none hnone
      · exact hs.congr hslot hevents
  | start =>
      refine (start_fails c).bind (fun _ ↦ .pure Reply.nothing (by rintro _ _ _ ⟨⟩)) ?_
      rintro e s' ⟨-, hslot, hevents⟩ _ - hs
      exact hs.congr hslot hevents
  | _ => cases hcall

end Session
end BrowserPilot
