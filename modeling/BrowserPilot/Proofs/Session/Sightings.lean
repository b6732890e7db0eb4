import BrowserPilot.Proofs.Page.Picture
import BrowserPilot.Proofs.Session.Frame

namespace BrowserPilot

/-!
# What is seen of a page

From when a recording page has been attached, whatever is done to the session one after
the other, whoever is given an observation sees a picture of the size in the settings and
of the address that was opened last.
-/

/-! ## What is reported stays reported -/

section

variable {B : Backend} {α : Type}

theorem World.events_answer (w : World B) (c : Caller) (ending : Ending) (r : Request B.Page) :
    w.events <+: (w.answer c ending r).2.1.events := by
  cases r with
  | primitive p d =>
      cases ending with
      | completed =>
          change w.events <+: (w.apply c p).2.events
          cases hslot : w.slot <;> simp [World.apply, World.report, World.record, hslot]
      | expired _ | cancelled => exact List.prefix_rfl
  | unmount => cases hslot : w.slot <;> simp [World.answer, World.farewell, World.record, hslot]
  | sample _ _ => cases ending <;> exact List.prefix_rfl
  | launch config => exact List.prefix_append _ _
  | _ => exact List.prefix_rfl

theorem Operation.events_aloneAfter (p : Operation B.Page α) (queued : Nat) (w : World B)
    (c : Caller) : w.events <+: (p.aloneAfter queued w c).2.1.events := by
  induction p generalizing w c with
  | done a => exact List.prefix_rfl
  | crash reason => exact List.prefix_rfl
  | ask r next ih =>
      obtain ⟨t, c', ending, -, hserve⟩ := World.serveAfter_eq_answer queued w c r
      rw [aloneAfter_ask, hserve]
      exact (World.events_answer { w with clock := t } c' ending r).trans (ih _ _ _)

end

/-! ## One thing after the other -/

/-- Something that is done to the session after a page has been attached, whatever comes of it, and
the observations that it shows. The page is not lent to anybody, who could give it another size, and
to give the session another page must fail. -/
inductive Deed (w : World recording) : (Observation → Prop) → World recording → Prop
  | later {t : Instant} : w.clock ≤ t → Deed w (fun _ ↦ False) { w with clock := t }
  | dispatch (queued : Nat) (k : Caller) (c : Config) (a : Action) (cancel : Cancellation) :
      Deed w
        (fun o ↦ ((BrowserPilot.dispatch c a cancel).run.aloneAfter queued w k).1 =
          .returned (.ok o))
        ((BrowserPilot.dispatch c a cancel).run.aloneAfter queued w k).2.1
  | tool (queued : Nat) (k : Caller) (s : ToolSettings) (ctx : CallContext) (args : Json)
      (tool : Tool) :
      Deed w
        (fun o ↦ ∃ parts, ((tool.run s ctx args).run.aloneAfter queued w k).1 =
          .returned (.ok parts) ∧ Holds parts o)
        ((tool.run s ctx args).run.aloneAfter queued w k).2.1
  | call (queued : Nat) (k : Caller) (registered : List Tool) (s : ToolSettings) (c : ToolCall) :
      Deed w
        (fun o ↦ ∃ told, ((c.run registered s).aloneAfter queued w k).1 = .returned told ∧
          told.Holds o)
        ((c.run registered s).aloneAfter queued w k).2.1
  | session (queued : Nat) (k : Caller) (c : Config) (call : Session.Call recording.Page) :
      (∀ body use, call ≠ .lock body use) →
      (call.isOpening = true →
        ∃ e, ((call.task c).run.aloneAfter queued w k).1 = .returned (.error e)) →
      Deed w
        (fun o ↦ ((call.task c).run.aloneAfter queued w k).1 = .returned (.ok (.picture o)))
        ((call.task c).run.aloneAfter queued w k).2.1

/-- An observation that somebody was given, and what the page had reported by then. -/
structure Sighting where
  observation : Observation
  events : List (Instant × PageEvent)

/-- What has been seen since a page was attached that gives no pictures but its own. -/
inductive Sitting (c : Config) : World recording → List Sighting → Prop
  | attached (w : World recording) (queued : Nat) (k : Caller) (page : recording.Page) :
      Behaviour.screenshot (RecordingPage.behaviour page) = none →
      ((Session.attach c page).run.aloneAfter queued w k).1 = .returned (.ok ()) →
      Sitting c ((Session.attach c page).run.aloneAfter queued w k).2.1 []
  | unseen {w w' : World recording} {sights : List Sighting} {shows : Observation → Prop} :
      Sitting c w sights → Deed w shows w' → Sitting c w' sights
  | seen {w w' : World recording} {sights : List Sighting} {shows : Observation → Prop}
      {o : Observation} :
      Sitting c w sights → Deed w shows w' → shows o → Sitting c w' (sights ++ [⟨o, w'.events⟩])

variable {width height : UInt32} {w w' : World recording} {shows : Observation → Prop}

theorem Deed.events (h : Deed w shows w') : w.events <+: w'.events := by
  cases h with
  | later _ => exact List.prefix_rfl
  | _ => exact Operation.events_aloneAfter _ _ _ _

/-- What is shown at some time is the picture of the address that was opened last. -/
def Pictures (width height : UInt32) (events : List (Instant × PageEvent)) (o : Observation) :
    Prop :=
  ∃ url, latest? events = some url ∧ o.bytes = picture width height url

/-- What is done to the session neither changes the frame nor shows anything but the page. -/
theorem Deed.keeps (h : Deed w shows w') (hw : w.scene.Framed width height) :
    w'.scene.Framed width height ∧ ∀ o, shows o → Pictures width height w'.events o := by
  have hshown {last : Option (List UInt8)} (hw' : w'.scene.Exposed width height last)
      {o : Observation} (ho : last = some o.bytes) : Pictures width height w'.events o :=
    hw'.shown o.bytes ho
  cases h with
  | later _ => exact ⟨hw, fun _ ↦ False.elim⟩
  | dispatch queued k c a cancel =>
      obtain ⟨last, hw', hlast⟩ := (looks_dispatch c a cancel).exposed queued k hw.exposed
      exact ⟨hw'.framed, fun o ho ↦ hshown hw' (hlast _ ho o o rfl rfl)⟩
  | tool queued k s ctx args tool =>
      obtain ⟨last, hw', hlast⟩ := (Tool.looks_tool s ctx args tool).exposed queued k hw.exposed
      refine ⟨hw'.framed, ?_⟩
      rintro o ⟨parts, hparts, ho⟩
      exact hshown hw' (hlast _ hparts parts o rfl ho)
  | call queued k registered s c =>
      obtain ⟨last, hw', hlast⟩ := c.looks_run.exposed queued k hw.exposed
      refine ⟨hw'.framed, ?_⟩
      rintro o ⟨told, htold, ho⟩
      exact hshown hw' (hlast _ htold o ho)
  | session queued k c call hlock hfails =>
      cases hopening : call.isOpening with
      | false =>
          obtain ⟨last, hw', hlast⟩ :=
            (Session.looks_call c hopening hlock).exposed queued k hw.exposed
          exact ⟨hw'.framed, fun o ho ↦ hshown hw' (hlast _ ho _ o rfl rfl)⟩
      | true =>
          -- the session's page is the one that it had, or it has none any more
          have hmeets : Task.Meets queued (· = w.scene) (call.task c) fun r s ↦
              ∀ e, r = .error e → w.scene.Framed width height → s.Framed width height :=
            Session.opening_frames c hopening
          obtain ⟨e, he⟩ := hfails hopening
          obtain ⟨r, w'', k'', hrun, hframed⟩ := hmeets w k rfl
          rw [hrun] at he ⊢
          refine ⟨hframed e (Outcome.returned.inj he) hw, ?_⟩
          intro o ho
          cases he.symm.trans ho

/-- An observation that shows the address that was opened last before it, in the size of the
settings, and nothing else. -/
structure Sighting.Fresh (c : Config) (x : Sighting) : Prop where
  pictures : Pictures c.viewportWidth c.viewportHeight x.events x.observation
  nonempty : x.observation.bytes ≠ []
  sized : x.observation.dimensions? = some (c.viewportWidth.toNat, c.viewportHeight.toNat)

theorem Pictures.fresh {c : Config} {x : Sighting}
    (h : Pictures c.viewportWidth c.viewportHeight x.events x.observation) : x.Fresh c := by
  obtain ⟨⟨bytes⟩, events⟩ := x
  have hpictures := h
  obtain ⟨url, -, hbytes⟩ := h
  obtain rfl : bytes = picture c.viewportWidth c.viewportHeight url := hbytes
  exact ⟨hpictures, picture_ne_nil _ _ _, dimensions?_picture _ _ _⟩

/-- Two pictures between which no address was opened are the same. -/
theorem Pictures.eq_of_append {events since : List (Instant × PageEvent)} {o o' : Observation}
    (h : Pictures width height events o) (h' : Pictures width height (events ++ since) o')
    (hsince : ∀ e ∈ since, e.2.opened? = none) : o = o' := by
  obtain ⟨url, hlatest, hbytes⟩ := h
  obtain ⟨url', hlatest', hbytes'⟩ := h'
  rw [latest?_append, latest?_eq_none hsince, Option.none_or, hlatest] at hlatest'
  obtain rfl := Option.some.inj hlatest'
  cases o
  cases o'
  exact congrArg Observation.mk (hbytes.trans hbytes'.symm)

namespace Sitting

variable {c : Config} {sights : List Sighting}

/-- What holds all along a sitting: the frame of the page, and that what has been seen was reported
before and is fresh. -/
structure Kept (c : Config) (w : World recording) (sights : List Sighting) : Prop where
  framed : w.scene.Framed c.viewportWidth c.viewportHeight
  reported : ∀ x ∈ sights, x.events <+: w.events
  inOrder : sights.Pairwise fun x y ↦ x.events <+: y.events
  pictures : ∀ x ∈ sights, Pictures c.viewportWidth c.viewportHeight x.events x.observation

theorem Kept.deed (hw : Kept c w sights) (h : Deed w shows w') : Kept c w' sights := by
  obtain ⟨hframed, -⟩ := h.keeps hw.framed
  exact ⟨hframed, fun x hx ↦ (hw.reported x hx).trans h.events, hw.inOrder, hw.pictures⟩

theorem Kept.sighted {o : Observation} (hw : Kept c w sights) (h : Deed w shows w') (ho : shows o) :
    Kept c w' (sights ++ [⟨o, w'.events⟩]) := by
  obtain ⟨hframed, hreported, hinOrder, hpictures⟩ := hw.deed h
  obtain ⟨-, hshown⟩ := h.keeps hw.framed
  refine ⟨hframed, fun x hx ↦ ?_, ?_, fun x hx ↦ ?_⟩
  · rcases List.mem_append.1 hx with hx | hx
    · exact hreported x hx
    · obtain rfl := List.mem_singleton.1 hx
      exact List.prefix_rfl
  · refine List.pairwise_append.2 ⟨hinOrder, List.pairwise_singleton _ _, fun x hx y hy ↦ ?_⟩
    obtain rfl := List.mem_singleton.1 hy
    exact hreported x hx
  · rcases List.mem_append.1 hx with hx | hx
    · exact hpictures x hx
    · obtain rfl := List.mem_singleton.1 hx
      exact hshown o ho

theorem kept (h : Sitting c w sights) : Kept c w sights := by
  induction h with
  | attached w queued k page hshot hattach =>
      have hmeets : Task.Meets queued (· = w.scene) (Session.attach c page) fun r s ↦
          (r = .ok () → Behaviour.screenshot (RecordingPage.behaviour page) = none →
            s.Framed c.viewportWidth c.viewportHeight) ∧ _ := Session.attach_frames page
      obtain ⟨r, w', k', hrun, hframed, -⟩ := hmeets w k rfl
      rw [hrun] at hattach ⊢
      refine ⟨hframed (Outcome.returned.inj hattach) hshot, ?_, .nil, ?_⟩
      · rintro x ⟨⟩
      · rintro x ⟨⟩
  | unseen _ hdeed ih => exact ih.deed hdeed
  | seen _ hdeed ho ih => exact ih.sighted hdeed ho

/-- Whatever is done to the session after a page has been attached, every observation that anybody
is given shows the address that was opened last, in the size of the settings, and two observations
between which no address was opened are equal. -/
theorem observations_fresh (h : Sitting c w sights) :
    (∀ x ∈ sights, x.Fresh c) ∧
      sights.Pairwise fun x y ↦ ∃ since, y.events = x.events ++ since ∧
        ((∀ e ∈ since, e.2.opened? = none) → x.observation = y.observation) := by
  have hkept := h.kept
  refine ⟨fun x hx ↦ (hkept.pictures x hx).fresh, hkept.inOrder.imp_of_mem ?_⟩
  rintro x y hx hy ⟨since, hsince⟩
  refine ⟨since, hsince.symm, fun hnone ↦ ?_⟩
  have hy' := hkept.pictures y hy
  rw [← hsince] at hy'
  exact (hkept.pictures x hx).eq_of_append hy' hnone

/-- The observation that was given, if one was. -/
def given? : Outcome (Result Observation) → Option Observation
  | .returned r => r.toOption
  | .crashed _ => none

theorem returned_of_given? {r : Outcome (Result Observation)} {o : Observation}
    (h : given? r = some o) : r = .returned (.ok o) := by
  obtain ⟨_ | _⟩ | _ := r
  · cases h
  · obtain rfl := Option.some.inj h
    rfl
  · cases h

/-- A page that is clicked on, refuses a key and is clicked on again looks as it did. -/
theorem observations_fresh_clicked : ∃ (w : World recording) (x y : Sighting),
    Sitting {} w [x, y] ∧ x.Fresh {} ∧ y.Fresh {} ∧ x.observation = y.observation := by
  let k : Caller := { sampler := fun _ ↦ (0, .ok "") }
  let o : Observation := ⟨picture 1024 768 "https://www.google.com"⟩
  let page : RecordingPage := { behaviour := { failures := [⟨"key_down", none, none⟩] } }
  have hopened := attached (c := {}) { env := () } 0 k page rfl rfl
  have hclicked := hopened.seen (.dispatch 0 k {} (.click 10 20 .left) .never)
    (o := o) (returned_of_given? (by decide +kernel))
  have hrefused := hclicked.unseen (.dispatch 0 k {} (.keypress ["Enter"]) .never)
  have hagain := hrefused.seen (.dispatch 0 k {} (.click 10 20 .left) .never)
    (o := o) (returned_of_given? (by decide +kernel))
  obtain ⟨hfresh, hsame⟩ := hagain.observations_fresh
  obtain ⟨since, hsince, hsame⟩ := List.pairwise_pair.1 hsame
  refine ⟨_, _, _, hagain, hfresh _ (by simp), hfresh _ (by simp), hsame ?_⟩
  rw [← @List.drop_left _ (Sighting.events _) since, ← hsince]
  decide +kernel

end Sitting

end BrowserPilot
