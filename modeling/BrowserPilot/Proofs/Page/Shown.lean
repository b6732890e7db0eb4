import BrowserPilot.Proofs.Page.Recording

namespace BrowserPilot

/-!
# What a recording page shows

A page keeps its size unless it is given another, and it has the address that was opened
last. An address is reported if and only if it was opened.
-/

namespace RecordingPage

/-- The page has this size and gives no pictures but its own. -/
structure Sized (width height : UInt32) (page : RecordingPage) : Prop where
  width_eq : page.width = width
  height_eq : page.height = height
  screenshot_eq : page.behaviour.screenshot = none

theorem Sized.of_look {page page' : RecordingPage} {width height : UInt32}
    (h : page.Sized width height) (hlook : page'.look = page.look) : page'.Sized width height := by
  simp only [look, Prod.mk.injEq] at hlook
  obtain ⟨hbehaviour, hwidth, hheight, -⟩ := hlook
  exact ⟨hwidth.trans h.width_eq, hheight.trans h.height_eq,
    (congrArg Behaviour.screenshot hbehaviour).trans h.screenshot_eq⟩

theorem Sized.shot_eq {page : RecordingPage} {width height : UInt32} {url : String}
    (h : page.Sized width height) (hurl : page.url = some url) :
    page.shot = picture width height url := by
  simp only [shot, h.width_eq, h.height_eq, h.screenshot_eq, hurl, Option.getD_none,
    Option.getD_some]

/-- To open an address is reported if and only if it succeeds, and then the page has it. -/
theorem apply_goto (page : RecordingPage) (url : String) :
    (∃ e, page.apply (.goto url) = ⟨(), page.counted "goto", [], [], .error e⟩) ∨
    page.apply (.goto url) =
      ⟨(), { page.counted "goto" with url := some url }, [.goto url], [], .ok ()⟩ := by
  cases h : (page.counted "goto").failure? "goto" with
  | some e => exact .inl ⟨e, by simp only [apply, plain, Primitive.name, h]⟩
  | none => exact .inr (by simp only [apply, plain, Primitive.name, h])

theorem apply_setViewport (page : RecordingPage) (width height : UInt32) :
    (∃ e, page.apply (.setViewport width height) =
      ⟨(), page.counted "set_viewport", [], [], .error e⟩) ∨
    page.apply (.setViewport width height) =
      ⟨(), { page.counted "set_viewport" with width := width, height := height },
        [.setViewport width height], [], .ok ()⟩ := by
  cases h : (page.counted "set_viewport").failure? "set_viewport" with
  | some e => exact .inl ⟨e, by simp only [apply, plain, Primitive.name, h]⟩
  | none => exact .inr (by simp only [apply, plain, Primitive.name, h])

/-- A page keeps its size unless it is given another. -/
theorem Sized.apply {page : RecordingPage} {width height : UInt32} (h : page.Sized width height)
    {p : Primitive} (hp : ∀ width height, p ≠ .setViewport width height) :
    (page.apply p).page.Sized width height := by
  by_cases hgoto : ∃ url, p = .goto url
  · obtain ⟨url, rfl⟩ := hgoto
    rcases page.apply_goto url with ⟨e, happly⟩ | happly <;> rw [happly]
    · exact h.of_look rfl
    · exact ⟨h.width_eq, h.height_eq, h.screenshot_eq⟩
  · exact h.of_look (look_apply (not_exists.1 hgoto) hp page)

theorem shot_of_ok {page : RecordingPage} {full : Bool} {bytes : List UInt8}
    (h : (page.apply (.screenshot full)).result = .ok bytes) : bytes = page.shot := by
  simp only [RecordingPage.apply, plain] at h
  split at h
  · simp at h
  · exact (Except.ok.inj h).symm

end RecordingPage

/-- The address that was opened, if that is what is reported. -/
def PageEvent.opened? : PageEvent → Option String
  | goto url => some url
  | _ => none

/-- The address that was opened last, if there is one. -/
def latest? (events : List (Instant × PageEvent)) : Option String :=
  (events.filterMap fun e ↦ e.2.opened?).getLast?

theorem latest?_append (old new : List (Instant × PageEvent)) :
    latest? (old ++ new) = (latest? new).or (latest? old) := by
  rw [latest?, List.filterMap_append, List.getLast?_append]
  rfl

theorem latest?_eq_none {events : List (Instant × PageEvent)}
    (h : ∀ e ∈ events, e.2.opened? = none) : latest? events = none := by
  rw [latest?, List.filterMap_eq_nil_iff.2 h]
  rfl

namespace RecordingPage

theorem opened?_of_mem {p : Primitive} (hp : ∀ url, p ≠ .goto url) (page : RecordingPage) :
    ∀ event ∈ (page.apply p).events, event.opened? = none := by
  by_cases hinput : p.isInput = true
  · obtain ⟨reply, happly⟩ := apply_eq_input hinput page
    rw [happly]
    rcases page.input_cases p reply with ⟨e, h⟩ | h <;> rw [h] <;> simp [PageEvent.opened?]
  · cases p with
    | goto url => exact absurd rfl (hp url)
    | setViewport width height =>
        rcases page.apply_setViewport width height with ⟨e, h⟩ | h <;> rw [h] <;>
          simp [PageEvent.opened?]
    | screenshot | currentUrl | close =>
        simp only [apply, plain, firm]
        split <;> simp [PageEvent.opened?]
    | releaseAll =>
        rw [events_releaseAll]
        simp only [releases, List.mem_append, List.mem_map, List.mem_singleton]
        rintro event ((⟨button, -, rfl⟩ | ⟨key, -, rfl⟩) | rfl) <;> rfl
    | _ => exact absurd rfl hinput

/-- A page has the address that was opened last. -/
theorem url_apply (page : RecordingPage) (p : Primitive) (now : Instant) :
    (page.apply p).page.url =
      (latest? ((page.apply p).events.map fun e ↦ (now, e))).or page.url := by
  by_cases hgoto : ∃ url, p = .goto url
  · obtain ⟨url, rfl⟩ := hgoto
    rcases page.apply_goto url with ⟨e, happly⟩ | happly <;> rw [happly] <;> rfl
  · have hnot := not_exists.1 hgoto
    have hnone : latest? ((page.apply p).events.map fun e ↦ (now, e)) = none := by
      refine latest?_eq_none fun e he ↦ ?_
      obtain ⟨event, hevent, rfl⟩ := List.mem_map.1 he
      exact opened?_of_mem hnot page event hevent
    rw [hnone, Option.none_or]
    by_cases hviewport : ∃ width height, p = .setViewport width height
    · obtain ⟨width, height, rfl⟩ := hviewport
      rcases page.apply_setViewport width height with ⟨e, happly⟩ | happly <;> rw [happly] <;> rfl
    · have hlook := look_apply hnot (fun width height h ↦ hviewport ⟨width, height, h⟩) page
      simp only [look, Prod.mk.injEq] at hlook
      exact hlook.2.2.2

end RecordingPage

end BrowserPilot
