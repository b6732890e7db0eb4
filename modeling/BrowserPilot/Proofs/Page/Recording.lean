import BrowserPilot.Page.Recording

namespace BrowserPilot

/-!
# Input on a recording page

An input primitive is counted, and then it either fails and leaves no trace, or it
takes effect and is recorded. Letting go is recorded whatever comes of it. What the
page shows is changed by opening an address and by sizing the viewport alone.
-/

namespace RecordingPage

/-- The page after primitives that were applied to it in order. -/
def after (page : RecordingPage) (ps : List Primitive) : RecordingPage :=
  ps.foldl (fun page p ↦ (page.apply p).page) page

@[simp] theorem after_nil (page : RecordingPage) : page.after [] = page := rfl

theorem after_append_singleton (page : RecordingPage) (ps : List Primitive) (p : Primitive) :
    page.after (ps ++ [p]) = ((page.after ps).apply p).page := by
  simp [after]

theorem apply_eq_input {p : Primitive} (hp : p.isInput = true) (page : RecordingPage) :
    ∃ reply, page.apply p = page.input p reply := by
  cases p <;> first | exact ⟨_, rfl⟩ | simp [Primitive.isInput] at hp

/-- An input primitive is counted, and then it either fails and changes nothing else, or has its
effect and is recorded. -/
theorem input_cases (page : RecordingPage) (p : Primitive) (reply : p.Reply) :
    (∃ e, page.input p reply =
      ⟨(), (page.counted "input").counted p.name, [], [], .error e⟩) ∨
    page.input p reply =
      ⟨(), ((page.counted "input").counted p.name).held p, [.input p], [], .ok reply⟩ := by
  cases h : (((page.counted "input").counted p.name).failure? p.name).or
      (((page.counted "input").counted p.name).failure? "input") with
  | some e => exact .inl ⟨e, by simp only [input, h]⟩
  | none => exact .inr (by simp only [input, h])

@[simp] theorem held_behaviour (page : RecordingPage) (p : Primitive) :
    (page.held p).behaviour = page.behaviour := by
  cases p <;> rfl

theorem apply_behaviour {p : Primitive} (hp : p.isInput = true) (page : RecordingPage) :
    (page.apply p).page.behaviour = page.behaviour := by
  obtain ⟨reply, happly⟩ := apply_eq_input hp page
  rw [happly]
  rcases page.input_cases p reply with ⟨e, h⟩ | h <;> rw [h]
  · rfl
  · exact held_behaviour _ _

theorem after_behaviour {ps : List Primitive} (hps : ∀ p ∈ ps, p.isInput = true)
    (page : RecordingPage) : (page.after ps).behaviour = page.behaviour := by
  induction ps generalizing page with
  | nil => rfl
  | cons p ps ih =>
      have hp := apply_behaviour (hps p (by simp)) page
      have hrest := ih (fun q hq ↦ hps q (by simp [hq])) (page.apply p).page
      exact hrest.trans hp

theorem apply_of_ok {p : Primitive} (hp : p.isInput = true) {page : RecordingPage}
    {reply : p.Reply} (h : (page.apply p).result = .ok reply) :
    (page.apply p).events = [.input p] := by
  obtain ⟨reply', happly⟩ := apply_eq_input hp page
  rw [happly] at h ⊢
  rcases page.input_cases p reply' with ⟨e, hcase⟩ | hcase <;> rw [hcase] at h ⊢
  simp at h

/-- A primitive that fails leaves no record and lets nothing go. -/
theorem apply_of_error {p : Primitive} (hp : p.isInput = true) {page : RecordingPage}
    {e : Failure} (h : (page.apply p).result = .error e) :
    (page.apply p).events = [] ∧ (page.apply p).page.releases = page.releases := by
  obtain ⟨reply, happly⟩ := apply_eq_input hp page
  rw [happly] at h ⊢
  rcases page.input_cases p reply with ⟨e', hcase⟩ | hcase <;> rw [hcase] at h ⊢
  · exact ⟨rfl, rfl⟩
  · simp at h

theorem delay_of_isInput {p : Primitive} (hp : p.isInput = true) (page : RecordingPage) :
    page.delay p = page.behaviour.delay := by
  simp [delay, hp]

/-- Letting go is recorded whether or not it fails. -/
theorem events_releaseAll (page : RecordingPage) :
    (page.apply .releaseAll).events = page.releases ++ [.releaseAll] := by
  simp only [apply, firm]
  split <;> rfl

/-- Nothing is held once everything was let go, even if that was to fail. -/
theorem held_releaseAll (page : RecordingPage) :
    (page.apply .releaseAll).page.buttons = [] ∧ (page.apply .releaseAll).page.keys = [] := by
  simp only [apply, firm]
  split <;> exact ⟨rfl, rfl⟩

theorem apply_screenshot_of_ok {page : RecordingPage} {full : Bool} {bytes : List UInt8}
    (h : (page.apply (.screenshot full)).result = .ok bytes) :
    (page.apply (.screenshot full)).events = [.screenshot full] := by
  simp only [apply, plain] at h ⊢
  split at h
  · simp at h
  · simp only

theorem apply_screenshot_of_error {page : RecordingPage} {full : Bool} {e : Failure}
    (h : (page.apply (.screenshot full)).result = .error e) :
    (page.apply (.screenshot full)).events = [] := by
  simp only [apply, plain] at h ⊢
  split at h
  · simp only
  · simp at h

theorem held_screenshot (page : RecordingPage) (full : Bool) :
    (page.apply (.screenshot full)).page.buttons = page.buttons ∧
      (page.apply (.screenshot full)).page.keys = page.keys := by
  simp only [apply, plain]
  split <;> exact ⟨rfl, rfl⟩

/-! ## What the page shows -/

/-- What a picture of the page depends on, and how the page behaves. -/
def look (page : RecordingPage) : Behaviour × UInt32 × UInt32 × Option String :=
  (page.behaviour, page.width, page.height, page.url)

theorem shot_of_look {page page' : RecordingPage} (h : page.look = page'.look) :
    page.shot = page'.shot := by
  simp only [look, Prod.mk.injEq] at h
  obtain ⟨hbehaviour, hwidth, hheight, hurl⟩ := h
  simp only [shot, hbehaviour, hwidth, hheight, hurl]

theorem look_held (page : RecordingPage) (p : Primitive) : (page.held p).look = page.look := by
  cases p <;> rfl

theorem look_input (page : RecordingPage) (p : Primitive) (reply : p.Reply) :
    (page.input p reply).page.look = page.look := by
  rcases page.input_cases p reply with ⟨e, h⟩ | h <;> rw [h]
  · rfl
  · exact look_held _ _

/-- A primitive that neither opens an address nor sizes the viewport leaves the look of the page as
it is, whether or not it fails. -/
theorem look_apply {p : Primitive} (hgoto : ∀ url, p ≠ .goto url)
    (hviewport : ∀ w h, p ≠ .setViewport w h) (page : RecordingPage) :
    (page.apply p).page.look = page.look := by
  by_cases hp : p.isInput = true
  · obtain ⟨reply, happly⟩ := apply_eq_input hp page
    rw [happly, look_input]
  · cases p with
    | goto url => exact absurd rfl (hgoto url)
    | setViewport w h => exact absurd rfl (hviewport w h)
    | screenshot | currentUrl =>
        simp only [apply, plain]
        split <;> rfl
    | releaseAll | close =>
        simp only [apply, firm]
        split <;> rfl
    | _ => exact absurd rfl hp

theorem look_after {ps : List Primitive} (hps : ∀ p ∈ ps, p.isInput = true)
    (page : RecordingPage) : (page.after ps).look = page.look := by
  induction ps generalizing page with
  | nil => rfl
  | cons p ps ih =>
      have hp : p.isInput = true := hps p (by simp)
      have hfirst : (page.apply p).page.look = page.look :=
        look_apply (by rintro url rfl; simp [Primitive.isInput] at hp)
          (by rintro w h rfl; simp [Primitive.isInput] at hp) page
      exact (ih (fun q hq ↦ hps q (by simp [hq])) _).trans hfirst

/-! ## Pages that never fail -/

theorem failure?_eq_none (page : RecordingPage) (h : page.behaviour.failures = [])
    (name : String) : page.failure? name = none := by
  simp [failure?, h]

theorem result_of_reliable {p : Primitive} (hp : p.isInput = true) {page : RecordingPage}
    (h : page.behaviour.failures = []) : ∃ reply, (page.apply p).result = .ok reply := by
  obtain ⟨reply, happly⟩ := apply_eq_input hp page
  have hnone (name : String) :
      ((page.counted "input").counted p.name).failure? name = none :=
    failure?_eq_none ((page.counted "input").counted p.name) h name
  exact ⟨reply, by simp only [happly, input, hnone, Option.or_none]⟩

theorem apply_screenshot_of_reliable {page : RecordingPage} (h : page.behaviour.failures = [])
    (full : Bool) : (page.apply (.screenshot full)).result = .ok page.shot := by
  have hnone : (page.counted "screenshot").failure? "screenshot" = none :=
    failure?_eq_none (page.counted "screenshot") h "screenshot"
  simp only [apply, plain, Primitive.name, hnone]

end RecordingPage

end BrowserPilot
