import BrowserPilot.Proofs.Dispatch.Trace

namespace BrowserPilot

/-!
# Nothing stays held between dispatches

A plan that takes effect from end to end lets go of all that it pressed, repeated keys
included. A dispatch that stops early lets everything go at its end. One that the lock
comes too late for, or that the clock cannot hold, does not touch the page.
-/

/-- What a page holds down. -/
structure Grip where
  buttons : List Button := []
  keys : List String := []

namespace Grip

/-- What is held after a primitive that takes effect. -/
def after (g : Grip) : Primitive → Grip
  | .down b => { g with buttons := g.buttons ++ [b] }
  | .up b => { g with buttons := g.buttons.filter (· != b) }
  | .keyDown k => { g with keys := g.keys ++ [k] }
  | .keyUp k => { g with keys := g.keys.filter (· != k) }
  | _ => g

theorem foldl_moves (g : Grip) (path : List Point) :
    (path.map fun q ↦ Primitive.move q.x q.y).foldl after g = g := by
  induction path with
  | nil => rfl
  | cons q path ih => exact ih

theorem foldl_keyDowns (g : Grip) (tokens : List String) :
    (tokens.map Primitive.keyDown).foldl after g = { g with keys := g.keys ++ tokens } := by
  induction tokens generalizing g with
  | nil => simp
  | cons k tokens ih =>
      have hrest := ih (g.after (.keyDown k))
      simpa [after] using hrest

theorem foldl_keyUps (g : Grip) (tokens : List String) :
    (tokens.map Primitive.keyUp).foldl after g =
      { g with keys := g.keys.filter (· ∉ tokens) } := by
  induction tokens generalizing g with
  | nil =>
      have hall : g.keys.filter (· ∉ ([] : List String)) = g.keys := by simp
      rw [hall]
      rfl
  | cons k tokens ih =>
      have hboth : (g.keys.filter (· != k)).filter (· ∉ tokens) =
          g.keys.filter (· ∉ k :: tokens) := by
        rw [List.filter_filter]
        refine List.filter_congr fun k' _ ↦ ?_
        by_cases hk : k' = k <;> simp [hk]
      have hrest := ih (g.after (.keyUp k))
      rw [← hboth]
      exact hrest

/-- A plan leaves nothing held that it finds nothing held by. -/
theorem foldl_plan (a : Action) : a.plan.foldl after {} = {} := by
  cases a with
  | drag path =>
      cases path with
      | nil => rfl
      | cons q path =>
          simp only [Action.plan, List.cons_append, List.foldl_cons, List.foldl_append,
            foldl_moves]
          rfl
  | keypress keys =>
      have hall : (keys.map Key.native).filter (· ∉ (keys.map Key.native).reverse) = [] := by
        simp [List.filter_eq_nil_iff]
      simp only [Action.plan, List.foldl_append, foldl_keyDowns, foldl_keyUps, List.nil_append,
        hall]
  | _ => rfl

end Grip

namespace RecordingPage

/-- What a recording page holds down. -/
def grip (page : RecordingPage) : Grip := ⟨page.buttons, page.keys⟩

theorem grip_eq_empty {page : RecordingPage} :
    page.grip = {} ↔ page.buttons = [] ∧ page.keys = [] := by
  simp [grip]

theorem grip_held (page : RecordingPage) (p : Primitive) :
    (page.held p).grip = page.grip.after p := by
  cases p <;> rfl

theorem grip_apply_of_ok {p : Primitive} (hp : p.isInput = true) {page : RecordingPage}
    {reply : p.Reply} (h : (page.apply p).result = .ok reply) :
    (page.apply p).page.grip = page.grip.after p := by
  obtain ⟨reply', happly⟩ := apply_eq_input hp page
  rw [happly] at h ⊢
  rcases page.input_cases p reply' with ⟨e, hcase⟩ | hcase <;> rw [hcase] at h ⊢
  · simp at h
  · exact grip_held _ p

theorem grip_after {page : RecordingPage} {ps : List Primitive}
    (hinput : ∀ p ∈ ps, p.isInput = true)
    (hok : ∀ done p rest, ps = done ++ p :: rest →
      ∃ reply, ((page.after done).apply p).result = .ok reply) :
    (page.after ps).grip = ps.foldl Grip.after page.grip := by
  induction ps generalizing page with
  | nil => rfl
  | cons p ps ih =>
      obtain ⟨reply, hreply⟩ := hok [] p ps rfl
      have hrest : ((page.apply p).page.after ps).grip =
          ps.foldl Grip.after (page.apply p).page.grip :=
        ih (fun q hq ↦ hinput q (by simp [hq])) fun done q rest h ↦
          hok (p :: done) q rest (by simp [h])
      have hfirst : (page.apply p).page.grip = page.grip.after p :=
        grip_apply_of_ok (hinput p (by simp)) hreply
      calc (page.after (p :: ps)).grip
          = ps.foldl Grip.after (page.apply p).page.grip := hrest
        _ = (p :: ps).foldl Grip.after page.grip := by rw [hfirst, List.foldl_cons]

end RecordingPage

namespace Dispatch

/-- Whatever becomes of a dispatch, it leaves nothing held on a page on which nothing was held. -/
theorem Attempt.Leaves.grip {x : Attempt} {page : RecordingPage} (h : x.Leaves page)
    (hstart : x.page.grip = {}) : page.grip = {} := by
  cases h with
  | untouched _ hpage => rw [hpage, hstart]
  | letGo hbuttons hkeys => exact RecordingPage.grip_eq_empty.2 ⟨hbuttons, hkeys⟩
  | completed hcompletes hbuttons hkeys =>
      have hplan : (x.page.after x.action.plan).grip = {} := by
        rw [RecordingPage.grip_after (fun _ ↦ Action.isInput_of_mem_plan) hcompletes.effective,
          hstart, Grip.foldl_plan]
      rw [RecordingPage.grip_eq_empty] at hplan ⊢
      exact ⟨hbuttons.trans hplan.1, hkeys.trans hplan.2⟩

/-- A deadline that the clock cannot hold ends the program before the page is touched. -/
theorem dispatch_crash {B : Backend} {c : Config} (a : Action) (cancel : Cancellation)
    (queued : Nat) {w : World B} (k : Caller)
    (h : Deadline.after? w.clock c.actionTimeoutSeconds.toNat = none) :
    ∃ reason k', (dispatch c a cancel).run.aloneAfter queued w k = (.crashed reason, w, k') := by
  have hrun (k : Caller) : ∃ reason, (run c a cancel).run.aloneAfter queued w k =
      (.crashed reason, w, k) := by
    refine ⟨"overflow when adding duration to instant", ?_⟩
    rw [run, Task.aloneAfter_now_bind, h]
    rfl
  obtain ⟨reason, hreason⟩ := hrun { k with spans := k.spans ++ [Span.dispatch a.kind] }
  have hspan : (Task.inSpan (Span.dispatch a.kind) (run c a cancel)).run.aloneAfter queued w k =
      (.crashed reason, w, { k with spans := k.spans ++ [Span.dispatch a.kind] }) :=
    Operation.aloneAfter_bind_of_crash (Operation.aloneAfter_bind_of_crash hreason _) _
  exact ⟨reason, _, Operation.aloneAfter_bind_of_crash
    (Operation.aloneAfter_bind_of_crash hspan _) _⟩

theorem dispatch_grip (c : Config) (a : Action) (cancel : Cancellation) (queued : Nat)
    {w : World recording} (k : Caller) {page : RecordingPage} (hpage : w.slot = some page)
    (hstart : page.grip = {}) :
    ∃ page', ((dispatch c a cancel).run.aloneAfter queued w k).2.1.slot = some page' ∧
      page'.grip = {} := by
  by_cases hfit : (deadline c w.clock).instant < horizon
  · have hmeets : Task.Meets queued (· = w.scene) (BrowserPilot.dispatch c a cancel)
        ((Attempt.begun c a cancel page w.clock queued).Over w.scene) :=
      Attempt.dispatch_attempt hpage hfit
    obtain ⟨r, w', k', hrun, -, page', -, -, hslot, hleaves⟩ := hmeets w k rfl
    refine ⟨page', ?_, hleaves.grip hstart⟩
    rw [hrun]
    exact hslot
  · obtain ⟨reason, k', hrun⟩ := dispatch_crash a cancel queued k (if_neg hfit)
    refine ⟨page, ?_, hstart⟩
    rw [hrun]
    exact hpage

/-- The worlds that dispatches make of a world, one after the other: of any actions, under any
settings and at any times. -/
inductive Series (w₀ : World recording) : World recording → Prop
  | start : Series w₀ w₀
  | later {w : World recording} {t : Instant} :
      Series w₀ w → w.clock ≤ t → Series w₀ { w with clock := t }
  | dispatch {w : World recording} (c : Config) (a : Action) (cancel : Cancellation)
      (queued : Nat) (k : Caller) :
      Series w₀ w → Series w₀ ((dispatch c a cancel).run.aloneAfter queued w k).2.1

/-- Between dispatches no button and no key stays held, whatever fails, is given up or is cut
off. -/
theorem series_holds_nothing {w₀ w : World recording} {page : RecordingPage}
    (h : Series w₀ w) (hpage : w₀.slot = some page) (hbuttons : page.buttons = [])
    (hkeys : page.keys = []) :
    ∃ page', w.slot = some page' ∧ page'.buttons = [] ∧ page'.keys = [] := by
  have hgrip : ∃ page', w.slot = some page' ∧ page'.grip = {} := by
    induction h with
    | start => exact ⟨page, hpage, RecordingPage.grip_eq_empty.2 ⟨hbuttons, hkeys⟩⟩
    | later _ _ ih => exact ih
    | dispatch c a cancel queued k _ ih =>
        obtain ⟨page', hpage', hgrip⟩ := ih
        exact dispatch_grip c a cancel queued k hpage' hgrip
  obtain ⟨page', hpage', hgrip⟩ := hgrip
  exact ⟨page', hpage', RecordingPage.grip_eq_empty.1 hgrip⟩

/-- A session with a slow page on which the button does not come up again. -/
def stuckWorld : World recording := { env := (), slot := some stuckPage }

/-- The world after a drag there, and a key combination a second after it. -/
def stuckSeries : World recording :=
  let caller : Caller := { sampler := fun _ ↦ (0, .ok "") }
  let dragged := ((BrowserPilot.dispatch {} (.drag [⟨1, 2⟩, ⟨3, 4⟩]) .never).run.aloneAfter 0
    stuckWorld caller).2.1
  ((BrowserPilot.dispatch {} (.keypress ["ctrl", "a"]) .before).run.aloneAfter 20
    { dragged with clock := dragged.clock + 1000 } caller).2.1

theorem stuckSeries_holds_nothing :
    Series stuckWorld stuckSeries ∧ stuckWorld.slot = some stuckPage ∧ stuckPage.buttons = [] ∧
      stuckPage.keys = [] ∧
      ∃ page', stuckSeries.slot = some page' ∧ page'.buttons = [] ∧ page'.keys = [] := by
  have h : Series stuckWorld stuckSeries :=
    .dispatch _ _ _ _ _ (.later (.dispatch _ _ _ _ _ .start) (Nat.le_add_right _ _))
  exact ⟨h, rfl, rfl, rfl, series_holds_nothing h rfl rfl rfl⟩

end Dispatch

end BrowserPilot
