import BrowserPilot.Proofs.Dispatch.Course
import BrowserPilot.Proofs.Dispatch.Held
import BrowserPilot.Proofs.Dispatch.Pressed
import BrowserPilot.Proofs.Page.Recounted

namespace BrowserPilot

/-!
# Rows of dispatches in a browser

Dispatches follow one another on one page. Whatever the browser refuses, each command
tells it what was asked for and sent up to then, and between dispatches the page
remembers nothing as held.
-/

variable {B : Backend}

namespace Dispatch

/-- The primitives that the dispatch of an action asks for. -/
inductive Asks (a : Action) : List Primitive → Prop
  | nothing : Asks a []
  | letGo {done : List Primitive} : done <+: a.plan → Asks a (done ++ [.releaseAll])
  | unseen : Asks a a.plan
  | seen : Asks a (a.plan ++ [.screenshot false])

/-- The primitives that the dispatches of some actions ask for. -/
inductive AllAsk : List Action → List Primitive → Prop
  | nil : AllAsk [] []
  | snoc {actions : List Action} {asked more : List Primitive} {a : Action} :
      AllAsk actions asked → Asks a more → AllAsk (actions ++ [a]) (asked ++ more)

/-- The worlds that dispatches of some actions make of a world, under any settings and at any
times. -/
inductive Row (w₀ : World B) : List Action → World B → Prop
  | start : Row w₀ [] w₀
  | later {actions : List Action} {w : World B} {t : Instant} :
      Row w₀ actions w → w.clock ≤ t → Row w₀ actions { w with clock := t }
  | dispatch {actions : List Action} {w : World B} (c : Config) (a : Action)
      (cancel : Cancellation) (queued : Nat) (k : Caller) : Row w₀ actions w →
        Row w₀ (actions ++ [a]) ((dispatch c a cancel).run.aloneAfter queued w k).2.1

/-- The backend of a Chrome browser that takes its time. A primitive has its effect all at once when
that time is over, so one that the deadline cuts off sends nothing and changes no mask here. The
driver sets the mask and sends before it awaits each command, so there a cut leaves the page as a
refusal of the awaited command would. -/
abbrev slowChrome (delay : ChromePage → Primitive → Nat) : Backend :=
  { chromeBackend with delay := delay }

variable {delay : ChromePage → Primitive → Nat} {s₀ s : Scene (slowChrome delay)}
  {beats : List (Beat (slowChrome delay))} {page : ChromePage}

/-- What is remembered after primitives that all succeed. -/
theorem hands_of_plays (h : s₀.Plays beats s) (hpage : s₀.slot = some page)
    (hsucceeds : ∀ b ∈ beats, b.Succeeds) (hinput : ∀ b ∈ beats, b.primitive ≠ .releaseAll) :
    ∃ page', s.slot = some page' ∧ page'.hands =
      ((beats.map Beat.primitive).flatMap Stroke.ofPrimitive).foldl Stroke.after page.hands := by
  induction h with
  | start => exact ⟨page, hpage, rfl⟩
  | later _ _ ih => exact ih hsucceeds hinput
  | @applied beats s page' p _ hslot ih =>
      obtain ⟨page'', hslot', hhands⟩ := ih (fun b hb ↦ hsucceeds b (List.mem_append_left _ hb))
        fun b hb ↦ hinput b (List.mem_append_left _ hb)
      obtain rfl : page' = page'' := Option.some.inj (hslot.symm.trans hslot')
      obtain ⟨reply, hreply⟩ := hsucceeds (s.beat page' p) (by simp)
      have hp : p ≠ .releaseAll := hinput (s.beat page' p) (by simp)
      refine ⟨_, rfl, (ChromePage.hands_apply_of_ok hp hreply).trans ?_⟩
      rw [hhands, List.map_append, List.flatMap_append, List.foldl_append]
      simp [Scene.beat]

/-- A plan that is carried out leaves nothing remembered as held. -/
theorem CarriedOut.idle {a : Action} {d : Deadline} (h : CarriedOut s₀ a.plan d beats s)
    (hpage : s₀.slot = some page) (hidle : ∀ x, page.hands.has x = false) :
    ∃ page', s.slot = some page' ∧ ∀ x, page'.hands.has x = false := by
  have hinput : ∀ b ∈ beats, b.primitive ≠ .releaseAll := by
    intro b hb hrelease
    have hmem : b.primitive ∈ a.plan := h.primitives ▸ List.mem_map_of_mem hb
    have hp := Action.isInput_of_mem_plan hmem
    simp [hrelease, Primitive.isInput] at hp
  obtain ⟨page', hslot, hhands⟩ := hands_of_plays h.plays hpage h.succeeds hinput
  refine ⟨page', hslot, fun x ↦ ?_⟩
  rw [hhands, h.primitives, Stroke.has_foldl, hidle x]
  exact a.turns_strokes x

/-- A dispatch finds nothing remembered as held and leaves nothing so. -/
theorem Course.idle {a : Action} {d : Deadline} {r : Result Observation} (h : Course s₀ a d r s)
    (hpage : s₀.slot = some page) (hidle : ∀ x, page.hands.has x = false)
    (hin : s₀.clock ≤ d.instant) :
    ∃ beats page', s₀.Plays beats s ∧ Asks a (beats.map Beat.primitive) ∧ s.slot = some page' ∧
      ∀ x, page'.hands.has x = false := by
  cases h with
  | refused => exact ⟨[], page, .later .start hin, .nothing, hpage, hidle⟩
  | @letGo beats s page' e hunder hplan hslot =>
      have hlater : s₀.Plays beats { s with clock := s.clock + delay page' .releaseAll } :=
        .later hunder.plays (Nat.le_add_right _ _)
      refine ⟨_, _, .applied .releaseAll hlater hslot, ?_, rfl, ?_⟩
      · rw [List.map_append]
        exact .letGo hplan
      · exact (ChromePage.letsGo_releaseAll s.env page').idle
  | unseen hcarried =>
      obtain ⟨page', hslot, hidle'⟩ := hcarried.idle hpage hidle
      exact ⟨_, page', hcarried.plays, hcarried.primitives ▸ .unseen, hslot, hidle'⟩
  | @seen beats s page' shot hcarried hslot =>
      obtain ⟨page'', hslot', hidle'⟩ := hcarried.idle hpage hidle
      obtain rfl : page' = page'' := Option.some.inj (hslot.symm.trans hslot')
      refine ⟨_, _, .applied (.screenshot false) hcarried.plays hslot, ?_, rfl, fun x ↦ ?_⟩
      · rw [List.map_append, hcarried.primitives]
        exact .seen
      · have hsilent : ChromePage.Silent page' (page'.screenshot s.env false) :=
          ChromePage.silent_screenshot s.env false
        exact (congrArg (Hands.has · x) hsilent.hands).trans (hidle' x)

theorem dispatch_idle {w : World (slowChrome delay)} (hpage : w.slot = some page)
    (hidle : ∀ x, page.hands.has x = false) (c : Config) (a : Action) (cancel : Cancellation)
    (queued : Nat) (k : Caller) {w' : World (slowChrome delay)}
    (hw' : ((BrowserPilot.dispatch c a cancel).run.aloneAfter queued w k).2.1 = w') :
    ∃ beats page', w.scene.Plays beats w'.scene ∧ Asks a (beats.map Beat.primitive) ∧
      w'.slot = some page' ∧ ∀ x, page'.hands.has x = false := by
  by_cases hfit : (deadline c w.clock).instant < horizon
  · have hsome : w.scene.slot.isSome = true := Option.isSome_iff_exists.2 ⟨page, hpage⟩
    have hmeets : Task.Meets queued (· = w.scene) (BrowserPilot.dispatch c a cancel)
        (Course w.scene a (deadline c w.clock)) := dispatch_course hsome hfit
    obtain ⟨r, w'', k', hrun, hcourse⟩ := hmeets w k rfl
    obtain rfl : w'' = w' := by rw [← hw', hrun]
    exact hcourse.idle hpage hidle (le_deadline c w.clock)
  · obtain ⟨reason, k', hrun⟩ := dispatch_crash a cancel queued k (if_neg hfit)
    obtain rfl : w = w' := by rw [← hw', hrun]
    exact ⟨[], page, .start, .nothing, hpage, hidle⟩

/-- A row of dispatches on a page that remembers nothing as held leaves nothing so. -/
theorem Row.idle {w₀ w : World (slowChrome delay)} {actions : List Action} (h : Row w₀ actions w)
    (hpage : w₀.slot = some page) (hidle : ∀ x, page.hands.has x = false) :
    ∃ beats page', w₀.scene.Plays beats w.scene ∧ AllAsk actions (beats.map Beat.primitive) ∧
      w.slot = some page' ∧ ∀ x, page'.hands.has x = false := by
  induction h with
  | start => exact ⟨[], page, .start, .nil, hpage, hidle⟩
  | later _ ht ih =>
      obtain ⟨beats, page', hplays, hasked, hslot, hidle'⟩ := ih
      exact ⟨beats, page', .later hplays ht, hasked, hslot, hidle'⟩
  | dispatch c a cancel queued k _ ih =>
      obtain ⟨beats, page', hplays, hasked, hslot, hidle'⟩ := ih
      obtain ⟨more, page'', hplays', hasked', hslot', hidle''⟩ :=
        dispatch_idle hslot hidle' c a cancel queued k rfl
      refine ⟨beats ++ more, page'', hplays.trans hplays', ?_, hslot', hidle''⟩
      rw [List.map_append]
      exact .snoc hasked hasked'

/-- What a page tells the browser while primitives are applied to it. -/
theorem recounts_of_plays (h : s₀.Plays beats s) (hpage : s₀.slot = some page)
    (hfresh : page.hands = {}) (hquiet : ∀ c ∈ s₀.log, c.command.edge? = none) :
    (∃ page', s.slot = some page' ∧ page'.hands.Tracks (s₀.log ++ beats.flatMap Beat.events) ∧
      page'.hands.place = Primitive.aim (beats.map Beat.primitive)) ∧
    ∀ before b after pre c post, beats = before ++ b :: after → b.events = pre ++ c :: post →
      c.command.Tells ((before ++ [b]).map Beat.primitive)
        (s₀.log ++ before.flatMap Beat.events ++ pre ++ [c]) := by
  -- what the page remembers is told by the log, and each primitive is applied to that page
  induction h with
  | start =>
      refine ⟨⟨page, hpage, ?_, ?_⟩, by simp⟩
      · rw [hfresh, List.flatMap_nil, List.append_nil]
        exact Hands.tracks_fresh hquiet
      · rw [hfresh]
        rfl
  | later _ _ ih => exact ih
  | @applied beats s page' p _ hslot ih =>
      obtain ⟨⟨page'', hslot', htracks, hplace⟩, htells⟩ := ih
      obtain rfl : page' = page'' := Option.some.inj (hslot.symm.trans hslot')
      have hrecounts := ChromePage.recounts_apply s.env p htracks hplace
      refine ⟨⟨_, rfl, ?_, ?_⟩, fun before b after pre c post hsplit hevents ↦ ?_⟩
      · rw [List.flatMap_append, List.flatMap_singleton, ← List.append_assoc]
        exact hrecounts.tracks
      · rw [List.map_append]
        exact hrecounts.place
      · -- the command belongs to the last primitive or to an earlier one
        rcases List.eq_nil_or_concat after with rfl | ⟨after, b', rfl⟩
        · obtain ⟨rfl, hb⟩ := List.append_inj' hsplit rfl
          obtain rfl : s.beat page' p = b := by simpa using hb
          rw [List.map_append]
          exact hrecounts.tells pre c post hevents
        · have hsplit' : beats ++ [s.beat page' p] = (before ++ b :: after) ++ [b'] := by
            simpa using hsplit
          exact htells before b after pre c post (List.append_inj' hsplit' rfl).1 hevents

/-- A row of dispatches on a fresh page, by the primitives `beats` that were applied to it. -/
structure Account (w₀ : World (slowChrome delay)) (actions : List Action)
    (beats : List (Beat (slowChrome delay))) (w : World (slowChrome delay)) (page : ChromePage) :
    Prop where
  plays : w₀.scene.Plays beats w.scene
  asked : AllAsk actions (beats.map Beat.primitive)
  log : w.scene.log = w₀.scene.log ++ beats.flatMap Beat.events
  tells : ∀ before b after pre c post, beats = before ++ b :: after → b.events = pre ++ c :: post →
    c.command.Tells ((before ++ [b]).map Beat.primitive)
      (w₀.scene.log ++ before.flatMap Beat.events ++ pre ++ [c])
  slot : w.slot = some page
  buttons : page.hands.buttons.mask = 0
  modifiers : page.hands.modifiers.mask = 0

/-- A browser that has been launched has a fresh page, and nothing was pressed on the way. -/
theorem fresh_launch (c : Config) (chrome : Chrome) {page : ChromePage}
    (hlaunch : (Chrome.launch c chrome).result = .ok page) :
    page.hands = {} ∧ ∀ s ∈ (Chrome.launch c chrome).events, s.command.edge? = none := by
  rcases hinstalled : chrome.isInstalled c.chromeExecutable with _ | _
  · simp [Chrome.launch, hinstalled] at hlaunch
  · rcases hsend : Chrome.send { chrome with launched := some c.launchArguments }
      (.createTarget Chrome.blank) with ⟨_ | trouble, chrome'⟩
    · simp only [Chrome.launch, hinstalled, if_true, hsend, Except.ok.injEq] at hlaunch ⊢
      exact ⟨hlaunch ▸ rfl, by simp [Command.edge?]⟩
    · simp [Chrome.launch, hinstalled, hsend] at hlaunch

/-- Letting everything go sends a command for each bit that is set, whatever the answers. And
however dispatches follow one another on a fresh page and whatever the browser refuses, each
command tells where the pointer was last asked to be and what was last pressed, and after each
dispatch no bit is set. -/
theorem row_tells {w₀ w : World (slowChrome delay)} {actions : List Action} (h : Row w₀ actions w)
    (hpage : w₀.slot = some page) (hfresh : page.hands = {})
    (hquiet : ∀ c ∈ w₀.scene.log, c.command.edge? = none) :
    (∀ (chrome : Chrome) (page : ChromePage),
      ChromePage.LetsGo chrome page
        (ChromePage.lifts page.hands.buttons.mask page.hands.modifiers.mask)
        (ChromePage.apply .releaseAll chrome page)) ∧
    ∃ beats page', Account w₀ actions beats w page' := by
  refine ⟨ChromePage.letsGo_releaseAll, ?_⟩
  have hidle₀ : ∀ x, page.hands.has x = false := hfresh ▸ Hands.has_fresh
  obtain ⟨beats, page', hplays, hasked, hslot, hidle⟩ := h.idle hpage hidle₀
  obtain ⟨-, htells⟩ := recounts_of_plays hplays hpage hfresh hquiet
  exact ⟨beats, page', hplays, hasked, hplays.shows.log_eq, htells, hslot,
    HeldButtons.mask_eq_zero fun b ↦ hidle (.button b),
    HeldModifiers.mask_eq_zero fun m ↦ hidle (.modifier m)⟩

/-- A browser that refuses every other pointer event and the first key event. -/
def balkyChrome : Chrome where
  trouble := fun method nth ↦
    if method = "Input.dispatchMouseEvent" ∧ nth % 2 = 0 ∨
        method = "Input.dispatchKeyEvent" ∧ nth = 1 then some (.refused (-32000) "no")
    else none

/-- A session with that browser, slow and just launched. -/
def balkyWorld : World (slowChrome fun _ _ ↦ 100) :=
  let launched := Chrome.launch {} balkyChrome
  { env := launched.env
    slot := launched.result.toOption
    events := launched.events.map fun s ↦ (0, s) }

/-- The world after a drag there, and a key combination a second later. -/
def balkyRow : World (slowChrome fun _ _ ↦ 100) :=
  let caller : Caller := { sampler := fun _ ↦ (0, .ok "") }
  let dragged := ((BrowserPilot.dispatch {} (.drag [⟨1, 2⟩, ⟨3, 4⟩]) .never).run.aloneAfter 0
    balkyWorld caller).2.1
  ((BrowserPilot.dispatch {} (.keypress ["ctrl", "a"]) .never).run.aloneAfter 20
    { dragged with clock := dragged.clock + 1000 } caller).2.1

theorem balkyRow_tells : ∃ page, (Chrome.launch {} balkyChrome).result = .ok page ∧
    Row balkyWorld [.drag [⟨1, 2⟩, ⟨3, 4⟩], .keypress ["ctrl", "a"]] balkyRow ∧
      balkyWorld.slot = some page ∧ page.hands = {} ∧
      (∀ c ∈ balkyWorld.scene.log, c.command.edge? = none) ∧
      ∃ beats page', Account balkyWorld [.drag [⟨1, 2⟩, ⟨3, 4⟩], .keypress ["ctrl", "a"]] beats
        balkyRow page' := by
  have hdrag : Row balkyWorld ([] ++ [.drag [⟨1, 2⟩, ⟨3, 4⟩]])
      ((BrowserPilot.dispatch {} (.drag [⟨1, 2⟩, ⟨3, 4⟩]) .never).run.aloneAfter 0 balkyWorld
        { sampler := fun _ ↦ (0, .ok "") }).2.1 := .dispatch _ _ _ _ _ .start
  have h : Row balkyWorld ([.drag [⟨1, 2⟩, ⟨3, 4⟩]] ++ [.keypress ["ctrl", "a"]]) balkyRow :=
    .dispatch _ _ _ _ _ (.later hdrag (Nat.le_add_right _ _))
  have hlaunch : (Chrome.launch {} balkyChrome).result = .ok {} := rfl
  obtain ⟨hfresh, hunpressed⟩ := fresh_launch {} balkyChrome hlaunch
  have hslot : balkyWorld.slot = some {} := congrArg Except.toOption hlaunch
  have hlog : balkyWorld.scene.log = (Chrome.launch {} balkyChrome).events := rfl
  have hquiet : ∀ c ∈ balkyWorld.scene.log, c.command.edge? = none := hlog ▸ hunpressed
  exact ⟨{}, hlaunch, h, hslot, hfresh, hquiet, (row_tells h hslot hfresh hquiet).2⟩

end Dispatch

end BrowserPilot
