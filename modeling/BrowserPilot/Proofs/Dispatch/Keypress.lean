import BrowserPilot.Proofs.Dispatch.Row
import BrowserPilot.Proofs.Page.Keystroke

namespace BrowserPilot

/-!
# What a key combination leaves down when it fails

The keys of a combination go down one after the other, until the browser refuses
one. Then everything is let go that the page remembers, and that are the modifiers:
the refused key among them, but none of the keys that are no modifiers.
-/

theorem Task.Meets.primitive_inTime {B : Backend} {queued : Nat} {s : Scene B} {page : B.Page}
    {p : Primitive} {d : Deadline} (hpage : s.slot = some page)
    (hin : s.clock + B.delay page p ≤ d.instant) :
    Task.Meets queued (· = s) (Task.primitive p (some d)) fun r s' ↦
      r = (B.apply p s.env page).result ∧
        s' = { s with clock := s.clock + B.delay page p }.applied page p := by
  have hnow : s.clock ≤ d.instant := Nat.le_trans (Nat.le_add_right _ _) hin
  refine Task.Meets.primitive hpage (by simpa using hnow) (fun _ ↦ ⟨rfl, rfl⟩) fun d' hd hlate ↦ ?_
  obtain rfl : d = d' := by simpa using hd
  exact absurd hin (Nat.not_le_of_lt hlate)

theorem Scene.log_applied {B : Backend} (s : Scene B) (page : B.Page) (p : Primitive) :
    (s.applied page p).log = s.log ++ (B.apply p s.env page).events := by
  simp [log, applied, Function.comp_def]

namespace Dispatch

open ChromePage

variable {delay : ChromePage → Primitive → Nat} {s₀ s s' : Scene (slowChrome delay)}
  {page : ChromePage} {h : Hands} {queued δ : Nat} {d : Deadline} {trouble : Trouble}
  {before after : List String} {key : String}

/-- All that was sent, as keystrokes; other commands are none. -/
def keystrokes (s : Scene (slowChrome delay)) : List (Option Keystroke) :=
  s.log.map fun c ↦ Sent.keystroke? c

theorem keystrokes_applied (s : Scene (slowChrome delay)) (page : ChromePage) (p : Primitive) :
    keystrokes (s.applied page p) =
      keystrokes s ++ (ChromePage.apply p s.env page).events.map Sent.keystroke? :=
  (congrArg (List.map fun c ↦ Sent.keystroke? c) (Scene.log_applied s page p)).trans List.map_append

/-- Since the scene `s₀` the keys `before` went down, and then `key` was refused. -/
structure Refused (h : Hands) (before : List String) (key : String)
    (s₀ s : Scene (slowChrome delay)) : Prop where
  page : ∃ page, s.slot = some page ∧
    page.hands = ((before ++ [key]).map .keyDown).foldl Stroke.after h
  accepts : s.env.AcceptsKeys
  keystrokes : keystrokes s =
    keystrokes s₀ ++ (before.map Keystroke.press ++ [Keystroke.refusedPress key]).map some

/-- The keys go down up to the first that is refused, if there is time for all of them. -/
theorem applyAll_refused (hδ : ∀ page p, delay page p ≤ δ) (key : String) (rest : List Primitive)
    (before : List String) :
    ∀ {s₀ : Scene (slowChrome delay)} {page : ChromePage}, s₀.slot = some page →
      s₀.env.RefusesKey before.length trouble →
      s₀.clock + (before.length + 1) * δ ≤ d.instant →
      Task.Meets queued (· = s₀) (applyAll d (before.map .keyDown ++ .keyDown key :: rest))
        fun r s ↦ r = .error (failure "Key event failed" trouble) ∧
          Refused page.hands before key s₀ s := by
  -- each key that goes down takes one from the events that the browser still accepts
  induction before with
  | nil =>
      intro s₀ page hpage hrefuses htime
      obtain ⟨_, rfl, hresult, hhands, haccepts, hevents⟩ :=
        keyDown_refused page key hrefuses
      have hin : s₀.clock + delay page (.keyDown key) ≤ d.instant :=
        Nat.le_trans (Nat.add_le_add_left (hδ _ _) _) (by simpa using htime)
      refine (Task.Meets.primitive_inTime hpage hin).bind (fun _ ↦ ?_) fun e s hs ↦ ?_
      · exact Task.Meets.of_forall fun s hs ↦ absurd (hs.1.trans hresult) nofun
      · obtain ⟨he, rfl⟩ := hs
        refine ⟨he.trans hresult, ⟨_, rfl, hhands⟩, haccepts, ?_⟩
        exact (keystrokes_applied _ _ _).trans (congrArg (keystrokes s₀ ++ ·) hevents)
  | cons k before ih =>
      intro s₀ page hpage hrefuses htime
      obtain ⟨_, rfl, hresult, hhands, hlater, hevents⟩ :=
        keyDown_accepted page k hrefuses
      have hrest : s₀.clock + delay page (.keyDown k) + (before.length + 1) * δ ≤ d.instant :=
        calc s₀.clock + delay page (.keyDown k) + (before.length + 1) * δ
            ≤ s₀.clock + δ + (before.length + 1) * δ :=
              Nat.add_le_add_right (Nat.add_le_add_left (hδ _ _) _) _
          _ = s₀.clock + (before.length + 1 + 1) * δ := by
              rw [Nat.succ_mul (before.length + 1), Nat.add_assoc, Nat.add_comm δ]
          _ ≤ d.instant := htime
      have hin : s₀.clock + delay page (.keyDown k) ≤ d.instant :=
        Nat.le_trans (Nat.le_add_right _ _) hrest
      refine (Task.Meets.primitive_inTime hpage hin).bind (fun _ ↦ ?_) fun e s hs ↦ ?_
      · refine (ih rfl hlater hrest).mono (fun s hs ↦ hs.2) fun r s hs ↦ ⟨hs.1, ?_⟩
        obtain ⟨⟨page', hslot, hpage'⟩, haccepts, hkeys⟩ := hs.2
        have hfirst := (keystrokes_applied
          { s₀ with clock := s₀.clock + delay page (.keyDown k) } page (.keyDown k)).trans
            (congrArg (keystrokes s₀ ++ ·) hevents)
        refine ⟨⟨page', hslot, hpage'.trans ?_⟩, haccepts, ?_⟩
        · exact congrArg (((before ++ [key]).map .keyDown).foldl Stroke.after ·) hhands
        · exact (hkeys.trans (congrArg (· ++ _) hfirst)).trans (List.append_assoc _ _ _)
      · exact absurd (hs.1.trans hresult) nofun

theorem release_refused (hidle : ∀ x, h.has x = false) (hrefused : Refused h before key s₀ s) :
    Task.Meets queued (· = s) release fun r s' ↦ r = .ok () ∧
      keystrokes s' = keystrokes s₀ ++ (Keystroke.interrupted before key).map some := by
  obtain ⟨⟨page, hslot, hhands⟩, haccepts, hkeys⟩ := hrefused
  refine (release_meets hslot).mono (fun _ h ↦ h) ?_
  rintro r s' ⟨hr, rfl⟩
  have hlifts := releaseAll_of_presses hidle hhands haccepts
  refine ⟨hr, (keystrokes_applied _ page .releaseAll).trans ?_⟩
  change keystrokes s ++ (ChromePage.apply .releaseAll s.env page).events.map _ = _
  rw [hlifts, hkeys, List.append_assoc, ← List.map_append]
  rfl

/-- The whole dispatch of a combination, if there is time up to the key that is refused. -/
theorem dispatch_refused {c : Config} {cancel : Cancellation} (hδ : ∀ page p, delay page p ≤ δ)
    (hslot : s₀.slot = some page) (hidle : ∀ x, page.hands.has x = false)
    (hrefuses : s₀.env.RefusesKey before.length trouble)
    (hfit : (deadline c s₀.clock).instant < horizon)
    (htime : s₀.clock + queued + (before.length + 1) * δ ≤ (deadline c s₀.clock).instant) :
    Task.Meets queued (· = s₀)
      (BrowserPilot.dispatch c (.keypress (before ++ key :: after)) cancel) fun r s ↦
        r = .error (failure "Key event failed" trouble) ∧
          keystrokes s = keystrokes s₀ ++
            (Keystroke.interrupted (before.map Key.native) (Key.native key)).map some := by
  have hgranted : s₀.clock + queued ≤ (deadline c s₀.clock).instant :=
    Nat.le_trans (Nat.le_add_right _ _) htime
  have hplan : (Action.keypress (before ++ key :: after)).plan =
      (before.map Key.native).map .keyDown ++ .keyDown (Key.native key) ::
        ((after.map Key.native).map .keyDown ++
          ((before ++ key :: after).map Key.native).reverse.map .keyUp) := by
    simp [Action.plan]
  refine dispatch_granted hslot hfit hgranted ?_
  let s₁ : Scene (slowChrome delay) := { s₀ with clock := s₀.clock + queued }
  have hpresses : Task.Meets queued (· = s₁) (applyAll (deadline c s₀.clock)
      (Action.keypress (before ++ key :: after)).plan) fun r s ↦
        r = .error (failure "Key event failed" trouble) ∧
          Refused page.hands (before.map Key.native) (Key.native key) s₁ s := by
    rw [hplan]
    exact applyAll_refused hδ _ _ _ hslot (by simpa using hrefuses) (by simpa using htime)
  have hperform : Task.Meets queued (· = s₁)
      (perform c (.keypress (before ++ key :: after)) cancel (deadline c s₀.clock)) fun r s ↦
        r = .error (failure "Key event failed" trouble) ∧
          Refused page.hands (before.map Key.native) (Key.native key) s₁ s :=
    perform_meets hpresses (fun requested ha ↦ by cases ha) (fun _ s hs ↦ hs) fun e s hs ↦ hs
  refine performAndObserve_of_error hperform (Task.Meets.of_forall fun s hrefused ↦ ?_)
  exact (release_refused hidle hrefused).mono (fun _ h ↦ h) fun r s' h ↦ ⟨h.1, rfl, h.2⟩

/-- What a key combination leaves down of which one key is refused: the dispatch fails and lets the
modifiers come up, those that went down and the refused one, and every other key that went down
stays down. -/
theorem keys_stay_down {c : Config} (cancel : Cancellation) (before after : List String)
    (key : String) {queued : Nat} {w : World (slowChrome delay)} (k : Caller) {page : ChromePage}
    (hpage : w.slot = some page) (hidle : ∀ x, page.hands.has x = false)
    (hrefuses : w.env.RefusesKey before.length trouble) (hδ : ∀ page p, delay page p ≤ δ)
    (hfit : (deadline c w.clock).instant < horizon)
    (htime : w.clock + queued + (before.length + 1) * δ ≤ (deadline c w.clock).instant) :
    ∃ w' k' strokes, (BrowserPilot.dispatch c (.keypress (before ++ key :: after))
        cancel).run.aloneAfter queued w k =
          (.returned (.error (failure "Key event failed" trouble)), w', k') ∧
      keystrokes w'.scene = keystrokes w.scene ++ strokes.map some ∧
      strokes = Keystroke.interrupted (before.map Key.native) (Key.native key) ∧
      (∀ name ∈ before, ⟨Key.define (Key.native name), false, false⟩ ∈ strokes ↔
        (Key.define (Key.native name)).modifier.isSome = true) ∧
      ∀ d, Keystroke.leavesDown d strokes = true ↔
        d.modifier = none ∧ ∃ name ∈ before, Key.define (Key.native name) = d := by
  have hrefused : Task.Meets queued (· = w.scene)
      (BrowserPilot.dispatch c (.keypress (before ++ key :: after)) cancel) fun r s ↦
        r = .error (failure "Key event failed" trouble) ∧
          keystrokes s = keystrokes w.scene ++
            (Keystroke.interrupted (before.map Key.native) (Key.native key)).map some :=
    dispatch_refused hδ hpage hidle hrefuses hfit htime
  obtain ⟨r, w', k', hrun, rfl, hkeys⟩ := hrefused w k rfl
  refine ⟨w', k', _, hrun, hkeys, rfl, fun name hname ↦ ?_, fun d ↦ ?_⟩
  · exact Keystroke.up_mem_interrupted (List.mem_map_of_mem hname)
  · rw [Keystroke.leavesDown_interrupted]
    -- the names that are left to match are the native ones
    refine and_congr_right fun _ ↦ ⟨?_, ?_⟩
    · rintro ⟨_, hk, rfl⟩
      obtain ⟨name, hname, rfl⟩ := List.mem_map.1 hk
      exact ⟨name, hname, rfl⟩
    · rintro ⟨name, hname, rfl⟩
      exact ⟨_, List.mem_map_of_mem hname, rfl⟩

def pickyChrome (nth : Nat) : Chrome where
  trouble := fun method n ↦
    if method = "Input.dispatchKeyEvent" ∧ n = nth then some (.refused (-32000) "no") else none

/-- A session with a slow browser that refuses the third key event. -/
def pickyWorld : World (slowChrome fun _ _ ↦ 100) :=
  { env := pickyChrome 3, slot := some {} }

theorem pickyWorld_keys_stay_down :
    pickyWorld.slot = some {} ∧ (∀ x, Hands.has {} x = false) ∧
      pickyWorld.env.RefusesKey ["Shift", "a"].length (.refused (-32000) "no") ∧
      (deadline {} pickyWorld.clock).instant < horizon ∧
      ∃ w' k' strokes, (BrowserPilot.dispatch {} (.keypress (["Shift", "a"] ++ "b" :: ["c"]))
          .never).run.aloneAfter 50 pickyWorld { sampler := fun _ ↦ (0, .ok "") } =
            (.returned (.error (failure "Key event failed" (.refused (-32000) "no"))), w', k') ∧
        keystrokes w'.scene = keystrokes pickyWorld.scene ++ strokes.map some ∧
        strokes = Keystroke.interrupted (["Shift", "a"].map Key.native) (Key.native "b") ∧
        (∀ name ∈ ["Shift", "a"], ⟨Key.define (Key.native name), false, false⟩ ∈ strokes ↔
          (Key.define (Key.native name)).modifier.isSome = true) ∧
        ∀ d, Keystroke.leavesDown d strokes = true ↔
          d.modifier = none ∧ ∃ name ∈ ["Shift", "a"], Key.define (Key.native name) = d := by
  have hrefuses : pickyWorld.env.RefusesKey ["Shift", "a"].length (.refused (-32000) "no") := by
    intro i
    have hplace : 0 + 1 + i = 3 ↔ i = 2 := by omega
    simp [Chrome.keyTrouble, Chrome.count, pickyWorld, pickyChrome, hplace]
  exact ⟨rfl, Hands.has_fresh, hrefuses, by decide,
    keys_stay_down .never ["Shift", "a"] ["c"] "b" { sampler := fun _ ↦ (0, .ok "") } rfl
      Hands.has_fresh hrefuses (fun _ _ ↦ Nat.le_refl 100) (by decide) (by decide)⟩

/-- In a browser that refuses the second of two keys the first one stays down: it is no modifier,
and nothing is sent after the refusal. -/
theorem first_key_stays_down :
    let w : World chromeBackend := { env := pickyChrome 2, slot := some {} }
    let run := (BrowserPilot.dispatch {} (.keypress ["a", "b"]) .never).run.aloneAfter 0 w
      { sampler := fun _ ↦ (0, .ok "") }
    (∃ e, run.1 = .returned (.error e)) ∧
      sent run.2.1.scene = [⟨.key ⟨.down, Key.define "a", 0⟩, false⟩,
        ⟨.key ⟨.down, Key.define "b", 0⟩, true⟩] ∧
      Keystroke.leavesDown (Key.define "a")
        ((sent run.2.1.scene).filterMap Sent.keystroke?) = true :=
  ⟨⟨_, rfl⟩, rfl, rfl⟩

end Dispatch

end BrowserPilot
