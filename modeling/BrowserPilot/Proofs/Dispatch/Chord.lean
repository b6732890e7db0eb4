import BrowserPilot.Proofs.Dispatch.Keypress
import BrowserPilot.Proofs.Dispatch.Waiting
import BrowserPilot.Proofs.Page.Chord

namespace BrowserPilot

/-!
# Key combinations that succeed

If the browser accepts the key events of a combination and there is time for all of
them, the commands of its keys are sent, and a picture is all that may follow.
-/

namespace Dispatch

open ChromePage

variable {delay : ChromePage → Primitive → Nat} {s₀ s : Scene (slowChrome delay)}
  {page : ChromePage} {queued n : Nat} {d : Deadline}

/-- All that was sent to the browser. -/
def outbox (s : Scene (slowChrome delay)) : List Sent := s.log

theorem outbox_applied (s : Scene (slowChrome delay)) (page : ChromePage) (p : Primitive) :
    outbox (s.applied page p) = outbox s ++ (ChromePage.apply p s.env page).events :=
  Scene.log_applied s page p

/-- How long it takes to apply some input primitives to a page. -/
def inputTime (delay : ChromePage → Primitive → Nat) : ChromePage → List Primitive → Nat
  | _, [] => 0
  | page, p :: ps => delay page p + inputTime delay
      { page with hands := (Stroke.ofPrimitive p).foldl Stroke.after page.hands } ps

/-- Since the scene `s₀`, in which the page was `page`, strokes have been made, and all in time. -/
structure Struck (s₀ : Scene (slowChrome delay)) (page : ChromePage) (d : Deadline)
    (ss : List Stroke) (s : Scene (slowChrome delay)) : Prop where
  slot : s.slot = some { page with hands := ss.foldl Stroke.after page.hands }
  outbox : outbox s = outbox s₀ ++ Stroke.accepted page.hands ss
  inTime : s.clock ≤ d.instant

theorem Struck.trans {s₁ : Scene (slowChrome delay)} {ss ss' : List Stroke}
    (h : Struck s₀ page d ss s₁)
    (h' : Struck s₁ { page with hands := ss.foldl Stroke.after page.hands } d ss' s) :
    Struck s₀ page d (ss ++ ss') s := by
  refine ⟨h'.slot.trans ?_, h'.outbox.trans ?_, h'.inTime⟩
  · rw [List.foldl_append]
  · rw [h.outbox, Stroke.accepted_append, List.append_assoc]

theorem primitive_struck {p : Primitive} (hp : ∃ key, p = .keyDown key ∨ p = .keyUp key)
    (hpage : s₀.slot = some page) (haccepts : s₀.env.AcceptsNext (n + 1))
    (hin : s₀.clock + delay page p ≤ d.instant) :
    Task.Meets queued (· = s₀) (Task.primitive p (some d)) fun r s ↦
      (∃ reply, r = .ok reply) ∧ s.env.AcceptsNext n ∧ s.clock = s₀.clock + delay page p ∧
        Struck s₀ page d (Stroke.ofPrimitive p) s := by
  obtain ⟨⟨reply, hok⟩, haccepts', hpage', hevents⟩ := apply_key page hp haccepts
  refine (Task.Meets.primitive_inTime hpage hin).mono (fun _ hs ↦ hs) ?_
  rintro r s ⟨hr, rfl⟩
  refine ⟨⟨reply, hr.trans hok⟩, haccepts', rfl, congrArg some hpage', ?_, hin⟩
  exact (outbox_applied _ page p).trans (congrArg (outbox s₀ ++ ·) hevents)

theorem applyAll_struck (ps : List Primitive)
    (hkeys : ∀ p ∈ ps, ∃ key, p = .keyDown key ∨ p = .keyUp key) :
    ∀ {s₀ : Scene (slowChrome delay)} {page : ChromePage}, s₀.slot = some page →
      s₀.env.AcceptsNext ps.length → s₀.clock + inputTime delay page ps ≤ d.instant →
      Task.Meets queued (· = s₀) (applyAll d ps) fun r s ↦
        r = .ok () ∧ Struck s₀ page d (ps.flatMap Stroke.ofPrimitive) s := by
  -- each key finds the page as the one before it left it, and the time that is left
  induction ps with
  | nil =>
      intro s₀ page hpage _ htime
      refine Task.Meets.pure () fun s hs ↦ ⟨rfl, ?_⟩
      subst hs
      exact ⟨hpage, (List.append_nil _).symm, htime⟩
  | cons p ps ih =>
      intro s₀ page hpage haccepts htime
      obtain ⟨hp, hps⟩ := List.forall_mem_cons.1 hkeys
      have hrest : s₀.clock + delay page p + inputTime delay
          { page with hands := (Stroke.ofPrimitive p).foldl Stroke.after page.hands } ps ≤
            d.instant := Nat.add_assoc _ _ _ ▸ htime
      have hin : s₀.clock + delay page p ≤ d.instant :=
        Nat.le_trans (Nat.le_add_right _ _) hrest
      refine (primitive_struck hp hpage haccepts hin).bind (fun _ ↦ ?_) fun e s hs ↦ ?_
      · refine Task.Meets.of_forall fun s₁ ⟨_, haccepts₁, hclock, hstruck⟩ ↦ ?_
        exact (ih hps hstruck.slot haccepts₁ (hclock ▸ hrest)).mono (fun _ hs ↦ hs)
          fun r s hs ↦ ⟨hs.1, hstruck.trans hs.2⟩
      · obtain ⟨_, hs⟩ := hs.1
        cases hs

/-- The whole dispatch of a combination, up to what is seen of it. -/
theorem dispatch_struck {c : Config} {cancel : Cancellation} (keys : List String)
    (hpage : s₀.slot = some page) (haccepts : s₀.env.AcceptsNext (2 * keys.length))
    (hfit : (deadline c s₀.clock).instant < horizon)
    (htime : s₀.clock + queued + inputTime delay page (Action.keypress keys).plan ≤
      (deadline c s₀.clock).instant) :
    Task.Meets queued (· = s₀) (BrowserPilot.dispatch c (.keypress keys) cancel) fun r s ↦
      let chord := Stroke.chord (keys.map Key.native)
      ∃ s', Struck s₀ page (deadline c s₀.clock) chord s' ∧
        Pictured s' { page with hands := chord.foldl Stroke.after page.hands }
          (deadline c s₀.clock) r s := by
  have hkeys : ∀ p ∈ (Action.keypress keys).plan, ∃ key, p = .keyDown key ∨ p = .keyUp key := by
    intro p hp
    simp only [Action.plan, List.mem_append, List.mem_map] at hp
    rcases hp with ⟨key, -, rfl⟩ | ⟨key, -, rfl⟩
    · exact ⟨key, .inl rfl⟩
    · exact ⟨key, .inr rfl⟩
  have hlength : (Action.keypress keys).plan.length = 2 * keys.length := by
    simp [Action.plan, Nat.two_mul]
  have hgranted : s₀.clock + queued ≤ (deadline c s₀.clock).instant :=
    Nat.le_trans (Nat.le_add_right _ _) htime
  refine dispatch_granted hpage hfit hgranted ?_
  let s₁ : Scene (slowChrome delay) := { s₀ with clock := s₀.clock + queued }
  have hplan : Task.Meets queued (· = s₁) (applyAll (deadline c s₀.clock)
      (Action.keypress keys).plan) fun r s ↦ r = .ok () ∧
        Struck s₁ page (deadline c s₀.clock) (Stroke.chord (keys.map Key.native)) s :=
    Action.strokes_keypress keys ▸ applyAll_struck _ hkeys hpage (hlength ▸ haccepts) htime
  have hperform : Task.Meets queued (· = s₁)
      (perform c (.keypress keys) cancel (deadline c s₀.clock)) fun r s ↦ r = .ok () ∧
        Struck s₁ page (deadline c s₀.clock) (Stroke.chord (keys.map Key.native)) s :=
    perform_meets hplan (fun requested ha ↦ by cases ha) (fun _ _ hs ↦ hs) fun _ _ hs ↦ hs
  refine performAndObserve_of_ok hperform (Task.Meets.of_forall fun s hstruck ↦ ?_)
  exact (observe_pictured hstruck.slot hstruck.inTime).mono (fun _ hs ↦ hs)
    fun r s' hr ↦ ⟨s, ⟨hstruck.slot, hstruck.outbox, hstruck.inTime⟩, hr⟩

/-- A picture adds at most one command, and the page remembers what it did. -/
theorem Pictured.quiet {r : Result Observation} (h : Pictured s₀ page d r s)
    (hpage : s₀.slot = some page) :
    ∃ rest page', outbox s = outbox s₀ ++ rest ∧
      (rest = [] ∨ ∃ failed, rest = [⟨.capture none, failed⟩]) ∧
      s.slot = some page' ∧ page'.hands = page.hands := by
  by_cases hin : s₀.clock + delay page (.screenshot false) ≤ d.instant
  · obtain ⟨-, rfl⟩ := h.seen hin
    obtain ⟨failed, hevents⟩ := events_screenshot s₀.env page
    have hsilent : Silent page (page.screenshot s₀.env false) := silent_screenshot s₀.env false
    refine ⟨[⟨.capture none, failed⟩], _, ?_, .inr ⟨failed, rfl⟩, rfl, hsilent.hands⟩
    exact (outbox_applied _ page (.screenshot false)).trans (congrArg (outbox s₀ ++ ·) hevents)
  · obtain ⟨-, rfl⟩ := h.unseen (Nat.lt_of_not_le hin)
    exact ⟨[], page, (List.append_nil _).symm, .inl rfl, hpage, rfl⟩

/-- What a key combination sends if the browser accepts its key events and there is time for them:
each key that goes down tells the modifiers among the keys up to it and types its text unless
Control or Meta is one of them, no key that comes up has a text, and no modifier is left. -/
theorem chord_tells_modifiers (c : Config) (keys : List String) (cancel : Cancellation)
    (queued : Nat) (w : World (slowChrome delay)) (k : Caller) {page : ChromePage}
    (hpage : w.slot = some page) (hidle : ∀ m, page.hands.modifiers.has m = false)
    (haccepts : w.env.AcceptsNext (2 * keys.length))
    (hfit : (deadline c w.clock).instant < horizon)
    (htime : w.clock + queued + inputTime delay page (Action.keypress keys).plan ≤
      (deadline c w.clock).instant) :
    ∃ r w' k' downs ups rest page',
      (BrowserPilot.dispatch c (.keypress keys) cancel).run.aloneAfter queued w k =
        (.returned r, w', k') ∧
      Chord (keys.map Key.native) downs ups ∧
      outbox w'.scene = outbox w.scene ++ (downs ++ ups).map (⟨·, false⟩) ++ rest ∧
      (rest = [] ∨ ∃ failed, rest = [⟨.capture none, failed⟩]) ∧
      w'.slot = some page' ∧ page'.hands.modifiers.mask = 0 := by
  have hsent : Task.Meets queued (· = w.scene) (BrowserPilot.dispatch c (.keypress keys) cancel)
      fun r s ↦ ∃ s', Struck w.scene page (deadline c w.clock)
        (Stroke.chord (keys.map Key.native)) s' ∧ Pictured s' _ (deadline c w.clock) r s :=
    dispatch_struck keys hpage haccepts hfit htime
  obtain ⟨r, w', k', hrun, s', hstruck, hpictured⟩ := hsent w k rfl
  obtain ⟨rest, page', houtbox, hrest, hslot, hhands⟩ := hpictured.quiet hstruck.slot
  obtain ⟨downs, ups, hcommands, hchord⟩ := Stroke.commands_chord hidle (keys.map Key.native)
  refine ⟨r, w', k', downs, ups, rest, page', hrun, hchord, ?_, hrest, hslot, ?_⟩
  · rw [houtbox, hstruck.outbox, Stroke.accepted, hcommands]
  · rw [hhands]
    exact Stroke.mask_chord hidle _

/-- A session with a slow browser that refuses the ninth key event, on a page that holds the left
button. -/
def chordWorld : World (slowChrome fun _ _ ↦ 100) :=
  { env := pickyChrome 9, slot := some { hands := { buttons := { left := true } } } }

/-- A combination there in which the same key comes before Control and after it. -/
theorem chordWorld_tells_modifiers :
    let page : ChromePage := { hands := { buttons := { left := true } } }
    let keys := ["shift", "a", "CTRL", "a"]
    chordWorld.slot = some page ∧ (∀ m, page.hands.modifiers.has m = false) ∧
      chordWorld.env.AcceptsNext (2 * keys.length) ∧
      (deadline {} chordWorld.clock).instant < horizon ∧
      chordWorld.clock + 50 + inputTime (fun _ _ ↦ 100) page (Action.keypress keys).plan ≤
        (deadline {} chordWorld.clock).instant ∧
      ∃ r w' k', ∃ downs ups : List Command, ∃ rest page',
        (BrowserPilot.dispatch {} (.keypress keys) .never).run.aloneAfter 50 chordWorld
            { sampler := fun _ ↦ (0, .ok "") } =
            (.returned r, w', k') ∧
        outbox w'.scene = (downs ++ ups).map (⟨·, false⟩) ++ rest ∧
        (∃ c, downs[1]? = some c ∧ c.params.get? "modifiers" = some (Json.ofNat 8) ∧
          c.text? "type" = some "keyDown" ∧ c.text? "text" = some "a") ∧
        (∃ c, downs[3]? = some c ∧ c.params.get? "modifiers" = some (Json.ofNat 10) ∧
          c.text? "type" = some "rawKeyDown" ∧ c.params.get? "text" = none) ∧
        w'.slot = some page' ∧ page'.hands.modifiers.mask = 0 := by
  intro page keys
  have hidle : ∀ m, page.hands.modifiers.has m = false := fun m ↦ by cases m <;> rfl
  have haccepts : chordWorld.env.AcceptsNext (2 * keys.length) := by
    intro i hi
    have hplace : 0 + 1 + i ≠ 9 := Nat.ne_of_lt (Nat.add_lt_add_left hi (0 + 1))
    simp [Chrome.keyTrouble, Chrome.count, chordWorld, pickyChrome, hplace]
  have hslot : chordWorld.slot = some page := rfl
  obtain ⟨r, w', k', downs, ups, rest, page', hrun, hchord, houtbox, -, hslot', hmask⟩ :=
    chord_tells_modifiers {} keys .never 50 chordWorld { sampler := fun _ ↦ (0, .ok "") } hslot
      hidle haccepts (by decide) (by decide)
  have hkeys : keys.map Key.native = ["Shift", "a", "Control", "a"] := by decide
  rw [hkeys] at hchord
  obtain ⟨before, hbefore, hpressed⟩ := hchord.down ["Shift"] "a" ["Control", "a"] rfl
  obtain ⟨after, hafter, hraw⟩ := hchord.down ["Shift", "a", "Control"] "a" [] rfl
  obtain ⟨htype, htext⟩ := hpressed.types ⟨rfl, by decide, by decide⟩
  obtain ⟨htype', htext'⟩ := hraw.raw fun h ↦ absurd h.2.1 (by decide)
  exact ⟨hslot, hidle, haccepts, by decide, by decide, r, w', k', downs, ups, rest, page', hrun,
    houtbox, ⟨before, hbefore, hpressed.modifiers, htype, htext⟩,
    ⟨after, hafter, hraw.modifiers, htype', htext'⟩, hslot', hmask⟩

end Dispatch

end BrowserPilot
