import BrowserPilot.Page.Chrome
import BrowserPilot.Proofs.Key.Definition

namespace BrowserPilot

/-!
# What stays pressed in the browser

The browser applies the commands that it does not refuse. What it then holds down is
read off these commands alone: the last press or release of a button or modifier
decides. The page remembers the same, as long as no command was refused.
-/

/-- What can be held down. -/
inductive Holdable
  | button (b : Button)
  | modifier (m : Key.Modifier)
  deriving DecidableEq, Repr

/-- The thing that a command presses or lets go, and whether it presses it. -/
def Command.edge? : Command → Option (Holdable × Bool)
  | .pointer e =>
    match e.kind, e.button with
    | .pressed, some (b, _) => some (.button b, true)
    | .released, some (b, _) => some (.button b, false)
    | _, _ => none
  | .key e => (Key.Modifier.ofKey? e.definition.key).map fun m ↦ (.modifier m, e.kind != .up)
  | _ => none

namespace Holdable

/-- Whether a thing is held after a press or a release, perhaps of something else. -/
def turn (x : Holdable) (held : Bool) : Option (Holdable × Bool) → Bool
  | some (y, down) => if y = x then down else held
  | none => held

/-- Whether the browser holds a thing after a command, which it may have refused. -/
def afterSent (x : Holdable) (held : Bool) (s : Sent) : Bool :=
  if s.failed then held else x.turn held s.command.edge?

/-- Whether the browser holds a thing after all commands that were sent to it. -/
def isPressed (x : Holdable) (log : List Sent) : Bool := log.foldl x.afterSent false

theorem isPressed_append (x : Holdable) (log new : List Sent) :
    x.isPressed (log ++ new) = new.foldl x.afterSent (x.isPressed log) :=
  List.foldl_append

@[simp] theorem isPressed_refused (x : Holdable) (log : List Sent) (c : Command) :
    x.isPressed (log ++ [⟨c, true⟩]) = x.isPressed log := by
  rw [isPressed_append]
  rfl

@[simp] theorem isPressed_accepted (x : Holdable) (log : List Sent) (c : Command) :
    x.isPressed (log ++ [⟨c, false⟩]) = x.turn (x.isPressed log) c.edge? := by
  rw [isPressed_append]
  rfl

theorem turn_eq_false_iff (x : Holdable) (edge? : Option (Holdable × Bool)) :
    x.turn true edge? = false ↔ edge? = some (x, false) := by
  rcases edge? with _ | ⟨y, down⟩
  · simp [turn]
  · by_cases h : y = x <;> simp [turn, h]

end Holdable

/-- Whether the page remembers a thing as held. -/
def Hands.has (h : Hands) : Holdable → Bool
  | .button b => h.buttons.has b
  | .modifier m => h.modifiers.has m

namespace Stroke

/-- The thing that a stroke presses or lets go, and whether it presses it. -/
def edge? : Stroke → Option (Holdable × Bool)
  | press b _ => some (.button b, true)
  | release b _ => some (.button b, false)
  | keyDown key => (Key.define key).modifier.map fun m ↦ (.modifier m, true)
  | keyUp key => (Key.define key).modifier.map fun m ↦ (.modifier m, false)
  | _ => none

theorem has_putButton (h : Hands) (down : Bool) (b : Button) (x : Holdable) :
    Hands.has { h with buttons := h.buttons.put down b } x =
      x.turn (h.has x) (some (.button b, down)) := by
  cases x with
  | modifier m => rfl
  | button b' =>
      by_cases hb : b = b'
      · subst hb
        simp [Hands.has, Holdable.turn]
      · simp [Hands.has, Holdable.turn, hb, HeldButtons.has_put_ne _ _ (Ne.symm hb)]

theorem has_withKey (h : Hands) (down : Bool) (key : String) (x : Holdable) :
    (withKey h down key).has x =
      x.turn (h.has x) ((Key.define key).modifier.map fun m ↦ (.modifier m, down)) := by
  unfold withKey
  cases (Key.define key).modifier with
  | none => rfl
  | some m =>
      cases x with
      | button b => rfl
      | modifier m' =>
          by_cases hm : m = m'
          · subst hm
            simp [Hands.has, Holdable.turn]
          · simp [Hands.has, Holdable.turn, hm, HeldModifiers.has_put_ne _ _ (Ne.symm hm)]

/-- A stroke turns what the page remembers. -/
theorem has_after (h : Hands) (s : Stroke) (x : Holdable) :
    (s.after h).has x = x.turn (h.has x) s.edge? := by
  cases s with
  | press b _ => exact has_putButton h true b x
  | release b _ => exact has_putButton h false b x
  | keyDown key => exact has_withKey h true key x
  | keyUp key => exact has_withKey h false key x
  | _ => rfl

theorem edge_command (h : Hands) (s : Stroke) : (s.command h).edge? = s.edge? := by
  cases s with
  | keyDown key =>
      simp only [command, Command.edge?, edge?, Key.modifier_define]
      unfold downKind
      split <;> rfl
  | keyUp key =>
      simp only [command, Command.edge?, edge?, Key.modifier_define]
      rfl
  | _ => rfl

/-- Whether a thing is held after strokes that all take effect. -/
def turns (x : Holdable) (held : Bool) (ss : List Stroke) : Bool :=
  ss.foldl (fun held s ↦ x.turn held s.edge?) held

theorem turns_append (x : Holdable) (held : Bool) (ss ss' : List Stroke) :
    turns x held (ss ++ ss') = turns x (turns x held ss) ss' :=
  List.foldl_append

theorem has_foldl (h : Hands) (ss : List Stroke) (x : Holdable) :
    (ss.foldl after h).has x = turns x (h.has x) ss := by
  induction ss generalizing h with
  | nil => rfl
  | cons s ss ih => exact (ih _).trans (by rw [has_after]; rfl)

theorem turns_of_releases {x : Holdable} {held : Bool} {ss : List Stroke}
    (h : ∀ s ∈ ss, ∀ y down, s.edge? = some (y, down) → down = false) :
    turns x held ss = (held && !ss.any fun s ↦ s.edge? = some (x, false)) := by
  induction ss generalizing held with
  | nil => simp [turns]
  | cons s ss ih =>
      have hrest : turns x held (s :: ss) = (x.turn held s.edge? &&
          !ss.any fun s ↦ s.edge? = some (x, false)) :=
        ih fun s' hs' ↦ h s' (by simp [hs'])
      rw [hrest, List.any_cons]
      rcases hedge : s.edge? with _ | ⟨y, down⟩
      · simp [Holdable.turn]
      · obtain rfl : down = false := h s (by simp) y down hedge
        by_cases hy : y = x <;> simp [Holdable.turn, hy]

theorem turns_of_presses {x : Holdable} {held : Bool} {ss : List Stroke}
    (h : ∀ s ∈ ss, ∀ y down, s.edge? = some (y, down) → down = true) :
    turns x held ss = (held || ss.any fun s ↦ s.edge? = some (x, true)) := by
  induction ss generalizing held with
  | nil => simp [turns]
  | cons s ss ih =>
      have hrest : turns x held (s :: ss) = (x.turn held s.edge? ||
          ss.any fun s ↦ s.edge? = some (x, true)) :=
        ih fun s' hs' ↦ h s' (by simp [hs'])
      rw [hrest, List.any_cons]
      rcases hedge : s.edge? with _ | ⟨y, down⟩
      · simp [Holdable.turn]
      · obtain rfl : down = true := h s (by simp) y down hedge
        by_cases hy : y = x <;> simp [Holdable.turn, hy]

/-- Who lets go of everything lets go of what is held. -/
theorem turns_releases (h : Hands) (x : Holdable) (held : Bool) :
    turns x held (releases h) = (held && !h.has x) := by
  have hedge : ∀ m : Key.Modifier, (Key.define m.name).modifier = some m := by
    intro m
    cases m <;> rfl
  have hany : ((releases h).any fun s ↦ s.edge? = some (x, false)) = h.has x := by
    rw [Bool.eq_iff_iff]
    cases x with
    | button b =>
        have hb : b ∈ HeldButtons.order := by cases b <;> decide
        simp [releases, edge?, Hands.has, hb]
    | modifier m =>
        have hm : m ∈ Key.Modifier.all := by cases m <;> decide
        simp [releases, edge?, Hands.has, hedge, hm]
  rw [turns_of_releases, hany]
  intro s hs y down hy
  simp only [releases, List.mem_append, List.mem_map] at hs
  rcases hs with ⟨b, -, rfl⟩ | ⟨m, -, rfl⟩
  · exact (by simpa [edge?] using hy : _ ∧ false = down).2.symm
  · exact (by simpa [edge?, hedge] using hy : _ ∧ false = down).2.symm

/-! ## A plan lets go of what it presses -/

theorem turns_tap (x : Holdable) (key : String) : turns x false (tap key) = false := by
  cases h : (Key.define key).modifier with
  | none => simp [turns, tap, edge?, h, Holdable.turn]
  | some m => by_cases hm : .modifier m = x <;> simp [turns, tap, edge?, h, Holdable.turn, hm]

theorem turns_type (x : Holdable) (cs : List Char) :
    turns x false (cs.flatMap ofChar) = false := by
  induction cs with
  | nil => rfl
  | cons c cs ih =>
      have hchar : turns x false (ofChar c) = false := by
        unfold ofChar
        split
        · exact turns_tap x _
        · split
          · exact turns_tap x _
          · split
            · exact turns_tap x _
            · rfl
      rw [List.flatMap_cons, turns_append, hchar, ih]

theorem turns_moves (x : Holdable) (held : Bool) (path : List Point) :
    turns x held (path.map fun q ↦ Stroke.move q.x q.y) = held := by
  induction path with
  | nil => rfl
  | cons q path ih => exact ih

/-- Keys that go down one after the other, and come up again in the reverse order. -/
def chord (keys : List String) : List Stroke := keys.map keyDown ++ keys.reverse.map keyUp

/-- After that none is held, repeated ones included. -/
theorem turns_chord (x : Holdable) (keys : List String) : turns x false (chord keys) = false := by
  have hdown : turns x false (keys.map keyDown) = (false ||
      (keys.map keyDown).any fun s ↦ s.edge? = some (x, true)) := by
    refine turns_of_presses fun s hs y down hy ↦ ?_
    obtain ⟨k, -, rfl⟩ := List.mem_map.1 hs
    obtain ⟨m, -, -, hm⟩ := by simpa [edge?] using hy
    exact hm
  have hup : ∀ held, turns x held (keys.reverse.map keyUp) = (held &&
      !(keys.reverse.map keyUp).any fun s ↦ s.edge? = some (x, false)) := by
    intro held
    refine turns_of_releases fun s hs y down hy ↦ ?_
    obtain ⟨k, -, rfl⟩ := List.mem_map.1 hs
    obtain ⟨m, -, -, hm⟩ := by simpa [edge?] using hy
    exact hm
  have hsame : ((keys.map keyDown).any fun s ↦ s.edge? = some (x, true)) =
      (keys.reverse.map keyUp).any fun s ↦ s.edge? = some (x, false) := by
    rw [Bool.eq_iff_iff]
    simp [edge?]
  rw [chord, turns_append, hdown, hup, hsame, Bool.false_or, Bool.and_not_self]

end Stroke

namespace ChromePage

/-- The browser holds what the page remembers. -/
def Agrees (h : Hands) (log : List Sent) : Prop :=
  ∀ x : Holdable, x.isPressed log = h.has x

/-- All commands were accepted but the last. The page remembers what the browser would hold if it
had accepted that one as well. -/
def Slips (log : List Sent) (h : Hands) (sent : List Sent) : Prop :=
  ∃ before c, sent = before ++ [⟨c, true⟩] ∧ (∀ s ∈ before, s.failed = false) ∧
    ∀ x : Holdable, h.has x = x.turn (x.isPressed (log ++ before)) c.edge?

variable {log : List Sent} {chrome : Chrome} {h : Hands} {page : ChromePage}

theorem Agrees.stroke (hagrees : Agrees h log) (s : Stroke) :
    Agrees (s.after h) (log ++ [⟨s.command (s.after h), false⟩]) := by
  intro x
  rw [Holdable.isPressed_accepted, Stroke.edge_command, hagrees x, Stroke.has_after]

theorem Slips.cons {c : Command} {sent : List Sent}
    (hslips : Slips (log ++ [⟨c, false⟩]) h sent) : Slips log h (⟨c, false⟩ :: sent) := by
  obtain ⟨before, c', rfl, hbefore, hhas⟩ := hslips
  refine ⟨⟨c, false⟩ :: before, c', rfl, ?_, fun x ↦ ?_⟩
  · simpa using hbefore
  · rw [hhas x, List.append_assoc, List.singleton_append]

/-- Strokes up to the first whose command is refused. -/
theorem make_agrees (hagrees : Agrees h log) (chrome : Chrome) (ss : List Stroke) :
    ((make false chrome h ss).failure = none →
      (make false chrome h ss).hands = ss.foldl Stroke.after h ∧
        (∀ s ∈ (make false chrome h ss).sent, s.failed = false) ∧
          Agrees (make false chrome h ss).hands (log ++ (make false chrome h ss).sent)) ∧
      ∀ e, (make false chrome h ss).failure = some e →
        Slips log (make false chrome h ss).hands (make false chrome h ss).sent := by
  induction ss generalizing chrome h log with
  | nil => exact ⟨fun _ ↦ ⟨rfl, by simp [make], by simpa [make] using hagrees⟩, fun e he ↦ by
      simp [make] at he⟩
  | cons s ss ih =>
      rcases hsend : chrome.send (s.command (s.after h)) with ⟨_ | trouble, chrome'⟩
      · obtain ⟨hok, herror⟩ := ih (hagrees.stroke s) chrome'
        simp only [make, hsend]
        refine ⟨fun hnone ↦ ?_, fun e he ↦ (herror e he).cons⟩
        obtain ⟨hhands, hsent, hlater⟩ := hok hnone
        refine ⟨hhands, by simpa using hsent, ?_⟩
        rwa [List.append_assoc, List.singleton_append] at hlater
      · simp only [make, hsend, Bool.false_eq_true, if_false]
        refine ⟨fun hnone ↦ by simp at hnone, fun e he ↦ ⟨[], _, rfl, by simp, fun x ↦ ?_⟩⟩
        rw [Stroke.edge_command, List.append_nil, hagrees x, Stroke.has_after]

theorem isPressed_make {ss : List Stroke} (log : List Sent) (x : Holdable)
    (hsent : ∀ s ∈ (make true chrome h ss).sent, s.failed = false) :
    x.isPressed (log ++ (make true chrome h ss).sent) = Stroke.turns x (x.isPressed log) ss := by
  induction ss generalizing chrome h log with
  | nil => simp [make, Stroke.turns]
  | cons s ss ih =>
      rcases hsend : chrome.send (s.command (s.after h)) with ⟨_ | trouble, chrome'⟩
      · simp only [make, hsend, List.mem_cons, forall_eq_or_imp] at hsent ⊢
        have hrest := ih (log ++ [⟨s.command (s.after h), false⟩]) hsent.2
        rw [List.append_assoc, List.singleton_append, Holdable.isPressed_accepted,
          Stroke.edge_command] at hrest
        exact hrest
      · simp [make, hsend] at hsent

/-- What becomes of the agreement when a primitive has its effect, or fails. -/
structure Keeps (log : List Sent) (h : Hands) {p : Primitive}
    (effect : Effect Chrome ChromePage Sent p) : Prop where
  hands : ∀ reply, effect.result = .ok reply →
    effect.page.hands = (Stroke.ofPrimitive p).foldl Stroke.after h
  accepted : ∀ reply, effect.result = .ok reply → ∀ s ∈ effect.events, s.failed = false
  agrees : ∀ reply, effect.result = .ok reply → Agrees effect.page.hands (log ++ effect.events)
  slips : ∀ e, effect.result = .error e → Slips log effect.page.hands effect.events

theorem keeps_strokes {p : Primitive} (hagrees : Agrees page.hands log) (reply : p.Reply) :
    Keeps log page.hands (strokes false chrome page (Stroke.ofPrimitive p) p reply) := by
  obtain ⟨hok, herror⟩ := make_agrees hagrees chrome (Stroke.ofPrimitive p)
  cases hfailure : (make false chrome page.hands (Stroke.ofPrimitive p)).failure with
  | none =>
      obtain ⟨hhands, hsent, hlater⟩ := hok hfailure
      exact ⟨fun _ _ ↦ hhands, fun _ _ ↦ hsent, fun _ _ ↦ hlater, fun e he ↦ by
        simp [strokes, hfailure] at he⟩
  | some e =>
      have hresult : ∀ reply', (strokes false chrome page (Stroke.ofPrimitive p) p reply).result ≠
          .ok reply' := by
        simp [strokes, hfailure]
      exact ⟨fun r hr ↦ absurd hr (hresult r), fun r hr ↦ absurd hr (hresult r),
        fun r hr ↦ absurd hr (hresult r), fun _ _ ↦ herror e hfailure⟩

theorem keeps_evaluate (hagrees : Agrees page.hands log) (script : String) (reply : Json) :
    Keeps log page.hands (single chrome page (scriptCommand script) "Script execution failed"
      (.evaluate script) reply) := by
  have hedge : (scriptCommand script).edge? = none := by
    unfold scriptCommand
    split <;> rfl
  have hturn : ∀ x : Holdable, page.hands.has x =
      x.turn (x.isPressed log) (scriptCommand script).edge? := by
    intro x
    rw [hedge, hagrees x]
    rfl
  rcases hsend : chrome.send (scriptCommand script) with ⟨_ | trouble, chrome'⟩ <;>
    simp only [single, hsend]
  · refine ⟨fun _ _ ↦ rfl, fun _ _ ↦ by simp, fun _ _ x ↦ ?_, fun e he ↦ by simp at he⟩
    rw [Holdable.isPressed_accepted, hturn x]
  · refine ⟨fun r hr ↦ by simp at hr, fun r hr ↦ by simp at hr, fun r hr ↦ by simp at hr, ?_⟩
    exact fun e _ ↦ ⟨[], _, rfl, by simp, by simpa using hturn⟩

theorem keeps_apply {p : Primitive} (hp : p.isInput = true) (hagrees : Agrees page.hands log) :
    Keeps log page.hands (apply p chrome page) := by
  cases p with
  | evaluate script => exact keeps_evaluate hagrees script chrome.evaluation
  | move x y => exact keeps_strokes (p := .move x y) hagrees ()
  | down b => exact keeps_strokes (p := .down b) hagrees ()
  | up b => exact keeps_strokes (p := .up b) hagrees ()
  | click x y b => exact keeps_strokes (p := .click x y b) hagrees ()
  | doubleClick x y => exact keeps_strokes (p := .doubleClick x y) hagrees ()
  | keyDown key => exact keeps_strokes (p := .keyDown key) hagrees ()
  | keyUp key => exact keeps_strokes (p := .keyUp key) hagrees ()
  | type text => exact keeps_strokes (p := .type text) hagrees ()
  | _ => simp [Primitive.isInput] at hp

/-- Letting everything go, when no command is refused. -/
theorem isPressed_releaseAll (x : Holdable)
    (hsent : ∀ s ∈ (apply .releaseAll chrome page).events, s.failed = false) :
    x.isPressed (log ++ (apply .releaseAll chrome page).events) =
      (x.isPressed log && !page.hands.has x) :=
  (isPressed_make log x hsent).trans (Stroke.turns_releases _ _ _)

/-- A picture of the viewport is one command, which presses nothing. -/
theorem events_screenshot (chrome : Chrome) (page : ChromePage) : ∃ failed,
    (apply (.screenshot false) chrome page).events = [⟨.capture none, failed⟩] := by
  rcases hsend : chrome.send (.capture none) with ⟨_ | trouble, chrome'⟩
  · exact ⟨false, by simp [apply, screenshot, capture, hsend]⟩
  · exact ⟨true, by simp [apply, screenshot, capture, hsend]⟩

end ChromePage

end BrowserPilot
