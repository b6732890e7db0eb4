import BrowserPilot.Proofs.Page.Recounted

namespace BrowserPilot

/-!
# Keystrokes, as the browser sees them

Of a key event the browser sees which key it is about, whether it goes down or up,
and it may refuse it. A key stays down if it went down last. The page remembers
modifiers only, so only these come up again when everything is let go.
-/

/-- A key event that was sent: the key, whether it goes down, and whether it was refused. -/
structure Keystroke where
  key : Key.Definition
  down : Bool
  refused : Bool
  deriving DecidableEq, Repr

/-- The keystroke of a command that was sent, if it is a key event. -/
def Sent.keystroke? : Sent → Option Keystroke
  | ⟨.key e, failed⟩ => some ⟨e.definition, e.kind != .up, failed⟩
  | _ => none

namespace Keystroke

/-- A key of the given native name that goes down. -/
def press (key : String) : Keystroke := ⟨Key.define key, true, false⟩

/-- A key of the given native name that was to go down. -/
def refusedPress (key : String) : Keystroke := ⟨Key.define key, true, true⟩

def lift (m : Key.Modifier) : Keystroke := ⟨.ofModifier m, false, false⟩

/-- Whether a key is down after a keystroke. -/
def after (d : Key.Definition) (isDown : Bool) (k : Keystroke) : Bool :=
  if k.key = d ∧ k.refused = false then k.down else isDown

/-- Whether a key that was up is down after some keystrokes. -/
def leavesDown (d : Key.Definition) (ks : List Keystroke) : Bool := ks.foldl (after d) false

theorem foldl_presses (d : Key.Definition) (isDown : Bool) (keys : List String) :
    (keys.map press).foldl (after d) isDown = (isDown || keys.any fun k ↦ Key.define k = d) := by
  induction keys generalizing isDown with
  | nil => simp
  | cons k keys ih =>
      have hrest := ih (after d isDown (press k))
      by_cases hk : Key.define k = d
      · simpa [after, press, hk] using hrest
      · simpa [after, press, hk] using hrest

theorem foldl_lifts (d : Key.Definition) (isDown : Bool) (ms : List Key.Modifier) :
    (ms.map lift).foldl (after d) isDown =
      (isDown && !ms.any fun m ↦ Key.Definition.ofModifier m = d) := by
  induction ms generalizing isDown with
  | nil => simp
  | cons m ms ih =>
      have hrest := ih (after d isDown (lift m))
      by_cases hm : Key.Definition.ofModifier m = d
      · simpa [after, lift, hm] using hrest
      · simpa [after, lift, hm] using hrest

end Keystroke

/-! ## Modifiers -/

namespace Key

@[simp] theorem define_name (m : Modifier) : define m.name = .ofModifier m := by
  cases m <;> rfl

/-- A key that is a modifier is the one on the left of the keyboard. -/
theorem define_of_modifier {name : String} {m : Modifier} (h : (define name).modifier = some m) :
    define name = .ofModifier m := by
  rw [modifier_define_eq_some_iff.1 h, define_name]

/-- The modifiers among keys of the given native names, in the order in which they are let go. -/
def modifiersOf (keys : List String) : List Modifier :=
  Modifier.all.filter fun m ↦ keys.any fun k ↦ (define k).modifier = some m

theorem mem_modifiersOf {keys : List String} {m : Modifier} :
    m ∈ modifiersOf keys ↔ ∃ k ∈ keys, (define k).modifier = some m := by
  have hall : m ∈ Modifier.all := by cases m <;> decide
  simp [modifiersOf, hall]

end Key

namespace Keystroke

/-- What the browser sees of a row of keys that is broken off: the keys `before` go down, `key` is
refused, and then the modifiers among all of these come up. -/
def interrupted (before : List String) (key : String) : List Keystroke :=
  before.map press ++ [refusedPress key] ++ (Key.modifiersOf (before ++ [key])).map lift

/-- The keys that went down and are no modifiers stay down. -/
theorem leavesDown_interrupted (d : Key.Definition) (before : List String) (key : String) :
    leavesDown d (interrupted before key) = true ↔
      d.modifier = none ∧ ∃ k ∈ before, Key.define k = d := by
  have hrefused (isDown : Bool) : after d isDown (refusedPress key) = isDown := by
    simp [after, refusedPress]
  rw [leavesDown, interrupted, List.foldl_append, List.foldl_append, foldl_presses, List.foldl_cons,
    List.foldl_nil, hrefused, foldl_lifts]
  simp only [Bool.false_or, Bool.and_eq_true, Bool.not_eq_true', List.any_eq_true,
    List.any_eq_false, decide_eq_true_eq, Key.mem_modifiersOf]
  constructor
  · -- were it a modifier, it would be among those that come up
    rintro ⟨⟨k, hk, rfl⟩, hup⟩
    refine ⟨Option.eq_none_iff_forall_ne_some.2 fun m hm ↦ ?_, k, hk, rfl⟩
    exact hup m ⟨k, List.mem_append_left _ hk, hm⟩ (Key.define_of_modifier hm).symm
  · rintro ⟨hnone, hdown⟩
    refine ⟨hdown, fun m _ hm ↦ ?_⟩
    rw [← hm] at hnone
    cases hnone

/-- Of the keys that went down just the modifiers come up. -/
theorem up_mem_interrupted {before : List String} {key k : String} (hk : k ∈ before) :
    ⟨Key.define k, false, false⟩ ∈ interrupted before key ↔
      (Key.define k).modifier.isSome = true := by
  have hmem : ⟨Key.define k, false, false⟩ ∈ interrupted before key ↔
      ∃ m ∈ Key.modifiersOf (before ++ [key]), Key.Definition.ofModifier m = Key.define k := by
    simp [interrupted, press, refusedPress, lift]
  rw [hmem, Option.isSome_iff_exists]
  constructor
  · rintro ⟨m, -, hm⟩
    exact ⟨m, hm ▸ rfl⟩
  · rintro ⟨m, hm⟩
    refine ⟨m, Key.mem_modifiersOf.2 ⟨k, List.mem_append_left _ hk, hm⟩, ?_⟩
    exact (Key.define_of_modifier hm).symm

end Keystroke

/-! ## What the browser answers to key events -/

namespace Chrome

variable {chrome : Chrome} {trouble : Trouble} {n : Nat}

/-- What becomes of a key event after `i` others from now on. -/
def keyTrouble (chrome : Chrome) (i : Nat) : Option Trouble :=
  chrome.trouble "Input.dispatchKeyEvent" (chrome.count "Input.dispatchKeyEvent" + 1 + i)

/-- From now on the browser accepts `n` key events, refuses the next one, and accepts all later
ones. -/
def RefusesKey (chrome : Chrome) (n : Nat) (trouble : Trouble) : Prop :=
  ∀ i, chrome.keyTrouble i = if i = n then some trouble else none

/-- From now on the browser accepts all key events. -/
def AcceptsKeys (chrome : Chrome) : Prop := ∀ i, chrome.keyTrouble i = none

theorem count_counted (chrome : Chrome) (method : String) :
    (chrome.counted method).count method = chrome.count method + 1 := by
  simp [counted, count]

theorem send_key (chrome : Chrome) (e : KeyEvent) :
    (chrome.send (.key e)).1 = chrome.keyTrouble 0 ∧
      ∀ i, (chrome.send (.key e)).2.keyTrouble i = chrome.keyTrouble (i + 1) := by
  have hcount := count_counted chrome "Input.dispatchKeyEvent"
  refine ⟨congrArg (chrome.trouble "Input.dispatchKeyEvent") hcount, fun i ↦ ?_⟩
  refine congrArg (chrome.trouble "Input.dispatchKeyEvent") ?_
  change (chrome.counted "Input.dispatchKeyEvent").count "Input.dispatchKeyEvent" + 1 + i = _
  rw [hcount]
  omega

theorem RefusesKey.send (h : chrome.RefusesKey 0 trouble) (e : KeyEvent) :
    (chrome.send (.key e)).1 = some trouble ∧ (chrome.send (.key e)).2.AcceptsKeys := by
  obtain ⟨hnow, hlater⟩ := chrome.send_key e
  exact ⟨hnow.trans (h 0), fun i ↦ (hlater i).trans (h (i + 1))⟩

theorem RefusesKey.send_succ (h : chrome.RefusesKey (n + 1) trouble) (e : KeyEvent) :
    (chrome.send (.key e)).1 = none ∧ (chrome.send (.key e)).2.RefusesKey n trouble := by
  obtain ⟨hnow, hlater⟩ := chrome.send_key e
  exact ⟨hnow.trans (h 0), fun i ↦ by rw [hlater i, h (i + 1)]; simp⟩

theorem AcceptsKeys.send (h : chrome.AcceptsKeys) (e : KeyEvent) :
    (chrome.send (.key e)).1 = none ∧ (chrome.send (.key e)).2.AcceptsKeys := by
  obtain ⟨hnow, hlater⟩ := chrome.send_key e
  exact ⟨hnow.trans (h 0), fun i ↦ (hlater i).trans (h (i + 1))⟩

end Chrome

namespace ChromePage

variable {chrome : Chrome} {page : ChromePage} {trouble : Trouble} {n : Nat}

theorem make_of_accepted {persist : Bool} {h : Hands} {s : Stroke}
    (hnow : (chrome.send (s.command (s.after h))).1 = none) (ss : List Stroke) :
    make persist chrome h (s :: ss) =
      { make persist (chrome.send (s.command (s.after h))).2 (s.after h) ss with
        sent := ⟨s.command (s.after h), false⟩ ::
          (make persist (chrome.send (s.command (s.after h))).2 (s.after h) ss).sent } := by
  rcases hsend : chrome.send (s.command (s.after h)) with ⟨_ | trouble, chrome'⟩
  · simp only [make, hsend]
  · simp [hsend] at hnow

theorem make_of_refused {h : Hands} {s : Stroke}
    (hnow : (chrome.send (s.command (s.after h))).1 = some trouble) (ss : List Stroke) :
    make false chrome h (s :: ss) = ⟨(chrome.send (s.command (s.after h))).2, s.after h,
      [⟨s.command (s.after h), true⟩], some (failure s.complaint trouble)⟩ := by
  rcases hsend : chrome.send (s.command (s.after h)) with ⟨_ | trouble', chrome'⟩
  · simp [hsend] at hnow
  · obtain rfl : trouble' = trouble := by simpa [hsend] using hnow
    simp [make, hsend]

def handsAfter (page : ChromePage) (key : String) : Hands := Stroke.after page.hands (.keyDown key)

def downEvent (page : ChromePage) (key : String) : KeyEvent :=
  ⟨Stroke.downKind (page.handsAfter key).modifiers (Key.define key), Key.define key,
    (page.handsAfter key).modifiers.mask⟩

theorem downKind_ne_up (h : HeldModifiers) (d : Key.Definition) :
    (Stroke.downKind h d != .up) = true := by
  unfold Stroke.downKind
  split <;> rfl

theorem keyDown_accepted (page : ChromePage) (key : String)
    (h : chrome.RefusesKey (n + 1) trouble) :
    ∃ effect, apply (.keyDown key) chrome page = effect ∧ effect.result = .ok () ∧
      effect.page.hands = page.handsAfter key ∧ effect.env.RefusesKey n trouble ∧
      effect.events.map Sent.keystroke? = [some (.press key)] := by
  obtain ⟨hnow, hlater⟩ := h.send_succ (page.downEvent key)
  refine ⟨_, rfl, ?_⟩
  have hmake : make false chrome page.hands [.keyDown key] =
      ⟨(chrome.send (.key (page.downEvent key))).2, page.handsAfter key,
        [⟨.key (page.downEvent key), false⟩], none⟩ := make_of_accepted hnow []
  simp only [apply, strokes, Stroke.ofPrimitive, hmake]
  refine ⟨trivial, trivial, hlater, ?_⟩
  simp [Sent.keystroke?, Keystroke.press, downEvent, downKind_ne_up]

theorem keyDown_refused (page : ChromePage) (key : String) (h : chrome.RefusesKey 0 trouble) :
    ∃ effect, apply (.keyDown key) chrome page = effect ∧
      effect.result = .error (failure "Key event failed" trouble) ∧
      effect.page.hands = page.handsAfter key ∧ effect.env.AcceptsKeys ∧
      effect.events.map Sent.keystroke? = [some (.refusedPress key)] := by
  obtain ⟨hnow, hlater⟩ := h.send (page.downEvent key)
  refine ⟨_, rfl, ?_⟩
  have hmake : make false chrome page.hands [.keyDown key] =
      ⟨(chrome.send (.key (page.downEvent key))).2, page.handsAfter key,
        [⟨.key (page.downEvent key), true⟩], some (failure "Key event failed" trouble)⟩ :=
    make_of_refused hnow []
  simp only [apply, strokes, Stroke.ofPrimitive, hmake]
  refine ⟨trivial, trivial, hlater, ?_⟩
  simp [Sent.keystroke?, Keystroke.refusedPress, downEvent, downKind_ne_up]

theorem make_keyUps (h : Hands) (keys : List String) (haccepts : chrome.AcceptsKeys) :
    (make true chrome h (keys.map .keyUp)).sent.map Sent.keystroke? =
      keys.map fun k ↦ some ⟨Key.define k, false, false⟩ := by
  induction keys generalizing chrome h with
  | nil => rfl
  | cons k keys ih =>
      obtain ⟨hnow, hlater⟩ := haccepts.send
        ⟨.up, Key.define k, (Stroke.after h (.keyUp k)).modifiers.mask⟩
      have hrest := ih (Stroke.after h (.keyUp k)) hlater
      rw [List.map_cons, make_of_accepted (s := .keyUp k) hnow, List.map_cons, List.map_cons]
      exact congrArg (some ⟨Key.define k, false, false⟩ :: ·) hrest

/-- A page that holds no button lets go of the modifiers that it remembers. -/
theorem releaseAll_accepted (haccepts : chrome.AcceptsKeys)
    (hbuttons : ∀ b, page.hands.buttons.has b = false) :
    (apply .releaseAll chrome page).events.map Sent.keystroke? =
      (Key.Modifier.all.filter page.hands.modifiers.has).map fun m ↦ some (.lift m) := by
  have hnone : HeldButtons.order.filter page.hands.buttons.has = [] :=
    List.filter_eq_nil_iff.2 fun b _ ↦ by simp [hbuttons b]
  have hreleases : Stroke.releases page.hands =
      ((Key.Modifier.all.filter page.hands.modifiers.has).map Key.Modifier.name).map .keyUp := by
    simp [Stroke.releases, hnone, Function.comp_def]
  have hups := make_keyUps page.hands
    ((Key.Modifier.all.filter page.hands.modifiers.has).map Key.Modifier.name) haccepts
  rw [← hreleases, List.map_map] at hups
  refine hups.trans (List.map_congr_left fun m _ ↦ ?_)
  simp [Keystroke.lift]

/-- Of what it did not hold a page remembers the modifiers among the keys that went down. -/
theorem has_of_presses {h : Hands} {x : Holdable} (hidle : h.has x = false) (keys : List String) :
    ((keys.map .keyDown).foldl Stroke.after h).has x = true ↔
      ∃ m, x = .modifier m ∧ ∃ k ∈ keys, (Key.define k).modifier = some m := by
  rw [Stroke.has_foldl, hidle, Stroke.turns_of_presses fun s hs y down hy ↦ ?_]
  · simp only [Bool.false_or, List.any_map, List.any_eq_true, Function.comp_apply, Stroke.edge?,
      decide_eq_true_eq, Option.map_eq_some_iff, Prod.mk.injEq, and_true]
    constructor
    · rintro ⟨k, hk, m, hm, rfl⟩
      exact ⟨m, rfl, k, hk, hm⟩
    · rintro ⟨m, rfl, k, hk, hm⟩
      exact ⟨k, hk, m, hm, rfl⟩
  · obtain ⟨k, -, rfl⟩ := List.mem_map.1 hs
    obtain ⟨m, -, -, hm⟩ := by simpa [Stroke.edge?] using hy
    exact hm

/-- What comes up of keys that went down on a page that held nothing. -/
theorem releaseAll_of_presses {h : Hands} (hidle : ∀ x, h.has x = false) {keys : List String}
    (hhands : page.hands = (keys.map .keyDown).foldl Stroke.after h)
    (haccepts : chrome.AcceptsKeys) :
    (apply .releaseAll chrome page).events.map Sent.keystroke? =
      ((Key.modifiersOf keys).map .lift).map some := by
  have hheld (x : Holdable) : page.hands.has x = true ↔
      ∃ m, x = .modifier m ∧ ∃ k ∈ keys, (Key.define k).modifier = some m :=
    hhands ▸ has_of_presses (hidle x) keys
  have hbuttons : ∀ b, page.hands.buttons.has b = false := by
    intro b
    rw [Bool.eq_false_iff]
    intro hb
    obtain ⟨m, hm, -⟩ := (hheld (.button b)).1 hb
    cases hm
  have hmodifiers : Key.Modifier.all.filter page.hands.modifiers.has = Key.modifiersOf keys := by
    refine List.filter_congr fun m _ ↦ ?_
    rw [Bool.eq_iff_iff]
    refine (hheld (.modifier m)).trans ?_
    simp
  rw [releaseAll_accepted haccepts hbuttons, hmodifiers, List.map_map]
  rfl

end ChromePage

end BrowserPilot
