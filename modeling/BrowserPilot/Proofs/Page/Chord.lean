import BrowserPilot.Proofs.Page.Typing

namespace BrowserPilot

/-!
# The commands of a key combination

The keys of a combination go down in order and come up in reverse. The browser is told
with each key that goes down which modifiers are among the keys up to it, and a key
types its text unless these make a shortcut of it.
-/

/-! ## What is held -/

namespace Key

/-- The bit of the modifier that a key is, if it is one. -/
def bit (key : String) : Nat := (define key).modifier.elim 0 Modifier.bit

/-- The bits of the modifiers among some keys, together. -/
def bits (keys : List String) : Nat := keys.foldl (fun mask key ↦ mask ||| bit key) 0

end Key

theorem HeldModifiers.mask_put (h : HeldModifiers) (m : Key.Modifier) :
    (h.put true m).mask = h.mask ||| m.bit := by
  obtain ⟨alt, control, system, shift⟩ := h
  cases alt <;> cases control <;> cases system <;> cases shift <;> cases m <;> decide

namespace Stroke

theorem mask_withKey (h : Hands) (key : String) :
    (withKey h true key).modifiers.mask = h.modifiers.mask ||| Key.bit key := by
  unfold withKey Key.bit
  cases (Key.define key).modifier with
  | none => exact (Nat.or_zero _).symm
  | some m => exact h.modifiers.mask_put m

theorem mask_presses (h : Hands) (keys : List String) :
    ((keys.map keyDown).foldl after h).modifiers.mask =
      keys.foldl (fun mask key ↦ mask ||| Key.bit key) h.modifiers.mask := by
  induction keys generalizing h with
  | nil => rfl
  | cons key keys ih => exact (ih _).trans (by rw [after, mask_withKey, List.foldl_cons])

/-- A page that held no modifier has a shortcut in the making once Control or Meta went down. -/
theorem isShortcut_presses {h : Hands} (hidle : ∀ m, h.modifiers.has m = false)
    (keys : List String) : ((keys.map keyDown).foldl after h).modifiers.isShortcut = true ↔
      "Control" ∈ keys ∨ "Meta" ∈ keys := by
  have hheld (m : Key.Modifier) :
      ((keys.map keyDown).foldl after h).modifiers.has m = true ↔ m.name ∈ keys := by
    refine (ChromePage.has_of_presses (x := .modifier m) (hidle m) keys).trans ?_
    constructor
    · rintro ⟨n, hn, key, hkey, hmodifier⟩
      obtain rfl := Holdable.modifier.inj hn
      exact Key.modifier_define_eq_some_iff.1 hmodifier ▸ hkey
    · exact fun hkey ↦ ⟨m, rfl, m.name, hkey, Key.modifier_define_eq_some_iff.2 rfl⟩
  exact Bool.or_eq_true_iff.trans (or_congr (hheld .control) (hheld .system))

theorem length_commands (h : Hands) (ss : List Stroke) : (commands h ss).length = ss.length := by
  induction ss generalizing h with
  | nil => rfl
  | cons s ss ih => exact congrArg (· + 1) (ih _)

/-- The command of one stroke among others. -/
theorem getElem?_commands (h : Hands) (before : List Stroke) (s : Stroke) (rest : List Stroke) :
    (commands h (before ++ s :: rest))[before.length]? =
      some (s.command ((before ++ [s]).foldl after h)) := by
  have hlength := length_commands h before
  rw [commands_append, List.getElem?_append_right (Nat.le_of_eq hlength), hlength, Nat.sub_self,
    List.foldl_append]
  rfl

end Stroke

/-! ## The commands -/

/-- Whether a key that goes down last types its text: it has one, and the keys make no shortcut. -/
def Key.Types (held : List String) (key : String) : Prop :=
  (define key).text.isSome = true ∧ "Control" ∉ held ++ [key] ∧ "Meta" ∉ held ++ [key]

namespace Command

/-- The browser is told that `key` goes down after the keys `held`. -/
structure Presses (held : List String) (key : String) (c : Command) : Prop where
  method : c.method = "Input.dispatchKeyEvent"
  names : c.text? "key" = some (Key.define key).key
  modifiers : c.params.get? "modifiers" = some (Json.ofNat (Key.bits (held ++ [key])))
  types : Key.Types held key →
    c.text? "type" = some "keyDown" ∧ c.text? "text" = (Key.define key).text
  raw : ¬ Key.Types held key → c.text? "type" = some "rawKeyDown" ∧ c.params.get? "text" = none

/-- The browser is told that `key` comes up. -/
structure Lifts (key : String) (c : Command) : Prop where
  method : c.method = "Input.dispatchKeyEvent"
  names : c.text? "key" = some (Key.define key).key
  type : c.text? "type" = some "keyUp"
  text : c.params.get? "text" = none

theorem lifts_keyUp (h : Hands) (key : String) : ((Stroke.keyUp key).command h).Lifts key := by
  obtain ⟨htype, hkey, -⟩ := text?_key ⟨.up, Key.define key, h.modifiers.mask⟩
  obtain ⟨-, -, htext⟩ := params_of_key ⟨.up, Key.define key, h.modifiers.mask⟩
  exact ⟨rfl, hkey, htype, htext⟩

theorem presses_keyDown {h : Hands} (hidle : ∀ m, h.modifiers.has m = false) (held : List String)
    (key : String) : ((Stroke.keyDown key).command
      (((held ++ [key]).map .keyDown).foldl Stroke.after h)).Presses held key := by
  have hmask := Stroke.mask_presses h (held ++ [key])
  have hshortcut := Stroke.isShortcut_presses hidle (held ++ [key])
  rw [HeldModifiers.mask_eq_zero hidle] at hmask
  -- the event depends on what is held by its mask and by whether it makes a shortcut
  generalize ((held ++ [key]).map Stroke.keyDown).foldl Stroke.after h = h' at hmask hshortcut ⊢
  let e : KeyEvent := ⟨Stroke.downKind h'.modifiers (Key.define key), Key.define key,
    h'.modifiers.mask⟩
  obtain ⟨htype, hkey, htext⟩ := text?_key e
  obtain ⟨-, -, hparam⟩ := params_of_key e
  have htypes : Key.Types held key ↔
      ((Key.define key).text.isSome && !h'.modifiers.isShortcut) = true := by
    rw [Bool.and_eq_true, Bool.not_eq_true', ← Bool.not_eq_true, hshortcut, not_or]
    rfl
  refine ⟨rfl, hkey, (params_key e).trans (by rw [Key.bits, ← hmask]), fun h ↦ ?_, fun h ↦ ?_⟩
  · have hkind : e.kind = .down := if_pos (htypes.1 h)
    rw [hkind] at htype
    exact ⟨htype, htext.trans (by simp only [KeyEvent.typed?, hkind]; rfl)⟩
  · have hkind : e.kind = .rawDown := if_neg fun h' ↦ h (htypes.2 h')
    rw [hkind] at htype
    refine ⟨htype, hparam.trans ?_⟩
    simp only [KeyEvent.typed?, hkind, Option.map_none]

end Command

/-- The commands of a combination: its keys go down in order and come up in reverse, and no modifier
is left. -/
structure Chord (keys : List String) (downs ups : List Command) : Prop where
  length_downs : downs.length = keys.length
  length_ups : ups.length = keys.length
  down : ∀ held key rest, keys = held ++ key :: rest →
    ∃ c, downs[held.length]? = some c ∧ c.Presses held key
  up : ∀ lifted key rest, keys.reverse = lifted ++ key :: rest →
    ∃ c, ups[lifted.length]? = some c ∧ c.Lifts key
  idle : ∀ c, ups.getLast? = some c → c.params.get? "modifiers" = some (Json.ofNat 0)

namespace Stroke

variable {h : Hands}

theorem mask_chord (hidle : ∀ m, h.modifiers.has m = false) (keys : List String) :
    ((chord keys).foldl after h).modifiers.mask = 0 := by
  refine HeldModifiers.mask_eq_zero fun m ↦ ?_
  have hhas : h.has (.modifier m) = false := hidle m
  refine (has_foldl h (chord keys) (.modifier m)).trans ?_
  rw [hhas]
  exact turns_chord (.modifier m) keys

theorem commands_chord (hidle : ∀ m, h.modifiers.has m = false) (keys : List String) :
    ∃ downs ups, commands h (chord keys) = downs ++ ups ∧ Chord keys downs ups := by
  refine ⟨_, _, commands_append h (keys.map keyDown) (keys.reverse.map keyUp), ?_, ?_,
    fun held key rest hkeys ↦ ?_, fun lifted key rest hkeys ↦ ?_, fun c hc ↦ ?_⟩
  · rw [length_commands, List.length_map]
  · rw [length_commands, List.length_map, List.length_reverse]
  · have hcommand := getElem?_commands h (held.map keyDown) (.keyDown key) (rest.map keyDown)
    rw [List.length_map, ← List.map_cons, ← List.map_append, ← hkeys, ← List.map_singleton,
      ← List.map_append] at hcommand
    exact ⟨_, hcommand, Command.presses_keyDown hidle held key⟩
  · have hcommand := getElem?_commands ((keys.map keyDown).foldl after h) (lifted.map keyUp)
      (.keyUp key) (rest.map keyUp)
    rw [List.length_map, ← List.map_cons, ← List.map_append, ← hkeys] at hcommand
    exact ⟨_, hcommand, Command.lifts_keyUp _ key⟩
  · -- the last command is sent when all strokes of the combination have been made
    rcases List.eq_nil_or_concat keys.reverse with hnil | ⟨lifted, key, hlast⟩
    · simp [hnil, commands] at hc
    · rw [List.concat_eq_append] at hlast
      have hmask := mask_chord hidle keys
      rw [chord, List.foldl_append, hlast, List.map_append, List.foldl_append] at hmask
      rw [hlast, List.map_append, commands_append, List.getLast?_append] at hc
      obtain rfl := Option.some.inj hc
      exact (Command.params_key _).trans (congrArg (some ∘ Json.ofNat) hmask)

end Stroke

/-! ## Making the strokes -/

/-- What strokes send whose commands are all accepted. -/
def Stroke.accepted (h : Hands) (ss : List Stroke) : List Sent := (commands h ss).map (⟨·, false⟩)

theorem Stroke.accepted_append (h : Hands) (ss ss' : List Stroke) :
    accepted h (ss ++ ss') = accepted h ss ++ accepted (ss.foldl after h) ss' := by
  rw [accepted, commands_append, List.map_append]
  rfl

namespace Chrome

/-- The browser accepts the next `n` key events. -/
def AcceptsNext (chrome : Chrome) (n : Nat) : Prop := ∀ i < n, chrome.keyTrouble i = none

theorem AcceptsNext.send {chrome : Chrome} {n : Nat} (h : chrome.AcceptsNext (n + 1))
    (e : KeyEvent) :
    (chrome.send (.key e)).1 = none ∧ (chrome.send (.key e)).2.AcceptsNext n := by
  obtain ⟨hnow, hlater⟩ := chrome.send_key e
  exact ⟨hnow.trans (h 0 (Nat.succ_pos n)),
    fun i hi ↦ (hlater i).trans (h (i + 1) (Nat.succ_lt_succ hi))⟩

end Chrome

namespace ChromePage

variable {chrome : Chrome} {n : Nat}

theorem make_keys (persist : Bool) {h : Hands} {ss : List Stroke}
    (hkeys : ∀ s ∈ ss, ∃ key, s = .keyDown key ∨ s = .keyUp key)
    (haccepts : chrome.AcceptsNext (n + ss.length)) :
    ∃ chrome', chrome'.AcceptsNext n ∧ make persist chrome h ss =
      ⟨chrome', ss.foldl Stroke.after h, Stroke.accepted h ss, none⟩ := by
  induction ss generalizing chrome h with
  | nil => exact ⟨chrome, haccepts, rfl⟩
  | cons s ss ih =>
      obtain ⟨hs, hss⟩ := List.forall_mem_cons.1 hkeys
      have hevent : ∃ e, s.command (s.after h) = .key e := by
        obtain ⟨key, rfl | rfl⟩ := hs <;> exact ⟨_, rfl⟩
      obtain ⟨e, he⟩ := hevent
      obtain ⟨hnow, hlater⟩ := haccepts.send e
      rw [← he] at hnow hlater
      obtain ⟨chrome', haccepts', hrest⟩ := ih (h := s.after h) hss hlater
      refine ⟨chrome', haccepts', ?_⟩
      rw [make_of_accepted hnow, hrest]
      rfl

theorem apply_key (page : ChromePage) {p : Primitive}
    (hp : ∃ key, p = .keyDown key ∨ p = .keyUp key)
    (haccepts : chrome.AcceptsNext (n + 1)) :
    (∃ reply, (apply p chrome page).result = .ok reply) ∧
      (apply p chrome page).env.AcceptsNext n ∧
      (apply p chrome page).page =
        { page with hands := (Stroke.ofPrimitive p).foldl Stroke.after page.hands } ∧
      (apply p chrome page).events = Stroke.accepted page.hands (Stroke.ofPrimitive p) := by
  have hkeys : ∀ s ∈ Stroke.ofPrimitive p, ∃ key, s = .keyDown key ∨ s = .keyUp key := by
    obtain ⟨key, rfl | rfl⟩ := hp <;> simp [Stroke.ofPrimitive]
  have hlength : (Stroke.ofPrimitive p).length = 1 := by
    obtain ⟨key, rfl | rfl⟩ := hp <;> rfl
  obtain ⟨chrome', haccepts', hmake⟩ :=
    make_keys false (h := page.hands) hkeys (hlength ▸ haccepts)
  have hstrokes (reply : p.Reply) :
      strokes false chrome page (Stroke.ofPrimitive p) p reply = ⟨chrome',
        { page with hands := (Stroke.ofPrimitive p).foldl Stroke.after page.hands },
        Stroke.accepted page.hands (Stroke.ofPrimitive p), [], .ok reply⟩ := by
    simp only [strokes, hmake]
  have happly : ∃ reply, apply p chrome page =
      strokes false chrome page (Stroke.ofPrimitive p) p reply := by
    obtain ⟨key, rfl | rfl⟩ := hp <;> exact ⟨(), rfl⟩
  obtain ⟨reply, happly⟩ := happly
  rw [happly, hstrokes]
  exact ⟨⟨reply, rfl⟩, haccepts', rfl, rfl⟩

end ChromePage

end BrowserPilot
