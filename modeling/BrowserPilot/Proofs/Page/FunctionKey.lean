import BrowserPilot.Proofs.Key.Function
import BrowserPilot.Proofs.Page.Typing

namespace BrowserPilot

/-!
# What the browser is told about function keys

The browser gets the number of a function key together with the name that the caller wrote,
which need not be the standard one. Names that mean nothing are passed on without a number.
-/

/-- An event tells the value of a key, its place, and its number or none. -/
structure Command.Identifies (key code : String) (number : Option Nat) (c : Command) : Prop where
  method : c.method = "Input.dispatchKeyEvent"
  key : c.params.get? "key" = some (.string key)
  code : c.params.get? "code" = some (.string code)
  windows : c.params.get? "windowsVirtualKeyCode" = number.map Json.ofNat
  native : c.params.get? "nativeVirtualKeyCode" = number.map Json.ofNat

theorem Command.params_of_place (e : KeyEvent) :
    (key e).params.get? "code" = some (.string e.definition.code) ∧
      (key e).params.get? "windowsVirtualKeyCode" = e.definition.number.map Json.ofNat ∧
      (key e).params.get? "nativeVirtualKeyCode" = e.definition.number.map Json.ofNat := by
  obtain ⟨kind, d, modifiers⟩ := e
  cases hnumber : d.number <;> cases hlocation : d.location <;>
    cases htext : KeyEvent.typed? ⟨kind, d, modifiers⟩ <;>
      simp [params, KeyEvent.params, hnumber, hlocation, htext, Json.ofMembers, Json.get?,
        Json.find?_insertMember_self, Json.find?_insertMember_ne, Json.find?]

theorem Command.identifies_key (e : KeyEvent) :
    (key e).Identifies e.definition.key e.definition.code e.definition.number := by
  obtain ⟨-, hkey, -⟩ := params_of_key e
  obtain ⟨hcode, hwindows, hnative⟩ := params_of_place e
  exact ⟨rfl, hkey, hcode, hwindows, hnative⟩

namespace Key

/-- What the browser is told about the key of a name, whatever else is held: the same when it goes
down and when it comes up. -/
structure Reported (name key code : String) (number : Option Nat) : Prop where
  down : ∀ h : Hands, ((Stroke.keyDown name).command h).Identifies key code number
  up : ∀ h : Hands, ((Stroke.keyUp name).command h).Identifies key code number

theorem reported_define (name : String) :
    Reported name (define name).key (define name).code (define name).number :=
  ⟨fun h ↦ Command.identifies_key
      ⟨Stroke.downKind h.modifiers (define name), define name, h.modifiers.mask⟩,
    fun h ↦ Command.identifies_key ⟨.up, define name, h.modifiers.mask⟩⟩

theorem reported_of_define {name : String} {d : Definition} (h : define name = d) :
    Reported name d.key d.code d.number :=
  h ▸ reported_define name

/-- A function key is known by the number in its name, however that is written. The browser is told
the key's number and the name as it is, so the two fit only if there are no zeros and no plus sign
before the number. Of any other name of several characters that is in no table the browser is told
the name alone. -/
theorem function_keys_are_known_by_number (name : String) :
    (∀ d, Definition.ofFunction? name = some d ↔
      ∃ n, NamesFunction n name ∧ d = .plain name (111 + n)) ∧
    ((∃ number, (define name).number = some number ∧ 112 ≤ number ∧ number ≤ 123) ↔
      ∃ n, NamesFunction n name) ∧
    (∀ n, NamesFunction n name →
      define name = .plain name (111 + n) ∧ Reported (native name) name name (some (111 + n))) ∧
    (∀ n, 1 ≤ n ∧ n ≤ 12 ∧ name = functionName n ↔
      NamesFunction n name ∧ ¬ ['F', '0'] <+: name.toList ∧ ¬ ['F', '+'] <+: name.toList) ∧
    (Definition.named.lookup name = none → (∀ n, ¬ NamesFunction n name) → name.length ≠ 1 →
      define name = { key := name, code := name } ∧ Reported name name name none) := by
  refine ⟨fun d ↦ Definition.ofFunction?_eq_some_iff, number_define_iff, fun n h ↦ ?_,
    fun n ↦ eq_functionName_iff, fun hlookup hfunction hlength ↦ ?_⟩
  · have hdefine := define_of_namesFunction h
    have hreported := reported_of_define hdefine
    rw [native_of_namesFunction h]
    exact ⟨hdefine, hreported⟩
  · have hdefine := define_of_unknown hlookup hfunction hlength
    exact ⟨hdefine, reported_of_define hdefine⟩

/-- The twelfth function key under a name that is not the standard one, and a name that means
nothing. -/
theorem twelfth_key_known_by_number :
    (NamesFunction 12 "F012" ∧ define "F012" = .plain "F012" 123 ∧
      Reported (native "F012") "F012" "F012" (some 123) ∧ "F012" ≠ functionName 12) ∧
    Definition.named.lookup "MediaPlayPause" = none ∧ (∀ n, ¬ NamesFunction n "MediaPlayPause") ∧
      "MediaPlayPause".length ≠ 1 ∧
      Reported "MediaPlayPause" "MediaPlayPause" "MediaPlayPause" none := by
  have htwelve : NamesFunction 12 "F012" := ⟨by decide, by decide, ['0', '1', '2'], rfl, .bare 1⟩
  obtain ⟨-, -, hfunction, hstandard, -⟩ := function_keys_are_known_by_number "F012"
  obtain ⟨hdefine, hreported⟩ := hfunction 12 htwelve
  have hzero : ['F', '0'] <+: "F012".toList := by decide
  have hother : "F012" ≠ functionName 12 := fun h ↦
    ((hstandard 12).1 ⟨htwelve.low, htwelve.high, h⟩).2.1 hzero
  have hmedia (n : Nat) : ¬ NamesFunction n "MediaPlayPause" := by
    rintro ⟨-, -, digits, hname, -⟩
    exact absurd (List.cons.inj hname).1 (by decide)
  have hlookup : Definition.named.lookup "MediaPlayPause" = none := by decide
  have hlength : "MediaPlayPause".length ≠ 1 := by decide
  obtain ⟨-, -, -, -, hunknown⟩ := function_keys_are_known_by_number "MediaPlayPause"
  exact ⟨⟨htwelve, hdefine, hreported, hother⟩, hlookup, hmedia, hlength,
    (hunknown hlookup hmedia hlength).2⟩

/-- An `F` and a five with a plus sign between them is no standard name of a function key, but the
browser is told the number of the fifth. -/
theorem plus_five_is_the_fifth_key :
    (∀ n ≤ 12, "F+5" ≠ functionName n) ∧
      Definition.ofFunction? "F+5" = some { key := "F+5", code := "F+5", number := some 116 } ∧
        Reported (native "F+5") "F+5" "F+5" (some 116) := by
  have hnative : native "F+5" = "F+5" := by decide
  have hdefine : define "F+5" = { key := "F+5", code := "F+5", number := some 116 } := by decide
  rw [hnative]
  exact ⟨by decide, by decide, reported_of_define hdefine⟩

end Key

end BrowserPilot
