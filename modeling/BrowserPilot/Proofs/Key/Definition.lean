import BrowserPilot.Key.Definition

namespace BrowserPilot.Key

/-!
# Modifiers and characters

A definition says which modifier its key is. This agrees with the value that the key
produces: the modifiers are the keys that produce their own names. A character is the
name of the key that types it.
-/

/-- The modifier whose key produces a value. -/
def Modifier.ofKey? (key : String) : Option Modifier :=
  all.find? fun m ↦ m.name = key

namespace Definition

theorem ofKey?_of_lookup {name : String} (h : named.lookup name = none) :
    Modifier.ofKey? name = none := by
  have hnamed : ∀ m : Modifier, ∃ entry ∈ named, entry.1 = m.name := by
    intro m
    cases m <;> decide
  rw [Modifier.ofKey?, List.find?_eq_none]
  intro m _ hm
  have hname : m.name = name := by simpa using hm
  obtain ⟨entry, hmem, hentry⟩ := hnamed m
  have hne := List.lookup_eq_none_iff.1 h entry hmem
  simp [hentry, hname] at hne

theorem modifier_of_mem {entry : String × Definition} (h : entry ∈ named) :
    entry.2.modifier = Modifier.ofKey? entry.2.key := by
  have hall : ∀ entry ∈ named, entry.2.modifier = Modifier.ofKey? entry.2.key := by decide
  exact hall entry h

theorem mem_of_lookup {name : String} {d : Definition} (h : named.lookup name = some d) :
    ∃ entry ∈ named, entry.2 = d := by
  obtain ⟨before, after, hsplit, -⟩ := List.lookup_eq_some_iff.1 h
  exact ⟨(name, d), by simp [hsplit], rfl⟩

/-- A function key produces its own name and is no modifier. -/
theorem of_ofFunction? {name : String} {d : Definition} (h : ofFunction? name = some d) :
    d.key = name ∧ d.modifier = none := by
  unfold ofFunction? at h
  split at h
  · split at h
    · split at h
      · obtain rfl : _ = d := by simpa using h
        exact ⟨rfl, rfl⟩
      · simp at h
    · simp at h
  · simp at h

theorem of_ofText (name : String) : (ofText name).key = name ∧ (ofText name).modifier = none := by
  unfold ofText
  split <;> exact ⟨rfl, rfl⟩

end Definition

/-- A key is the modifier whose name it produces. -/
theorem modifier_define (name : String) :
    (define name).modifier = Modifier.ofKey? (define name).key := by
  unfold define
  cases hlookup : Definition.named.lookup name with
  | some d =>
      obtain ⟨entry, hmem, rfl⟩ := Definition.mem_of_lookup hlookup
      exact Definition.modifier_of_mem hmem
  | none =>
      have hplain : ∀ d : Definition, d.key = name ∧ d.modifier = none →
          d.modifier = Modifier.ofKey? d.key := by
        rintro d ⟨rfl, hmodifier⟩
        rw [hmodifier, Definition.ofKey?_of_lookup hlookup]
      cases hfunction : Definition.ofFunction? name with
      | some d => exact hplain d (Definition.of_ofFunction? hfunction)
      | none => exact hplain _ (Definition.of_ofText name)

/-- A modifier has no other name than its own. -/
theorem modifier_define_eq_some_iff {name : String} {m : Modifier} :
    (define name).modifier = some m ↔ name = m.name := by
  constructor
  · intro h
    unfold define at h
    cases hlookup : Definition.named.lookup name with
    | some d =>
        obtain ⟨before, after, hsplit, -⟩ := List.lookup_eq_some_iff.1 hlookup
        have hmem : (name, d) ∈ Definition.named := by simp [hsplit]
        have hnamed : ∀ entry ∈ Definition.named, ∀ m ∈ entry.2.modifier, entry.1 = m.name := by
          decide
        rw [hlookup] at h
        exact hnamed _ hmem m h
    | none =>
        simp only [hlookup] at h
        cases hfunction : Definition.ofFunction? name with
        | some d => simp [hfunction, (Definition.of_ofFunction? hfunction).2] at h
        | none => simp [hfunction, (Definition.of_ofText name).2] at h
  · rintro rfl
    cases m <;> rfl

/-! ## Characters -/

namespace Definition

/-- Of the keys with a name of their own only the space is named by a single character. -/
theorem lookup_char {c : Char} (hc : c ≠ ' ') : named.lookup c.toString = none := by
  have hnamed : ∀ entry ∈ named, entry.1.toList.length = 1 → entry.1 = " " := by decide
  rw [List.lookup_eq_none_iff]
  intro entry hmem
  rw [bne_iff_ne]
  intro hname
  have hspace : c.toString = " " := hname.trans (hnamed entry hmem (by simp [← hname]))
  have hlist : c.toString.toList = [' '] := congrArg String.toList hspace
  exact hc (by simpa using hlist)

theorem ofFunction?_char (c : Char) : ofFunction? c.toString = none := by
  unfold ofFunction?
  split
  · rename_i digits h
    obtain ⟨-, rfl⟩ : c = 'F' ∧ digits = [] := by simpa using h
    rfl
  · rfl

theorem ofText_char (c : Char) : (ofText c.toString).text = some c.toString := by
  simp [ofText]

end Definition

/-- The key for a character types it and is no modifier. -/
theorem define_char (c : Char) :
    (define c.toString).text = some c.toString ∧ (define c.toString).modifier = none := by
  by_cases hc : c = ' '
  · subst hc
    decide
  · have hdefine : define c.toString = Definition.ofText c.toString := by
      simp only [define, Definition.lookup_char hc, Definition.ofFunction?_char, Option.getD_none]
    rw [hdefine]
    exact ⟨Definition.ofText_char c, (Definition.of_ofText c.toString).2⟩

end BrowserPilot.Key
