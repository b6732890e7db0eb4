import BrowserPilot.Json.Typed
import BrowserPilot.Proofs.Except
import BrowserPilot.Proofs.Json.Grammar
import Mathlib.Data.List.DropRight

namespace BrowserPilot.Json

/-!
# Reading tokens

A scan reads a language if it takes the texts of the language off the front, whatever
comes after them, and nothing else. Only a number could go on in what comes after it, so that
must not begin with a character that numbers have in their midst.
-/

/-- What comes next does not go on with a number. -/
def Closed (rest : List Char) : Prop :=
  ∀ c ∈ rest.head?, isDigit c = false ∧ c ≠ '.' ∧ c ≠ 'e' ∧ c ≠ 'E'

theorem Closed.nil : Closed [] := nofun

theorem Closed.cons {c : Char} (hdigit : isDigit c = false) (hpoint : c ≠ '.') (hsmall : c ≠ 'e')
    (hlarge : c ≠ 'E') (rest : List Char) : Closed (c :: rest) := by
  intro d hd
  obtain rfl := Option.some.inj hd
  exact ⟨hdigit, hpoint, hsmall, hlarge⟩

theorem IsGap.closed_append {gap rest : List Char} (hgap : IsGap gap) (h : Closed rest) :
    Closed (gap ++ rest) := by
  cases gap with
  | nil => exact h
  | cons c gap =>
      have hc := hgap c List.mem_cons_self
      simp only [isGap, Bool.or_eq_true, beq_iff_eq] at hc
      rcases hc with ((rfl | rfl) | rfl) | rfl <;>
        exact .cons (by decide) (by decide) (by decide) (by decide) _

theorem closed_further (parts : List (List Char)) {c : Char} (hc : c = ']' ∨ c = '}')
    (rest : List Char) : Closed (further parts ++ c :: rest) := by
  cases parts with
  | nil =>
      rcases hc with rfl | rfl <;>
        exact .cons (by decide) (by decide) (by decide) (by decide) _
  | cons part parts => exact .cons (by decide) (by decide) (by decide) (by decide) _

/-- The scan reads the texts of `L`, with blanks before them, and makes of each what `L` says. All
of them are values. -/
structure Reads {α : Type} (scan : Scan α) (L : List Char → α → Prop) : Prop where
  value : ∀ {text a}, L text a → Value text
  sound : ∀ {cs a rest}, scan cs = .ok (a, rest) →
    ∃ gap text, IsGap gap ∧ cs = gap ++ (text ++ rest) ∧ L text a
  complete : ∀ {gap text a rest}, IsGap gap → L text a → Closed rest →
    scan (gap ++ (text ++ rest)) = .ok (a, rest)

variable {α β : Type} {cs rest : List Char}

theorem Reads.eq_ok {scan : Scan α} {L : List Char → α → Prop} (h : Reads scan L)
    {text : List Char} {a : α} (ha : L text a) (hrest : Closed rest) :
    scan (text ++ rest) = .ok (a, rest) :=
  h.complete .nil ha hrest

/-! ## Blanks -/

theorem skipGap_append {gap : List Char} (h : IsGap gap) (cs : List Char) :
    skipGap (gap ++ cs) = skipGap cs :=
  List.dropWhile_append_of_pos h

theorem skipGap_cons {c : Char} (h : isGap c = false) (cs : List Char) :
    skipGap (c :: cs) = c :: cs := by
  rw [skipGap, List.dropWhile_cons_of_neg (by simp [h])]

theorem Value.skipGap_append {text : List Char} (h : Value text) (cs : List Char) :
    skipGap (text ++ cs) = text ++ cs := by
  obtain ⟨c, tail, rfl, hc, -⟩ := exists_head_of_value h
  exact skipGap_cons (isGap_of_not_isBlank hc) _

theorem skipGap_of_isGap (h : IsGap cs) : skipGap cs = [] :=
  List.dropWhile_eq_nil_iff.2 h

@[simp] theorem skipGap_skipGap (cs : List Char) : skipGap (skipGap cs) = skipGap cs :=
  List.dropWhile_idempotent _ _

theorem exists_gap (cs : List Char) : ∃ gap, IsGap gap ∧ cs = gap ++ skipGap cs :=
  ⟨cs.takeWhile isGap, fun _ ↦ List.mem_takeWhile_imp, (List.takeWhile_append_dropWhile).symm⟩

/-- A scan that begins by dropping blanks is known from what it does without them. -/
theorem Reads.of_token {scan : Scan α} {L : List Char → α → Prop}
    (hvalue : ∀ text a, L text a → Value text) (hscan : ∀ cs, scan (skipGap cs) = scan cs)
    (hsound : ∀ cs a rest, scan cs = .ok (a, rest) → skipGap cs = cs →
      ∃ text, cs = text ++ rest ∧ L text a)
    (hcomplete : ∀ text a rest, L text a → Closed rest → scan (text ++ rest) = .ok (a, rest)) :
    Reads scan L where
  value := hvalue _ _
  sound {cs a rest} h := by
    obtain ⟨gap, hgap, hcs⟩ := exists_gap cs
    obtain ⟨text, htext, ha⟩ := hsound _ a rest ((hscan cs).trans h) (skipGap_skipGap cs)
    exact ⟨gap, text, hgap, htext ▸ hcs, ha⟩
  complete {gap text a rest} hgap ha hrest := by
    rw [← hscan, skipGap_append hgap, (hvalue text a ha).skipGap_append]
    exact hcomplete text a rest ha hrest

theorem Reads.of_iff {scan : Scan α} {L L' : List Char → α → Prop} (h : Reads scan L)
    (hiff : ∀ text a, L text a ↔ L' text a) : Reads scan L' := by
  obtain rfl : L = L' := funext fun text ↦ funext fun a ↦ propext (hiff text a)
  exact h

/-- Something is made of what is read. -/
theorem Reads.map {scan : Scan α} {L : List Char → α → Prop} (h : Reads scan L) (f : α → β) :
    Reads (fun cs ↦ do
      let (a, rest) ← scan cs
      return (f a, rest)) fun text b ↦ ∃ a, L text a ∧ f a = b where
  value := by
    rintro text _ ⟨a, ha, rfl⟩
    exact h.value ha
  sound {cs b rest} hscan := by
    obtain ⟨⟨a, rest'⟩, hread, hb⟩ := exists_of_bind_eq_ok hscan
    cases hb
    obtain ⟨gap, text, hgap, hcs, ha⟩ := h.sound hread
    exact ⟨gap, text, hgap, hcs, a, ha, rfl⟩
  complete {gap text b rest} hgap hb hrest := by
    obtain ⟨a, ha, rfl⟩ := hb
    rw [h.complete hgap ha hrest]
    rfl

/-- A whole text is read if it is one of the language with blanks around it. -/
theorem Reads.run_eq_ok_iff {scan : Scan α} {L : List Char → α → Prop} (h : Reads scan L)
    {text : String} {a : α} : Scan.run scan text = .ok a ↔
      ∃ i : Item, text.toList = i.chars ∧ L i.text a := by
  have hend : ∀ rest, finish rest = .ok () ↔ IsGap rest := by
    intro rest
    rw [finish]
    constructor
    · intro hrest
      split at hrest
      · rename_i hnil
        exact List.dropWhile_eq_nil_iff.1 hnil
      · cases hrest
    · intro hrest
      rw [skipGap_of_isGap hrest]
  constructor
  · intro hrun
    simp only [Scan.run] at hrun
    split at hrun
    · rename_i hread
      obtain rfl := Except.ok.inj hrun
      obtain ⟨⟨b, rest⟩, hscan, hrest⟩ := exists_of_bind_eq_ok hread
      obtain ⟨_, hfinish, hb⟩ := exists_of_bind_eq_ok hrest
      cases hb
      obtain ⟨gap, t, hgap, ht, hb⟩ := h.sound hscan
      exact ⟨⟨gap, t, rest, hgap, (hend rest).1 hfinish⟩, ht, hb⟩
    · cases hrun
  · rintro ⟨i, hi, ha⟩
    have hscan := h.complete i.before_gap ha
      ((List.append_nil i.after) ▸ i.after_gap.closed_append .nil)
    simp [Scan.run, hi, Item.chars, hscan, (hend i.after).2 i.after_gap, bind, Except.bind, pure,
      Except.pure]

theorem Reads.run_eq_ok {scan : Scan α} {L : List Char → α → Prop} (h : Reads scan L)
    {text : String} {a : α} (ha : L text.toList a) : Scan.run scan text = .ok a :=
  h.run_eq_ok_iff.2 ⟨⟨[], text.toList, [], .nil, .nil⟩,
    by simp only [Item.chars, List.nil_append, List.append_nil], ha⟩

/-! ## Literals -/

theorem word_eq_ok_iff {ws cs rest : List Char} :
    word ws cs = .ok ((), rest) ↔ cs = ws ++ rest := by
  induction ws generalizing cs with
  | nil => simp [word]
  | cons w ws ih =>
      cases cs with
      | nil => simp [word, stop]
      | cons c cs =>
          rw [word]
          split
          · rename_i hc
            rw [ih, hc, List.cons_append, List.cons_inj_right]
          · rename_i hc
            simp [refuse, hc]

theorem refuseKind_ne_ok (expected : String) (cs : List Char) (x : α × List Char) :
    refuseKind expected cs ≠ .ok x := by
  have hmismatch (m : Mismatch) (rest : List Char) : mismatchAt m rest ≠ .ok x := nofun
  unfold refuseKind
  split
  · cases word ['u', 'l', 'l'] _ <;> nofun
  · cases word ['r', 'u', 'e'] _ <;> nofun
  · cases word ['a', 'l', 's', 'e'] _ <;> nofun
  · cases numberBody true _ <;> nofun
  · cases stringBody _ <;> nofun
  · nofun
  · nofun
  · split
    · cases numberBody false _ <;> nofun
    · nofun

theorem readBoolean_reads (depth : Nat) : Reads (readBoolean depth) IsBoolean := by
  apply Reads.of_token
  · exact fun _ _ ↦ IsBoolean.value
  · intro cs
    simp only [readBoolean, skipGap_skipGap]
  · intro cs b rest h hcs
    simp only [readBoolean, hcs] at h
    split at h
    · cases h
    · obtain ⟨x, hword, hx⟩ := exists_of_bind_eq_ok h
      cases hx
      exact ⟨_, congrArg ('t' :: ·) (word_eq_ok_iff.1 hword), .true⟩
    · obtain ⟨x, hword, hx⟩ := exists_of_bind_eq_ok h
      cases hx
      exact ⟨_, congrArg ('f' :: ·) (word_eq_ok_iff.1 hword), .false⟩
    · exact absurd h (refuseKind_ne_ok _ _ _)
  · intro text b rest h _
    cases h with
    | true => rfl
    | false => rfl

end BrowserPilot.Json
