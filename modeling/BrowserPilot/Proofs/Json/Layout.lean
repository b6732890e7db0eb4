import BrowserPilot.Proofs.Json.Skip

namespace BrowserPilot.Json

/-!
# Values of several lines

The lines of a value end between its tokens. What comes after such an end closes a bracket that
it did not open, and so it is no value.
-/

variable {gap text after rest cs ds raw inner : List Char} {parts : List (List Char)} {c : Char}

/-- A value with blanks of any kind around it, and nothing else. -/
def Whole (cs : List Char) : Prop := ∃ text after, Text.dropBlank cs = text ++ after ∧
  Value text ∧ ∀ c ∈ after, Text.isBlank c = true

theorem whole_append (hgap : IsGap gap) : Whole (gap ++ cs) ↔ Whole cs := by
  have hdrop : Text.dropBlank (gap ++ cs) = Text.dropBlank cs :=
    List.dropWhile_append_of_pos fun c hc ↦ isBlank_of_isGap (hgap c hc)
  rw [Whole, hdrop, Whole]

theorem isBlank_of_mem_marks (hc : c ∈ marks) : Text.isBlank c = false := by
  rcases mem_marks_iff.1 hc with rfl | rfl | rfl | rfl <;> rfl

theorem closed_of_mem_marks (hc : c ∈ marks) (rest : List Char) : Closed (c :: rest) := by
  rcases mem_marks_iff.1 hc with rfl | rfl | rfl | rfl <;>
    exact .cons (by decide) (by decide) (by decide) (by decide) _

theorem closed_of_isBlank (h : ∀ c ∈ after, Text.isBlank c = true) : Closed after := by
  intro c hc
  have hblank := h c (List.mem_of_mem_head? hc)
  refine ⟨?_, ?_, ?_, ?_⟩
  · cases hdigit : isDigit c with
    | false => rfl
    | true => cases (isBlank_of_isDigit hdigit).symm.trans hblank
  all_goals
    rintro rfl
    cases hblank

theorem not_whole_of_mark (hc : c ∈ marks) (rest : List Char) : ¬ Whole (c :: rest) := by
  rintro ⟨text, after, htext, hvalue, -⟩
  obtain ⟨d, tail, rfl, -, hmark⟩ := exists_head_of_value hvalue
  rw [Text.dropBlank_cons (isBlank_of_mem_marks hc)] at htext
  exact hmark ((List.cons.inj htext).1 ▸ hc)

/-- There is more than one value. -/
theorem not_whole_of_value (h : Value text) (hafter : IsGap after) (hc : c ∈ marks)
    (rest : List Char) : ¬ Whole (text ++ (after ++ c :: rest)) := by
  rintro ⟨text', after', htext, hvalue, hblank⟩
  have hstart : Text.dropBlank (text ++ (after ++ c :: rest)) = text ++ (after ++ c :: rest) := by
    obtain ⟨d, tail, rfl, hd, -⟩ := exists_head_of_value h
    exact Text.dropBlank_cons hd _
  rw [hstart] at htext
  -- what is left after the first value is known
  have hfirst := skip_reads.eq_ok (a := ()) h
    (hafter.closed_append (closed_of_mem_marks hc rest))
  have hall := skip_reads.eq_ok (a := ()) hvalue (closed_of_isBlank hblank)
  rw [htext, hall] at hfirst
  have hrest : after' = after ++ c :: rest := congrArg Prod.snd (Except.ok.inj hfirst)
  have hmark : Text.isBlank c = true := hblank c (hrest ▸ by simp)
  exact Bool.false_ne_true ((isBlank_of_mem_marks hc).symm.trans hmark)

/-! ## After the end of a line -/

/-- With `rest` after the text, what comes after any of its lines is no value. -/
def Unresumed (text rest : List Char) : Prop :=
  ∀ before after, text = before ++ '\n' :: after → ¬ Whole (after ++ rest)

theorem Unresumed.nil (rest : List Char) : Unresumed [] rest := by
  intro before after h
  simp at h

theorem Unresumed.cons (hc : c ≠ '\n') (h : Unresumed cs rest) : Unresumed (c :: cs) rest := by
  intro before after hcs
  cases before with
  | nil => exact absurd (List.cons.inj hcs).1 hc
  | cons d before => exact h before after (List.cons.inj hcs).2

theorem Unresumed.append (hcs : Unresumed cs (ds ++ rest)) (hds : Unresumed ds rest) :
    Unresumed (cs ++ ds) rest := by
  intro before after h
  rcases List.append_eq_append_iff.1 h with ⟨mid, rfl, hmid⟩ | ⟨mid, rfl, hmid⟩
  · exact hds mid after hmid
  · cases mid with
    | nil => exact hds [] after hmid.symm
    | cons c mid =>
        obtain ⟨rfl, rfl⟩ := List.cons.inj hmid
        simpa using hcs before mid rfl

theorem Unresumed.of_isGap (hgap : IsGap gap) (h : ¬ Whole rest) : Unresumed gap rest := by
  rintro before after rfl
  have hafter : IsGap after := fun c hc ↦ hgap c (by simp [hc])
  exact mt (whole_append hafter).1 h

theorem Unresumed.of_notMem (h : '\n' ∉ text) (rest : List Char) : Unresumed text rest := by
  rintro before after rfl
  exact absurd (by simp) h

/-! ## Tokens -/

theorem newline_notMem_hexDigits {digits : List Char} {n : Nat} (h : hexCode? digits = some n) :
    '\n' ∉ digits := by
  have hdigit : hexValue? '\n' = none := rfl
  unfold hexCode? at h
  split at h
  · split at h
    · rintro hmem
      simp only [List.mem_cons, List.not_mem_nil, or_false] at hmem
      rcases hmem with rfl | rfl | rfl | rfl <;> contradiction
    · cases h
  · cases h

theorem Quotable.newline_notMem (h : Quotable raw) : '\n' ∉ raw := by
  induction h with
  | nil => exact List.not_mem_nil
  | plain _ _ hcontrol _ ih =>
      refine List.not_mem_cons_of_ne_of_not_mem ?_ ih
      rintro rfl
      exact absurd hcontrol (by decide)
  | letter hletter _ ih =>
      refine List.not_mem_cons_of_ne_of_not_mem (by decide) ?_
      refine List.not_mem_cons_of_ne_of_not_mem ?_ ih
      rintro rfl
      cases hletter
  | code hcode _ ih => simp [newline_notMem_hexDigits hcode, ih]

theorem IsDigits.newline_notMem (h : IsDigits text) : '\n' ∉ text := by
  intro hmem
  cases h.2 _ hmem

theorem IsMagnitude.newline_notMem (h : IsMagnitude text) : '\n' ∉ text := by
  obtain @⟨whole, fraction, exponent, hwhole, hfraction, hexponent⟩ := h
  have hfirst : '\n' ∉ whole := by
    rcases hwhole with rfl | ⟨hdigits, -⟩
    · decide
    · exact hdigits.newline_notMem
  have hsecond : '\n' ∉ fraction := by
    cases hfraction with
    | none => exact List.not_mem_nil
    | some h => simp [h.newline_notMem]
  have hthird : '\n' ∉ exponent := by
    cases hexponent with
    | none => exact List.not_mem_nil
    | some hmark hsign h =>
        rcases hmark with rfl | rfl <;> rcases hsign with rfl | rfl | rfl <;>
          simp [h.newline_notMem]
  simp [hfirst, hsecond, hthird]

/-! ## Brackets -/

theorem Item.unresumed (i : Item) (hvalue : Value i.text) (h : ∀ rest, Unresumed i.text rest)
    (hc : c ∈ marks) (rest : List Char) : Unresumed i.chars (c :: rest) := by
  have hmark := not_whole_of_mark hc rest
  have hmore := not_whole_of_value hvalue i.after_gap hc rest
  refine .append (.of_isGap i.before_gap ?_) (.append (h _) (.of_isGap i.after_gap hmark))
  rwa [List.append_assoc]

theorem Member.unresumed (m : Member) (hname : Quotable m.name) (hvalue : Value m.value.text)
    (h : ∀ rest, Unresumed m.value.text rest) (hc : c ∈ marks) (rest : List Char) :
    Unresumed m.chars (c :: rest) := by
  have hcolon : ':' ∈ marks := by decide
  have hmore := not_whole_of_value (.string hname) m.between_gap hcolon
    (m.value.chars ++ c :: rest)
  refine .append (.of_isGap m.before_gap (by simpa using hmore)) (.cons (by decide) ?_)
  refine .append (.of_notMem hname.newline_notMem _) (.cons (by decide) ?_)
  refine .append (.of_isGap m.between_gap (not_whole_of_mark hcolon _)) (.cons (by decide) ?_)
  exact m.value.unresumed hvalue h hc rest

theorem further_unresumed (h : ∀ part ∈ parts, ∀ c ∈ marks, ∀ rest, Unresumed part (c :: rest))
    (hc : c ∈ marks) (rest : List Char) : Unresumed (further parts) (c :: rest) := by
  induction parts with
  | nil => exact .nil _
  | cons part parts ih =>
      obtain ⟨hpart, hparts⟩ := List.forall_mem_cons.1 h
      refine .cons (by decide) (.append ?_ (ih hparts))
      cases parts with
      | nil => exact hpart c hc rest
      | cons next parts => exact hpart ',' (by decide) _

theorem Row.unresumed (hrow : Row parts inner)
    (h : ∀ part ∈ parts, ∀ c ∈ marks, ∀ rest, Unresumed part (c :: rest)) (hc : c ∈ marks)
    (rest : List Char) : Unresumed inner (c :: rest) := by
  cases hrow with
  | none hgap => exact .of_isGap hgap (not_whole_of_mark hc rest)
  | some part parts =>
      -- a comma before the first part would change nothing
      have hcomma := further_unresumed h hc rest
      rw [joinComma_cons]
      intro before after hinner
      exact hcomma (',' :: before) after (congrArg (',' :: ·) hinner)

/-- A value is not resumed after any of its lines, whatever comes after it. -/
theorem Value.unresumed (h : Value text) (rest : List Char) : Unresumed text rest := by
  induction h generalizing rest with
  | null => exact .of_notMem (by decide) rest
  | true => exact .of_notMem (by decide) rest
  | false => exact .of_notMem (by decide) rest
  | magnitude h => exact .of_notMem h.newline_notMem rest
  | negative h => exact .cons (by decide) (.of_notMem h.newline_notMem rest)
  | string h =>
      refine .cons (by decide) (.append (.of_notMem h.newline_notMem _) ?_)
      exact .cons (by decide) (.nil rest)
  | array items hrow hvalue ih =>
      have hparts : ∀ part ∈ items.map Item.chars, ∀ c ∈ marks, ∀ rest,
          Unresumed part (c :: rest) :=
        List.forall_mem_map.2 fun i hi _ hc rest ↦ i.unresumed (hvalue i hi) (ih i hi) hc rest
      refine .cons (by decide) (.append (hrow.unresumed hparts (by decide) rest) ?_)
      exact .cons (by decide) (.nil rest)
  | object members hrow hname hvalue ih =>
      have hparts : ∀ part ∈ members.map Member.chars, ∀ c ∈ marks, ∀ rest,
          Unresumed part (c :: rest) :=
        List.forall_mem_map.2 fun m hm _ hc rest ↦
          m.unresumed (hname m hm) (hvalue m hm) (ih m hm) hc rest
      refine .cons (by decide) (.append (hrow.unresumed hparts (by decide) rest) ?_)
      exact .cons (by decide) (.nil rest)

end BrowserPilot.Json
