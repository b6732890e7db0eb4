import BrowserPilot.Proofs.Json.Token

namespace BrowserPilot.Json

/-!
# Reading rows

The items of a list are read one by one. Before the first there is nothing but blanks, before
each of the others a comma as well; what is read after an item belongs to the item up to the
next comma.
-/

variable {α : Type} {L : List Char → α → Prop} {first more : Bool}
  {cs rest lead blanks inner part : List Char} {parts : List (List Char)}

/-- What stands before a part of a row, and the blanks of it that belong to the part. -/
inductive Lead : Bool → List Char → List Char → Prop
  | first {blanks : List Char} (h : IsGap blanks) : Lead true blanks blanks
  | later {gap blanks : List Char} (_ : IsGap gap) (h : IsGap blanks) :
      Lead false (gap ++ ',' :: blanks) blanks

/-- What is left of a row: all of it, or the further parts after the blanks of the part before. -/
def Onward (first : Bool) (parts : List (List Char)) (inner : List Char) : Prop :=
  if first then Row parts inner else ∃ gap, IsGap gap ∧ inner = gap ++ further parts

theorem Lead.isGap (h : Lead first lead blanks) : IsGap blanks := by
  cases h with
  | first h => exact h
  | later _ h => exact h

theorem Onward.nil (first : Bool) {gap : List Char} (h : IsGap gap) : Onward first [] gap := by
  cases first with
  | true => exact .none h
  | false => exact ⟨gap, h, (List.append_nil gap).symm⟩

theorem Onward.cons (h : Lead first lead blanks) (parts : List (List Char)) (part gap : List Char) :
    Onward first ((blanks ++ (part ++ gap)) :: parts)
      (lead ++ (part ++ (gap ++ further parts))) := by
  cases h with
  | first h =>
      have hrow := Row.some (lead ++ (part ++ gap)) parts
      rw [joinComma_cons] at hrow
      simpa [Onward] using hrow
  | later hbefore h => exact ⟨_, hbefore, by simp⟩

/-- An item that was read belongs to the row that goes on after it. -/
theorem Onward.exists_item {before : List Char} (hinner : Onward false parts inner)
    (h : Lead first lead blanks) (hbefore : IsGap before) (text : List Char) :
    ∃ i : Item, i.text = text ∧
      Onward first (i.chars :: parts) (lead ++ (before ++ (text ++ inner))) := by
  obtain ⟨after, hafter, rfl⟩ := hinner
  refine ⟨⟨blanks ++ before, text, after, h.isGap.append hbefore, hafter⟩, rfl, ?_⟩
  simpa [Item.chars] using Onward.cons h parts (before ++ text) after

theorem Onward.eq_gap (h : Onward first [] inner) : IsGap inner := by
  cases first with
  | true =>
      obtain ⟨hgap⟩ := (h : Row [] inner)
      exact hgap
  | false =>
      obtain ⟨gap, hgap, rfl⟩ := h
      simpa using hgap

theorem Onward.exists_lead (h : Onward first ((blanks ++ part) :: parts) inner)
    (hgap : IsGap blanks) :
    ∃ lead, Lead first lead blanks ∧ inner = lead ++ (part ++ further parts) := by
  cases first with
  | true =>
      obtain ⟨-, -⟩ := (h : Row _ inner)
      exact ⟨blanks, .first hgap, by simp [joinComma_cons]⟩
  | false =>
      obtain ⟨gap, hbefore, rfl⟩ := h
      exact ⟨_, .later hbefore hgap, by simp⟩

/-! ## Lists -/

theorem closeList_eq_ok_iff :
    closeList cs = .ok ((), rest) ↔ ∃ gap, IsGap gap ∧ cs = gap ++ ']' :: rest := by
  constructor
  · intro h
    obtain ⟨gap, hgap, hcs⟩ := exists_gap cs
    unfold closeList at h
    generalize skipGap cs = ds at h hcs
    split at h
    · cases h
    · cases h
      exact ⟨gap, hgap, hcs⟩
    · split at h <;> cases h
    · cases h
  · rintro ⟨gap, hgap, rfl⟩
    simp only [closeList, skipGap_append hgap, skipGap_cons (by decide : isGap ']' = false)]

theorem closeList_end (rest : List Char) : closeList (']' :: rest) = .ok ((), rest) :=
  closeList_eq_ok_iff.2 ⟨[], .nil, rfl⟩

theorem nextItem_end {gap : List Char} (h : IsGap gap) (first : Bool) (rest : List Char) :
    nextItem first (gap ++ ']' :: rest) = .ok (false, ']' :: rest) := by
  simp only [nextItem, skipGap_append h, skipGap_cons (by decide : isGap ']' = false)]

theorem nextItem_lead (h : Lead first lead blanks) {text : List Char} (hvalue : Value text) :
    nextItem first (lead ++ (text ++ rest)) = .ok (true, text ++ rest) := by
  obtain ⟨c, tail, rfl, hblank, hmark⟩ := exists_head_of_value hvalue
  have hc : isGap c = false := isGap_of_not_isBlank hblank
  have hclose : c ≠ ']' := (ne_of_mem_of_not_mem (by decide) hmark).symm
  rw [List.cons_append]
  cases h with
  | first h =>
      rw [nextItem, skipGap_append h, skipGap_cons hc]
      split
      · cases ‹_›
      · exact absurd (List.cons.inj ‹_›).1 hclose
      · rename_i heq
        rw [if_pos rfl, heq]
      · rfl
  | later hgap h =>
      rw [List.append_assoc, List.cons_append, nextItem, skipGap_append hgap,
        skipGap_cons (by decide)]
      simp only [Bool.false_eq_true, if_false, skipGap_append h, skipGap_cons hc]
      split
      · cases ‹_›
      · exact absurd (List.cons.inj ‹_›).1 hclose
      · rfl

theorem nextItem_sound (h : nextItem first cs = .ok (more, rest)) :
    more = false ∧ (∃ gap tail, IsGap gap ∧ cs = gap ++ rest ∧ rest = ']' :: tail) ∨
      more = true ∧ ∃ lead blanks, Lead first lead blanks ∧ cs = lead ++ rest := by
  obtain ⟨gap, hgap, hcs⟩ := exists_gap cs
  unfold nextItem at h
  generalize skipGap cs = ds at h hcs
  split at h
  · cases h
  · cases h
    exact .inl ⟨rfl, gap, _, hgap, hcs, rfl⟩
  · rename_i tail
    cases first with
    | true =>
        cases h
        exact .inr ⟨rfl, gap, gap, .first hgap, hcs⟩
    | false =>
        obtain ⟨blanks, hblanks, htail⟩ := exists_gap tail
        simp only [Bool.false_eq_true, if_false] at h
        split at h
        · cases h
        · cases h
        · cases h
          exact .inr ⟨rfl, _, _, .later hgap hblanks, by simp [hcs, ← htail]⟩
  · cases first with
    | true =>
        cases h
        exact .inr ⟨rfl, gap, gap, .first hgap, hcs⟩
    | false => cases h

variable {item : Scan α} {steps : Nat} {acc as : List α}

/-- The items that are read, and the text that they were read from. -/
theorem readItems_sound (hitem : Reads item L)
    (h : readItems item steps first acc cs = .ok (as, rest)) :
    ∃ items : List Item, ∃ inner as', Onward first (items.map Item.chars) inner ∧
      List.Forall₂ (fun i a ↦ L i.text a) items as' ∧ cs = inner ++ rest ∧
        as = acc.reverse ++ as' ∧ ∃ tail, rest = ']' :: tail := by
  induction steps generalizing first acc cs with
  | zero => cases h
  | succ steps ih =>
      obtain ⟨⟨more, rest'⟩, hnext, hmore⟩ := exists_of_bind_eq_ok h
      rcases nextItem_sound hnext with ⟨rfl, gap, tail, hgap, rfl, rfl⟩ |
        ⟨rfl, lead, blanks, hlead, rfl⟩
      · cases hmore
        exact ⟨[], gap, [], .nil first hgap, .nil, rfl, (List.append_nil _).symm, tail, rfl⟩
      · obtain ⟨⟨a, rest''⟩, hread, hothers⟩ := exists_of_bind_eq_ok hmore
        obtain ⟨before, text, hbefore, rfl, ha⟩ := hitem.sound hread
        obtain ⟨items, inner, as', hinner, has, rfl, rfl, hend⟩ := ih hothers
        obtain ⟨i, rfl, honward⟩ := hinner.exists_item hlead hbefore text
        exact ⟨i :: items, _, a :: as', honward, .cons ha has, by simp, by simp, hend⟩

theorem readItems_complete (acc : List α) (rest : List Char) (hitem : Reads item L)
    {items : List Item}
    (hinner : Onward first (items.map Item.chars) inner)
    (h : List.Forall₂ (fun i a ↦ L i.text a) items as) (hsteps : inner.length < steps) :
    readItems item steps first acc (inner ++ ']' :: rest) =
      .ok (acc.reverse ++ as, ']' :: rest) := by
  induction h generalizing first acc inner steps with
  | nil =>
      obtain ⟨steps, rfl⟩ := Nat.exists_eq_succ_of_ne_zero (Nat.ne_zero_of_lt hsteps)
      rw [readItems, nextItem_end hinner.eq_gap, List.append_nil]
      rfl
  | @cons i a items as ha _ ih =>
      obtain ⟨steps, rfl⟩ := Nat.exists_eq_succ_of_ne_zero (Nat.ne_zero_of_lt hsteps)
      obtain ⟨lead, hlead, rfl⟩ := hinner.exists_lead i.before_gap
      have hvalue := hitem.value ha
      obtain ⟨c, tail, htext, -, -⟩ := exists_head_of_value hvalue
      have hlater : Onward false (items.map Item.chars)
          (i.after ++ further (items.map Item.chars)) :=
        ⟨i.after, i.after_gap, rfl⟩
      have hfewer : (i.after ++ further (items.map Item.chars)).length < steps := by
        simp only [htext, List.length_append, List.length_cons] at hsteps ⊢
        omega
      have hothers := ih (a :: acc) hlater hfewer
      have hread := hitem.eq_ok ha
        (i.after_gap.closed_append (closed_further (items.map Item.chars) (.inl rfl) rest))
      have hsplit : lead ++ (i.text ++ i.after ++ further (items.map Item.chars)) ++ ']' :: rest =
          lead ++ (i.text ++ (i.after ++ (further (items.map Item.chars) ++ ']' :: rest))) := by
        simp
      have hacc : acc.reverse ++ a :: as = (a :: acc).reverse ++ as := by simp
      rw [List.append_assoc] at hothers
      rw [hsplit, readItems, nextItem_lead hlead hvalue, hacc]
      change (item _ >>= _) = _
      rw [hread]
      exact hothers

theorem readList_open {item : Reader α} {depth : Nat} (hdepth : 1 < depth) (cs : List Char) :
    readList item depth ('[' :: cs) =
      readItems (item (depth - 1)) (cs.length + 1) true [] cs >>= fun x ↦
        closeList x.2 >>= fun y ↦ .ok (x.1, y.2) := by
  rw [readList, skipGap_cons (by decide)]
  exact if_neg (Nat.not_le_of_lt hdepth)

/-- A list is read if its items are. -/
theorem readList_reads {item : Reader α} {depth : Nat} (hdepth : 1 < depth)
    (hitem : Reads (item (depth - 1)) L) : Reads (readList item depth) (IsList L) := by
  apply Reads.of_token
  · exact fun _ _ h ↦ h.value fun _ _ ↦ hitem.value
  · intro cs
    simp only [readList, skipGap_skipGap]
  · intro cs as rest h hcs
    simp only [readList, hcs] at h
    split at h
    · cases h
    · rw [if_neg (Nat.not_le_of_lt hdepth)] at h
      obtain ⟨⟨items, mid⟩, hread, hmid⟩ := exists_of_bind_eq_ok h
      obtain ⟨⟨⟨⟩, rest'⟩, hclose, hok⟩ := exists_of_bind_eq_ok hmid
      cases hok
      obtain ⟨items, inner, as, hinner, has, rfl, rfl, tail, rfl⟩ := readItems_sound hitem hread
      obtain rfl := (Prod.mk.inj (Except.ok.inj (hclose.symm.trans (closeList_end tail)))).2
      exact ⟨_, by simp, .mk items hinner has⟩
    · exact absurd h (refuseKind_ne_ok _ _ _)
  · intro text as rest h _
    cases h with
    | @mk inner as items hrow has =>
        have hinner : Onward true (items.map Item.chars) inner := hrow
        have hsteps : inner.length < (inner ++ ']' :: rest).length + 1 := by
          simp only [List.length_append]
          omega
        have hread := readItems_complete [] rest hitem hinner has hsteps
        rw [List.cons_append, List.append_assoc, List.singleton_append, readList_open hdepth, hread]
        change (closeList (']' :: rest) >>= fun y ↦ .ok (as, y.2)) = _
        rw [closeList_end]
        rfl

end BrowserPilot.Json
