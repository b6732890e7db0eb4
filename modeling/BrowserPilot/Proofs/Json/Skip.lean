import BrowserPilot.Proofs.Json.Number
import BrowserPilot.Proofs.Json.Quoted

namespace BrowserPilot.Json

/-!
# Passing over values

What nobody asks for is passed over if it has the written form of a value, whatever its depth,
and the number of steps that is allowed is always enough.
-/

variable {cs rest text raw : List Char}

/-! ## Strings and names -/

theorem skipEscape_eq_ok_iff : skipEscape cs = .ok rest ↔
    (∃ l c, cs = l :: rest ∧ letterEscape? l = some c) ∨
      ∃ digits n, cs = 'u' :: (digits ++ rest) ∧ hexCode? digits = some n := by
  constructor
  · intro h
    unfold skipEscape at h
    split at h
    · cases h
    · split at h
      · rename_i hu
        obtain ⟨x, hdigits, rfl⟩ := exists_of_map_eq_ok h
        obtain ⟨digits, hcs, hn⟩ := hexFour_eq_ok_iff.1 hdigits
        exact .inr ⟨digits, x.1, by rw [hu, hcs], hn⟩
      · split at h
        · rename_i hletter
          obtain ⟨c, hc⟩ := Option.isSome_iff_exists.1 hletter
          cases h
          exact .inl ⟨_, c, rfl, hc⟩
        · cases h
  · rintro (⟨l, c, rfl, hl⟩ | ⟨digits, n, rfl, hn⟩)
    · have hu : l ≠ 'u' := by
        rintro rfl
        cases hl
      simp [skipEscape, hu, hl]
    · rw [skipEscape, if_pos rfl, hexFour_eq_ok_iff.2 ⟨digits, rfl, hn⟩]
      rfl

theorem skipString_escape {e tail : List Char} (hescape : skipEscape e = .ok tail) :
    skipString ('\\' :: e) = skipString tail := by
  rw [skipString]
  split <;> simp_all

theorem skipString_sound (h : skipString cs = .ok rest) :
    ∃ raw, cs = raw ++ '"' :: rest ∧ Quotable raw := by
  induction cs using skipString.induct with
  | case1 => simp [skipString, stop] at h
  | case2 tail =>
      rw [skipString] at h
      cases h
      exact ⟨[], rfl, .nil⟩
  | case3 tail rest' hescape ih =>
      obtain ⟨raw, rfl, hraw⟩ := ih (skipString_escape hescape ▸ h)
      rcases skipEscape_eq_ok_iff.1 hescape with ⟨l, c, rfl, hl⟩ | ⟨digits, n, rfl, hn⟩
      · exact ⟨_, by simp, .letter hl hraw⟩
      · exact ⟨_, by simp, .code hn hraw⟩
  | case4 tail fault hescape =>
      rw [skipString] at h
      split at h <;> simp_all
  | case5 c tail hquote hslash hcontrol =>
      simp [skipString, hcontrol, stop] at h
  | case6 c tail hquote hslash hcontrol ih =>
      rw [skipString, if_neg hcontrol] at h
      · obtain ⟨raw, rfl, hraw⟩ := ih h
        exact ⟨_, rfl, .plain hquote hslash (Nat.le_of_not_lt hcontrol) hraw⟩
      · exact hquote
      · exact hslash

theorem skipString_complete (h : Quotable raw) : skipString (raw ++ '"' :: rest) = .ok rest := by
  induction h with
  | nil => simp [skipString]
  | plain hquote hslash hcontrol _ ih =>
      rw [List.cons_append, skipString, if_neg (Nat.not_lt_of_le hcontrol), ih]
      · exact hquote
      · exact hslash
  | letter hletter _ ih =>
      exact (skipString_escape (skipEscape_eq_ok_iff.2 (.inl ⟨_, _, rfl, hletter⟩))).trans ih
  | code hcode _ ih =>
      rw [List.cons_append, List.cons_append, List.append_assoc]
      exact (skipString_escape (skipEscape_eq_ok_iff.2 (.inr ⟨_, _, rfl, hcode⟩))).trans ih

theorem colon_eq_ok_iff :
    colon cs = .ok ((), rest) ↔ ∃ gap, IsGap gap ∧ cs = gap ++ ':' :: rest := by
  constructor
  · intro h
    unfold colon at h
    split at h
    · cases h
    · rename_i hskip
      cases h
      obtain ⟨gap, hgap, hcs⟩ := exists_gap cs
      exact ⟨gap, hgap, hskip ▸ hcs⟩
    · cases h
  · rintro ⟨gap, hgap, rfl⟩
    simp only [colon, skipGap_append hgap, skipGap_cons (by decide : isGap ':' = false)]

theorem skipName_eq_ok_iff : skipName cs = .ok rest ↔ ∃ before name between, IsGap before ∧
    Quotable name ∧ IsGap between ∧
      cs = before ++ '"' :: (name ++ '"' :: (between ++ ':' :: rest)) := by
  constructor
  · intro h
    unfold skipName at h
    split at h
    · cases h
    · rename_i tail hskip
      obtain ⟨tail, hname, hcolon⟩ := exists_of_bind_eq_ok h
      obtain ⟨x, hread, hx⟩ := exists_of_bind_eq_ok hcolon
      cases hx
      obtain ⟨gap, hgap, hcs⟩ := exists_gap cs
      obtain ⟨name, rfl, hquotable⟩ := skipString_sound hname
      obtain ⟨between, hbetween, rfl⟩ := colon_eq_ok_iff.1 hread
      exact ⟨gap, name, between, hgap, hquotable, hbetween, hskip ▸ hcs⟩
    · cases h
  · rintro ⟨before, name, between, hbefore, hname, hbetween, rfl⟩
    rw [skipName, skipGap_append hbefore, skipGap_cons (by decide)]
    simp [skipString_complete hname, colon_eq_ok_iff.2 ⟨between, hbetween, rfl⟩, bind, Except.bind,
      pure, Except.pure]

/-! ## Values -/

/-- The members of an object that nobody asks for. -/
def Member.WellFormed (m : Member) : Prop := Quotable m.name ∧ Value m.value.text

def ValuePasses (steps : Nat) : Prop := ∀ cs rest, skipValue steps cs = .ok rest →
  ∃ gap text, IsGap gap ∧ Value text ∧ cs = gap ++ (text ++ rest)

def ItemsPass (steps : Nat) : Prop := ∀ cs rest, skipItems steps cs = .ok rest →
  ∃ gap, ∃ items : List Item, IsGap gap ∧ (∀ i ∈ items, Value i.text) ∧
    cs = gap ++ (further (items.map Item.chars) ++ ']' :: rest)

def MembersPass (steps : Nat) : Prop := ∀ cs rest, skipMembers steps cs = .ok rest →
  ∃ gap, ∃ members : List Member, IsGap gap ∧ (∀ m ∈ members, m.WellFormed) ∧
    cs = gap ++ (further (members.map Member.chars) ++ '}' :: rest)

section Sound

variable {steps : Nat}

theorem ItemsPass.succ (hvalue : ValuePasses steps) (hitems : ItemsPass steps) :
    ItemsPass (steps + 1) := by
  intro cs rest h
  obtain ⟨gap, hgap, hcs⟩ := exists_gap cs
  unfold skipItems at h
  generalize skipGap cs = ds at h hcs
  split at h
  · cases h
  · cases h
    exact ⟨gap, [], hgap, List.forall_mem_nil _, hcs⟩
  · obtain ⟨tail, hfirst, hothers⟩ := exists_of_bind_eq_ok h
    obtain ⟨before, text, hbefore, hv, rfl⟩ := hvalue _ _ hfirst
    obtain ⟨after, items, hafter, hvs, rfl⟩ := hitems _ _ hothers
    exact ⟨gap, ⟨before, text, after, hbefore, hafter⟩ :: items, hgap,
      List.forall_mem_cons.2 ⟨hv, hvs⟩, by simp [hcs, Item.chars]⟩
  · cases h

theorem MembersPass.succ (hvalue : ValuePasses steps) (hmembers : MembersPass steps) :
    MembersPass (steps + 1) := by
  intro cs rest h
  obtain ⟨gap, hgap, hcs⟩ := exists_gap cs
  unfold skipMembers at h
  generalize skipGap cs = ds at h hcs
  split at h
  · cases h
  · cases h
    exact ⟨gap, [], hgap, List.forall_mem_nil _, hcs⟩
  · obtain ⟨named, hname, hmember⟩ := exists_of_bind_eq_ok h
    obtain ⟨tail, hfirst, hothers⟩ := exists_of_bind_eq_ok hmember
    obtain ⟨start, name, between, hstart, hquotable, hbetween, rfl⟩ := skipName_eq_ok_iff.1 hname
    obtain ⟨before, text, hbefore, hv, rfl⟩ := hvalue _ _ hfirst
    obtain ⟨after, members, hafter, hvs, rfl⟩ := hmembers _ _ hothers
    exact ⟨gap, ⟨start, name, between, ⟨before, text, after, hbefore, hafter⟩, hstart, hbetween⟩ ::
      members, hgap, List.forall_mem_cons.2 ⟨⟨hquotable, hv⟩, hvs⟩,
      by simp [hcs, Member.chars, Item.chars]⟩
  · cases h

/-- An array after its bracket. -/
theorem array_sound (hvalue : ValuePasses steps) (hitems : ItemsPass steps)
    (h : (match skipGap cs with
      | [] => stop .endInList []
      | ']' :: rest => .ok rest
      | rest => do skipItems steps (← skipValue steps rest)) = .ok rest) :
    ∃ text, Value text ∧ '[' :: cs = text ++ rest := by
  obtain ⟨gap, hgap, hcs⟩ := exists_gap cs
  generalize skipGap cs = ds at h hcs
  split at h
  · cases h
  · cases h
    exact ⟨_, .array [] (.none hgap) (List.forall_mem_nil _), by simp [hcs]⟩
  · obtain ⟨tail, hfirst, hothers⟩ := exists_of_bind_eq_ok h
    obtain ⟨before, text, hbefore, hv, rfl⟩ := hvalue _ _ hfirst
    obtain ⟨after, items, hafter, hvs, rfl⟩ := hitems _ _ hothers
    exact ⟨_, .array (⟨gap ++ before, text, after, hgap.append hbefore, hafter⟩ :: items)
      (.some _ _) (List.forall_mem_cons.2 ⟨hv, hvs⟩),
      by simp [hcs, joinComma_cons, Item.chars]⟩

/-- An object after its brace. -/
theorem object_sound (hvalue : ValuePasses steps) (hmembers : MembersPass steps)
    (h : (match skipGap cs with
      | [] => stop .endInObject []
      | '}' :: rest => .ok rest
      | rest => do skipMembers steps (← skipValue steps (← skipName rest))) = .ok rest) :
    ∃ text, Value text ∧ '{' :: cs = text ++ rest := by
  obtain ⟨gap, hgap, hcs⟩ := exists_gap cs
  generalize skipGap cs = ds at h hcs
  split at h
  · cases h
  · cases h
    exact ⟨_, .object [] (.none hgap) (List.forall_mem_nil _) (List.forall_mem_nil _),
      by simp [hcs]⟩
  · obtain ⟨named, hname, hmember⟩ := exists_of_bind_eq_ok h
    obtain ⟨tail, hfirst, hothers⟩ := exists_of_bind_eq_ok hmember
    obtain ⟨start, name, between, hstart, hquotable, hbetween, rfl⟩ := skipName_eq_ok_iff.1 hname
    obtain ⟨before, text, hbefore, hv, rfl⟩ := hvalue _ _ hfirst
    obtain ⟨after, members, hafter, hvs, rfl⟩ := hmembers _ _ hothers
    let first : Member := ⟨gap ++ start, name, between, ⟨before, text, after, hbefore, hafter⟩,
      hgap.append hstart, hbetween⟩
    exact ⟨_, .object (first :: members) (.some _ _)
      (List.forall_mem_cons.2 ⟨hquotable, fun m hm ↦ (hvs m hm).1⟩)
      (List.forall_mem_cons.2 ⟨hv, fun m hm ↦ (hvs m hm).2⟩),
      by simp [hcs, joinComma_cons, first, Member.chars, Item.chars]⟩

theorem ValuePasses.succ (hvalue : ValuePasses steps) (hitems : ItemsPass steps)
    (hmembers : MembersPass steps) : ValuePasses (steps + 1) := by
  intro cs rest h
  obtain ⟨gap, hgap, hcs⟩ := exists_gap cs
  have hfound : ∃ text, Value text ∧ skipGap cs = text ++ rest := by
    unfold skipValue at h
    generalize skipGap cs = ds at h ⊢
    split at h
    · cases h
    · obtain ⟨x, hword, rfl⟩ := exists_of_map_eq_ok h
      exact ⟨_, .null, congrArg ('n' :: ·) (word_eq_ok_iff.1 hword)⟩
    · obtain ⟨x, hword, rfl⟩ := exists_of_map_eq_ok h
      exact ⟨_, .true, congrArg ('t' :: ·) (word_eq_ok_iff.1 hword)⟩
    · obtain ⟨x, hword, rfl⟩ := exists_of_map_eq_ok h
      exact ⟨_, .false, congrArg ('f' :: ·) (word_eq_ok_iff.1 hword)⟩
    · obtain ⟨text, htext, rfl⟩ := skipNumber_sound h
      exact ⟨_, .negative htext, rfl⟩
    · obtain ⟨raw, rfl, hraw⟩ := skipString_sound h
      exact ⟨_, .string hraw, by simp⟩
    · exact array_sound hvalue hitems h
    · exact object_sound hvalue hmembers h
    · split at h
      · obtain ⟨text, htext, hds⟩ := skipNumber_sound h
        exact ⟨text, .magnitude htext, hds⟩
      · cases h
  obtain ⟨text, htext, hskip⟩ := hfound
  exact ⟨gap, text, hgap, htext, hskip ▸ hcs⟩

theorem skip_sound (steps : Nat) : ValuePasses steps ∧ ItemsPass steps ∧ MembersPass steps := by
  induction steps with
  | zero => exact ⟨nofun, nofun, nofun⟩
  | succ steps ih =>
      obtain ⟨hvalue, hitems, hmembers⟩ := ih
      exact ⟨hvalue.succ hitems hmembers, .succ hvalue hitems, .succ hvalue hmembers⟩

end Sound

/-! ## Enough steps -/

/-- The value is passed over in as many steps as it has characters. -/
def IsPassed (text : List Char) : Prop := ∀ steps gap rest, text.length ≤ steps → IsGap gap →
  Closed rest → skipValue steps (gap ++ (text ++ rest)) = .ok rest

theorem skipItems_complete {items : List Item} (h : ∀ i ∈ items, IsPassed i.text) {steps : Nat}
    (rest : List Char) {gap : List Char} (hsteps : (further (items.map Item.chars)).length < steps)
    (hgap : IsGap gap) :
    skipItems steps (gap ++ (further (items.map Item.chars) ++ ']' :: rest)) = .ok rest := by
  induction items generalizing steps gap with
  | nil =>
      obtain ⟨steps, rfl⟩ := Nat.exists_eq_succ_of_ne_zero (Nat.ne_zero_of_lt hsteps)
      simp [skipItems, skipGap_append hgap, skipGap_cons (by decide : isGap ']' = false)]
  | cons i items ih =>
      obtain ⟨hi, hitems⟩ := List.forall_mem_cons.1 h
      obtain ⟨steps, rfl⟩ := Nat.exists_eq_succ_of_ne_zero (Nat.ne_zero_of_lt hsteps)
      simp only [List.map_cons, further_cons, Item.chars, List.length_cons, List.length_append]
        at hsteps
      have hfirst := hi steps i.before _ (by omega) i.before_gap
        (i.after_gap.closed_append (closed_further (items.map Item.chars) (.inl rfl) rest))
      have hothers := ih hitems (by omega : _ < steps) i.after_gap
      rw [List.map_cons, further_cons, skipItems, skipGap_append hgap, List.cons_append,
        skipGap_cons (by decide)]
      simp only [Item.chars, List.append_assoc] at hfirst hothers ⊢
      simp only [hfirst, bind, Except.bind]
      exact hothers

theorem skipMembers_complete {members : List Member} (hname : ∀ m ∈ members, Quotable m.name)
    (h : ∀ m ∈ members, IsPassed m.value.text) {steps : Nat} (rest : List Char) {gap : List Char}
    (hsteps : (further (members.map Member.chars)).length < steps) (hgap : IsGap gap) :
    skipMembers steps (gap ++ (further (members.map Member.chars) ++ '}' :: rest)) = .ok rest := by
  induction members generalizing steps gap with
  | nil =>
      obtain ⟨steps, rfl⟩ := Nat.exists_eq_succ_of_ne_zero (Nat.ne_zero_of_lt hsteps)
      simp [skipMembers, skipGap_append hgap, skipGap_cons (by decide : isGap '}' = false)]
  | cons m members ih =>
      obtain ⟨hm, hmembers⟩ := List.forall_mem_cons.1 h
      obtain ⟨hquotable, hnames⟩ := List.forall_mem_cons.1 hname
      obtain ⟨steps, rfl⟩ := Nat.exists_eq_succ_of_ne_zero (Nat.ne_zero_of_lt hsteps)
      simp only [List.map_cons, further_cons, Member.chars, Item.chars, List.length_cons,
        List.length_append] at hsteps
      have hfirst := hm steps m.value.before _ (by omega) m.value.before_gap
        (m.value.after_gap.closed_append
          (closed_further (members.map Member.chars) (.inr rfl) rest))
      have hothers := ih hnames hmembers (by omega : _ < steps) m.value.after_gap
      have hskip : skipName (m.chars ++ (further (members.map Member.chars) ++ '}' :: rest)) =
          .ok (m.value.chars ++ (further (members.map Member.chars) ++ '}' :: rest)) :=
        skipName_eq_ok_iff.2 ⟨m.before, m.name, m.between, m.before_gap, hquotable, m.between_gap,
          by simp [Member.chars]⟩
      rw [List.map_cons, further_cons, skipMembers, skipGap_append hgap, List.cons_append,
        skipGap_cons (by decide)]
      simp only [Member.chars, Item.chars, List.append_assoc, List.cons_append]
        at hskip hfirst hothers ⊢
      simp only [hskip, hfirst, bind, Except.bind]
      exact hothers

theorem isPassed_cons {c : Char} {tail : List Char} (h : ∀ steps rest, tail.length ≤ steps →
    Closed rest → skipValue (steps + 1) (c :: (tail ++ rest)) = .ok rest) :
    IsPassed (c :: tail) := by
  intro steps gap rest hsteps hgap hrest
  rw [List.length_cons] at hsteps
  obtain ⟨steps, rfl⟩ := Nat.exists_eq_succ_of_ne_zero (by omega : steps ≠ 0)
  have hgoes : skipValue (steps + 1) (gap ++ c :: (tail ++ rest)) =
      skipValue (steps + 1) (c :: (tail ++ rest)) := by
    unfold skipValue
    rw [skipGap_append hgap]
  exact hgoes.trans (h steps rest (Nat.le_of_succ_le_succ hsteps) hrest)

theorem skipValue_digit {d : Char} {steps : Nat} (hd : isDigit d = true) (cs : List Char) :
    skipValue (steps + 1) (d :: cs) = skipNumber (d :: cs) := by
  rw [skipValue, skipGap_cons (isGap_of_not_isBlank (isBlank_of_isDigit hd))]
  split <;> rename_i heq <;> cases heq
  iterate 7 cases hd
  rw [if_pos hd]

theorem skipValue_array (steps : Nat) (cs : List Char) : skipValue (steps + 1) ('[' :: cs) =
    (match skipGap cs with
      | [] => stop .endInList []
      | ']' :: rest => .ok rest
      | rest => do skipItems steps (← skipValue steps rest)) := rfl

theorem skipValue_object (steps : Nat) (cs : List Char) : skipValue (steps + 1) ('{' :: cs) =
    (match skipGap cs with
      | [] => stop .endInObject []
      | '}' :: rest => .ok rest
      | rest => do skipMembers steps (← skipValue steps (← skipName rest))) := rfl

theorem isPassed_array {items : List Item} {inner : List Char}
    (hrow : Row (items.map Item.chars) inner) (hvalue : ∀ i ∈ items, Value i.text)
    (h : ∀ i ∈ items, IsPassed i.text) : IsPassed ('[' :: (inner ++ [']'])) := by
  refine isPassed_cons fun steps rest hsteps hrest ↦ ?_
  rw [List.append_assoc, List.singleton_append, skipValue_array]
  cases items with
  | nil =>
      obtain ⟨hgap⟩ := hrow
      simp [skipGap_append hgap, skipGap_cons (by decide : isGap ']' = false)]
  | cons i items =>
      obtain ⟨-, -⟩ := hrow
      obtain ⟨hi, hitems⟩ := List.forall_mem_cons.1 h
      obtain ⟨c, tail, htext, -, hmark⟩ := exists_head_of_value (hvalue i List.mem_cons_self)
      have hbracket : c ≠ ']' := (ne_of_mem_of_not_mem (by decide) hmark).symm
      simp only [joinComma_cons, Item.chars, List.length_append,
        List.length_singleton] at hsteps
      have hfirst := hi steps [] _ (by omega) .nil
        (i.after_gap.closed_append (closed_further (items.map Item.chars) (.inl rfl) rest))
      have hothers := skipItems_complete hitems rest (by omega : _ < steps) i.after_gap
      have hskip : skipGap (joinComma (i.chars :: items.map Item.chars) ++ ']' :: rest) =
          i.text ++ (i.after ++ (further (items.map Item.chars) ++ ']' :: rest)) := by
        simp only [joinComma_cons, Item.chars, List.append_assoc, skipGap_append i.before_gap,
          (hvalue i List.mem_cons_self).skipGap_append]
      rw [hskip]
      split
      · simp [htext] at *
      · simp [htext, hbracket] at *
      · rw [List.nil_append] at hfirst
        rw [hfirst]
        exact hothers

theorem isPassed_object {members : List Member} {inner : List Char}
    (hrow : Row (members.map Member.chars) inner) (hname : ∀ m ∈ members, Quotable m.name)
    (h : ∀ m ∈ members, IsPassed m.value.text) : IsPassed ('{' :: (inner ++ ['}'])) := by
  refine isPassed_cons fun steps rest hsteps hrest ↦ ?_
  rw [List.append_assoc, List.singleton_append, skipValue_object]
  cases members with
  | nil =>
      obtain ⟨hgap⟩ := hrow
      simp [skipGap_append hgap, skipGap_cons (by decide : isGap '}' = false)]
  | cons m members =>
      obtain ⟨-, -⟩ := hrow
      obtain ⟨hm, hmembers⟩ := List.forall_mem_cons.1 h
      obtain ⟨hquotable, hnames⟩ := List.forall_mem_cons.1 hname
      simp only [joinComma_cons, Member.chars, Item.chars, List.length_append,
        List.length_cons] at hsteps
      have hfirst := hm steps m.value.before _ (by omega) m.value.before_gap
        (m.value.after_gap.closed_append
          (closed_further (members.map Member.chars) (.inr rfl) rest))
      have hothers := skipMembers_complete hnames hmembers rest (by omega : _ < steps)
        m.value.after_gap
      have hskip : skipGap (joinComma (m.chars :: members.map Member.chars) ++ '}' :: rest) =
          '"' :: (m.name ++ '"' :: (m.between ++ ':' :: (m.value.before ++ (m.value.text ++
            (m.value.after ++ (further (members.map Member.chars) ++ '}' :: rest)))))) := by
        simp only [joinComma_cons, Member.chars, Item.chars, List.append_assoc,
          skipGap_append m.before_gap, List.cons_append,
          skipGap_cons (by decide : isGap '"' = false)]
      have hstart : skipName ('"' :: (m.name ++ '"' :: (m.between ++ ':' :: (m.value.before ++
          (m.value.text ++ (m.value.after ++
            (further (members.map Member.chars) ++ '}' :: rest))))))) = _ :=
        skipName_eq_ok_iff.2 ⟨[], m.name, m.between, .nil, hquotable, m.between_gap, rfl⟩
      rw [hskip]
      change (skipName ('"' :: _) >>= fun named ↦ skipValue steps named >>= skipMembers steps) = _
      rw [hstart]
      change (skipValue steps _ >>= skipMembers steps) = _
      rw [hfirst]
      exact hothers

theorem isPassed_of_value (h : Value text) : IsPassed text := by
  induction h with
  | null => exact isPassed_cons fun _ _ _ _ ↦ rfl
  | true => exact isPassed_cons fun _ _ _ _ ↦ rfl
  | false => exact isPassed_cons fun _ _ _ _ ↦ rfl
  | magnitude h =>
      obtain ⟨d, tail, rfl, hd⟩ := h.exists_digit
      refine isPassed_cons fun steps rest _ hrest ↦ ?_
      exact (skipValue_digit hd _).trans (skipNumber_complete h hrest)
  | negative h => exact isPassed_cons fun steps rest _ hrest ↦ skipNumber_complete h hrest
  | string h =>
      refine isPassed_cons fun steps rest _ hrest ↦ ?_
      rw [List.append_assoc]
      exact skipString_complete h
  | array items hrow hvalue ih => exact isPassed_array hrow hvalue ih
  | object members hrow hname _ ih => exact isPassed_object hrow hname ih

/-- Whatever has the form of a value is passed over, and nothing else. -/
theorem skip_reads : Reads skip fun text _ ↦ Value text where
  value := id
  sound {cs a rest} h := by
    obtain ⟨tail, hskip, htail⟩ := exists_of_bind_eq_ok h
    cases htail
    obtain ⟨gap, text, hgap, htext, hcs⟩ := (skip_sound _).1 _ _ hskip
    exact ⟨gap, text, hgap, hcs, htext⟩
  complete {gap text a rest} hgap htext hrest := by
    have hpassed := isPassed_of_value htext (2 * (gap ++ (text ++ rest)).length + 2) gap rest
      (by simp only [List.length_append]; omega) hgap hrest
    rw [skip, hpassed]
    rfl

end BrowserPilot.Json
