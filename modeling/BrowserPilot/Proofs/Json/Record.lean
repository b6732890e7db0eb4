import BrowserPilot.Proofs.Json.Row
import BrowserPilot.Proofs.Json.Skip

namespace BrowserPilot.Json

/-!
# Reading records

A record is an object or a list of its fields. What its fields take from the members of the
object, one after the other, is all that a reader makes of it; what is not a field is passed over.
-/

/-- The name of a member, its escapes undone. -/
def Member.Named (m : Member) (name : String) : Prop := Spells m.name name.toList

theorem Spells.unique {raw cs ds : List Char} (hc : Spells raw cs) (hd : Spells raw ds) :
    cs = ds := by
  have hread := (stringFrom_complete [] [] hc).symm.trans
    (stringFrom_complete [] [] hd)
  simpa using congrArg String.toList (Prod.mk.inj (Except.ok.inj hread)).1

theorem Member.Named.unique {m : Member} {name name' : String} (h : m.Named name)
    (h' : m.Named name') : name = name' :=
  String.toList_injective (Spells.unique h h')

theorem Reads.unique {α : Type} {scan : Scan α} {L : List Char → α → Prop} (h : Reads scan L)
    {text : List Char} {a b : α} (ha : L text a) (hb : L text b) : a = b := by
  have hread := (h.eq_ok ha .nil).symm.trans (h.eq_ok hb .nil)
  exact (Prod.mk.inj (Except.ok.inj hread)).1

variable {σ α : Type}

/-- What a field takes from a text, by the name of the field: what was collected before and what
is collected then. -/
abbrev Takes (σ : Type) := String → σ → List Char → σ → Prop

/-- What is collected from the members of an object. -/
inductive Collects (fields : List (FieldReader σ)) (takes : Takes σ) : σ → List Member → σ → Prop
  | nil (got : σ) : Collects fields takes got [] got
  | known {f : FieldReader σ} {name : String} {got got' final : σ} {m : Member}
      {members : List Member} (hname : m.Named name)
      (hf : (fields.find? fun f ↦ f.name = name) = some f) (hnew : f.given got = false)
      (htakes : takes name got m.value.text got')
      (h : Collects fields takes got' members final) :
      Collects fields takes got (m :: members) final
  | other {name : String} {got final : σ} {m : Member} {members : List Member}
      (hname : m.Named name) (hf : (fields.find? fun f ↦ f.name = name) = none)
      (hvalue : Value m.value.text)
      (h : Collects fields takes got members final) :
      Collects fields takes got (m :: members) final

/-- What is collected from the items of a list, one for each field until the end, where fields
that are optional may be missing. -/
inductive InOrder (takes : Takes σ) : List (FieldReader σ) → σ → List Item → σ → Prop
  | nil {fields : List (FieldReader σ)} (got : σ) (h : ∀ f ∈ fields, f.optional = true) :
      InOrder takes fields got [] got
  | cons {f : FieldReader σ} {fields : List (FieldReader σ)} {got got' final : σ} {i : Item}
      {items : List Item} (htakes : takes f.name got i.text got')
      (h : InOrder takes fields got' items final) :
      InOrder takes (f :: fields) got (i :: items) final

/-- The text of a record. -/
inductive IsRecord (r : RecordReader σ α) (takes : Takes σ) : List Char → α → Prop
  | list {inner : List Char} {got : σ} {a : α} (items : List Item)
      (hrow : Row (items.map Item.chars) inner) (h : InOrder takes r.fields r.start items got)
      (hwhole : r.missing? got = none) (hbuild : r.build got = some a) :
      IsRecord r takes ('[' :: (inner ++ [']'])) a
  | object {inner : List Char} {got : σ} {a : α} (members : List Member)
      (hrow : Row (members.map Member.chars) inner)
      (h : Collects r.fields takes r.start members got)
      (hwhole : r.missing? got = none) (hbuild : r.build got = some a) :
      IsRecord r takes ('{' :: (inner ++ ['}'])) a

/-- Every field is read as it takes what it reads. -/
def FieldsRead (r : RecordReader σ α) (takes : Takes σ) (depth : Nat) : Prop :=
  ∀ f ∈ r.fields, ∀ got, Reads (f.read depth got) (takes f.name got)

variable {r : RecordReader σ α} {takes : Takes σ} {depth steps : Nat} {first : Bool}
  {got final : σ} {cs rest inner lead blanks : List Char} {parts : List (List Char)}

/-! ## Names -/

theorem nextName_end {gap : List Char} (h : IsGap gap) (first : Bool) (rest : List Char) :
    nextName first (gap ++ '}' :: rest) = .ok (none, '}' :: rest) := by
  simp only [nextName, skipGap_append h, skipGap_cons (by decide : isGap '}' = false)]

theorem nextName_lead (h : Lead first lead blanks) {name : String} {raw : List Char}
    (hname : Spells raw name.toList) :
    nextName first (lead ++ '"' :: (raw ++ '"' :: rest)) = .ok (some name, rest) := by
  have hread : stringBody (raw ++ '"' :: rest) = .ok (name, rest) :=
    stringBody_eq_ok_iff.2 ⟨raw, rfl, hname⟩
  cases h with
  | first h =>
      simp [nextName, skipGap_append h, skipGap_cons (by decide : isGap '"' = false), hread, bind,
        Except.bind, pure, Except.pure]
  | later hgap h =>
      simp [nextName, skipGap_append hgap, skipGap_append h,
        skipGap_cons (by decide : isGap '"' = false), skipGap_cons (by decide : isGap ',' = false),
        hread, bind, Except.bind, pure, Except.pure]

theorem nextName_sound {name? : Option String} (h : nextName first cs = .ok (name?, rest)) :
    name? = none ∧ (∃ gap tail, IsGap gap ∧ cs = gap ++ rest ∧ rest = '}' :: tail) ∨
      ∃ name lead blanks raw, name? = some name ∧ Lead first lead blanks ∧
        Spells raw name.toList ∧ cs = lead ++ '"' :: (raw ++ '"' :: rest) := by
  obtain ⟨gap, hgap, hcs⟩ := exists_gap cs
  have hname : ∀ {tail : List Char},
      (stringBody tail >>= fun x ↦ .ok (some x.1, x.2)) = Except.ok (name?, rest) →
        ∃ name raw, name? = some name ∧ Spells raw name.toList ∧ tail = raw ++ '"' :: rest := by
    intro tail htail
    obtain ⟨⟨name, rest'⟩, hread, hok⟩ := exists_of_bind_eq_ok htail
    cases hok
    obtain ⟨raw, rfl, hraw⟩ := stringBody_eq_ok_iff.1 hread
    exact ⟨name, raw, rfl, hraw, rfl⟩
  unfold nextName at h
  generalize skipGap cs = ds at h hcs
  split at h
  · cases h
  · cases h
    exact .inl ⟨rfl, gap, _, hgap, hcs, rfl⟩
  · cases first with
    | true =>
        obtain ⟨name, raw, rfl, hraw, rfl⟩ := hname h
        exact .inr ⟨name, gap, gap, raw, rfl, .first hgap, hraw, hcs⟩
    | false => cases h
  · rename_i tail
    cases first with
    | true => cases h
    | false =>
        obtain ⟨blanks, hblanks, htail⟩ := exists_gap tail
        simp only [Bool.false_eq_true, if_false] at h
        generalize skipGap tail = ds at h htail
        split at h
        · cases h
        · obtain ⟨name, raw, rfl, hraw, rfl⟩ := hname h
          exact .inr ⟨name, _, blanks, raw, rfl, .later hgap hblanks, hraw, by simp [hcs, htail]⟩
        · cases h
        · cases h
  · cases first <;> cases h

theorem closeObject_end (rest : List Char) : closeObject ('}' :: rest) = .ok ((), rest) := by
  simp only [closeObject, skipGap_cons (by decide : isGap '}' = false)]

theorem Onward.exists_member {between before : List Char} (hinner : Onward false parts inner)
    (h : Lead first lead blanks) (hbetween : IsGap between) (hbefore : IsGap before)
    (raw text : List Char) : ∃ m : Member, m.name = raw ∧ m.value.text = text ∧
      Onward first (m.chars :: parts)
        (lead ++ '"' :: (raw ++ '"' :: (between ++ ':' :: (before ++ (text ++ inner))))) := by
  obtain ⟨after, hafter, rfl⟩ := hinner
  refine ⟨⟨blanks, raw, between, ⟨before, text, after, hbefore, hafter⟩, h.isGap, hbetween⟩,
    rfl, rfl, ?_⟩
  simpa [Member.chars, Item.chars] using Onward.cons h parts
    ('"' :: (raw ++ '"' :: (between ++ ':' :: (before ++ text)))) after

/-! ## The members of an object -/

theorem FieldsRead.of_find? (h : FieldsRead r takes depth) {f : FieldReader σ} {name : String}
    (hf : (r.fields.find? fun f ↦ f.name = name) = some f) (got : σ) :
    Reads (f.read depth got) (takes name got) := by
  obtain rfl : f.name = name := by simpa using List.find?_some hf
  exact h f (List.mem_of_find?_eq_some hf) got

theorem readMembers_sound (hfields : FieldsRead r takes depth)
    (h : r.readMembers depth steps first got cs = .ok (final, rest)) :
    ∃ members : List Member, ∃ inner, Onward first (members.map Member.chars) inner ∧
      Collects r.fields takes got members final ∧ cs = inner ++ rest ∧
        ∃ tail, rest = '}' :: tail := by
  induction steps generalizing first got cs with
  | zero => cases h
  | succ steps ih =>
      obtain ⟨⟨name?, rest'⟩, hnext, hmore⟩ := exists_of_bind_eq_ok h
      rcases nextName_sound hnext with ⟨rfl, gap, tail, hgap, rfl, rfl⟩ |
        ⟨name, lead, blanks, raw, rfl, hlead, hraw, rfl⟩
      · cases hmore
        exact ⟨[], gap, .nil first hgap, .nil _, rfl, tail, rfl⟩
      · dsimp only at hmore
        split at hmore
        · rename_i f hf
          split at hmore
          · cases hmore
          · rename_i hnew
            obtain ⟨⟨_, mid⟩, hcolon, hvalue⟩ := exists_of_bind_eq_ok hmore
            obtain ⟨⟨got', mid'⟩, hread, hothers⟩ := exists_of_bind_eq_ok hvalue
            obtain ⟨between, hbetween, rfl⟩ := colon_eq_ok_iff.1 hcolon
            obtain ⟨before, text, hbefore, rfl, htakes⟩ := (hfields.of_find? hf got).sound hread
            obtain ⟨members, inner, hinner, hcollects, rfl, hend⟩ := ih hothers
            obtain ⟨m, rfl, rfl, honward⟩ := hinner.exists_member hlead hbetween hbefore raw text
            exact ⟨m :: members, _, honward,
              .known hraw hf (by simpa using hnew) htakes hcollects, by simp, hend⟩
        · rename_i hf
          obtain ⟨⟨_, mid⟩, hcolon, hvalue⟩ := exists_of_bind_eq_ok hmore
          obtain ⟨⟨_, mid'⟩, hread, hothers⟩ := exists_of_bind_eq_ok hvalue
          obtain ⟨between, hbetween, rfl⟩ := colon_eq_ok_iff.1 hcolon
          obtain ⟨before, text, hbefore, rfl, htext⟩ := skip_reads.sound hread
          obtain ⟨members, inner, hinner, hcollects, rfl, hend⟩ := ih hothers
          obtain ⟨m, rfl, rfl, honward⟩ := hinner.exists_member hlead hbetween hbefore raw text
          exact ⟨m :: members, _, honward, .other hraw hf htext hcollects, by simp, hend⟩

/-- The text of a member in a row that goes on. -/
theorem Onward.split_member {m : Member} {members : List Member}
    (h : Onward first ((m :: members).map Member.chars) inner) (rest : List Char) :
    ∃ lead, Lead first lead m.before ∧ inner ++ '}' :: rest = lead ++ '"' :: (m.name ++ '"' ::
      (m.between ++ ':' :: (m.value.before ++ (m.value.text ++ (m.value.after ++
        (further (members.map Member.chars) ++ '}' :: rest)))))) ∧
      (m.value.after ++ further (members.map Member.chars)).length < inner.length := by
  obtain ⟨lead, hlead, rfl⟩ := h.exists_lead m.before_gap
  refine ⟨lead, hlead, by simp [Item.chars], ?_⟩
  simp only [Item.chars, List.length_append, List.length_cons]
  omega

theorem readMembers_complete (rest : List Char) (hfields : FieldsRead r takes depth)
    {members : List Member}
    (hinner : Onward first (members.map Member.chars) inner)
    (h : Collects r.fields takes got members final) (hsteps : inner.length < steps) :
    r.readMembers depth steps first got (inner ++ '}' :: rest) = .ok (final, '}' :: rest) := by
  induction h generalizing first inner steps with
  | nil got =>
      obtain ⟨steps, rfl⟩ := Nat.exists_eq_succ_of_ne_zero (Nat.ne_zero_of_lt hsteps)
      rw [RecordReader.readMembers, nextName_end hinner.eq_gap]
      rfl
  | @known f name got got' final m members hname hf hnew htakes _ ih =>
      obtain ⟨steps, rfl⟩ := Nat.exists_eq_succ_of_ne_zero (Nat.ne_zero_of_lt hsteps)
      obtain ⟨lead, hlead, hsplit, hshorter⟩ := hinner.split_member rest
      have hread := (hfields.of_find? hf got).complete m.value.before_gap htakes
        (m.value.after_gap.closed_append
          (closed_further (members.map Member.chars) (.inr rfl) rest))
      have hlater : Onward false (members.map Member.chars)
          (m.value.after ++ further (members.map Member.chars)) := ⟨_, m.value.after_gap, rfl⟩
      have hothers := ih hlater (by omega : _ < steps)
      rw [List.append_assoc] at hothers
      rw [hsplit, RecordReader.readMembers, nextName_lead hlead hname]
      simp only [bind, Except.bind, hf, hnew, Bool.false_eq_true, if_false, hread,
        colon_eq_ok_iff.2 ⟨m.between, m.between_gap, rfl⟩]
      exact hothers
  | @other name got final m members hname hf hvalue _ ih =>
      obtain ⟨steps, rfl⟩ := Nat.exists_eq_succ_of_ne_zero (Nat.ne_zero_of_lt hsteps)
      obtain ⟨lead, hlead, hsplit, hshorter⟩ := hinner.split_member rest
      have hread := skip_reads.complete (a := ()) m.value.before_gap hvalue
        (m.value.after_gap.closed_append
          (closed_further (members.map Member.chars) (.inr rfl) rest))
      have hlater : Onward false (members.map Member.chars)
          (m.value.after ++ further (members.map Member.chars)) := ⟨_, m.value.after_gap, rfl⟩
      have hothers := ih hlater (by omega : _ < steps)
      rw [List.append_assoc] at hothers
      rw [hsplit, RecordReader.readMembers, nextName_lead hlead hname]
      simp only [bind, Except.bind, hf, hread,
        colon_eq_ok_iff.2 ⟨m.between, m.between_gap, rfl⟩]
      exact hothers

/-! ## The items of a list -/

theorem Onward.at_end {tail : List Char} (h : Onward false parts inner)
    (hend : ']' :: tail = inner ++ ']' :: rest) : parts = [] ∧ tail = rest := by
  obtain ⟨gap, hgap, rfl⟩ := h
  cases gap with
  | cons c gap =>
      obtain rfl := (List.cons.inj hend).1
      cases hgap ']' List.mem_cons_self
  | nil =>
      cases parts with
      | cons part parts => cases (List.cons.inj hend).1
      | nil => exact ⟨rfl, (List.cons.inj hend).2⟩

theorem readFields_sound (hfields : FieldsRead r takes depth) {fs : List (FieldReader σ)}
    (hfs : ∀ f ∈ fs, f ∈ r.fields) {i : Nat} {mid : List Char}
    (h : r.readFields depth fs i got cs = .ok (final, mid))
    (hclose : closeList mid = .ok ((), rest)) :
    ∃ items : List Item, ∃ inner, Onward (i = 0) (items.map Item.chars) inner ∧
      InOrder takes fs got items final ∧ cs = inner ++ ']' :: rest := by
  induction fs generalizing i got cs with
  | nil =>
      cases h
      obtain ⟨gap, hgap, rfl⟩ := closeList_eq_ok_iff.1 hclose
      exact ⟨[], gap, .nil _ hgap, .nil _ (List.forall_mem_nil _), rfl⟩
  | cons f fs ih =>
      obtain ⟨hf, hfs⟩ := List.forall_mem_cons.1 hfs
      obtain ⟨⟨more, rest'⟩, hnext, hmore⟩ := exists_of_bind_eq_ok h
      rcases nextItem_sound hnext with ⟨rfl, gap, tail, hgap, rfl, rfl⟩ |
        ⟨rfl, lead, blanks, hlead, rfl⟩
      · -- The list is at its end, so that no further field finds an item either.
        dsimp only at hmore
        simp only [Bool.false_eq_true, if_false] at hmore
        split at hmore
        · rename_i hoptional
          obtain ⟨items, inner, hinner, horder, hend⟩ := ih hfs hmore
          obtain ⟨hnone, rfl⟩ := Onward.at_end hinner hend
          obtain rfl := List.map_eq_nil_iff.1 hnone
          cases horder with
          | nil _ hall =>
              exact ⟨[], gap, .nil _ hgap, .nil _ (List.forall_mem_cons.2 ⟨hoptional, hall⟩), rfl⟩
        · cases hmore
      · obtain ⟨⟨got', mid'⟩, hread, hothers⟩ := exists_of_bind_eq_ok hmore
        obtain ⟨before, text, hbefore, rfl, htakes⟩ := (hfields f hf got).sound hread
        obtain ⟨items, inner, hinner, horder, rfl⟩ := ih hfs hothers
        obtain ⟨i, rfl, honward⟩ := Onward.exists_item hinner hlead hbefore text
        exact ⟨i :: items, _, honward, .cons htakes horder, by simp⟩

theorem readFields_end {fs : List (FieldReader σ)} (h : ∀ f ∈ fs, f.optional = true) (i : Nat)
    {gap : List Char} (hgap : IsGap gap) : ∃ mid,
      r.readFields depth fs i got (gap ++ ']' :: rest) = .ok (got, mid) ∧
        closeList mid = .ok ((), rest) := by
  induction fs generalizing i gap with
  | nil => exact ⟨_, rfl, closeList_eq_ok_iff.2 ⟨gap, hgap, rfl⟩⟩
  | cons f fs ih =>
      obtain ⟨hf, hfs⟩ := List.forall_mem_cons.1 h
      obtain ⟨mid, hread, hclose⟩ := ih hfs (i + 1) .nil
      refine ⟨mid, ?_, hclose⟩
      rw [RecordReader.readFields, nextItem_end hgap]
      simp only [bind, Except.bind, Bool.false_eq_true, if_false, hf, if_true]
      exact hread

theorem readFields_complete (rest : List Char) (hfields : FieldsRead r takes depth)
    {fs : List (FieldReader σ)} (hfs : ∀ f ∈ fs, f ∈ r.fields) {i : Nat} {items : List Item}
    (hinner : Onward (i = 0) (items.map Item.chars) inner) (h : InOrder takes fs got items final) :
    ∃ mid, r.readFields depth fs i got (inner ++ ']' :: rest) = .ok (final, mid) ∧
      closeList mid = .ok ((), rest) := by
  induction h generalizing i inner with
  | nil got hall => exact readFields_end hall i hinner.eq_gap
  | @cons f fs got got' final j items htakes _ ih =>
      obtain ⟨hf, hfs⟩ := List.forall_mem_cons.1 hfs
      obtain ⟨lead, hlead, rfl⟩ := hinner.exists_lead j.before_gap
      have hvalue := (hfields f hf got).value htakes
      have hread := (hfields f hf got).eq_ok htakes
        (j.after_gap.closed_append (closed_further (items.map Item.chars) (.inl rfl) rest))
      obtain ⟨mid, hothers, hclose⟩ := ih hfs (i := i + 1) ⟨_, j.after_gap, rfl⟩
      refine ⟨mid, ?_, hclose⟩
      have hsplit : lead ++ (j.text ++ j.after ++ further (items.map Item.chars)) ++ ']' :: rest =
          lead ++ (j.text ++ (j.after ++ (further (items.map Item.chars) ++ ']' :: rest))) := by
        simp
      rw [List.append_assoc] at hothers
      rw [hsplit, RecordReader.readFields, nextItem_lead hlead hvalue]
      simp only [bind, Except.bind, if_true, hread]
      exact hothers

/-! ## The whole record -/

theorem finish_eq_ok_iff {a : α} :
    r.finish got rest = .ok a ↔ r.missing? got = none ∧ r.build got = some a := by
  unfold RecordReader.finish
  split
  · simp [mismatchAt, stop, *]
  · split <;> simp [mismatchAt, stop, *]

theorem Collects.wellFormed (hfields : FieldsRead r takes depth) {members : List Member}
    (h : Collects r.fields takes got members final) :
    ∀ m ∈ members, (∃ name, m.Named name) ∧ Value m.value.text := by
  induction h with
  | nil => exact List.forall_mem_nil _
  | known hname hf _ htakes _ ih =>
      exact List.forall_mem_cons.2 ⟨⟨⟨_, hname⟩, (hfields.of_find? hf _).value htakes⟩, ih⟩
  | other hname _ hvalue _ ih => exact List.forall_mem_cons.2 ⟨⟨⟨_, hname⟩, hvalue⟩, ih⟩

theorem InOrder.value (hfields : FieldsRead r takes depth) {fs : List (FieldReader σ)}
    (hfs : ∀ f ∈ fs, f ∈ r.fields) {items : List Item} (h : InOrder takes fs got items final) :
    ∀ i ∈ items, Value i.text := by
  induction h with
  | nil => exact List.forall_mem_nil _
  | cons htakes _ ih =>
      obtain ⟨hf, hfs⟩ := List.forall_mem_cons.1 hfs
      exact List.forall_mem_cons.2 ⟨(hfields _ hf _).value htakes, ih hfs⟩

theorem IsRecord.value (hfields : FieldsRead r takes depth) {text : List Char} {a : α}
    (h : IsRecord r takes text a) : Value text := by
  cases h with
  | list items hrow h => exact .array items hrow (h.value hfields fun _ ↦ id)
  | object members hrow h =>
      have hall := h.wellFormed hfields
      refine .object members hrow (fun m hm ↦ ?_) fun m hm ↦ (hall m hm).2
      obtain ⟨name, hname⟩ := (hall m hm).1
      exact hname.quotable

theorem read_openList (hdepth : 1 < depth) (cs : List Char) : r.read depth ('[' :: cs) =
    r.readFields (depth - 1) r.fields 0 r.start cs >>= fun x ↦
      r.finish x.1 (RecordReader.leaveList x.2) >>= fun a ↦
        closeList x.2 >>= fun y ↦ .ok (a, y.2) := by
  rw [RecordReader.read, skipGap_cons (by decide)]
  exact if_neg (Nat.not_le_of_lt hdepth)

theorem read_openObject (hdepth : 1 < depth) (cs : List Char) : r.read depth ('{' :: cs) =
    r.readMembers (depth - 1) (cs.length + 1) true r.start cs >>= fun x ↦
      r.finish x.1 (RecordReader.leaveObject x.2) >>= fun a ↦
        closeObject x.2 >>= fun y ↦ .ok (a, y.2) := by
  rw [RecordReader.read, skipGap_cons (by decide)]
  exact if_neg (Nat.not_le_of_lt hdepth)

theorem read_sound (hdepth : 1 < depth) (hfields : FieldsRead r takes (depth - 1)) {a : α}
    (h : r.read depth cs = .ok (a, rest)) (hcs : skipGap cs = cs) :
    ∃ text, cs = text ++ rest ∧ IsRecord r takes text a := by
  simp only [RecordReader.read, hcs] at h
  split at h
  · cases h
  · rw [if_neg (Nat.not_le_of_lt hdepth)] at h
    obtain ⟨⟨got, mid⟩, hread, hmid⟩ := exists_of_bind_eq_ok h
    obtain ⟨b, hfinish, hend⟩ := exists_of_bind_eq_ok hmid
    obtain ⟨⟨⟨⟩, rest'⟩, hclose, hok⟩ := exists_of_bind_eq_ok hend
    cases hok
    obtain ⟨items, inner, hinner, horder, rfl⟩ :=
      readFields_sound hfields (fun _ ↦ id) hread hclose
    obtain ⟨hwhole, hbuild⟩ := finish_eq_ok_iff.1 hfinish
    exact ⟨_, by simp, .list items hinner horder hwhole hbuild⟩
  · rw [if_neg (Nat.not_le_of_lt hdepth)] at h
    obtain ⟨⟨got, mid⟩, hread, hmid⟩ := exists_of_bind_eq_ok h
    obtain ⟨b, hfinish, hend⟩ := exists_of_bind_eq_ok hmid
    obtain ⟨⟨⟨⟩, rest'⟩, hclose, hok⟩ := exists_of_bind_eq_ok hend
    cases hok
    obtain ⟨members, inner, hinner, hcollects, rfl, tail, rfl⟩ := readMembers_sound hfields hread
    obtain ⟨hwhole, hbuild⟩ := finish_eq_ok_iff.1 hfinish
    obtain rfl := (Prod.mk.inj (Except.ok.inj (hclose.symm.trans (closeObject_end tail)))).2
    exact ⟨_, by simp, .object members hinner hcollects hwhole hbuild⟩
  · exact absurd h (refuseKind_ne_ok _ _ _)

theorem read_complete (hdepth : 1 < depth) (hfields : FieldsRead r takes (depth - 1)) {a : α}
    {text : List Char} (h : IsRecord r takes text a) :
    r.read depth (text ++ rest) = .ok (a, rest) := by
  cases h with
  | @list inner got a items hrow h hwhole hbuild =>
      obtain ⟨mid, hread, hclose⟩ := readFields_complete rest hfields (fun _ ↦ id) (i := 0) hrow h
      have hfinish : r.finish got (RecordReader.leaveList mid) = .ok a :=
        finish_eq_ok_iff.2 ⟨hwhole, hbuild⟩
      rw [List.cons_append, List.append_assoc, List.singleton_append, read_openList hdepth, hread]
      simp only [bind, Except.bind, hfinish, hclose]
  | @object inner got a members hrow h hwhole hbuild =>
      have hinner : Onward true (members.map Member.chars) inner := hrow
      have hsteps : inner.length < (inner ++ '}' :: rest).length + 1 := by
        simp only [List.length_append]
        omega
      have hread := readMembers_complete rest hfields hinner h hsteps
      have hfinish : r.finish got (RecordReader.leaveObject ('}' :: rest)) = .ok a :=
        finish_eq_ok_iff.2 ⟨hwhole, hbuild⟩
      rw [List.cons_append, List.append_assoc, List.singleton_append, read_openObject hdepth, hread]
      simp only [bind, Except.bind, hfinish, closeObject_end]

/-- A record is read if its fields are. -/
theorem read_reads (hdepth : 1 < depth) (hfields : FieldsRead r takes (depth - 1)) :
    Reads (r.read depth) (IsRecord r takes) := by
  apply Reads.of_token
  · exact fun _ _ h ↦ h.value hfields
  · intro cs
    simp only [RecordReader.read, skipGap_skipGap]
  · exact fun cs a rest ↦ read_sound hdepth hfields
  · exact fun text a rest h _ ↦ read_complete hdepth hfields h

end BrowserPilot.Json
