import BrowserPilot.Proofs.Json.Record

namespace BrowserPilot.Json

/-!
# The shape of an object

What an object tells about a name: the one member that has the name, or that there is none. A
record is collected from an object if each field finds at most one member of its name, with a
text that it takes.
-/

/-- The object with the given members. -/
inductive IsObject (members : List Member) : List Char → Prop
  | mk {inner : List Char} (hrow : Row (members.map Member.chars) inner)
      (hnames : ∀ m ∈ members, ∃ name, m.Named name) (hvalues : ∀ m ∈ members, Value m.value.text) :
      IsObject members ('{' :: (inner ++ ['}']))

theorem Collects.isObject {σ α : Type} {r : RecordReader σ α} {takes : Takes σ} {depth : Nat}
    {got final : σ} {members : List Member} {inner : List Char}
    (h : Collects r.fields takes got members final) (hfields : FieldsRead r takes depth)
    (hrow : Row (members.map Member.chars) inner) : IsObject members ('{' :: (inner ++ ['}'])) :=
  .mk hrow (fun m hm ↦ (h.wellFormed hfields m hm).1) fun m hm ↦ (h.wellFormed hfields m hm).2

/-- One member has the name, and its text is one of `L`; or none has it. -/
inductive Tells {β : Type} (L : List Char → β → Prop) (name : String) :
    List Member → Option β → Prop
  | absent {members : List Member} (h : ∀ m ∈ members, ¬ m.Named name) : Tells L name members none
  | present (before : List Member) {after : List Member} {m : Member} {b : β}
      (hbefore : ∀ m ∈ before, ¬ m.Named name) (hname : m.Named name) (hb : L m.value.text b)
      (hafter : ∀ m ∈ after, ¬ m.Named name) : Tells L name (before ++ m :: after) (some b)

variable {σ α β : Type} {L : List Char → β → Prop} {name : String} {m : Member}
  {members : List Member} {fields : List (FieldReader σ)} {takes : Takes σ} {got final : σ}

theorem Tells.cons {o : Option β} (hm : ¬ m.Named name) (h : Tells L name members o) :
    Tells L name (m :: members) o := by
  cases h with
  | absent h => exact .absent (List.forall_mem_cons.2 ⟨hm, h⟩)
  | @present before after m' b hbefore hname hb hafter =>
      exact .present (m :: before) (List.forall_mem_cons.2 ⟨hm, hbefore⟩) hname hb hafter

/-- What an object tells about a name is clear if the text of a value is. -/
theorem Tells.unique {o o' : Option β} (hL : ∀ text b b', L text b → L text b' → b = b')
    (h : Tells L name members o) (h' : Tells L name members o') : o = o' := by
  cases h with
  | absent hnone =>
      cases h' with
      | absent => rfl
      | present _ _ hname => exact absurd hname (hnone _ (by simp))
  | @present before after m b hbefore hname hb hafter =>
      generalize hmembers : before ++ m :: after = members at h'
      cases h' with
      | absent hnone => exact absurd hname (hnone m (hmembers ▸ by simp))
      | @present before' after' m' b' hbefore' hname' hb' hafter' =>
          -- The two splits are at the only member of that name.
          rcases List.append_eq_append_iff.1 hmembers with ⟨mid, hmid, hrest⟩ | ⟨mid, hmid, hrest⟩
          · cases mid with
            | nil =>
                obtain rfl := (List.cons.inj hrest).1
                rw [hL _ _ _ hb hb']
            | cons x mid =>
                obtain rfl := (List.cons.inj hrest).1
                exact absurd hname (hbefore' m (hmid ▸ by simp))
          · cases mid with
            | nil =>
                obtain rfl := (List.cons.inj hrest).1
                rw [hL _ _ _ hb hb']
            | cons x mid =>
                obtain rfl := (List.cons.inj hrest).1
                exact absurd hname' (hbefore m' (hmid ▸ by simp))

/-! ## What a field collects -/

/-- What the field of that name takes is found by `get`, and no other field touches it. -/
structure Slot (fields : List (FieldReader σ)) (takes : Takes σ) (name : String)
    (L : List Char → β → Prop) (get : σ → Option β) : Prop where
  known : ∃ f, (fields.find? fun f ↦ f.name = name) = some f ∧ ∀ got, f.given got = (get got).isSome
  own : ∀ got text got', takes name got text got' → ∃ b, L text b ∧ get got' = some b
  others : ∀ name' got text got', name' ≠ name → takes name' got text got' → get got' = get got

namespace Slot

variable {get : σ → Option β}

theorem not_named (h : Slot fields takes name L get) {other : String} (hother : m.Named other)
    (hf : (fields.find? fun f ↦ f.name = other) = none) : ¬ m.Named name := by
  intro hname
  obtain ⟨f, hknown, -⟩ := h.known
  obtain rfl := hother.unique hname
  cases hf.symm.trans hknown

theorem taken (h : Slot fields takes name L get)
    (hcollects : Collects fields takes got members final)
    {b : β} (hb : get got = some b) : get final = some b ∧ ∀ m ∈ members, ¬ m.Named name := by
  induction hcollects with
  | nil => exact ⟨hb, List.forall_mem_nil _⟩
  | @known f other got got' final m members hother hf hnew htakes _ ih =>
      have hne : other ≠ name := by
        rintro rfl
        obtain ⟨f', hknown, hgiven⟩ := h.known
        obtain rfl := Option.some.inj (hf.symm.trans hknown)
        simp [hgiven, hb] at hnew
      obtain ⟨hfinal, hnone⟩ := ih ((h.others _ _ _ _ hne htakes).trans hb)
      exact ⟨hfinal, List.forall_mem_cons.2 ⟨fun hname ↦ hne (hother.unique hname), hnone⟩⟩
  | other hother hf _ _ ih =>
      obtain ⟨hfinal, hnone⟩ := ih hb
      exact ⟨hfinal, List.forall_mem_cons.2 ⟨h.not_named hother hf, hnone⟩⟩

theorem tells (h : Slot fields takes name L get)
    (hcollects : Collects fields takes got members final)
    (hnone : get got = none) : Tells L name members (get final) := by
  induction hcollects with
  | nil =>
      rw [hnone]
      exact .absent (List.forall_mem_nil _)
  | @known f other got got' final m members hother hf hnew htakes hrest ih =>
      by_cases hne : other = name
      · subst hne
        obtain ⟨b, hb, hgot⟩ := h.own _ _ _ htakes
        obtain ⟨hfinal, hafter⟩ := h.taken hrest hgot
        rw [hfinal]
        exact .present [] (List.forall_mem_nil _) hother hb hafter
      · exact (ih ((h.others _ _ _ _ hne htakes).trans hnone)).cons
          fun hname ↦ hne (hother.unique hname)
  | other hother hf _ _ ih => exact (ih hnone).cons (h.not_named hother hf)

theorem eq_of_tells (h : Slot fields takes name L get)
    (hL : ∀ text b b', L text b → L text b' → b = b')
    (hcollects : Collects fields takes got members final) (hnone : get got = none) {o : Option β}
    (ho : Tells L name members o) : get final = o :=
  (h.tells hcollects hnone).unique hL ho

theorem given_eq (h : Slot fields takes name L get) {f : FieldReader σ}
    (hf : (fields.find? fun f ↦ f.name = name) = some f) {other : String} {got got' : σ}
    {text : List Char} (hne : other ≠ name) (htakes : takes other got text got') :
    f.given got' = f.given got := by
  obtain ⟨f', hknown, hgiven⟩ := h.known
  obtain rfl := Option.some.inj (hf.symm.trans hknown)
  rw [hgiven, hgiven, h.others _ _ _ _ hne htakes]

end Slot

/-! ## What can be collected -/

/-- At most one member has the name, and `P` is true of its text. -/
def AtMostOnce (name : String) (P : List Char → Prop) : List Member → Prop
  | [] => True
  | m :: members => (m.Named name → P m.value.text ∧ ∀ m' ∈ members, ¬ m'.Named name) ∧
      AtMostOnce name P members

theorem atMostOnce_of_absent {P : List Char → Prop} (h : ∀ m ∈ members, ¬ m.Named name) :
    AtMostOnce name P members := by
  induction members with
  | nil => trivial
  | cons m members ih =>
      obtain ⟨hm, hmembers⟩ := List.forall_mem_cons.1 h
      exact ⟨fun hname ↦ absurd hname hm, ih hmembers⟩

theorem Tells.atMostOnce {o : Option β} (h : Tells L name members o) {P : List Char → Prop}
    (hP : ∀ text b, L text b → P text) : AtMostOnce name P members := by
  cases h with
  | absent h => exact atMostOnce_of_absent h
  | @present before after m b hbefore hname hb hafter =>
      induction before with
      | nil => exact ⟨fun _ ↦ ⟨hP _ _ hb, hafter⟩, atMostOnce_of_absent hafter⟩
      | cons m' before ih =>
          obtain ⟨hm', hbefore⟩ := List.forall_mem_cons.1 hbefore
          exact ⟨fun hname ↦ absurd hname hm', ih hbefore⟩

/-- The members can be collected if each field can take what the one member of its name has. -/
theorem exists_collects (got : σ) (hnames : ∀ m ∈ members, ∃ name, m.Named name)
    (hvalues : ∀ m ∈ members, Value m.value.text)
    (honce : ∀ f ∈ fields, AtMostOnce f.name (fun text ↦ ∀ got, ∃ got', takes f.name got text got')
      members)
    (hnew : ∀ f ∈ fields, f.given got = true → ∀ m ∈ members, ¬ m.Named f.name)
    (hothers : ∀ f ∈ fields, ∀ name got text got', name ≠ f.name → takes name got text got' →
      f.given got' = f.given got) :
    ∃ final, Collects fields takes got members final := by
  induction members generalizing got with
  | nil => exact ⟨got, .nil got⟩
  | cons m members ih =>
      obtain ⟨⟨name, hname⟩, hnames⟩ := List.forall_mem_cons.1 hnames
      obtain ⟨hvalue, hvalues⟩ := List.forall_mem_cons.1 hvalues
      have hlater : ∀ f ∈ fields, _ := fun f hf ↦ (honce f hf).2
      cases hf : fields.find? fun f ↦ f.name = name with
      | none =>
          obtain ⟨final, hfinal⟩ := ih got hnames hvalues hlater fun f hf hgiven ↦
            (List.forall_mem_cons.1 (hnew f hf hgiven)).2
          exact ⟨final, .other hname hf hvalue hfinal⟩
      | some f =>
          have hmem := List.mem_of_find?_eq_some hf
          obtain rfl : f.name = name := by simpa using List.find?_some hf
          obtain ⟨htakes, hnone⟩ := (honce f hmem).1 hname
          obtain ⟨got', htakes⟩ := htakes got
          have hfirst : f.given got = false :=
            Bool.eq_false_iff.2 fun hgiven ↦ hnew f hmem hgiven m List.mem_cons_self hname
          obtain ⟨final, hfinal⟩ := ih got' hnames hvalues hlater (by
            intro f' hf' hgiven
            by_cases hsame : f.name = f'.name
            · exact hsame ▸ hnone
            · rw [hothers f' hf' _ _ _ _ hsame htakes] at hgiven
              exact (List.forall_mem_cons.1 (hnew f' hf' hgiven)).2)
          exact ⟨final, .known hname hf hfirst htakes hfinal⟩

end BrowserPilot.Json
