import BrowserPilot.Proofs.Action.Descriptor
import Mathlib.Data.List.Forall2

namespace BrowserPilot

/-!
# The grammar of action descriptors

The descriptors are given by rules that mention no decoder: the forms in which a
value may be written, the members that an object must or may have, and the members
that each kind of action looks at. What is read is then exactly what these rules
derive, with the values that they name, and everything else is the caller's error.
-/

namespace Json

variable {α : Type}

/-! ## Forms of a value -/

/-- The ways to write each value of a type. -/
abbrev Form (α : Type) := α → Json → Prop

namespace Form

def int64 : Form Int64 := fun n v ↦ v = ofInt n.toInt

def uint64 : Form UInt64 := fun n v ↦ v = ofNat n.toNat

def text : Form String := fun s v ↦ v = .string s

inductive list (F : Form α) : Form (List α)
  | array {as : List α} {items : List Json} (h : List.Forall₂ F as items) : list F as (.array items)

inductive some (F : Form α) : Form (Option α)
  | written {a : α} {v : Json} (h : F a v) : some F (Option.some a) v

/-- A member that has to be there. -/
def Has (F : Form α) (name : String) (ms : Members) (a : α) : Prop :=
  ∃ v, find? name ms = Option.some v ∧ F a v

/-- A member that may be left out or `null`, both of which stand for `default`. -/
inductive MayHave (F : Form α) (default : α) (name : String) (ms : Members) : α → Prop
  | absent (h : find? name ms = none) : MayHave F default name ms default
  | null (h : find? name ms = Option.some .null) : MayHave F default name ms default
  | written {a : α} {v : Json} (h : find? name ms = Option.some v) (ha : F a v) :
      MayHave F default name ms a

/-! ## Decoders of a form -/

/-- What is written in this form is read, and nothing else. -/
def ReadBy (F : Form α) (decode : Decoder α) : Prop := ∀ v a, decode v = .ok a ↔ F a v

variable {F : Form α} {decode : Decoder α} {name : String} {ms : Members} {a : α}

theorem int64_ne_null (n : Int64) : ¬int64 n .null := nofun

theorem uint64_ne_null (n : UInt64) : ¬uint64 n .null := nofun

theorem list_ne_null (as : List α) : ¬F.list as .null := nofun

theorem readBy_of_exact {encode : α → Json} (h : Exact decode encode) :
    ReadBy (fun a v ↦ v = encode a) decode := h

theorem int64_readBy : int64.ReadBy toInt64 := readBy_of_exact toInt64_exact

theorem uint64_readBy : uint64.ReadBy toUInt64 := readBy_of_exact toUInt64_exact

theorem text_readBy : text.ReadBy toText := readBy_of_exact toText_exact

theorem decodeItems_eq_ok_iff (h : F.ReadBy decode) {items : List Json} {as : List α} :
    decodeItems decode items = .ok as ↔ List.Forall₂ F as items := by
  induction items generalizing as with
  | nil => cases as <;> simp [decodeItems]
  | cons v items ih =>
      rw [List.forall₂_cons_right_iff]
      cases hv : decode v with
      | error e =>
          have hnone : ∀ a, ¬F a v := fun a ha ↦ by simp [(h v a).2 ha] at hv
          simp [decodeItems, hv, hnone]
      | ok a =>
          constructor
          · intro hread
            obtain ⟨rest, hrest, rfl⟩ : ∃ rest, decodeItems decode items = .ok rest ∧
                a :: rest = as := by
              cases hitems : decodeItems decode items with
              | error e => simp [decodeItems, hv, hitems, Except.map] at hread
              | ok rest =>
                  have heq : a :: rest = as := by
                    simpa [decodeItems, hv, hitems, Except.map] using hread
                  exact ⟨rest, rfl, heq⟩
            exact ⟨a, rest, (h v a).1 hv, ih.1 hrest, rfl⟩
          · rintro ⟨b, rest, hb, hrest, rfl⟩
            obtain rfl : a = b := Except.ok.inj (hv.symm.trans ((h v b).2 hb))
            simp [decodeItems, hv, ih.2 hrest, Except.map]

theorem ReadBy.list (h : F.ReadBy decode) : F.list.ReadBy (toListOf decode) := by
  intro v as
  cases v with
  | array items =>
      rw [toListOf, decodeItems_eq_ok_iff h]
      exact ⟨.array, fun ⟨hitems⟩ ↦ hitems⟩
  | _ => exact ⟨nofun, nofun⟩

theorem ReadBy.has (h : F.ReadBy decode) : field name decode ms = .value a ↔ F.Has name ms a := by
  rw [field_eq_value_iff]
  exact exists_congr fun v ↦ and_congr_right fun _ ↦ h v a

/-- Where `null` is read as the default and every other value by the form. -/
theorem mayHave_of_readBy {default : α} (hnull : decode .null = .ok default)
    (h : ∀ v, v ≠ .null → ∀ a, decode v = .ok a ↔ F a v) (hF : ∀ a, ¬F a .null) :
    fieldOr default name decode ms = .value a ↔ F.MayHave default name ms a := by
  rw [fieldOr_eq_value_iff]
  constructor
  · rintro (⟨hnone, rfl⟩ | ⟨v, hv, hread⟩)
    · exact .absent hnone
    · by_cases hvnull : v = .null
      · subst hvnull
        obtain rfl := Except.ok.inj (hnull.symm.trans hread)
        exact .null hv
      · exact .written hv ((h v hvnull a).1 hread)
  · rintro (hnone | hv | ⟨hv, ha⟩)
    · exact .inl ⟨hnone, rfl⟩
    · exact .inr ⟨.null, hv, hnull⟩
    · rename_i v
      have hvnull : v ≠ .null := by
        rintro rfl
        exact hF a ha
      exact .inr ⟨v, hv, (h v hvnull a).2 ha⟩

theorem ReadBy.mayHave (h : F.ReadBy decode) (hF : ∀ a, ¬F a .null) {default : α} :
    fieldOr default name (toDefaulted default decode) ms = .value a ↔
      F.MayHave default name ms a := by
  refine mayHave_of_readBy rfl (fun v hv a ↦ ?_) hF
  rw [toDefaulted_of_ne_null hv]
  exact h v a

theorem ReadBy.mayHave_some (h : F.ReadBy decode) (hF : ∀ a, ¬F a .null) {o : Option α} :
    fieldOr none name (toOptional decode) ms = .value o ↔ F.some.MayHave none name ms o := by
  refine mayHave_of_readBy rfl (fun v hv o ↦ ?_) fun o ⟨ha⟩ ↦ hF _ ha
  rw [toOptional_of_ne_null hv]
  constructor
  · intro hread
    cases hdecode : decode v with
    | error e => simp [hdecode, Except.map] at hread
    | ok a =>
        obtain rfl : Option.some a = o := by simpa [hdecode, Except.map] using hread
        exact .written ((h v a).1 hdecode)
  · rintro ⟨ha⟩
    rw [(h v _).2 ha]
    rfl

end Form

end Json

open Json

/-! ## Points and buttons -/

/-- A point is written as a pair or as an object with its coordinates; other members of the object
are passed over. -/
inductive Point.Written (p : Point) : Json → Prop
  | pair : p.Written (.array [ofInt p.x.toInt, ofInt p.y.toInt])
  | members {ms : Members} (x : Form.int64.Has "x" ms p.x) (y : Form.int64.Has "y" ms p.y) :
      p.Written (.object ms)

/-- Two values that are the same, or that write the same point. -/
def Point.Alike (v w : Json) : Prop := v = w ∨ ∃ p : Point, p.Written v ∧ p.Written w

/-- A button is meant by its name in any ASCII case; the left one also by everything else and by
nothing. -/
inductive Button.Meant : Button → Option Json → Prop
  | right {s : String} (h : Text.lower s = "right") : Meant right (some (.string s))
  | middle {s : String} (h : Text.lower s = "middle") : Meant middle (some (.string s))
  | left {o : Option Json}
      (h : ∀ s, o = some (.string s) → Text.lower s ≠ "right" ∧ Text.lower s ≠ "middle") :
      Meant left o

theorem Point.readBy : Form.ReadBy Point.Written Point.ofJson := by
  intro v p
  constructor
  · intro h
    unfold ofJson at h
    split at h
    · rename_i u w
      split at h
      · rename_i x y hx hy
        obtain rfl := Except.ok.inj h
        rw [(Form.int64_readBy u x).1 hx, (Form.int64_readBy w y).1 hy]
        exact .pair
      · cases h
    · rename_i ms
      split at h
      · rename_i x y hboth
        obtain rfl := Except.ok.inj h
        obtain ⟨hx, hy⟩ := both_eq_value_iff.1 hboth
        exact .members (Form.int64_readBy.has.1 hx) (Form.int64_readBy.has.1 hy)
      · cases h
    · cases h
  · rintro (_ | ⟨hx, hy⟩)
    · simp only [ofJson, toInt64_ofInt]
    · have hboth : both (field "x" toInt64) (field "y" toInt64) _ = .value (p.x, p.y) :=
        both_eq_value_iff.2 ⟨Form.int64_readBy.has.2 hx, Form.int64_readBy.has.2 hy⟩
      simp only [ofJson, hboth]

theorem Point.Alike.ofJson_eq {v w : Json} (h : Point.Alike v w) :
    Point.ofJson v = Point.ofJson w := by
  rcases h with rfl | ⟨p, hv, hw⟩
  · rfl
  · rw [(readBy v p).2 hv, (readBy w p).2 hw]

theorem Button.meant_ofName (o : Option Json) : (ofName (o.bind asString?)).Meant o := by
  cases hname : o.bind asString? with
  | none =>
      refine .left fun s hs ↦ ?_
      subst hs
      cases hname
  | some s =>
      obtain ⟨v, rfl, hv⟩ := Option.bind_eq_some_iff.1 hname
      obtain rfl : v = .string s := by
        cases v <;> simp [asString?] at hv
        rw [hv]
      by_cases hright : Text.lower s = "right"
      · simpa [ofName, hright] using Meant.right hright
      · by_cases hmiddle : Text.lower s = "middle"
        · simpa [ofName, hmiddle] using Meant.middle hmiddle
        · have hleft : ofName (some s) = .left := by
            unfold ofName
            split <;> simp_all
          rw [hleft]
          refine .left fun t ht ↦ ?_
          obtain rfl : s = t := by simpa using ht
          exact ⟨hright, hmiddle⟩

theorem Button.Meant.unique {o : Option Json} {b b' : Button} (h : b.Meant o) (h' : b'.Meant o) :
    b = b' := by
  -- no two of the three conditions hold of the same value
  rcases h with ⟨hs⟩ | ⟨hs⟩ | ⟨hnot⟩ <;> rcases h' with ⟨hs'⟩ | ⟨hs'⟩ | ⟨hnot'⟩
  all_goals first
    | rfl
    | exact absurd (hs.symm.trans hs') (by decide)
    | exact absurd hs (hnot' _ rfl).1
    | exact absurd hs (hnot' _ rfl).2
    | exact absurd hs' (hnot _ rfl).1
    | exact absurd hs' (hnot _ rfl).2

theorem Button.fieldOr_eq_value_iff {ms : Members} {b : Button} :
    fieldOr .left "button" ofJson ms = .value b ↔ b.Meant (find? "button" ms) := by
  have hread : fieldOr .left "button" ofJson ms =
      .value (ofName ((find? "button" ms).bind asString?)) := by
    unfold fieldOr
    cases find? "button" ms <;> rfl
  rw [hread]
  constructor
  · rintro ⟨⟩
    exact meant_ofName _
  · intro h
    rw [(meant_ofName _).unique h]

/-! ## Actions -/

namespace Action

variable {ms : Members} {a : Action} {kind : String}

/-- The members at which an action of the given kind looks, next to `type`. -/
def memberNames : String → List String
  | "click" => ["x", "y", "button"]
  | "double_click" => ["x", "y"]
  | "drag" => ["path"]
  | "keypress" => ["keys"]
  | "move" => ["x", "y"]
  | "scroll" => ["x", "y", "scroll_x", "scroll_y"]
  | "type" => ["text"]
  | "wait" => ["duration_ms"]
  | _ => []

/-- The members of an object are as the kind of the action asks for them. -/
def Written (ms : Members) : Action → Prop
  | .click x y button => Form.int64.Has "x" ms x ∧ Form.int64.Has "y" ms y ∧
      button.Meant (find? "button" ms)
  | .doubleClick x y => Form.int64.Has "x" ms x ∧ Form.int64.Has "y" ms y
  | .drag path => (Form.list Point.Written).MayHave [] "path" ms path
  | .keypress keys => (Form.list Form.text).Has "keys" ms keys
  | .move x y => Form.int64.Has "x" ms x ∧ Form.int64.Has "y" ms y
  | .screenshot => True
  | .scroll x y deltaX deltaY => Form.int64.Has "x" ms x ∧ Form.int64.Has "y" ms y ∧
      Form.int64.MayHave 0 "scroll_x" ms deltaX ∧ Form.int64.MayHave 0 "scroll_y" ms deltaY
  | .type text => Form.text.Has "text" ms text
  | .wait millis => (Form.some Form.uint64).MayHave none "duration_ms" ms millis

/-- A value describes an action if it is an object whose `type` names the kind of the action and
whose members are as this kind asks for them. -/
inductive Described (a : Action) : Json → Prop
  | object {ms : Members} (kind : find? "type" ms = some (.string a.kind)) (fields : Written ms a) :
      a.Described (.object ms)

theorem place_eq_value_iff {p : Int64 × Int64} :
    place ms = .value p ↔ Form.int64.Has "x" ms p.1 ∧ Form.int64.Has "y" ms p.2 := by
  rw [place, both_eq_value_iff, Form.int64_readBy.has, Form.int64_readBy.has]

theorem map_eq_value_iff_of_injective {α : Type} {r : Reading α} {f : α → Action} {b : α}
    (hf : Function.Injective f) : r.map f = .value (f b) ↔ r = .value b := by
  rw [Reading.map_eq_value_iff]
  exact ⟨fun ⟨_, hr, hb⟩ ↦ hf hb ▸ hr, fun hr ↦ ⟨b, hr, rfl⟩⟩

/-- The fields that a kind reads are the members that the grammar asks for. -/
theorem fieldsOf_kind_eq_value_iff : fieldsOf a.kind ms = .value a ↔ Written ms a := by
  cases a with
  | click x y button =>
      have hinj : Function.Injective fun ((x, y), b) ↦ Action.click x y b := by
        rintro ⟨⟨_, _⟩, _⟩ ⟨⟨_, _⟩, _⟩ ⟨⟩
        rfl
      refine (map_eq_value_iff_of_injective (b := ((x, y), button)) hinj).trans ?_
      rw [both_eq_value_iff, place_eq_value_iff, Button.fieldOr_eq_value_iff, and_assoc]
      rfl
  | doubleClick x y =>
      have hinj : Function.Injective fun (x, y) ↦ Action.doubleClick x y := by
        rintro ⟨_, _⟩ ⟨_, _⟩ ⟨⟩
        rfl
      exact (map_eq_value_iff_of_injective (b := (x, y)) hinj).trans place_eq_value_iff
  | drag path =>
      exact (map_eq_value_iff_of_injective fun _ _ ↦ Action.drag.inj).trans
        (Point.readBy.list.mayHave Form.list_ne_null)
  | keypress keys =>
      exact (map_eq_value_iff_of_injective fun _ _ ↦ Action.keypress.inj).trans
        Form.text_readBy.list.has
  | move x y =>
      have hinj : Function.Injective fun (x, y) ↦ Action.move x y := by
        rintro ⟨_, _⟩ ⟨_, _⟩ ⟨⟩
        rfl
      exact (map_eq_value_iff_of_injective (b := (x, y)) hinj).trans place_eq_value_iff
  | screenshot => exact ⟨fun _ ↦ trivial, fun _ ↦ rfl⟩
  | scroll x y dx dy =>
      have hinj : Function.Injective fun ((x, y), dx, dy) ↦ Action.scroll x y dx dy := by
        rintro ⟨⟨_, _⟩, _, _⟩ ⟨⟨_, _⟩, _, _⟩ ⟨⟩
        rfl
      refine (map_eq_value_iff_of_injective (b := ((x, y), dx, dy)) hinj).trans ?_
      rw [both_eq_value_iff, both_eq_value_iff, place_eq_value_iff,
        Form.int64_readBy.mayHave Form.int64_ne_null, Form.int64_readBy.mayHave Form.int64_ne_null,
        and_assoc]
      rfl
  | type text =>
      exact (map_eq_value_iff_of_injective fun _ _ ↦ Action.type.inj).trans Form.text_readBy.has
  | wait millis =>
      exact (map_eq_value_iff_of_injective fun _ _ ↦ Action.wait.inj).trans
        (Form.uint64_readBy.mayHave_some Form.uint64_ne_null)

/-- What a kind reads is an action of this kind. -/
theorem kind_of_fieldsOf (hkind : kind ∈ kinds) (h : fieldsOf kind ms = .value a) :
    a.kind = kind := by
  have hmade : ∀ {α : Type} {r : Reading α} {f : α → Action}, r.map f = .value a →
      ∃ b, f b = a := fun h ↦ (Reading.map_eq_value_iff.1 h).imp fun _ h ↦ h.2
  simp only [kinds, List.mem_cons, List.not_mem_nil, or_false] at hkind
  rcases hkind with rfl | rfl | rfl | rfl | rfl | rfl | rfl | rfl | rfl
  case inr.inr.inr.inr.inr.inl =>
    obtain rfl := Reading.value.inj h
    rfl
  all_goals
    obtain ⟨b, rfl⟩ := hmade h
    rfl

/-- Exactly the descriptors of the grammar are read, as the actions that they describe. -/
theorem ofDescriptor_eq_ok_iff {v : Json} : ofDescriptor v = .ok a ↔ a.Described v := by
  constructor
  · intro h
    cases v with
    | object ms =>
        obtain ⟨kind, htype, hkind, hread⟩ :=
          ofMembers_eq_ok_iff.1 (ofDescriptor_object_eq_ok_iff.1 h)
        obtain rfl := kind_of_fieldsOf hkind hread
        exact .object htype (fieldsOf_kind_eq_value_iff.1 hread)
    | _ => cases h
  · rintro ⟨htype, hfields⟩
    rw [ofDescriptor_object_eq_ok_iff, ofMembers_eq_ok_iff]
    exact ⟨a.kind, htype, a.kind_mem_kinds, fieldsOf_kind_eq_value_iff.2 hfields⟩

/-! ## What makes no difference -/

/-- Points that are alike at every place make lists that are read alike, with the same error where
one of them is no point. -/
theorem decodeItems_of_alike {items items' : List Json}
    (h : List.Forall₂ Point.Alike items items') :
    decodeItems Point.ofJson items = decodeItems Point.ofJson items' := by
  induction h with
  | nil => rfl
  | cons hpoint _ ih => simp only [decodeItems, hpoint.ofJson_eq, ih]

variable {ms' : Members}

/-- A member that may be left out is known by what its decoder makes of it. -/
theorem fieldOr_congr {α : Type} {default : α} {name : String} {decode : Decoder α}
    (h : (find? name ms).map decode = (find? name ms').map decode) :
    fieldOr default name decode ms = fieldOr default name decode ms' := by
  unfold fieldOr
  cases hv : find? name ms <;> cases hv' : find? name ms' <;> simp_all

/-- The fields of a kind depend on its members alone, and on a path by what is read of it. -/
theorem fieldsOf_congr
    (hpath : "path" ∈ memberNames kind →
      (find? "path" ms).map (toDefaulted [] (toListOf Point.ofJson)) =
        (find? "path" ms').map (toDefaulted [] (toListOf Point.ofJson)))
    (h : ∀ name ∈ memberNames kind, name ≠ "path" → find? name ms = find? name ms') :
    fieldsOf kind ms = fieldsOf kind ms' := by
  unfold fieldsOf
  split
  -- a drag is the only kind that reads a path
  case h_3 => rw [fieldOr_congr (hpath (by simp [memberNames]))]
  all_goals simp_all [memberNames, place, both, field, fieldOr]

theorem ofDescriptor_congr (htype : find? "type" ms = find? "type" ms')
    (h : ∀ kind, find? "type" ms = some (.string kind) → fieldsOf kind ms = fieldsOf kind ms') :
    ofDescriptor (.object ms) = ofDescriptor (.object ms') := by
  have hmembers : ofMembers ms = ofMembers ms' := by
    unfold ofMembers
    rw [← htype]
    cases hv : find? "type" ms with
    | none => rfl
    | some v =>
        cases hkind : readKind v with
        | error e => simp [hkind, bind, Except.bind]
        | ok kind =>
            obtain ⟨rfl, -⟩ := readKind_eq_ok_iff.1 hkind
            simp only [hkind, bind, Except.bind, h kind hv]
  simp only [ofDescriptor, hmembers]

/-- A way to read descriptors that accepts exactly those of the grammar. -/
structure Grammatical (read : Json → Result Action) : Prop where
  accepts : ∀ v a, read v = .ok a ↔ a.Described v
  refuses : ∀ v, (∀ a : Action, ¬a.Described v) → ∃ text, read v = .error (.invalidArgument text)
  ignores : ∀ ms ms' : Members, find? "type" ms = find? "type" ms' →
    (∀ kind, find? "type" ms = some (.string kind) →
      ∀ name ∈ memberNames kind, find? name ms = find? name ms') →
    read (.object ms) = read (.object ms')
  points : ∀ (ms ms' : Members) (items items' : List Json),
    (∀ name, name ≠ "path" → find? name ms = find? name ms') →
    find? "path" ms = some (.array items) → find? "path" ms' = some (.array items') →
    List.Forall₂ Point.Alike items items' → read (.object ms) = read (.object ms')

/-- Descriptors are read by the grammar: what it derives is accepted with the values that it
names, everything else is the caller's error; the members that the kind does not look at make no
difference, nor does the form of any point on a path. -/
theorem ofDescriptor_grammatical : Grammatical ofDescriptor where
  accepts _ _ := ofDescriptor_eq_ok_iff
  refuses v hv := by
    cases hread : ofDescriptor v with
    | ok a => exact absurd (ofDescriptor_eq_ok_iff.1 hread) (hv a)
    | error e =>
        obtain ⟨text, rfl⟩ := ofDescriptor_error hread
        exact ⟨text, rfl⟩
  ignores ms ms' htype h := ofDescriptor_congr htype fun kind hkind ↦
    fieldsOf_congr (fun hpath ↦ by rw [h kind hkind _ hpath]) fun name hname _ ↦
      h kind hkind name hname
  points ms ms' items items' hothers hpath hpath' halike := by
    refine ofDescriptor_congr (hothers _ (by decide)) fun kind _ ↦
      fieldsOf_congr (fun _ ↦ ?_) fun name _ hne ↦ hothers name hne
    rw [hpath, hpath', Option.map_some, Option.map_some]
    exact congrArg some (decodeItems_of_alike halike)

end Action

end BrowserPilot
