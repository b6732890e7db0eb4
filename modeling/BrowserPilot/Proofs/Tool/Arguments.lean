import BrowserPilot.Proofs.Action.Descriptor
import BrowserPilot.Tool.Arguments

namespace BrowserPilot

open Json

/-!
# Forwarded arguments mean the same action

The arguments of a browser action are read once for all kinds, and written again
without those that are `null`. Each argument that an action looks at is then what it
was, or it is missing where it was `null`; and wherever a field of an action may be
left out, `null` stands for the same value.
-/

/-- A value that is not `null`. -/
def Json.given? : Json → Option Json
  | .null => none
  | v => some v

theorem Json.given?_of_ne_null {v : Json} (hv : v ≠ .null) : v.given? = some v := by
  cases v with
  | null => exact absurd rfl hv
  | _ => rfl

namespace Json.Reading

variable {α β : Type}

/-- The same value, or none on either side, whatever is reported then. -/
def Agrees (x y : Reading α) : Prop := ∀ a, x = .value a ↔ y = .value a

theorem Agrees.refl (x : Reading α) : x.Agrees x := fun _ ↦ Iff.rfl

theorem Agrees.map {x y : Reading α} (h : x.Agrees y) (f : α → β) : (x.map f).Agrees (y.map f) := by
  intro b
  simp only [map_eq_value_iff, h _]

theorem Agrees.both {ms ms' : Members} {x : Members → Reading α} {y : Members → Reading β}
    (hx : (x ms).Agrees (x ms')) (hy : (y ms).Agrees (y ms')) :
    (both x y ms).Agrees (both x y ms') := by
  intro p
  simp only [both_eq_value_iff, hx _, hy _]

variable {ms ms' : Members} {name : String} {decode : Decoder α}

/-- A field that has to be there may not be `null` either. -/
theorem agrees_field (hfind : find? name ms' = (find? name ms).bind given?)
    (hnull : ∀ a, decode .null ≠ .ok a) :
    (field name decode ms').Agrees (field name decode ms) := by
  intro a
  rw [field_eq_value_iff, field_eq_value_iff, hfind]
  cases find? name ms with
  | none => simp
  | some v =>
      by_cases hv : v = .null
      · subst hv
        simp [given?, hnull]
      · simp [given?_of_ne_null hv]

/-- A field that may be left out may be `null` instead. -/
theorem agrees_fieldOr {default : α} (hfind : find? name ms' = (find? name ms).bind given?)
    (hnull : decode .null = .ok default) :
    (fieldOr default name decode ms').Agrees (fieldOr default name decode ms) := by
  intro a
  rw [fieldOr_eq_value_iff, fieldOr_eq_value_iff, hfind]
  cases find? name ms with
  | none => simp
  | some v =>
      by_cases hv : v = .null
      · subst hv
        simp [given?, hnull]
      · simp [given?_of_ne_null hv]

end Json.Reading

@[simp] theorem Json.find?_append (name : String) (xs ys : Members) :
    find? name (xs ++ ys) = (find? name xs).or (find? name ys) := by
  induction xs with
  | nil => rfl
  | cons m xs ih =>
      obtain ⟨n, v⟩ := m
      by_cases hn : n = name <;> simp [find?, hn, ih]

namespace ActionArguments

variable {α : Type} {ms : Members} {a : ActionArguments}

@[simp] theorem find?_member_self (name : String) (f : α → Json) (value : Option α) :
    find? name (member name f value) = value.map f := by
  cases value <;> simp [member, find?]

@[simp] theorem find?_member_ne {name other : String} (h : other ≠ name) (f : α → Json)
    (value : Option α) : find? name (member other f value) = none := by
  cases value <;> simp [member, find?, h]

/-- What was read of an argument tells what was given, up to `null`. -/
theorem given_of_optional {name : String} {decode : Decoder α} {encode : α → Json} {o : Option α}
    (hexact : Exact decode encode) (hnull : ∀ a, encode a ≠ .null)
    (h : optional name decode ms = .value o) : (find? name ms).bind given? = o.map encode := by
  rw [optional, fieldOr_eq_value_iff] at h
  rcases h with ⟨hnone, rfl⟩ | ⟨v, hsome, hread⟩
  · rw [hnone]
    rfl
  · rw [hsome, hexact.null_or hread]
    cases o with
    | none => rfl
    | some a => exact given?_of_ne_null (hnull a)

/-- The members of the forwarded object. -/
def members (a : ActionArguments) : Members :=
  match a.toJson with
  | .object ms => ms
  | _ => []

theorem toJson_eq_object (a : ActionArguments) : a.toJson = .object a.members := rfl

theorem find?_type (h : fields ms = .value a) :
    find? "type" a.members = some (.string a.kind) ∧ find? "type" ms = some (.string a.kind) := by
  obtain ⟨p, hp, rfl⟩ := Reading.map_eq_value_iff.1 h
  simp only [both_eq_value_iff] at hp
  obtain ⟨v, hv, hread⟩ := field_eq_value_iff.1 hp.1.1
  refine ⟨?_, ?_⟩
  · simp [members, toJson, find?]
  · rw [hv, (toText_exact v _).1 hread]

/-- The arguments that may be left out. -/
def names : List String :=
  ["x", "y", "button", "path", "keys", "scroll_x", "scroll_y", "text", "duration_ms"]

/-- An argument is forwarded as it is, unless it is `null`. -/
theorem find?_members (h : fields ms = .value a) {name : String} (hname : name ∈ names) :
    find? name a.members = (find? name ms).bind given? := by
  obtain ⟨⟨⟨kind, x, y⟩, button, ⟨path, keys⟩, ⟨scrollX, scrollY⟩, text, millis⟩, hp, rfl⟩ :=
    Reading.map_eq_value_iff.1 h
  simp only [both_eq_value_iff] at hp
  obtain ⟨⟨-, hx, hy⟩, hbutton, ⟨hpath, hkeys⟩, ⟨hscrollX, hscrollY⟩, htext, hmillis⟩ := hp
  have hint : ∀ n : Int64, ofInt n.toInt ≠ .null := by simp [ofInt]
  have hnat : ∀ n : UInt64, ofNat n.toNat ≠ .null := by simp [ofNat]
  have hstring : ∀ s : String, Json.string s ≠ .null := by simp
  have hlist : ofList (id : Json → Json) = .array := by
    funext items
    simp [ofList]
  simp only [names, List.mem_cons, List.not_mem_nil, or_false] at hname
  rcases hname with rfl | rfl | rfl | rfl | rfl | rfl | rfl | rfl | rfl
  · rw [given_of_optional toInt64_exact hint hx]
    simp [members, toJson, find?]
  · rw [given_of_optional toInt64_exact hint hy]
    simp [members, toJson, find?]
  · rw [given_of_optional toText_exact hstring hbutton]
    simp [members, toJson, find?]
  · rw [given_of_optional toAny_exact.listOf (by simp [ofList]) hpath]
    simp [members, toJson, find?, hlist]
  · rw [given_of_optional toText_exact.listOf (by simp [ofList]) hkeys]
    simp [members, toJson, find?]
  · rw [given_of_optional toInt64_exact hint hscrollX]
    simp [members, toJson, find?]
  · rw [given_of_optional toInt64_exact hint hscrollY]
    simp [members, toJson, find?]
  · rw [given_of_optional toText_exact hstring htext]
    simp [members, toJson, find?]
  · rw [given_of_optional toUInt64_exact hnat hmillis]
    simp [members, toJson, find?]

/-! ## The action that is read -/

theorem agrees_place (h : fields ms = .value a) :
    (Action.place a.members).Agrees (Action.place ms) := by
  apply Reading.Agrees.both
  · exact Reading.agrees_field (find?_members h (by simp [names])) (by simp [toInt64, unfit])
  · exact Reading.agrees_field (find?_members h (by simp [names])) (by simp [toInt64, unfit])

theorem agrees_fieldsOf (h : fields ms = .value a) {kind : String} (hkind : kind ∈ Action.kinds) :
    (Action.fieldsOf kind a.members).Agrees (Action.fieldsOf kind ms) := by
  simp only [Action.kinds, List.mem_cons, List.not_mem_nil, or_false] at hkind
  rcases hkind with rfl | rfl | rfl | rfl | rfl | rfl | rfl | rfl | rfl
  · apply Reading.Agrees.map
    apply (agrees_place h).both
    exact Reading.agrees_fieldOr (find?_members h (by simp [names])) rfl
  · exact (agrees_place h).map _
  · apply Reading.Agrees.map
    exact Reading.agrees_fieldOr (find?_members h (by simp [names])) rfl
  · apply Reading.Agrees.map
    exact Reading.agrees_field (find?_members h (by simp [names])) (by simp [toListOf, unfit])
  · exact (agrees_place h).map _
  · exact .refl _
  · apply Reading.Agrees.map
    apply (agrees_place h).both
    apply Reading.Agrees.both
    · exact Reading.agrees_fieldOr (find?_members h (by simp [names])) rfl
    · exact Reading.agrees_fieldOr (find?_members h (by simp [names])) rfl
  · apply Reading.Agrees.map
    exact Reading.agrees_field (find?_members h (by simp [names])) (by simp [toText, unfit])
  · apply Reading.Agrees.map
    exact Reading.agrees_fieldOr (find?_members h (by simp [names])) rfl

theorem ofDescriptor_members (h : fields ms = .value a) (action : Action) :
    Action.ofDescriptor (.object a.members) = .ok action ↔
      Action.ofDescriptor (.object ms) = .ok action := by
  obtain ⟨hnew, hold⟩ := find?_type h
  simp only [Action.ofDescriptor_object_eq_ok_iff, Action.ofMembers_eq_ok_iff, hnew, hold,
    Option.some.injEq, Json.string.injEq]
  constructor
  · rintro ⟨kind, rfl, hkind, hfields⟩
    exact ⟨_, rfl, hkind, (agrees_fieldsOf h hkind action).1 hfields⟩
  · rintro ⟨kind, rfl, hkind, hfields⟩
    exact ⟨_, rfl, hkind, (agrees_fieldsOf h hkind action).2 hfields⟩

end ActionArguments

namespace Tool

theorem forwarded_browser {v w : Json} (h : browser.forwarded v = .ok w) :
    ∃ ms a, v = .object ms ∧ ActionArguments.fields ms = .value a ∧ w = .object a.members := by
  have hread : (ActionArguments.ofJson v).map ActionArguments.toJson = .ok w := h
  cases hv : ActionArguments.ofJson v with
  | error e => simp [hv, Except.map] at hread
  | ok a =>
      obtain rfl : a.toJson = w := by simpa [hv, Except.map] using hread
      cases v with
      | object ms =>
          exact ⟨ms, a, rfl, Reading.result_eq_ok_iff.1 hv, a.toJson_eq_object⟩
      | _ => cases hv

/-- Arguments that are let through to the browser tool mean to it what they meant to the caller:
the same action, or no action for either. -/
theorem forwarding_keeps_action {v w : Json} (h : browser.forwarded v = .ok w) :
    (∃ action, Action.ofDescriptor v = .ok action ∧ Action.ofDescriptor w = .ok action) ∨
      ∃ why why', Action.ofDescriptor v = .error (.invalidArgument why) ∧
        Action.ofDescriptor w = .error (.invalidArgument why') := by
  obtain ⟨ms, a, rfl, hfields, rfl⟩ := forwarded_browser h
  have hsame := ActionArguments.ofDescriptor_members hfields
  cases hold : Action.ofDescriptor (.object ms) with
  | ok action => exact .inl ⟨action, rfl, (hsame action).2 hold⟩
  | error e =>
      obtain ⟨why, rfl⟩ := Action.ofDescriptor_error hold
      cases hnew : Action.ofDescriptor (.object a.members) with
      | ok action =>
          rw [(hsame action).1 hnew] at hold
          cases hold
      | error e =>
          obtain ⟨why', rfl⟩ := Action.ofDescriptor_error hnew
          exact .inr ⟨why, why', rfl, rfl⟩

/-- A drag with both forms of points, arguments of other kinds, one of no kind, and some that are
`null`. -/
def laxDrag : Json := .object [("button", .null), ("note", .bool true),
  ("path", .array [.array [ofInt 1, ofInt 2], .object [("x", ofInt 3), ("y", ofInt 4)]]),
  ("text", .string "unused"), ("type", .string "drag"), ("x", .null)]

/-- What is left of it. -/
def leanDrag : Json := .object [
  ("path", .array [.array [ofInt 1, ofInt 2], .object [("x", ofInt 3), ("y", ofInt 4)]]),
  ("text", .string "unused"), ("type", .string "drag")]

theorem forwarding_keeps_laxDrag : browser.forwarded laxDrag = .ok leanDrag ∧
    ((∃ action, Action.ofDescriptor laxDrag = .ok action ∧
      Action.ofDescriptor leanDrag = .ok action) ∨
    ∃ why why', Action.ofDescriptor laxDrag = .error (.invalidArgument why) ∧
      Action.ofDescriptor leanDrag = .error (.invalidArgument why')) :=
  ⟨rfl, forwarding_keeps_action rfl⟩

end Tool

end BrowserPilot
