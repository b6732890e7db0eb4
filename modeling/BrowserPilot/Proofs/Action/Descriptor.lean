import BrowserPilot.Action.Descriptor
import BrowserPilot.Proofs.Json.Codec

namespace BrowserPilot

open Json

/-!
# Reading action descriptors

A descriptor is read if its kind is one of the nine and the fields that this kind
uses are read. The full descriptor of an action is read back as that action.
-/

theorem Point.ofJson_inverts : Inverts Point.ofJson Point.toJson := by
  intro p
  have hx : find? "x" [("x", ofInt p.x.toInt), ("y", ofInt p.y.toInt)] =
      some (ofInt p.x.toInt) := rfl
  have hy : find? "y" [("x", ofInt p.x.toInt), ("y", ofInt p.y.toInt)] =
      some (ofInt p.y.toInt) := rfl
  have hboth : both (field "x" toInt64) (field "y" toInt64)
      [("x", ofInt p.x.toInt), ("y", ofInt p.y.toInt)] = .value (p.x, p.y) :=
    both_eq_value_iff.2 ⟨toInt64_exact.inverts.field hx, toInt64_exact.inverts.field hy⟩
  simp only [toJson, ofJson, hboth]

theorem Button.ofJson_inverts : Inverts Button.ofJson fun b ↦ .string b.name := by
  intro b
  simp [ofJson, asString?]

namespace Action

variable {ms : Members} {kind : String} {a : Action}

theorem readKind_eq_ok_iff {v : Json} :
    readKind v = .ok kind ↔ v = .string kind ∧ kind ∈ kinds := by
  cases v with
  | string s =>
      by_cases hs : s ∈ kinds
      · have hread : readKind (.string s) = .ok s := by simp [readKind, hs]
        rw [hread]
        constructor
        · rintro ⟨⟩
          exact ⟨rfl, hs⟩
        · rintro ⟨⟨⟩, -⟩
          rfl
      · have hread : readKind (.string s) = .error (.unknownVariant s kinds) := by
          simp [readKind, hs]
        rw [hread]
        constructor
        · rintro ⟨⟩
        · rintro ⟨⟨⟩, hmem⟩
          exact absurd hmem hs
  | _ => simp [readKind, unfit]

theorem ofMembers_eq_ok_iff : ofMembers ms = .ok a ↔
    ∃ kind, find? "type" ms = some (.string kind) ∧ kind ∈ kinds ∧ fieldsOf kind ms = .value a := by
  unfold ofMembers
  cases hv : find? "type" ms with
  | none => simp
  | some v =>
      cases hkind : readKind v with
      | error e =>
          constructor
          · intro h
            simp [hkind, bind, Except.bind] at h
          · rintro ⟨kind, hv', hmem, -⟩
            rw [readKind_eq_ok_iff.2 ⟨Option.some.inj hv', hmem⟩] at hkind
            cases hkind
      | ok kind =>
          obtain ⟨rfl, hmem⟩ := readKind_eq_ok_iff.1 hkind
          simp [hkind, hmem, bind, Except.bind, Reading.result_eq_ok_iff]

theorem ofDescriptor_object_eq_ok_iff :
    ofDescriptor (.object ms) = .ok a ↔ ofMembers ms = .ok a := by
  simp only [ofDescriptor]
  cases ofMembers ms <;> simp

/-- A refused descriptor is the caller's error. -/
theorem ofDescriptor_error {v : Json} {e : Failure} (h : ofDescriptor v = .error e) :
    ∃ text, e = .invalidArgument text := by
  unfold ofDescriptor at h
  split at h
  · split at h
    · cases h
    · obtain rfl := Except.error.inj h
      exact ⟨_, rfl⟩
  · obtain rfl := Except.error.inj h
    exact ⟨_, rfl⟩

/-! ## Reading back what was written -/

/-- The members of the full descriptor. -/
def members (a : Action) : Members :=
  match a.toJson with
  | .object ms => ms
  | _ => []

theorem toJson_eq_object (a : Action) : a.toJson = .object a.members := by
  cases a <;> rfl

theorem find?_type_members (a : Action) : find? "type" a.members = some (.string a.kind) := by
  cases a <;> rfl

theorem kind_mem_kinds (a : Action) : a.kind ∈ kinds := by
  cases a <;> simp [kind, kinds]

theorem place_members {x y : Int64} (hx : find? "x" ms = some (ofInt x.toInt))
    (hy : find? "y" ms = some (ofInt y.toInt)) : place ms = .value (x, y) :=
  both_eq_value_iff.2 ⟨toInt64_exact.inverts.field hx, toInt64_exact.inverts.field hy⟩

theorem fieldsOf_members (a : Action) : fieldsOf a.kind a.members = .value a := by
  cases a with
  | click x y b =>
      have hplace : place (click x y b).members = .value (x, y) := place_members rfl rfl
      have hbutton : fieldOr .left "button" Button.ofJson (click x y b).members = .value b :=
        Button.ofJson_inverts.fieldOr rfl
      exact Reading.map_eq_value_iff.2 ⟨((x, y), b), both_eq_value_iff.2 ⟨hplace, hbutton⟩, rfl⟩
  | doubleClick x y =>
      exact Reading.map_eq_value_iff.2 ⟨(x, y), place_members rfl rfl, rfl⟩
  | drag path =>
      have hpath : Inverts (toDefaulted [] (toListOf Point.ofJson)) (ofList Point.toJson) :=
        Point.ofJson_inverts.listOf.defaulted (by simp [ofList]) []
      exact Reading.map_eq_value_iff.2 ⟨path, hpath.fieldOr rfl, rfl⟩
  | keypress keys =>
      exact Reading.map_eq_value_iff.2 ⟨keys, toText_exact.inverts.listOf.field rfl, rfl⟩
  | move x y =>
      exact Reading.map_eq_value_iff.2 ⟨(x, y), place_members rfl rfl, rfl⟩
  | screenshot => rfl
  | scroll x y dx dy =>
      have hplace : place (scroll x y dx dy).members = .value (x, y) := place_members rfl rfl
      have hdelta : Inverts (toDefaulted 0 toInt64) fun n ↦ ofInt n.toInt :=
        toInt64_exact.inverts.defaulted (by simp [ofInt]) 0
      have hdeltas : both (fieldOr 0 "scroll_x" (toDefaulted 0 toInt64))
          (fieldOr 0 "scroll_y" (toDefaulted 0 toInt64)) (scroll x y dx dy).members =
            .value (dx, dy) :=
        both_eq_value_iff.2 ⟨hdelta.fieldOr rfl, hdelta.fieldOr rfl⟩
      exact Reading.map_eq_value_iff.2
        ⟨((x, y), dx, dy), both_eq_value_iff.2 ⟨hplace, hdeltas⟩, rfl⟩
  | type text =>
      have htext : field "text" toText (type text).members = .value text :=
        toText_exact.inverts.field rfl
      exact Reading.map_eq_value_iff.2 ⟨text, htext, rfl⟩
  | wait millis =>
      have hmillis : Inverts (toOptional toUInt64) (ofOption fun n ↦ ofNat n.toNat) :=
        toUInt64_exact.inverts.optional (by simp [ofNat])
      exact Reading.map_eq_value_iff.2 ⟨millis, hmillis.fieldOr rfl, rfl⟩

theorem ofDescriptor_toJson (a : Action) : ofDescriptor a.toJson = .ok a := by
  rw [toJson_eq_object, ofDescriptor_object_eq_ok_iff, ofMembers_eq_ok_iff]
  exact ⟨a.kind, a.find?_type_members, a.kind_mem_kinds, a.fieldsOf_members⟩

end Action

end BrowserPilot
