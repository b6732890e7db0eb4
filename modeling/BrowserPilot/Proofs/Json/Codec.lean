import BrowserPilot.Json.Decoder

namespace BrowserPilot.Json

/-!
# Laws of decoders

A decoder inverts a way of writing if it reads back whatever is written. It is
exact if it reads nothing else, so that what it read can be told from the result.
Both laws carry over to lists and to values that may be `null`. A record is read if
and only if each of its fields is.
-/

variable {α β : Type}

/-- What is written is read back. -/
def Inverts (decode : Decoder α) (encode : α → Json) : Prop := ∀ a, decode (encode a) = .ok a

/-- What is written is read back, and nothing else is read. -/
def Exact (decode : Decoder α) (encode : α → Json) : Prop :=
  ∀ v a, decode v = .ok a ↔ v = encode a

variable {decode : Decoder α} {encode : α → Json}

theorem Exact.inverts (h : Exact decode encode) : Inverts decode encode :=
  fun a ↦ (h (encode a) a).2 rfl

/-! ## Single values -/

theorem toInt64_ofInt (n : Int64) : toInt64 (ofInt n.toInt) = .ok n := by
  have hrange : Int64.minValue.toInt ≤ n.toInt ∧ n.toInt ≤ Int64.maxValue.toInt :=
    ⟨n.minValue_le_toInt, n.toInt_le⟩
  rw [ofInt, toInt64, if_pos hrange, Int64.ofInt_toInt]

theorem toInt64_exact : Exact toInt64 fun n ↦ ofInt n.toInt := by
  intro v n
  constructor
  · intro h
    cases v with
    | number m =>
        cases m with
        | int m =>
            simp only [toInt64] at h
            split at h
            · rename_i hrange
              obtain rfl := Except.ok.inj h
              have hkept : (Int64.ofInt m).toInt = m := Int64.toInt_ofInt_of_le hrange.1 (by
                have hlt : m ≤ 9223372036854775807 := hrange.2
                omega)
              change Json.number (.int m) = .number (.int (Int64.ofInt m).toInt)
              rw [hkept]
            · cases h
        | double x => cases h
    | _ => cases h
  · rintro rfl
    exact toInt64_ofInt n

theorem toUInt64_ofNat (n : UInt64) : toUInt64 (ofNat n.toNat) = .ok n := by
  have hrange : (0 : Int) ≤ n.toNat ∧ (n.toNat : Int) < UInt64.size :=
    ⟨Int.natCast_nonneg _, Int.ofNat_lt.2 n.toNat_lt_size⟩
  rw [ofNat, toUInt64, if_pos hrange, Int.toNat_natCast, UInt64.ofNat_toNat]

theorem toUInt64_exact : Exact toUInt64 fun n ↦ ofNat n.toNat := by
  intro v n
  constructor
  · intro h
    cases v with
    | number m =>
        cases m with
        | int m =>
            simp only [toUInt64] at h
            split at h
            · rename_i hrange
              obtain rfl := Except.ok.inj h
              have hkept : (UInt64.ofNat m.toNat).toNat = m.toNat :=
                UInt64.toNat_ofNat_of_lt' (by have := hrange.2; omega)
              change Json.number (.int m) = .number (.int (UInt64.ofNat m.toNat).toNat)
              rw [hkept, Int.toNat_of_nonneg hrange.1]
            · cases h
        | double x => cases h
    | _ => cases h
  · rintro rfl
    exact toUInt64_ofNat n

theorem toUInt32_inverts : Inverts toUInt32 fun n ↦ ofNat n.toNat := by
  intro n
  have hrange : (0 : Int) ≤ n.toNat ∧ (n.toNat : Int) < UInt32.size :=
    ⟨Int.natCast_nonneg _, Int.ofNat_lt.2 n.toNat_lt_size⟩
  change toUInt32 (.number (.int n.toNat)) = .ok n
  rw [toUInt32, if_pos hrange, Int.toNat_natCast, UInt32.ofNat_toNat]

theorem toUInt8_inverts : Inverts toUInt8 fun n ↦ ofNat n.toNat := by
  intro n
  have hrange : (0 : Int) ≤ n.toNat ∧ (n.toNat : Int) < UInt8.size :=
    ⟨Int.natCast_nonneg _, Int.ofNat_lt.2 n.toNat_lt_size⟩
  change toUInt8 (.number (.int n.toNat)) = .ok n
  rw [toUInt8, if_pos hrange, Int.toNat_natCast, UInt8.ofNat_toNat]

theorem toBoolean_inverts : Inverts toBoolean .bool := fun _ ↦ rfl

theorem toText_exact : Exact toText .string := by
  intro v s
  cases v with
  | string t => simp [toText]
  | _ => simp [toText, unfit]

theorem toAny_exact : Exact toAny id := by
  intro v w
  simp [toAny]

/-! ## Lists and values that may be `null` -/

theorem Inverts.listOf (h : Inverts decode encode) : Inverts (toListOf decode) (ofList encode) := by
  intro as
  change decodeItems decode (as.map encode) = .ok as
  induction as with
  | nil => rfl
  | cons a as ih => simp [decodeItems, h a, ih, Except.map]

theorem Exact.items (h : Exact decode encode) {vs : List Json} {as : List α}
    (hread : decodeItems decode vs = .ok as) : vs = as.map encode := by
  induction vs generalizing as with
  | nil =>
      obtain rfl := Except.ok.inj hread
      rfl
  | cons v vs ih =>
      simp only [decodeItems] at hread
      cases hv : decode v with
      | error e => simp [hv] at hread
      | ok a =>
          cases hvs : decodeItems decode vs with
          | error e => simp [hv, hvs, Except.map] at hread
          | ok rest =>
              obtain rfl : a :: rest = as := by simpa [hv, hvs, Except.map] using hread
              rw [(h v a).1 hv, ih hvs, List.map_cons]

theorem Exact.listOf (h : Exact decode encode) : Exact (toListOf decode) (ofList encode) := by
  intro v as
  constructor
  · intro hread
    cases v with
    | array vs => rw [h.items hread, ofList]
    | _ => cases hread
  · rintro rfl
    exact h.inverts.listOf as

theorem toOptional_of_ne_null {v : Json} (hv : v ≠ .null) :
    toOptional decode v = (decode v).map some := by
  cases v with
  | null => exact absurd rfl hv
  | _ => rfl

theorem toDefaulted_of_ne_null {v : Json} (hv : v ≠ .null) (default : α) :
    toDefaulted default decode v = decode v := by
  cases v with
  | null => exact absurd rfl hv
  | _ => rfl

theorem Inverts.optional (h : Inverts decode encode) (hnull : ∀ a, encode a ≠ .null) :
    Inverts (toOptional decode) (ofOption encode) := by
  intro o
  cases o with
  | none => rfl
  | some a =>
      rw [ofOption, toOptional_of_ne_null (hnull a), h a]
      rfl

theorem Inverts.defaulted (h : Inverts decode encode) (hnull : ∀ a, encode a ≠ .null)
    (default : α) : Inverts (toDefaulted default decode) encode := by
  intro a
  rw [toDefaulted_of_ne_null (hnull a), h a]

theorem Exact.null_or (h : Exact decode encode) {v : Json} {o : Option α}
    (hread : toOptional decode v = .ok o) : v = ofOption encode o := by
  by_cases hv : v = .null
  · subst hv
    obtain rfl := Except.ok.inj hread
    rfl
  · rw [toOptional_of_ne_null hv] at hread
    cases ha : decode v with
    | error e => simp [ha, Except.map] at hread
    | ok a =>
        obtain rfl : some a = o := by simpa [ha, Except.map] using hread
        exact (h v a).1 ha

/-! ## Records -/

variable {ms : Members} {name : String}

theorem field_eq_value_iff {a : α} : field name decode ms = .value a ↔
    ∃ v, find? name ms = some v ∧ decode v = .ok a := by
  unfold field
  cases hv : find? name ms with
  | none => simp
  | some v => cases hread : decode v <;> simp [hread]

theorem fieldOr_eq_value_iff {default a : α} : fieldOr default name decode ms = .value a ↔
    find? name ms = none ∧ default = a ∨ ∃ v, find? name ms = some v ∧ decode v = .ok a := by
  unfold fieldOr
  cases hv : find? name ms with
  | none => simp
  | some v => cases hread : decode v <;> simp [hread]

theorem both_eq_value_iff {x : Members → Reading α} {y : Members → Reading β} {p : α × β} :
    both x y ms = .value p ↔ x ms = .value p.1 ∧ y ms = .value p.2 :=
  Reading.and_eq_value_iff

/-- A field is read if it was written. -/
theorem Inverts.field (h : Inverts decode encode) {a : α}
    (hfind : find? name ms = some (encode a)) :
    field name decode ms = .value a :=
  field_eq_value_iff.2 ⟨encode a, hfind, h a⟩

theorem Inverts.fieldOr (h : Inverts decode encode) {default a : α}
    (hfind : find? name ms = some (encode a)) : fieldOr default name decode ms = .value a :=
  fieldOr_eq_value_iff.2 (.inr ⟨encode a, hfind, h a⟩)

end BrowserPilot.Json
