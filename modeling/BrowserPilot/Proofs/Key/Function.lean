import BrowserPilot.Key.Alias
import BrowserPilot.Proofs.Key.Definition
import BrowserPilot.Proofs.Text.Numeral

namespace BrowserPilot.Key

/-!
# Function keys

Twelve keys are told by a number in their name. The number alone counts, not how it is
written: zeros and a plus sign in front of it are passed over. The key still goes by the
name as it was written.
-/

open Text

variable {n : Nat} {name : String} {d : Definition}

/-- A name that begins otherwise than all names of a table is not in it. -/
theorem lookup_eq_none_of_head {β : Type} {entries : List (String × β)} {c : Char}
    (hentries : ∀ entry ∈ entries, entry.1.toList.head? ≠ some c)
    (hname : name.toList.head? = some c) : entries.lookup name = none := by
  rw [List.lookup_eq_none_iff]
  intro entry hmem
  rw [bne_iff_ne]
  rintro rfl
  exact hentries entry hmem hname

/-- The standard name of a function key. -/
def functionName (n : Nat) : String := "F" ++ toString n

theorem toList_functionName (n : Nat) : (functionName n).toList = 'F' :: Nat.toDigits 10 n := by
  have hdigits : (toString n).toList = Nat.toDigits 10 n := by
    rw [Nat.toString_eq_ofList_toDigits, String.toList_ofList]
  rw [functionName, String.toList_append, hdigits]
  rfl

/-- A name of one of the function keys: an `F`, and after it a numeral of one of the numbers from
one to twelve. -/
structure NamesFunction (n : Nat) (name : String) : Prop where
  low : 1 ≤ n
  high : n ≤ 12
  spelled : ∃ digits, name.toList = 'F' :: digits ∧ IsNumeral n digits

theorem namesFunction_functionName (hlow : 1 ≤ n) (hhigh : n ≤ 12) :
    NamesFunction n (functionName n) :=
  ⟨hlow, hhigh, _, toList_functionName n, .bare 0⟩

theorem NamesFunction.eq_functionName_iff (h : NamesFunction n name) :
    name = functionName n ↔ ¬ ['F', '0'] <+: name.toList ∧ ¬ ['F', '+'] <+: name.toList := by
  obtain ⟨digits, hname, hnumeral⟩ := h.spelled
  have hprefix (c : Char) : ['F', c] <+: 'F' :: digits ↔ digits.head? = some c := by
    cases digits <;> simp [eq_comm]
  rw [← String.toList_inj, toList_functionName, hname, hprefix, hprefix, List.cons_inj_right]
  exact hnumeral.eq_toDigits_iff h.low

/-- A name of a function key is the standard one if its number has no zeros and no plus sign in
front of it. -/
theorem eq_functionName_iff : 1 ≤ n ∧ n ≤ 12 ∧ name = functionName n ↔
    NamesFunction n name ∧ ¬ ['F', '0'] <+: name.toList ∧ ¬ ['F', '+'] <+: name.toList := by
  constructor
  · rintro ⟨hlow, hhigh, rfl⟩
    have h := namesFunction_functionName hlow hhigh
    exact ⟨h, h.eq_functionName_iff.1 rfl⟩
  · rintro ⟨h, hplain⟩
    exact ⟨h.low, h.high, h.eq_functionName_iff.2 hplain⟩

/-! ## The rule -/

namespace Definition

theorem ofFunction?_eq_some_iff :
    ofFunction? name = some d ↔ ∃ n, NamesFunction n name ∧ d = plain name (111 + n) := by
  constructor
  · intro h
    unfold ofFunction? at h
    split at h
    · rename_i digits hname
      split at h
      · rename_i z hz
        split at h
        · rename_i hrange
          obtain ⟨n, rfl⟩ := Int.eq_ofNat_of_zero_le (by omega : 0 ≤ z)
          have hlow : 1 ≤ n := by omega
          have hnumeral := ((signed_eq_ok_iff hlow).1 hz).1
          rw [String.toList_ofList] at hnumeral
          exact ⟨n, ⟨hlow, by omega, digits, hname, hnumeral⟩, (Option.some.inj h).symm⟩
        · cases h
      · cases h
    · cases h
  · rintro ⟨n, ⟨hlow, hhigh, digits, hname, hnumeral⟩, rfl⟩
    have hread : signed (String.ofList digits) = .ok (n : Int) := by
      refine (signed_eq_ok_iff hlow).2 ⟨?_, by omega⟩
      rwa [String.toList_ofList]
    have hrange : (1 : Int) ≤ n ∧ (n : Int) ≤ 12 := by omega
    simp only [ofFunction?, hname, hread, if_pos hrange, Int.toNat_natCast]

theorem ofFunction?_eq_none_iff : ofFunction? name = none ↔ ∀ n, ¬ NamesFunction n name := by
  rw [Option.eq_none_iff_forall_ne_some]
  constructor
  · intro h n hn
    exact h _ (ofFunction?_eq_some_iff.2 ⟨n, hn, rfl⟩)
  · intro h d hd
    obtain ⟨n, hn, -⟩ := ofFunction?_eq_some_iff.1 hd
    exact h n hn

/-- No key with a name of its own is called like a function key. -/
theorem lookup_of_namesFunction (h : NamesFunction n name) : named.lookup name = none := by
  obtain ⟨digits, hname, -⟩ := h.spelled
  exact lookup_eq_none_of_head (c := 'F') (by decide) (by rw [hname, List.head?_cons])

end Definition

theorem define_of_namesFunction (h : NamesFunction n name) :
    define name = .plain name (111 + n) := by
  simp only [define, Definition.lookup_of_namesFunction h,
    Definition.ofFunction?_eq_some_iff.2 ⟨n, h, rfl⟩, Option.getD_some]

/-- A caller's name of a function key goes through as it is. -/
theorem native_of_namesFunction (h : NamesFunction n name) : native name = name := by
  obtain ⟨digits, hname, -⟩ := h.spelled
  have hfold : name.toList.map fold = 'f' :: digits.map fold := by
    rw [hname]
    rfl
  have hlookup : lookup? name = none :=
    lookup_eq_none_of_head (c := 'f') (by decide) (by rw [hfold, String.toList_ofList]; rfl)
  rw [native, hlookup, Option.getD_none]

/-! ## Other names -/

/-- A name that is neither in the table nor that of a function key nor a character is all that is
known of its key. -/
theorem define_of_unknown (hlookup : Definition.named.lookup name = none)
    (hfunction : ∀ n, ¬ NamesFunction n name) (hlength : name.length ≠ 1) :
    define name = { key := name, code := name } := by
  have htext : Definition.ofText name = { key := name, code := name } := by
    unfold Definition.ofText
    split
    · rename_i c hname
      exact absurd (by rw [← String.length_toList, hname]; rfl) hlength
    · rfl
  simp only [define, hlookup, Definition.ofFunction?_eq_none_iff.2 hfunction, Option.getD_none,
    htext]

/-! ## Numbers -/

theorem toNat_upperChar_le {c : Char} (h : isLetter c = true) : (upperChar c).toNat ≤ 90 := by
  have hletter : ('a' ≤ c ∧ c ≤ 'z') ∨ 'A' ≤ c ∧ c ≤ 'Z' := by
    simpa [isLetter] using h
  unfold upperChar
  split
  · rename_i hsmall
    have hhigh : c.toNat ≤ 122 := hsmall.2
    have hvalid : c.toNat - 32 < 55296 := by omega
    rw [Char.ofNat, dif_pos (.inl hvalid)]
    change c.toNat - 32 ≤ 90
    omega
  · rename_i hcapital
    exact (hletter.resolve_left hcapital).2

namespace Definition

variable {number : Nat}

theorem number_placeOfChar {c : Char} (h : (placeOfChar c).2 = some number) : number ≤ 90 := by
  unfold placeOfChar at h
  split at h
  · rename_i hletter
    obtain rfl := Option.some.inj h
    exact toNat_upperChar_le hletter
  · split at h
    · rename_i hdigit
      obtain rfl := Option.some.inj h
      have hnine : c ≤ '9' := by
        simpa using (Bool.and_eq_true_iff.1 hdigit).2
      exact Nat.le_trans (hnine : c.toNat ≤ 57) (by decide)
    · cases h

theorem number_ofText (h : (ofText name).number = some number) : number ≤ 90 := by
  unfold ofText at h
  split at h
  · exact number_placeOfChar h
  · cases h

theorem number_of_lookup (hlookup : named.lookup name = some d) (h : d.number = some number) :
    number < 112 ∨ 123 < number := by
  have hnamed : ∀ entry ∈ named, ∀ number ∈ entry.2.number, number < 112 ∨ 123 < number := by
    decide
  obtain ⟨entry, hmem, rfl⟩ := mem_of_lookup hlookup
  exact hnamed entry hmem number h

end Definition

/-- No other keys have the numbers of the function keys. -/
theorem number_define_iff :
    (∃ number, (define name).number = some number ∧ 112 ≤ number ∧ number ≤ 123) ↔
      ∃ n, NamesFunction n name := by
  constructor
  · rintro ⟨number, hnumber, hlow, hhigh⟩
    by_contra hnone
    have hrule := Definition.ofFunction?_eq_none_iff.2 (not_exists.1 hnone)
    unfold define at hnumber
    split at hnumber
    · rename_i hlookup
      have hout := Definition.number_of_lookup hlookup hnumber
      omega
    · rw [hrule, Option.getD_none] at hnumber
      have hle := Definition.number_ofText hnumber
      omega
  · rintro ⟨n, h⟩
    have hlow := h.low
    have hhigh := h.high
    refine ⟨111 + n, ?_, by omega, by omega⟩
    rw [define_of_namesFunction h]
    rfl

end BrowserPilot.Key
