import BrowserPilot.Proofs.Except
import BrowserPilot.Text.Numeral
import Mathlib.Tactic.Common

namespace BrowserPilot.Text

/-!
# What is read as a numeral

A numeral of a number is its digits, perhaps after zeros and a plus sign. Within the
bound all numerals of a number are read as that number, and nothing else is.
-/

variable {n acc bound : Nat} {cs : List Char} {excess : NumeralError}

theorem digitValue?_digitChar : ∀ d < 10, digitValue? (Nat.digitChar d) = some d := by
  decide

theorem digitValue?_eq_some {c : Char} {d : Nat} (h : digitValue? c = some d) :
    d < 10 ∧ c = Nat.digitChar d := by
  unfold digitValue? at h
  split at h
  · rename_i hc
    obtain rfl := Option.some.inj h
    have hlow : 48 ≤ c.toNat := hc.1
    have hhigh : c.toNat ≤ 57 := hc.2
    have hlt : c.toNat - '0'.toNat < 10 := by
      change c.toNat - 48 < 10
      omega
    refine ⟨hlt, Char.toNat_inj.1 ?_⟩
    rw [Nat.toNat_digitChar_of_lt_ten hlt]
    change c.toNat = 48 + (c.toNat - 48)
    omega
  · cases h

/-! ## Rows of digits -/

theorem digitsValue?_append (acc : Nat) (as bs : List Char) :
    digitsValue? acc (as ++ bs) = (digitsValue? acc as).bind fun n ↦ digitsValue? n bs := by
  induction as generalizing acc with
  | nil => rfl
  | cons c as ih => simp only [List.cons_append, digitsValue?, ih, Option.bind_assoc]

theorem digitsValue?_zeros (zeros : Nat) (cs : List Char) :
    digitsValue? 0 (List.replicate zeros '0' ++ cs) = digitsValue? 0 cs := by
  induction zeros with
  | zero => rfl
  | succ zeros ih => simpa [List.replicate_succ, digitsValue?, digitValue?] using ih

theorem digitsValue?_toDigits (n : Nat) : digitsValue? 0 (Nat.toDigits 10 n) = some n := by
  induction n using Nat.strongRecOn with
  | ind n ih =>
      rw [Nat.toDigits_eq_if (by decide)]
      split
      · rename_i hlt
        simp [digitsValue?, digitValue?_digitChar n hlt]
      · have hlast := digitValue?_digitChar (n % 10) (Nat.mod_lt n (by decide))
        have hvalue : 10 * (n / 10) + n % 10 = n := by omega
        simp [digitsValue?_append, ih (n / 10) (by omega), digitsValue?, hlast, hvalue]

theorem le_of_digitsValue? (h : digitsValue? acc cs = some n) : acc ≤ n := by
  induction cs generalizing acc with
  | nil => exact Nat.le_of_eq (Option.some.inj h)
  | cons c cs ih =>
      obtain ⟨d, -, hrest⟩ := Option.bind_eq_some_iff.1 h
      have hle := ih hrest
      omega

/-- What is read after a number is what its digits go on with. -/
theorem toDigits_append_of_digitsValue? (hacc : 0 < acc) (h : digitsValue? acc cs = some n) :
    Nat.toDigits 10 acc ++ cs = Nat.toDigits 10 n := by
  induction cs generalizing acc with
  | nil =>
      obtain rfl := Option.some.inj h
      exact List.append_nil _
  | cons c cs ih =>
      obtain ⟨d, hd, hrest⟩ := Option.bind_eq_some_iff.1 h
      obtain ⟨hlt, rfl⟩ := digitValue?_eq_some hd
      have hdigit : Nat.toDigits 10 acc ++ [d.digitChar] = Nat.toDigits 10 (10 * acc + d) := by
        rw [← Nat.toDigits_append_toDigits (by decide) hacc hlt, Nat.toDigits_of_lt_base hlt]
      rw [← ih (by omega) hrest, ← hdigit, List.append_assoc, List.singleton_append]

theorem eq_zeros_append_of_digitsValue? (hcs : cs ≠ []) (h : digitsValue? 0 cs = some n) :
    ∃ zeros, cs = List.replicate zeros '0' ++ Nat.toDigits 10 n := by
  induction cs with
  | nil => exact absurd rfl hcs
  | cons c cs ih =>
      obtain ⟨d, hd, hrest⟩ := Option.bind_eq_some_iff.1 h
      obtain ⟨hlt, rfl⟩ := digitValue?_eq_some hd
      rw [Nat.mul_zero, Nat.zero_add] at hrest
      rcases Nat.eq_zero_or_pos d with rfl | hpos
      · -- a zero at the front, which is the last digit or one of those before the digits
        cases cs with
        | nil =>
            obtain rfl := Option.some.inj hrest
            exact ⟨0, rfl⟩
        | cons c' cs =>
            obtain ⟨zeros, hzeros⟩ := ih (List.cons_ne_nil c' cs) hrest
            exact ⟨zeros + 1, by rw [List.replicate_succ, List.cons_append, ← hzeros]; rfl⟩
      · refine ⟨0, ?_⟩
        rw [List.replicate_zero, List.nil_append,
          ← toDigits_append_of_digitsValue? hpos hrest, Nat.toDigits_of_lt_base hlt]
        rfl

theorem boundedValue_eq_ok_iff (hacc : acc ≤ bound) :
    boundedValue bound excess acc cs = .ok n ↔ digitsValue? acc cs = some n ∧ n ≤ bound := by
  induction cs generalizing acc with
  | nil =>
      simp only [boundedValue, digitsValue?, Except.ok.injEq, Option.some.injEq]
      exact ⟨fun h ↦ ⟨h, h ▸ hacc⟩, And.left⟩
  | cons c cs ih =>
      rw [boundedValue, digitsValue?]
      cases digitValue? c with
      | none => simp
      | some d =>
          simp only [Option.bind_some]
          by_cases hlarge : bound < 10 * acc + d
          · rw [if_pos hlarge]
            refine ⟨nofun, fun h ↦ ?_⟩
            have hle := le_of_digitsValue? h.1
            omega
          · rw [if_neg hlarge]
            exact ih (by omega)

/-! ## Numerals -/

/-- A row of characters that says `n`: the digits of `n`, perhaps after zeros and a plus sign. -/
inductive IsNumeral (n : Nat) : List Char → Prop
  | bare (zeros : Nat) : IsNumeral n (List.replicate zeros '0' ++ Nat.toDigits 10 n)
  | signed (zeros : Nat) : IsNumeral n ('+' :: (List.replicate zeros '0' ++ Nat.toDigits 10 n))

theorem isNumeral_toString (n : Nat) : IsNumeral n (toString n).toList := by
  rw [Nat.toString_eq_ofList_toDigits, String.toList_ofList]
  exact .bare 0

/-- The digits of a number, perhaps after zeros. -/
theorem exists_zeros_iff : (∃ zeros, cs = List.replicate zeros '0' ++ Nat.toDigits 10 n) ↔
    cs ≠ [] ∧ digitsValue? 0 cs = some n := by
  constructor
  · rintro ⟨zeros, rfl⟩
    refine ⟨List.append_ne_nil_of_right_ne_nil _ Nat.toDigits_ne_nil, ?_⟩
    rw [digitsValue?_zeros, digitsValue?_toDigits]
  · rintro ⟨hne, hvalue⟩
    exact eq_zeros_append_of_digitsValue? hne hvalue

theorem isNumeral_iff : IsNumeral n cs ↔
    ∃ digits, (digits ≠ [] ∧ digitsValue? 0 digits = some n) ∧
      (cs = digits ∨ cs = '+' :: digits) := by
  constructor
  · rintro (zeros | zeros)
    · exact ⟨_, exists_zeros_iff.1 ⟨zeros, rfl⟩, .inl rfl⟩
    · exact ⟨_, exists_zeros_iff.1 ⟨zeros, rfl⟩, .inr rfl⟩
  · rintro ⟨digits, hdigits, hcs⟩
    obtain ⟨zeros, rfl⟩ := exists_zeros_iff.2 hdigits
    rcases hcs with rfl | rfl
    · exact .bare zeros
    · exact .signed zeros

theorem isNumeral_plus_iff :
    IsNumeral n ('+' :: cs) ↔ cs ≠ [] ∧ digitsValue? 0 cs = some n := by
  have hplus : digitsValue? 0 ('+' :: cs) = none := rfl
  rw [isNumeral_iff]
  constructor
  · rintro ⟨digits, hdigits, rfl | h⟩
    · simp [hplus] at hdigits
    · obtain rfl := (List.cons.inj h).2
      exact hdigits
  · intro h
    exact ⟨cs, h, .inr rfl⟩

theorem isNumeral_iff_of_ne_plus (hcs : ∀ digits, cs ≠ '+' :: digits) :
    IsNumeral n cs ↔ cs ≠ [] ∧ digitsValue? 0 cs = some n := by
  rw [isNumeral_iff]
  constructor
  · rintro ⟨digits, hdigits, rfl | rfl⟩
    · exact hdigits
    · exact absurd rfl (hcs digits)
  · intro h
    exact ⟨cs, h, .inl rfl⟩

theorem IsNumeral.plus_or_digit (h : IsNumeral n cs) {c : Char} (hc : c ∈ cs) :
    c = '+' ∨ c.isDigit = true := by
  have hdigits {zeros : Nat} (hc : c ∈ List.replicate zeros '0' ++ Nat.toDigits 10 n) :
      c.isDigit = true := by
    rcases List.mem_append.1 hc with hc | hc
    · rw [List.eq_of_mem_replicate hc]
      rfl
    · exact Nat.isDigit_of_mem_toDigits (by decide) (by decide) hc
  cases h with
  | bare zeros => exact .inr (hdigits hc)
  | signed zeros => exact (List.mem_cons.1 hc).imp_right hdigits

theorem toDigits_ne_zero_cons (hn : 0 < n) (cs : List Char) : Nat.toDigits 10 n ≠ '0' :: cs := by
  intro h
  have hvalue : digitsValue? 0 cs = some n := by
    rw [← digitsValue?_toDigits n, h]
    rfl
  have hcs : cs ≠ [] := by
    rintro rfl
    obtain rfl := Option.some.inj hvalue
    exact Nat.lt_irrefl 0 hn
  -- the digits would come again in what follows the zero
  obtain ⟨zeros, hzeros⟩ := eq_zeros_append_of_digitsValue? hcs hvalue
  have hlength := congrArg List.length h
  rw [hzeros] at hlength
  simp at hlength
  omega

/-- A numeral without zeros and plus sign at its front is what the number is written as. -/
theorem IsNumeral.eq_toDigits_iff (h : IsNumeral n cs) (hn : 0 < n) :
    cs = Nat.toDigits 10 n ↔ cs.head? ≠ some '0' ∧ cs.head? ≠ some '+' := by
  have hplus (digits : List Char) : Nat.toDigits 10 n ≠ '+' :: digits := by
    intro hdigits
    have hmem : '+' ∈ Nat.toDigits 10 n := hdigits ▸ List.mem_cons_self
    cases Nat.isDigit_of_mem_toDigits (by decide) (by decide) hmem
  cases h with
  | bare zeros =>
      cases zeros with
      | zero =>
          refine iff_of_true rfl ⟨fun hhead ↦ ?_, fun hhead ↦ ?_⟩
          · obtain ⟨digits, hdigits⟩ := List.head?_eq_some_iff.1 hhead
            exact toDigits_ne_zero_cons hn digits hdigits
          · obtain ⟨digits, hdigits⟩ := List.head?_eq_some_iff.1 hhead
            exact hplus digits hdigits
      | succ zeros =>
          exact iff_of_false (fun hsame ↦ toDigits_ne_zero_cons hn _ hsame.symm) (fun h ↦ h.1 rfl)
  | signed zeros => exact iff_of_false (fun hsame ↦ hplus _ hsame.symm) fun h ↦ h.2 rfl

theorem unsigned_eq_ok_iff {s : String} :
    unsigned bound s = .ok n ↔ IsNumeral n s.toList ∧ n ≤ bound := by
  rw [unsigned]
  split
  · rename_i hs
    simp [hs, isNumeral_iff_of_ne_plus]
  · rename_i hs
    simp [hs, isNumeral_plus_iff]
  · rename_i hs
    simp [hs, isNumeral_iff_of_ne_plus, digitsValue?, digitValue?]
  · rename_i digits hne hs
    have hdigits : digits ≠ [] := by
      rintro rfl
      exact hne rfl
    rw [hs, isNumeral_plus_iff, boundedValue_eq_ok_iff (Nat.zero_le bound)]
    simp [hdigits]
  · rename_i hnil _ _ hplus
    rw [isNumeral_iff_of_ne_plus hplus, boundedValue_eq_ok_iff (Nat.zero_le bound)]
    exact ⟨fun h ↦ ⟨⟨hnil, h.1⟩, h.2⟩, fun h ↦ ⟨h.1.2, h.2⟩⟩

/-- What a number is written as is read as that number. -/
theorem unsigned_toString (h : n ≤ bound) : unsigned bound (toString n) = .ok n :=
  unsigned_eq_ok_iff.2 ⟨isNumeral_toString n, h⟩

/-! ## Signs -/

theorem IsNumeral.ne_minus (h : IsNumeral n cs) (digits : List Char) : cs ≠ '-' :: digits := by
  rintro rfl
  rcases h.plus_or_digit List.mem_cons_self with hminus | hminus <;> cases hminus

theorem le_zero_of_signed {s : String} {digits : List Char} {z : Int}
    (hs : s.toList = '-' :: digits) (h : signed s = .ok z) : z ≤ 0 := by
  rw [signed, hs] at h
  cases digits with
  | nil => cases h
  | cons d digits =>
      obtain ⟨m, hm, rfl⟩ := exists_of_map_eq_ok h
      obtain ⟨k, -, hk⟩ := exists_of_bind_eq_ok hm
      obtain rfl : (k : Int) = m := Except.ok.inj hk
      exact Int.neg_nonpos_of_nonneg (Int.natCast_nonneg k)

/-- Where no minus sign is at the front, it makes no difference whether one may be. -/
theorem signed_of_ne_minus {s : String} (hs : ∀ digits, s.toList ≠ '-' :: digits) :
    signed s = (unsigned 9223372036854775807 s).map Int.ofNat := by
  rw [signed, unsigned]
  split <;> simp_all [Except.map]

/-- Above zero the same texts are read whether or not a minus sign is allowed. -/
theorem signed_eq_ok_iff {s : String} (hn : 0 < n) :
    signed s = .ok (n : Int) ↔ IsNumeral n s.toList ∧ n ≤ 9223372036854775807 := by
  by_cases hs : ∃ digits, s.toList = '-' :: digits
  · obtain ⟨digits, hs⟩ := hs
    constructor
    · intro h
      have hle := le_zero_of_signed hs h
      omega
    · rintro ⟨h, -⟩
      exact absurd hs (h.ne_minus digits)
  · rw [signed_of_ne_minus (not_exists.1 hs), ← unsigned_eq_ok_iff]
    cases unsigned 9223372036854775807 s with
    | error why => simp [Except.map]
    | ok m =>
        rw [Except.map, Except.ok.injEq, Except.ok.injEq]
        exact Int.ofNat_inj

end BrowserPilot.Text
