import BrowserPilot.Json.Printer
import BrowserPilot.Proofs.Json.Token

namespace BrowserPilot.Json

/-!
# Strings

What a reader makes of the text between quotes, and that it is what the printer wrote there.
-/

variable {c : Char} {n : Nat} {cs rest acc raw : List Char} {s : String}

/-! ## Escapes -/

theorem hexFour_eq_ok_iff :
    hexFour cs = .ok (n, rest) ↔ ∃ digits, cs = digits ++ rest ∧ hexCode? digits = some n := by
  constructor
  · intro h
    unfold hexFour at h
    split at h
    · cases h
    · split at h
      · rename_i a b c d rest' _
        split at h
        · rename_i ha hb hc hd
          cases h
          exact ⟨[a, b, c, d], rfl, by simp [hexCode?, ha, hb, hc, hd]⟩
        · cases h
      · cases h
  · rintro ⟨digits, rfl, h⟩
    unfold hexCode? at h
    split at h
    · rename_i a b c d
      split at h
      · rename_i ha hb hc hd
        have hbytes : ¬ byteCount ((a :: b :: c :: d :: rest).take 4) < 4 := by
          have := a.utf8Size_pos
          have := b.utf8Size_pos
          have := c.utf8Size_pos
          have := d.utf8Size_pos
          simp [byteCount]
          omega
        change hexFour (a :: b :: c :: d :: rest) = _
        rw [hexFour, if_neg hbytes]
        simpa [ha, hb, hc, hd] using h
      · cases h
    · cases h

theorem lowDigits_eq_ok_iff {high : Nat} : lowDigits high cs = .ok (c, rest) ↔
    ∃ digits low, cs = digits ++ rest ∧ hexCode? digits = some low ∧ isLowSurrogate low = true ∧
      c = pairedChar high low := by
  constructor
  · intro h
    obtain ⟨⟨low, rest'⟩, hdigits, hlow⟩ := exists_of_bind_eq_ok h
    obtain ⟨digits, rfl, hcode⟩ := hexFour_eq_ok_iff.1 hdigits
    dsimp only at hlow
    split at hlow
    · rename_i hsurrogate
      obtain ⟨rfl, rfl⟩ := Prod.mk.inj (Except.ok.inj hlow)
      exact ⟨digits, low, rfl, hcode, hsurrogate, rfl⟩
    · cases hlow
  · rintro ⟨digits, low, rfl, hcode, hlow, hc⟩
    rw [hc, lowDigits, hexFour_eq_ok_iff.2 ⟨digits, rfl, hcode⟩]
    exact if_pos hlow

theorem lowHalf_eq_ok_iff {high : Nat} :
    lowHalf high cs = .ok (c, rest) ↔
      ∃ tail, cs = '\\' :: 'u' :: tail ∧ lowDigits high tail = .ok (c, rest) := by
  constructor
  · intro h
    unfold lowHalf at h
    split at h
    · cases h
    · split at h
      · cases h
      · rename_i hslash
        split at h
        · cases h
        · split at h
          · cases h
          · rename_i hu
            exact ⟨_, by rw [not_not.1 hslash, not_not.1 hu], h⟩
  · rintro ⟨tail, rfl, h⟩
    exact h

theorem escaped_eq_ok_iff : escaped cs = .ok (c, rest) ↔ ∃ e, cs = e ++ rest ∧ Escape e c := by
  constructor
  · intro h
    unfold escaped at h
    split at h
    · cases h
    · split at h
      · rename_i hu
        obtain ⟨⟨n, rest'⟩, hdigits, hcode⟩ := exists_of_bind_eq_ok h
        obtain ⟨digits, rfl, hn⟩ := hexFour_eq_ok_iff.1 hdigits
        dsimp only at hcode
        subst hu
        split at hcode
        · cases hcode
        · rename_i hlow
          split at hcode
          · rename_i hhigh
            obtain ⟨tail, rfl, htail⟩ := lowHalf_eq_ok_iff.1 hcode
            obtain ⟨second, low, rfl, hsecond, hlow', hc⟩ := lowDigits_eq_ok_iff.1 htail
            refine ⟨'u' :: (digits ++ '\\' :: 'u' :: second), by simp, ?_⟩
            rw [hc]
            exact .pair hn hhigh hsecond hlow'
          · rename_i hhigh
            cases hcode
            exact ⟨_, rfl, .code hn (by simpa using hlow) (by simpa using hhigh)⟩
      · split at h
        · rename_i hletter
          cases h
          exact ⟨_, rfl, .letter hletter⟩
        · cases h
  · rintro ⟨e, rfl, he⟩
    cases he with
    | @letter l c hletter =>
        have hu : l ≠ 'u' := by
          rintro rfl
          cases hletter
        simp [escaped, hu, hletter]
    | code hcode hlow hhigh =>
        rw [List.cons_append, escaped, if_pos rfl, codeEscape, hexFour_eq_ok_iff.2 ⟨_, rfl, hcode⟩]
        simp [bind, Except.bind, hlow, hhigh]
    | @pair first second high low hfirst hhigh hsecond hlow =>
        have hnotLow : isLowSurrogate high = false := by
          simp only [isHighSurrogate, isLowSurrogate, Bool.and_eq_true, decide_eq_true_eq]
            at hhigh ⊢
          simp
          omega
        have hdigits : hexFour (first ++ ('\\' :: 'u' :: (second ++ rest))) =
            .ok (high, '\\' :: 'u' :: (second ++ rest)) := hexFour_eq_ok_iff.2 ⟨_, rfl, hfirst⟩
        have hsplit : 'u' :: (first ++ '\\' :: 'u' :: second) ++ rest =
            'u' :: (first ++ '\\' :: 'u' :: (second ++ rest)) := by simp
        rw [hsplit, escaped, if_pos rfl, codeEscape, hdigits]
        simp only [bind, Except.bind, hnotLow, hhigh, if_true, Bool.false_eq_true, if_false]
        exact lowDigits_eq_ok_iff.2 ⟨_, low, rfl, hsecond, hlow, rfl⟩

/-! ## Between quotes -/

theorem stringFrom_escape (acc : List Char) {tail : List Char} {c : Char}
    (hescaped : escaped tail = .ok (c, rest)) :
    stringFrom acc ('\\' :: tail) = stringFrom (c :: acc) rest := by
  rw [stringFrom]
  split <;> simp_all

theorem stringFrom_sound (h : stringFrom acc cs = .ok (s, rest)) :
    ∃ raw spelled, cs = raw ++ '"' :: rest ∧ Spells raw spelled ∧
      s = String.ofList (acc.reverse ++ spelled) := by
  induction acc, cs using stringFrom.induct with
  | case1 acc => simp [stringFrom, stop] at h
  | case2 acc tail =>
      rw [stringFrom] at h
      cases h
      exact ⟨[], [], rfl, .nil, by simp⟩
  | case3 acc tail c rest' hescaped ih =>
      obtain ⟨e, rfl, he⟩ := escaped_eq_ok_iff.1 hescaped
      obtain ⟨raw, spelled, rfl, hraw, rfl⟩ := ih (stringFrom_escape acc hescaped ▸ h)
      exact ⟨_, _, by simp, .escape he hraw, by simp⟩
  | case4 acc tail fault hescaped =>
      rw [stringFrom] at h
      split at h <;> simp_all
  | case5 acc c tail hquote hslash hcontrol =>
      simp [stringFrom, hcontrol, refuse] at h
  | case6 acc c tail hquote hslash hcontrol ih =>
      rw [stringFrom, if_neg hcontrol] at h
      · obtain ⟨raw, spelled, rfl, hraw, rfl⟩ := ih h
        exact ⟨_, _, rfl, .plain hquote hslash (Nat.le_of_not_lt hcontrol) hraw, by simp⟩
      · exact hquote
      · exact hslash

theorem stringFrom_complete (acc rest : List Char) {spelled : List Char} (h : Spells raw spelled) :
    stringFrom acc (raw ++ '"' :: rest) = .ok (String.ofList (acc.reverse ++ spelled), rest) := by
  induction h generalizing acc with
  | nil => simp [stringFrom]
  | plain hquote hslash hcontrol _ ih =>
      rw [List.cons_append, stringFrom, if_neg (Nat.not_lt_of_le hcontrol), ih]
      · simp
      · exact hquote
      · exact hslash
  | @escape e raw spelled c he _ ih =>
      have hescaped : escaped (e ++ (raw ++ '"' :: rest)) = .ok (c, raw ++ '"' :: rest) :=
        escaped_eq_ok_iff.2 ⟨e, rfl, he⟩
      rw [List.cons_append, List.append_assoc, stringFrom_escape acc hescaped]
      simpa using ih (c :: acc)

theorem stringBody_eq_ok_iff : stringBody cs = .ok (s, rest) ↔
    ∃ raw, cs = raw ++ '"' :: rest ∧ Spells raw s.toList := by
  constructor
  · intro h
    obtain ⟨raw, spelled, rfl, hraw, rfl⟩ := stringFrom_sound h
    exact ⟨raw, rfl, by simpa using hraw⟩
  · rintro ⟨raw, rfl, hraw⟩
    rw [stringBody, stringFrom_complete [] _ hraw]
    simp

theorem readText_reads (depth : Nat) : Reads (readText depth) IsString := by
  apply Reads.of_token
  · exact fun _ _ ↦ IsString.value
  · intro cs
    simp only [readText, skipGap_skipGap]
  · intro cs s rest h hcs
    simp only [readText, hcs] at h
    split at h
    · cases h
    · obtain ⟨raw, rfl, hraw⟩ := stringBody_eq_ok_iff.1 h
      exact ⟨_, by simp, .mk hraw⟩
    · exact absurd h (refuseKind_ne_ok _ _ _)
  · intro text s rest h _
    cases h with
    | @mk raw s h =>
        have hgap : skipGap ('"' :: (raw ++ '"' :: rest)) = '"' :: (raw ++ '"' :: rest) :=
          skipGap_cons (by decide) _
        rw [List.cons_append, List.append_assoc, readText, List.singleton_append, hgap]
        exact stringBody_eq_ok_iff.2 ⟨raw, rfl, h⟩

/-! ## What the printer writes -/

theorem hexCode?_hexDigits (h : n < 32) :
    hexCode? ['0', '0', hexDigit (n / 16), hexDigit (n % 16)] = some n := by
  have hall : ∀ n < 32, hexCode? ['0', '0', hexDigit (n / 16), hexDigit (n % 16)] = some n := by
    decide
  exact hall n h

theorem escape_spells (cs : List Char) : Spells (escape cs) cs := by
  induction cs with
  | nil => exact .nil
  | cons c cs ih =>
      rw [escape, List.flatMap_cons, ← escape]
      unfold escapeChar
      split
      iterate 7 exact .escape (.letter rfl) ih
      rename_i hquote hslash _ _ _ _ _
      split
      · rename_i hcontrol
        have hcode := Escape.code (hexCode?_hexDigits hcontrol)
          (by simp [isLowSurrogate]; omega) (by simp [isHighSurrogate]; omega)
        rw [Char.ofNat_toNat] at hcode
        exact .escape hcode ih
      · rename_i hcontrol
        exact .plain hquote hslash (Nat.le_of_not_lt hcontrol) ih

theorem quote_isString (s : String) : IsString (quote s) s :=
  .mk (escape_spells s.toList)

end BrowserPilot.Json
