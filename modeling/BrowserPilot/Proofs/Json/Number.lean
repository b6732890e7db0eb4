import BrowserPilot.Json.Skip
import BrowserPilot.Proofs.Json.Token

namespace BrowserPilot.Json

/-!
# Passing over numbers

A number is read as far as it goes. What comes after it must not go on with it.
-/

variable {cs rest text : List Char}

theorem startsDigit_digits {digits : List Char} (h : IsDigits digits) (rest : List Char) :
    startsDigit (digits ++ rest) = true := by
  obtain ⟨hne, hall⟩ := h
  cases digits with
  | nil => exact absurd rfl hne
  | cons d digits => exact hall d List.mem_cons_self

theorem dropWhile_digits {digits : List Char} (h : IsDigits digits)
    (hrest : startsDigit rest = false) : (digits ++ rest).dropWhile isDigit = rest := by
  rw [List.dropWhile_append_of_pos h.2]
  cases rest with
  | nil => rfl
  | cons c rest => exact List.dropWhile_cons_of_neg (by simpa [startsDigit] using hrest)

theorem exists_digits (h : startsDigit cs = true) :
    ∃ digits, IsDigits digits ∧ cs = digits ++ cs.dropWhile isDigit := by
  cases cs with
  | nil => cases h
  | cons c cs =>
      refine ⟨(c :: cs).takeWhile isDigit, ⟨?_, fun _ ↦ List.mem_takeWhile_imp⟩,
        (List.takeWhile_append_dropWhile).symm⟩
      rw [List.takeWhile_cons_of_pos (p := isDigit) h]
      exact List.cons_ne_nil _ _

theorem startsDigit_of_closed (h : Closed rest) : startsDigit rest = false := by
  cases rest with
  | nil => rfl
  | cons c rest => exact (h c rfl).1

theorem startsDigit_tail {fraction exponent : List Char} (hfraction : IsFraction fraction)
    (hexponent : IsExponent exponent) (hrest : Closed rest) :
    startsDigit (fraction ++ (exponent ++ rest)) = false := by
  cases hfraction with
  | some => rfl
  | none =>
      cases hexponent with
      | none => exact startsDigit_of_closed hrest
      | some hmark => rcases hmark with rfl | rfl <;> rfl

theorem skipExponent_sound (h : skipExponent cs = .ok rest) :
    ∃ sign digits, (sign = [] ∨ sign = ['+'] ∨ sign = ['-']) ∧ IsDigits digits ∧
      cs = sign ++ (digits ++ rest) := by
  have hdigits : ∀ {tail : List Char}, (if startsDigit tail then .ok (tail.dropWhile isDigit)
      else refuse .invalidNumber tail) = Except.ok rest →
        ∃ digits, IsDigits digits ∧ tail = digits ++ rest := by
    intro tail htail
    split at htail
    · rename_i hstarts
      obtain rfl := Except.ok.inj htail
      exact exists_digits hstarts
    · cases htail
  unfold skipExponent at h
  split at h
  · obtain ⟨digits, hall, rfl⟩ := hdigits h
    exact ⟨['+'], digits, .inr (.inl rfl), hall, rfl⟩
  · obtain ⟨digits, hall, rfl⟩ := hdigits h
    exact ⟨['-'], digits, .inr (.inr rfl), hall, rfl⟩
  · obtain ⟨digits, hall, rfl⟩ := hdigits h
    exact ⟨[], digits, .inl rfl, hall, rfl⟩

theorem skipExponent_complete {sign digits : List Char}
    (hsign : sign = [] ∨ sign = ['+'] ∨ sign = ['-']) (h : IsDigits digits) (hrest : Closed rest) :
    skipExponent (sign ++ (digits ++ rest)) = .ok rest := by
  have hstarts := startsDigit_digits h rest
  have hdrop := dropWhile_digits h (startsDigit_of_closed hrest)
  rcases hsign with rfl | rfl | rfl
  · rw [List.nil_append, skipExponent, if_pos hstarts, hdrop]
    all_goals
      intro tail htail
      rw [htail] at hstarts
      cases hstarts
  · simp [skipExponent, hstarts, hdrop]
  · simp [skipExponent, hstarts, hdrop]

theorem skipTail_sound (h : skipTail cs = .ok rest) : ∃ fraction exponent,
    IsFraction fraction ∧ IsExponent exponent ∧ cs = fraction ++ (exponent ++ rest) := by
  unfold skipTail at h
  split at h
  · split at h
    · cases h
    · rename_i tail hstarts
      obtain ⟨digits, hdigits, htail⟩ := exists_digits (by simpa using hstarts)
      split at h
      · rename_i mark hdrop
        obtain ⟨sign, power, hsign, hpower, rfl⟩ := skipExponent_sound h
        refine ⟨_, _, .some hdigits, .some (.inl rfl) hsign hpower, ?_⟩
        rw [htail, hdrop]
        simp
      · rename_i mark hdrop
        obtain ⟨sign, power, hsign, hpower, rfl⟩ := skipExponent_sound h
        refine ⟨_, _, .some hdigits, .some (.inr rfl) hsign hpower, ?_⟩
        rw [htail, hdrop]
        simp
      · cases h
        exact ⟨_, _, .some hdigits, .none, congrArg ('.' :: ·) htail⟩
  · obtain ⟨sign, power, hsign, hpower, rfl⟩ := skipExponent_sound h
    exact ⟨_, _, .none, .some (.inl rfl) hsign hpower, by simp⟩
  · obtain ⟨sign, power, hsign, hpower, rfl⟩ := skipExponent_sound h
    exact ⟨_, _, .none, .some (.inr rfl) hsign hpower, by simp⟩
  · cases h
    exact ⟨_, _, .none, .none, rfl⟩

theorem skipTail_complete {fraction exponent : List Char} (hfraction : IsFraction fraction)
    (hexponent : IsExponent exponent) (hrest : Closed rest) :
    skipTail (fraction ++ (exponent ++ rest)) = .ok rest := by
  cases hfraction with
  | none =>
      cases hexponent with
      | none =>
          rw [List.nil_append, List.nil_append]
          cases rest with
          | nil => rfl
          | cons c rest =>
              obtain ⟨-, hpoint, hsmall, hlarge⟩ := hrest c rfl
              simp [skipTail, hpoint, hsmall, hlarge]
      | some hmark hsign hpower =>
          have hskip := skipExponent_complete hsign hpower hrest
          rcases hmark with rfl | rfl <;> simpa [skipTail] using hskip
  | @some digits hdigits =>
      have hdrop := dropWhile_digits hdigits (startsDigit_tail .none hexponent hrest)
      have hstarts := startsDigit_digits hdigits (exponent ++ rest)
      rw [List.nil_append] at hdrop
      rw [List.cons_append, skipTail, hstarts, hdrop]
      cases hexponent with
      | none =>
          rw [List.nil_append]
          cases rest with
          | nil => rfl
          | cons c rest =>
              obtain ⟨-, hpoint, hsmall, hlarge⟩ := hrest c rfl
              simp [hsmall, hlarge]
      | some hmark hsign hpower =>
          have hskip := skipExponent_complete hsign hpower hrest
          rcases hmark with rfl | rfl <;> simpa using hskip

theorem skipNumber_sound (h : skipNumber cs = .ok rest) :
    ∃ text, IsMagnitude text ∧ cs = text ++ rest := by
  unfold skipNumber at h
  split at h
  · split at h
    · cases h
    · obtain ⟨fraction, exponent, hfraction, hexponent, rfl⟩ := skipTail_sound h
      exact ⟨_, .mk (.inl rfl) hfraction hexponent, by simp⟩
  · rename_i hzero
    split at h
    · rename_i hstarts
      obtain ⟨digits, hdigits, hcs⟩ := exists_digits hstarts
      obtain ⟨fraction, exponent, hfraction, hexponent, htail⟩ := skipTail_sound h
      refine ⟨_, .mk (.inr ⟨hdigits, fun hhead ↦ ?_⟩) hfraction hexponent, ?_⟩
      · obtain ⟨tail, rfl⟩ := List.head?_eq_some_iff.1 hhead
        exact hzero _ hcs
      · rw [hcs, htail]
        simp
    · cases h

theorem skipNumber_complete (h : IsMagnitude text) (hrest : Closed rest) :
    skipNumber (text ++ rest) = .ok rest := by
  obtain @⟨whole, fraction, exponent, hwhole, hfraction, hexponent⟩ := h
  have hstop := startsDigit_tail hfraction hexponent hrest
  have htail := skipTail_complete hfraction hexponent hrest
  rw [List.append_assoc, List.append_assoc]
  rcases hwhole with rfl | ⟨hdigits, hzero⟩
  · simpa [skipNumber, hstop] using htail
  · have hdrop := dropWhile_digits hdigits hstop
    have hstarts := startsDigit_digits hdigits (fraction ++ (exponent ++ rest))
    rw [skipNumber, if_pos hstarts, hdrop, htail]
    intro tail heq
    cases whole with
    | nil => exact hdigits.1 rfl
    | cons d digits => exact hzero (congrArg some (List.cons.inj heq).1)

end BrowserPilot.Json
