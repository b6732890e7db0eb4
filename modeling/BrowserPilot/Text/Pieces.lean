namespace BrowserPilot.Text

/-!
# Pieces between separators

A row of characters is cut at every separator. There is one piece more than there
are separators.
-/

/-- The pieces between the characters that satisfy `sep`. -/
def pieces (sep : Char → Bool) : List Char → List (List Char)
  | [] => [[]]
  | c :: cs =>
    if sep c then [] :: pieces sep cs
    else match pieces sep cs with
      | [] => [[c]]
      | first :: rest => (c :: first) :: rest

theorem pieces_ne_nil (sep : Char → Bool) (cs : List Char) : pieces sep cs ≠ [] := by
  cases cs with
  | nil => simp [pieces]
  | cons c cs =>
    simp only [pieces]
    split
    · simp
    · split <;> simp

theorem pieces_of_forall {sep : Char → Bool} {cs : List Char} (h : ∀ c ∈ cs, sep c = false) :
    pieces sep cs = [cs] := by
  induction cs with
  | nil => rfl
  | cons c cs ih =>
    obtain ⟨hc, hcs⟩ := List.forall_mem_cons.1 h
    rw [pieces, if_neg (by simp [hc]), ih hcs]

theorem pieces_append {sep : Char → Bool} {c : Char} (hc : sep c = true) (cs ds : List Char) :
    pieces sep (cs ++ c :: ds) = pieces sep cs ++ pieces sep ds := by
  induction cs with
  | nil => simp [pieces, hc]
  | cons d cs ih =>
    simp only [List.cons_append, pieces, ih]
    split
    · rfl
    · cases hcs : pieces sep cs with
      | nil => exact absurd hcs (pieces_ne_nil sep cs)
      | cons first rest => rfl

end BrowserPilot.Text
