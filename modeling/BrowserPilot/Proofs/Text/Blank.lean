import BrowserPilot.Text.Blank
import Mathlib.Data.List.Infix
import Mathlib.Data.List.TakeWhile

namespace BrowserPilot.Text

/-!
# Blanks around a text

Blanks at either end of a text are trimmed, and nothing else is.
-/

theorem dropBlankEnd_append {blanks : List Char} (hblanks : ∀ c ∈ blanks, isBlank c = true)
    (cs : List Char) : dropBlankEnd (cs ++ blanks) = dropBlankEnd cs := by
  have hreversed : ∀ c ∈ blanks.reverse, isBlank c = true := by simpa using hblanks
  rw [dropBlankEnd, List.reverse_append, List.dropWhile_append_of_pos hreversed, dropBlankEnd]

theorem trimChars_surrounded {before after : List Char}
    (hbefore : ∀ c ∈ before, isBlank c = true) (hafter : ∀ c ∈ after, isBlank c = true)
    (cs : List Char) : trimChars (before ++ cs ++ after) = trimChars cs := by
  rw [trimChars, trimChars, dropBlank, List.append_assoc, List.dropWhile_append_of_pos hbefore,
    List.dropWhile_append]
  split
  · -- nothing but blanks is there
    rename_i hempty
    have hall : after.dropWhile isBlank = [] := List.dropWhile_eq_nil_iff.2 hafter
    rw [hall, dropBlank, List.isEmpty_iff.1 hempty]
  · exact dropBlankEnd_append hafter _

theorem exists_blanks (cs : List Char) : ∃ before after, (∀ c ∈ before, isBlank c = true) ∧
    (∀ c ∈ after, isBlank c = true) ∧ cs = before ++ trimChars cs ++ after := by
  refine ⟨cs.takeWhile isBlank, ((dropBlank cs).reverse.takeWhile isBlank).reverse,
    fun c ↦ List.mem_takeWhile_imp, fun c hc ↦ List.mem_takeWhile_imp (List.mem_reverse.1 hc), ?_⟩
  rw [trimChars, dropBlankEnd, List.append_assoc, ← List.reverse_append,
    List.takeWhile_append_dropWhile, List.reverse_reverse, dropBlank,
    List.takeWhile_append_dropWhile]

@[simp] theorem trimChars_trimChars (cs : List Char) : trimChars (trimChars cs) = trimChars cs := by
  obtain ⟨before, after, hbefore, hafter, hcs⟩ := exists_blanks cs
  have hsame := trimChars_surrounded hbefore hafter (trimChars cs)
  rwa [← hcs, eq_comm] at hsame

/-- A text with a character that is not blank at either end. -/
inductive Tight : List Char → Prop
  | mk {first last : Char} (inner : List Char) (hfirst : isBlank first = false)
      (hlast : isBlank last = false) : Tight (first :: (inner ++ [last]))

theorem Tight.trimChars {cs : List Char} (h : Tight cs) : trimChars cs = cs := by
  obtain ⟨inner, hfirst, hlast⟩ := h
  rw [Text.trimChars, dropBlank_cons hfirst, dropBlankEnd,
    ← List.cons_append, List.reverse_append, List.reverse_singleton, List.singleton_append,
    List.dropWhile_cons_of_neg (by simp [hlast])]
  simp

theorem trimChars_of_forall {cs : List Char} (h : ∀ c ∈ cs, isBlank c = false) :
    trimChars cs = cs := by
  have hnone {ds : List Char} (hds : ∀ c ∈ ds, isBlank c = false) : ds.dropWhile isBlank = ds := by
    cases ds with
    | nil => rfl
    | cons d ds => exact List.dropWhile_cons_of_neg (by simp [hds d List.mem_cons_self])
  rw [trimChars, dropBlank, hnone h, dropBlankEnd, hnone fun c hc ↦ h c (List.mem_reverse.1 hc),
    List.reverse_reverse]

end BrowserPilot.Text
