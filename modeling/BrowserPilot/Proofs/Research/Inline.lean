import BrowserPilot.Proofs.Json.Layout
import BrowserPilot.Proofs.Research.Passed

namespace BrowserPilot.Research

open Json

/-!
# Fences without lines of their own

What stands on the line of the opening fence is dropped as a language tag. A document between two
fences and nothing else is left alone if it has no other line. Otherwise its first line is lost, and
with it a bracket.
-/

/-- The text of a JSON object or list. -/
inductive IsDocument : List Char → Prop
  | object {inner : List Char} (h : Value ('{' :: (inner ++ ['}']))) :
      IsDocument ('{' :: (inner ++ ['}']))
  | list {inner : List Char} (h : Value ('[' :: (inner ++ [']']))) :
      IsDocument ('[' :: (inner ++ [']']))

theorem IsDocument.value {text : List Char} (h : IsDocument text) : Value text := by
  cases h <;> assumption

theorem IsDocument.tight {text : List Char} (h : IsDocument text) : Text.Tight text := by
  cases h with
  | object => exact .mk _ (by decide) (by decide)
  | list => exact tight_of_brackets _

theorem IsDocument.noFence {text : List Char} (h : IsDocument text) : ¬ fence <+: text := by
  cases h <;> simp [fence]

/-! ## The first line -/

theorem afterFirstLine_of_notMem {line : List Char} (hline : '\n' ∉ line) :
    afterFirstLine line = line := by
  have hpass : ∀ c ∈ line, (c != '\n') = true := fun c hc ↦
    bne_iff_ne.2 fun h ↦ hline (h ▸ hc)
  rw [afterFirstLine, List.dropWhile_eq_nil_iff.2 hpass]

theorem unfenceChars_inline {body : List Char} (hbody : '\n' ∉ body) :
    unfenceChars (fence ++ body ++ fence) = Text.trimChars body := by
  have hopening : fence.isPrefixOf? (fence ++ body ++ fence) = some (body ++ fence) :=
    List.isPrefixOf?_eq_some_iff_append_eq.2 (List.append_assoc _ _ _).symm
  have hline : '\n' ∉ body ++ fence := by
    simp [hbody, fence]
  rw [unfenceChars, trimChars_fenced, hopening]
  change Text.trimChars (dropClosing (afterFirstLine _)) = _
  rw [afterFirstLine_of_notMem hline, dropClosing_fence]

theorem toList_unfence_inline {text : String} :
    (unfence ("```" ++ text ++ "```")).toList = unfenceChars (fence ++ text.toList ++ fence) := by
  have hfence : "```".toList = fence := rfl
  rw [unfence, String.toList_ofList, String.toList_append, String.toList_append, hfence]

/-! ## The other lines -/

/-- What comes after a line of a value is no value, with or without the blanks around it. -/
theorem not_value_trimChars {line rest : List Char} (h : Value (line ++ '\n' :: rest)) :
    ¬ Value (Text.trimChars rest) := by
  intro hvalue
  obtain ⟨before, after, hbefore, hafter, hrest⟩ := Text.exists_blanks rest
  have hdrop : Text.dropBlank rest = Text.trimChars rest ++ after := by
    obtain ⟨c, tail, htrim, hc, -⟩ := exists_head_of_value hvalue
    rw [htrim] at hrest ⊢
    rw [hrest, Text.dropBlank, List.append_assoc, List.dropWhile_append_of_pos hbefore]
    exact Text.dropBlank_cons hc _
  have hwhole : Whole (rest ++ []) := by
    rw [List.append_nil]
    exact ⟨_, after, hdrop, hvalue, hafter⟩
  exact h.unresumed [] line rest rfl hwhole

theorem readReply_plan_ne_ok {text : String} (h : ¬ Value (unfence text).toList) (plan : Plan) :
    readReply Plan.reader text ≠ .ok plan := by
  intro hread
  have hplan : IsPlan (unfence text).toList plan := readReply_plan_eq_ok_iff.1 hread
  exact h ((Plan.read_reads (by decide : 3 < depthLimit)).value hplan)

theorem readReply_reflection_ne_ok {text : String} (h : ¬ Value (unfence text).toList)
    (r : Reflection) : readReply Reflection.reader text ≠ .ok r := by
  intro hread
  have hreflection : IsReflection (unfence text).toList r := readReply_reflection_eq_ok_iff.1 hread
  exact h ((Reflection.read_reads (by decide : 1 < depthLimit)).value hreflection)

/-- A document is given back from between two fences if it is on one line. If it has several, the
first is lost, and what is left is no JSON. -/
theorem inline_fence_keeps_one_line {j : String} (hj : IsDocument j.toList) :
    let fenced := "```" ++ j ++ "```"
    (unfence fenced = j ↔ '\n' ∉ j.toList) ∧
    ('\n' ∉ j.toList → ∀ {σ α : Type} (r : RecordReader σ α), readReply r fenced = readReply r j) ∧
    ∀ line rest : List Char, '\n' ∉ line → j.toList = line ++ '\n' :: rest →
      unfence fenced = Text.trim (String.ofList rest) ∧ ¬ Value (unfence fenced).toList ∧
      (∀ plan, readReply Plan.reader fenced ≠ .ok plan) ∧
      ∀ reflection, readReply Reflection.reader fenced ≠ .ok reflection := by
  intro fenced
  have htrim : Text.trim j = j := by
    rw [Text.trim, hj.tight.trimChars, String.ofList_toList]
  have hone : '\n' ∉ j.toList → unfence fenced = j := by
    intro hline
    rw [← String.toList_inj, toList_unfence_inline, unfenceChars_inline hline, hj.tight.trimChars]
  have hseveral : ∀ line rest : List Char, '\n' ∉ line → j.toList = line ++ '\n' :: rest →
      (unfence fenced).toList = Text.trimChars rest ∧ ¬ Value (unfence fenced).toList := by
    intro line rest hline hsplit
    have hleft : (unfence fenced).toList = Text.trimChars rest := by
      have hnone := List.forall_mem_nil fun c ↦ Text.isBlank c = true
      have hchars := unfenceChars_fenced hnone hnone hline rest
      rwa [List.nil_append, List.append_nil, ← hsplit, ← toList_unfence_inline] at hchars
    have hvalue : Value (line ++ '\n' :: rest) := hsplit ▸ hj.value
    exact ⟨hleft, hleft ▸ not_value_trimChars hvalue⟩
  refine ⟨⟨fun hsame hmem ↦ ?_, hone⟩, fun hline σ α r ↦ ?_, fun line rest hline hsplit ↦ ?_⟩
  · obtain ⟨line, rest, hsplit, hline⟩ := List.eq_append_cons_of_mem hmem
    have hbroken := (hseveral line rest hline hsplit).2
    rw [hsame] at hbroken
    exact hbroken hj.value
  · have hbare : ¬ fence <+: (Text.trim j).toList := htrim.symm ▸ hj.noFence
    rw [readReply, readReply, hone hline, unfence_of_noFence hbare, htrim]
  · obtain ⟨hleft, hbroken⟩ := hseveral line rest hline hsplit
    refine ⟨?_, hbroken, readReply_plan_ne_ok hbroken, readReply_reflection_ne_ok hbroken⟩
    rw [← String.toList_inj, hleft, Text.toList_trim, String.toList_ofList]

/-- An empty object on one line, and on two. -/
theorem inline_braces :
    let braces := "\x7b\x7d"
    let spread := "\x7b\n\x7d"
    (IsDocument braces.toList ∧ unfence ("```" ++ braces ++ "```") = braces ∧
      readReply Reflection.reader ("```" ++ braces ++ "```") = readReply Reflection.reader braces) ∧
    IsDocument spread.toList ∧ unfence ("```" ++ spread ++ "```") = "\x7d" ∧
      ∀ plan, readReply Plan.reader ("```" ++ spread ++ "```") ≠ .ok plan := by
  intro braces spread
  have hlines : spread.toList = '\x7b' :: (['\n'] ++ ['\x7d']) := by decide
  have hbraces : IsDocument braces.toList := by
    have hchars : braces.toList = '\x7b' :: ([] ++ ['\x7d']) := by decide
    rw [hchars]
    exact .object (.object [] (.none .nil) nofun nofun)
  have hspread : IsDocument spread.toList := by
    have hgap : IsGap ['\n'] := by simp [IsGap, isGap]
    rw [hlines]
    exact .object (.object [] (.none hgap) nofun nofun)
  obtain ⟨hkept, hread, -⟩ := inline_fence_keeps_one_line hbraces
  obtain ⟨-, -, hcut⟩ := inline_fence_keeps_one_line hspread
  obtain ⟨hleft, -, hplan, -⟩ := hcut ['\x7b'] ['\x7d'] (by decide) hlines
  exact ⟨⟨hbraces, hkept.2 (by decide), hread (by decide) _⟩, hspread, hleft.trans (by decide),
    hplan⟩

/-- A plan of three lines can be read, but not between two fences. -/
theorem spread_plan_is_cut :
    let j := "\x7b\n  \"searches\": []\n\x7d"
    IsDocument j.toList ∧ readReply Plan.reader j = .ok ⟨[]⟩ ∧
      unfence ("```" ++ j ++ "```") = "\"searches\": []\n\x7d" ∧
      ∀ plan, readReply Plan.reader ("```" ++ j ++ "```") ≠ .ok plan := by
  intro j
  have hunfence : (unfence j).toList = j.toList := by decide +kernel
  have hread : readReply Plan.reader j = .ok ⟨[]⟩ := by decide +kernel
  have hplan : IsPlan j.toList ⟨[]⟩ := hunfence ▸ readReply_plan_eq_ok_iff.1 hread
  have hvalue : Value j.toList := (Plan.read_reads (by decide : 3 < depthLimit)).value hplan
  have hcut : unfence ("```" ++ j ++ "```") = "\"searches\": []\n\x7d" := by decide +kernel
  have hdocument : IsDocument j.toList := by
    have hchars : j.toList = '\x7b' :: ("\n  \"searches\": []\n".toList ++ ['\x7d']) := by decide
    rw [hchars] at hvalue ⊢
    exact .object hvalue
  refine ⟨hdocument, hread, hcut, fun plan h ↦ ?_⟩
  have hrefused : (readReply Plan.reader ("```" ++ j ++ "```")).toOption = none := by decide +kernel
  rw [h] at hrefused
  cases hrefused

end BrowserPilot.Research
