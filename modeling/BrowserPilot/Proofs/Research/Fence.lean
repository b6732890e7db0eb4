import BrowserPilot.Proofs.Text.Blank
import BrowserPilot.Research.Reply
import Mathlib.Data.List.Infix
import Mathlib.Data.List.TakeWhile

namespace BrowserPilot

/-!
# What a fence is around

A fence can be taken off again, whatever is between its lines. What is left is the
content without the blanks around it, and that is how an answer without a fence is
read as well.
-/

namespace Research

/-! ## The steps that take a fence off -/

theorem dropBlankEnd_fence (cs : List Char) : Text.dropBlankEnd (cs ++ fence) = cs ++ fence := by
  have hreversed : (fence ++ cs.reverse).dropWhile Text.isBlank = fence ++ cs.reverse := rfl
  have hfence : fence.reverse = fence := rfl
  rw [Text.dropBlankEnd, List.reverse_append, hfence, hreversed, List.reverse_append,
    List.reverse_reverse, hfence]

theorem trimChars_fenced (cs : List Char) :
    Text.trimChars (fence ++ cs ++ fence) = fence ++ cs ++ fence :=
  dropBlankEnd_fence (fence ++ cs)

theorem afterFirstLine_append {line : List Char} (hline : '\n' ∉ line) (cs : List Char) :
    afterFirstLine (line ++ '\n' :: cs) = cs := by
  have hpass : ∀ c ∈ line, (c != '\n') = true := fun c hc ↦
    bne_iff_ne.2 fun h ↦ hline (h ▸ hc)
  rw [afterFirstLine, List.dropWhile_append_of_pos hpass]
  rfl

/-- Only the last fence is dropped, and all of the text before it stays. -/
theorem dropClosing_fence (cs : List Char) : dropClosing (cs ++ fence) = cs := by
  have hsuffix : fence.isSuffixOf (cs ++ fence) = true :=
    List.isSuffixOf_iff_suffix.2 (List.suffix_append cs fence)
  rw [dropClosing, dropBlankEnd_fence, if_pos hsuffix, List.length_append, Nat.add_sub_cancel,
    List.take_left]

theorem unfenceChars_fenced {before line after : List Char}
    (hbefore : ∀ c ∈ before, Text.isBlank c = true) (hafter : ∀ c ∈ after, Text.isBlank c = true)
    (hline : '\n' ∉ line) (body : List Char) :
    unfenceChars (before ++ (fence ++ (line ++ '\n' :: body) ++ fence) ++ after) =
      Text.trimChars body := by
  have hopening : fence.isPrefixOf? (fence ++ (line ++ '\n' :: body) ++ fence) =
      some (line ++ '\n' :: (body ++ fence)) :=
    List.isPrefixOf?_eq_some_iff_append_eq.2 (by simp)
  rw [unfenceChars, Text.trimChars_surrounded hbefore hafter, trimChars_fenced, hopening]
  change Text.trimChars (dropClosing (afterFirstLine _)) = _
  rw [afterFirstLine_append hline, dropClosing_fence]

/-- A text that does not begin with a fence is only trimmed. -/
theorem unfence_of_noFence {text : String} (hbare : ¬ fence <+: (Text.trim text).toList) :
    unfence text = Text.trim text := by
  rw [Text.toList_trim] at hbare
  have hnone : fence.isPrefixOf? (Text.trimChars text.toList) = none :=
    Option.eq_none_iff_forall_ne_some.2 fun rest hrest ↦
      hbare ⟨rest, List.isPrefixOf?_eq_some_iff_append_eq.1 hrest⟩
  rw [unfence, unfenceChars, hnone, Text.trim]

/-! ## The whole -/

/-- A fence with any tag around any text, and any blanks around that. Without the fence the text
is trimmed, as a text is that does not begin with one; and so every reader makes of the fenced
text what it makes of the bare one, if that is such a text. -/
theorem unfence_undoes_fencing {before tag body after : String}
    (hbefore : ∀ c ∈ before.toList, Text.isBlank c = true)
    (hafter : ∀ c ∈ after.toList, Text.isBlank c = true) (htag : '\n' ∉ tag.toList) :
    let fenced := before ++ "```" ++ tag ++ "\n" ++ body ++ "```" ++ after
    unfence fenced = Text.trim body ∧
    (∀ text : String, ¬ "```".toList <+: (Text.trim text).toList →
      unfence text = Text.trim text) ∧
    (¬ "```".toList <+: (Text.trim body).toList →
      ∀ {σ α : Type} (r : Json.RecordReader σ α), readReply r fenced = readReply r body) := by
  intro fenced
  have hfence : "```".toList = fence := rfl
  have hunfence : unfence fenced = Text.trim body := by
    have hchars : fenced.toList = before.toList ++
        (fence ++ (tag.toList ++ '\n' :: body.toList) ++ fence) ++ after.toList := by
      simp [fenced, hfence]
    rw [unfence, hchars, unfenceChars_fenced hbefore hafter htag, Text.trim]
  refine ⟨hunfence, fun text hbare ↦ unfence_of_noFence hbare, fun hbare σ α r ↦ ?_⟩
  rw [readReply, readReply, hunfence, unfence_of_noFence hbare]

/-- A fenced reply between blanks of many kinds, whose content ends in a fence of its own. -/
theorem fencedReply_undone :
    let before := "\u3000\r\n"
    let tag := "json \r"
    let body := "\t\x7b\"searches\": []\x7d```\n"
    let after := "\n\u2029"
    let fenced := before ++ "```" ++ tag ++ "\n" ++ body ++ "```" ++ after
    (∀ c ∈ before.toList, Text.isBlank c = true) ∧ (∀ c ∈ after.toList, Text.isBlank c = true) ∧
      '\n' ∉ tag.toList ∧ unfence fenced = "\x7b\"searches\": []\x7d```" ∧
      readReply Plan.reader fenced = readReply Plan.reader body := by
  intro before tag body after fenced
  have hbefore : ∀ c ∈ before.toList, Text.isBlank c = true :=
    List.all_eq_true.1 (by decide)
  have hafter : ∀ c ∈ after.toList, Text.isBlank c = true :=
    List.all_eq_true.1 (by decide)
  have htag : '\n' ∉ tag.toList := by decide
  have htrim : Text.trim body = "\x7b\"searches\": []\x7d```" := by decide
  have hbare : ¬ "```".toList <+: (Text.trim body).toList := by
    rw [htrim]
    decide
  obtain ⟨hunfence, -, hread⟩ := unfence_undoes_fencing hbefore hafter htag
  exact ⟨hbefore, hafter, htag, hunfence.trans htrim, hread hbare Plan.reader⟩

end Research

end BrowserPilot
