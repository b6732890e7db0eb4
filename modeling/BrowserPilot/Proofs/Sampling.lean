import BrowserPilot.Sampling

namespace BrowserPilot

/-!
# The text of a reply

The model's text is that of the first block of text, whatever blocks come before it. It makes no
difference whether a reply has its content itself or in a message, nor whether a block stands
alone or in a list.
-/

open Json

variable {block content reply : Json} {text : String}

/-! ## Blocks -/

/-- A block that has this text: an object that says it is text, and what the text is. -/
inductive IsTextBlock (text : String) : Json → Prop
  | mk {members : Members} : find? "type" members = some (.string "text") →
      find? "text" members = some (.string text) → IsTextBlock text (.object members)

/-- The text of the first of some blocks that has one, if any does. -/
inductive FirstText : List Json → Option String → Prop
  | found {before after : List Json} {block : Json} {text : String} :
      (∀ b ∈ before, ∀ t, ¬ IsTextBlock t b) → IsTextBlock text block →
        FirstText (before ++ block :: after) (some text)
  | missing {blocks : List Json} : (∀ b ∈ blocks, ∀ t, ¬ IsTextBlock t b) → FirstText blocks none

theorem textOfBlock?_eq_some_iff : textOfBlock? block = some text ↔ IsTextBlock text block := by
  constructor
  · intro h
    unfold textOfBlock? at h
    split at h
    · rename_i htype
      obtain ⟨value, hvalue, htext⟩ := Option.bind_eq_some_iff.1 h
      cases block with
      | object members =>
          cases value with
          | string s =>
              obtain rfl := Option.some.inj htext
              exact .mk htype hvalue
          | _ => cases htext
      | _ => cases htype
    · cases h
  · rintro ⟨htype, htext⟩
    simp only [textOfBlock?, get?, htype, htext, Option.bind_some, asString?]

theorem textOfBlock?_eq_none_iff :
    textOfBlock? block = none ↔ ∀ text, ¬ IsTextBlock text block := by
  simp only [Option.eq_none_iff_forall_ne_some, ne_eq, textOfBlock?_eq_some_iff]

theorem firstText_findSome? (blocks : List Json) :
    FirstText blocks (blocks.findSome? textOfBlock?) := by
  cases h : blocks.findSome? textOfBlock? with
  | none =>
      exact .missing fun b hb ↦ textOfBlock?_eq_none_iff.1 (List.findSome?_eq_none_iff.1 h b hb)
  | some text =>
      obtain ⟨before, block, after, rfl, hblock, hbefore⟩ := List.findSome?_eq_some_iff.1 h
      exact .found (fun b hb ↦ textOfBlock?_eq_none_iff.1 (hbefore b hb))
        (textOfBlock?_eq_some_iff.1 hblock)

/-! ## Content -/

/-- The content of a reply: a member of its own or, if it has no such member, of its message. -/
inductive HasContent (content : Json) : Json → Prop
  | own {reply : Json} : reply.get? "content" = some content → HasContent content reply
  | ofMessage {reply message : Json} : reply.get? "content" = none →
      reply.get? "message" = some message → message.get? "content" = some content →
        HasContent content reply

theorem contentOfReply?_eq_some_iff :
    contentOfReply? reply = some content ↔ HasContent content reply := by
  constructor
  · intro h
    unfold contentOfReply? at h
    split at h
    · rename_i hown
      obtain rfl := Option.some.inj h
      exact .own hown
    · rename_i hnone
      obtain ⟨message, hmessage, hcontent⟩ := Option.bind_eq_some_iff.1 h
      exact .ofMessage hnone hmessage hcontent
  · rintro (hown | ⟨hnone, hmessage, hcontent⟩)
    · simp only [contentOfReply?, hown]
    · simp only [contentOfReply?, hnone, hmessage, hcontent, Option.bind_some]

/-- The blocks of a content, which is a list of them or a single one. -/
def blocksOf : Json → List Json
  | .array blocks => blocks
  | block => [block]

theorem blocksOf_single (h : ∀ blocks, block ≠ .array blocks) : blocksOf block = [block] := by
  cases block with
  | array blocks => exact absurd rfl (h blocks)
  | _ => rfl

theorem HasContent.text_eq (h : HasContent content reply) :
    textOfReply? reply = (blocksOf content).findSome? textOfBlock? := by
  rw [textOfReply?, contentOfReply?_eq_some_iff.2 h]
  cases content with
  | array blocks => rfl
  | _ => simp only [blocksOf, List.findSome?_singleton]

theorem hasContent_own (content : Json) (others : Members) :
    HasContent content (.object (insertMember "content" content others)) :=
  .own (find?_insertMember_self _ _ _)

theorem hasContent_message (content : Json) {others : Members}
    (hothers : find? "content" others = none) (inner : Members) :
    HasContent content (.object
      (insertMember "message" (.object (insertMember "content" content inner)) others)) := by
  refine .ofMessage ?_ (find?_insertMember_self _ _ _) (find?_insertMember_self _ _ _)
  exact (find?_insertMember_ne (by decide) _ _).trans hothers

/-! ## The whole -/

/-- A reply with a list of blocks for its content gives the text of the first block that has one,
and all replies with the same content give the same. A block alone gives what it gives in a list. A
content may stand beside any other members of a reply or of its message, and a reply without one
gives no text. -/
theorem text_is_independent_of_shape :
    (∀ blocks reply, HasContent (.array blocks) reply → FirstText blocks (textOfReply? reply)) ∧
    (∀ content reply reply', HasContent content reply → HasContent content reply' →
      textOfReply? reply = textOfReply? reply') ∧
    (∀ block reply reply', (∀ blocks, block ≠ .array blocks) → HasContent block reply →
      HasContent (.array [block]) reply' → textOfReply? reply = textOfReply? reply') ∧
    (∀ content others, HasContent content (.object (insertMember "content" content others)) ∧
      (find? "content" others = none → ∀ inner, HasContent content (.object
        (insertMember "message" (.object (insertMember "content" content inner)) others)))) ∧
    ∀ reply, (∀ content, ¬ HasContent content reply) → textOfReply? reply = none := by
  refine ⟨fun blocks reply h ↦ ?_, fun content reply reply' h h' ↦ ?_,
    fun block reply reply' hblock h h' ↦ ?_, fun content others ↦ ?_, fun reply h ↦ ?_⟩
  · exact h.text_eq ▸ firstText_findSome? blocks
  · rw [h.text_eq, h'.text_eq]
  · rw [h.text_eq, h'.text_eq, blocksOf_single hblock, blocksOf]
  · exact ⟨hasContent_own content others, hasContent_message content⟩
  · have hnone : contentOfReply? reply = none :=
      Option.eq_none_iff_forall_ne_some.2 fun content hc ↦
        h content (contentOfReply?_eq_some_iff.1 hc)
    rw [textOfReply?, hnone]

/-- The second text block of a list is the first that has a text. It gives it from a message, beside
other members, and alone. -/
theorem text_found_behind_noise :
    let block : Json := .object [("text", .string "found"), ("type", .string "text")]
    let blocks : List Json := [.null, .string "text", .object [("text", .string "untyped")],
      .object [("text", ofNat 5), ("type", .string "text")], block,
      .object [("text", .string "later"), ("type", .string "text")]]
    let role : Members := [("role", .string "assistant")]
    let reply : Json := .object [("message", .object [("content", .array blocks)]),
      ("role", .string "assistant")]
    let lone : Json := .object [("content", block), ("role", .string "assistant")]
    HasContent (.array blocks) reply ∧ FirstText blocks (textOfReply? reply) ∧
      textOfReply? reply = some "found" ∧
      (∀ items, block ≠ .array items) ∧ HasContent block lone ∧
      textOfReply? lone = textOfReply? (.object [("content", .array [block])]) ∧
      find? "content" role = none ∧
      textOfReply? (.object [("content", .array blocks)]) = textOfReply? reply ∧
      (∀ content, ¬ HasContent content .null) ∧ textOfReply? .null = none := by
  intro block blocks role reply lone
  obtain ⟨hlist, hsame, halone, hplaces, hnothing⟩ := text_is_independent_of_shape
  have hrole : find? "content" role = none := rfl
  have hreply : HasContent (.array blocks) reply := (hplaces (.array blocks) role).2 hrole []
  have hown : HasContent (.array blocks) (.object [("content", .array blocks)]) :=
    (hplaces (.array blocks) []).1
  have hlone : HasContent block lone := (hplaces block role).1
  have hnull : ∀ content, ¬ HasContent content .null := by
    rintro content (h | ⟨-, h, -⟩) <;> cases h
  exact ⟨hreply, hlist blocks reply hreply, rfl, nofun, hlone,
    halone block lone _ nofun hlone (hplaces (.array [block]) []).1, hrole,
    hsame _ _ _ hown hreply, hnull, hnothing .null hnull⟩

end BrowserPilot
