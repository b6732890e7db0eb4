import BrowserPilot.Observation
import BrowserPilot.Proofs.Text.Base64
import Mathlib.Data.List.Forall2

namespace BrowserPilot

/-!
# Tool output on the wire

No part of a tool's output is lost, altered or moved on its way into content blocks: whoever has
the blocks has the parts.
-/

open Text

/-- A block holds all that there is to a part: the same text, or a media type and the base64 text
of the bytes, which is empty only if they are. -/
inductive Block.Carries : Part → Block → Prop
  | text (text : String) : Carries (.text text) (.text text)
  | image {mime data : String} {bytes : List UInt8} :
      Base64.decode data.toUTF8.toList = .ok bytes →
        data.length = 4 * ((bytes.length + 2) / 3) →
          Carries (.image mime bytes) (.image data mime)

/-- The part that a block was made of. -/
def Block.part? : Block → Option Part
  | .text t => some (.text t)
  | .image data mime => (Base64.decode data.toUTF8.toList).toOption.map (.image mime)

theorem Block.Carries.part?_eq {p : Part} {b : Block} (h : Block.Carries p b) :
    b.part? = some p := by
  cases h with
  | text text => rfl
  | image hdata _ =>
      rw [Block.part?, hdata]
      rfl

theorem Block.mapM_part? {parts : List Part} {bs : List Block}
    (h : List.Forall₂ Block.Carries parts bs) : bs.mapM Block.part? = some parts := by
  induction h with
  | nil => rfl
  | cons hfirst _ ih => simp [hfirst.part?_eq, ih]

theorem Part.carries_block (p : Part) : Block.Carries p p.block := by
  cases p with
  | text text => exact .text text
  | image mime bytes =>
      have hlength : (Base64.encode bytes).length = 4 * ((bytes.length + 2) / 3) := by
        rw [Base64.encode, String.length_ofList, Base64.length_encodeChars]
      exact .image (Base64.decode_encode bytes) hlength

theorem Part.carries_blocks (parts : List Part) :
    List.Forall₂ Block.Carries parts (blocks parts) := by
  rw [blocks, List.forall₂_map_right_iff]
  exact List.forall₂_same.2 fun p _ ↦ p.carries_block

/-- Blocks carry the parts they are made of one by one, so the parts can be had from them again.
An observation's part is carried by the base64 text that the observation gives itself. -/
theorem blocks_carry_parts :
    (∀ parts : List Part, List.Forall₂ Block.Carries parts (Part.blocks parts) ∧
      (Part.blocks parts).mapM Block.part? = some parts) ∧
    ∀ o : Observation, o.part.base64? = some o.base64 ∧
      o.part.block = .image o.base64 pngMime ∧ Block.Carries o.part (.image o.base64 pngMime) :=
  ⟨fun parts ↦ ⟨Part.carries_blocks parts, Block.mapM_part? (Part.carries_blocks parts)⟩,
    fun o ↦ ⟨rfl, rfl, o.part.carries_block⟩⟩

end BrowserPilot
