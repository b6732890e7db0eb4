import Mathlib.Tactic.Common

namespace BrowserPilot.Text

/-!
# The bytes of a text

In a text of ASCII characters every character is one byte.
-/

theorem toList_loop (bytes : ByteArray) (i : Nat) (before : List UInt8) :
    ByteArray.toList.loop bytes i before = before.reverse ++ bytes.data.toList.drop i := by
  fun_induction ByteArray.toList.loop bytes i before with
  | case1 i before hi ih =>
      have hlt : i < bytes.data.toList.length := by simpa using hi
      have hget : bytes.get! i = bytes.data.toList[i] := by
        simp [ByteArray.get!, getElem!_pos bytes.data i hi]
      rw [ih, hget, List.drop_eq_getElem_cons hlt, List.reverse_cons, List.append_assoc]
      rfl
  | case2 i before hi =>
      rw [List.drop_eq_nil_of_le (by simpa using Nat.le_of_not_lt hi), List.append_nil]

theorem toList_toUTF8 (s : String) : s.toUTF8.toList = s.toByteArray.data.toList := by
  rw [ByteArray.toList, toList_loop, String.toUTF8_eq_toByteArray]
  rfl

/-- The bytes of a text of ASCII characters are their codes. -/
theorem toList_toUTF8_ofList {cs : List Char} (h : ∀ c ∈ cs, c.toNat < 128) :
    (String.ofList cs).toUTF8.toList = cs.map fun c ↦ UInt8.ofNat c.toNat := by
  rw [toList_toUTF8, String.toByteArray_ofList]
  induction cs with
  | nil => rfl
  | cons c cs ih =>
      obtain ⟨hc, hcs⟩ := List.forall_mem_cons.1 h
      have hsize : c.utf8Size = 1 := by
        rw [Char.utf8Size_eq_one_iff, UInt32.le_iff_toNat_le]
        exact Nat.le_of_lt_succ hc
      have hbyte : [c].utf8Encode = [UInt8.ofNat c.toNat].toByteArray := by
        rw [List.utf8Encode_singleton, String.utf8EncodeChar_eq_singleton hsize]
        rfl
      rw [List.utf8Encode_cons, hbyte, ByteArray.data_append, Array.toList_append, ih hcs]
      simp

end BrowserPilot.Text
