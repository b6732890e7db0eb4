import BrowserPilot.Page.Picture

namespace BrowserPilot

/-!
# The size of a picture

The header of a picture is read back as the size that was written into it, for every
size there is, and whatever stands behind the header.
-/

/-- Four bytes hold every number below 2³². -/
theorem bigEndian_fourBytes {n : Nat} (h : n < 4294967296) :
    Observation.bigEndian (fourBytes n) = n := by
  simp only [Observation.bigEndian, fourBytes, List.foldl_cons, List.foldl_nil, UInt8.toNat_ofNat']
  omega

section picture

variable (width height : UInt32) (url : String)

/-- What a picture begins with. -/
def pictureHeader : List UInt8 :=
  Observation.signature ++ (fourBytes 13 ++ (Observation.headerName ++
    (fourBytes width.toNat ++ fourBytes height.toNat)))

theorem picture_eq_append :
    picture width height url =
      pictureHeader width height ++ ([8, 6, 0, 0, 0] ++ url.toUTF8.toList) := by
  simp only [picture, pictureHeader, List.append_assoc]

theorem pictureHeader_length : (pictureHeader width height).length = 24 := rfl

theorem picture_ne_nil : picture width height url ≠ [] := by
  rw [picture_eq_append]
  exact List.append_ne_nil_of_left_ne_nil (List.cons_ne_nil _ _) _

/-- A picture of any size tells that size. -/
theorem dimensions?_picture : Observation.dimensions? ⟨picture width height url⟩ =
    some (width.toNat, height.toNat) := by
  -- all that is read lies within the header, so nothing need be known of what comes after it
  generalize htail : [8, 6, 0, 0, 0] ++ url.toUTF8.toList = tail
  have hpicture : picture width height url = pictureHeader width height ++ tail := by
    rw [picture_eq_append, htail]
  have hlong : 24 ≤ (pictureHeader width height ++ tail).length := by
    rw [List.length_append, pictureHeader_length]
    exact Nat.le_add_right 24 _
  have hsignature : (pictureHeader width height ++ tail).take 8 = Observation.signature := rfl
  have hname : ((pictureHeader width height ++ tail).drop 12).take 4 = Observation.headerName := rfl
  have hwidth : ((pictureHeader width height ++ tail).drop 16).take 4 = fourBytes width.toNat := rfl
  have hheight : ((pictureHeader width height ++ tail).drop 20).take 4 =
      fourBytes height.toNat := rfl
  simp only [Observation.dimensions?, hpicture]
  rw [if_pos ⟨hlong, hsignature, hname⟩, hwidth, hheight, bigEndian_fourBytes width.toNat_lt,
    bigEndian_fourBytes height.toNat_lt]

end picture

end BrowserPilot
