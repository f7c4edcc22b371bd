import DirectoryRecords.Text.Basic

/-!
# ASCII case — names that differ only in the case of ASCII letters

    Attribute names, distinguished names and compared values agree when they
    are equal once the letters from `A` to `Z` are put into lower case; every
    other character counts as it stands.
-/

namespace DirectoryRecords.Text

/-- A text with the letters from `A` to `Z` put into lower case. -/
def asciiLower (text : Text) : Text :=
  text.map Char.toLower

/-- Whether two texts are equal but for the case of ASCII letters. -/
def agrees (left right : Text) : Bool :=
  asciiLower left == asciiLower right

@[simp] theorem agrees_iff (left right : Text) :
    agrees left right = true ↔ asciiLower left = asciiLower right := by
  simp [agrees]

theorem agrees_refl (text : Text) : agrees text text = true := by simp

theorem agrees_comm (left right : Text) : agrees left right = agrees right left := by
  simp [agrees, Bool.beq_comm]

end DirectoryRecords.Text
