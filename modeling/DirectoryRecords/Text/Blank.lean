import DirectoryRecords.Text.Basic

/-!
# Blanks — the white space that surrounds names and values

    The blank characters are those with the Unicode property `White_Space`:
    the ASCII controls from tab to carriage return and the space, next line,
    no-break space and the spaces and separators of the general punctuation
    and ideographic blocks.
-/

namespace DirectoryRecords.Text

/-- The ranges of code points, ends included, with the property `White_Space`. -/
def blankRanges : List (Nat × Nat) :=
  [(0x09, 0x0D), (0x20, 0x20), (0x85, 0x85), (0xA0, 0xA0), (0x1680, 0x1680),
   (0x2000, 0x200A), (0x2028, 0x2029), (0x202F, 0x202F), (0x205F, 0x205F), (0x3000, 0x3000)]

/-- Whether a code point lies in one of the ranges. -/
def inRanges (ranges : List (Nat × Nat)) (n : Nat) : Bool :=
  ranges.any fun (first, last) => first ≤ n && n ≤ last

/-- Whether a character is white space. -/
def isBlank (c : Char) : Bool :=
  inRanges blankRanges c.toNat

/-- A text without its leading white space. -/
def trimStart (text : Text) : Text :=
  text.dropWhile isBlank

/-- A text without its trailing white space. -/
def trimEnd (text : Text) : Text :=
  (trimStart text.reverse).reverse

/-- A text without its surrounding white space. -/
def trim (text : Text) : Text :=
  trimEnd (trimStart text)

/-- Whether a text holds nothing but white space. -/
def isAllBlank (text : Text) : Bool :=
  text.all isBlank

end DirectoryRecords.Text
