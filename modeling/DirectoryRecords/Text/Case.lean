import DirectoryRecords.Text.CaseRange

/-!
# Case — full lower case of a text, upper case of a letter

    Lower-casing maps each character to its lower-case form (two characters
    for `İ`). The only rule that looks beyond one character is that of the
    sigma: a capital sigma at the end of a word becomes `ς`, elsewhere `σ`.
    It ends a word when a cased letter stands before it and none after it,
    characters with `Case_Ignorable` being passed over on both sides.

    Upper-casing is needed for the first letter of a word only, so it is
    given character by character.
-/

namespace DirectoryRecords.Text

/-- Whether a character is a letter with a case. -/
def isCased (c : Char) : Bool :=
  if c.toNat < 0x80 then c.isAlpha else inRanges casedRanges c.toNat

/-- Whether a character is passed over when a sigma looks at its neighbours. -/
def isCaseIgnorable (c : Char) : Bool :=
  if c.toNat < 0x80 then c ∈ ['\'', '.', ':', '^', Char.ofNat 0x60]
  else inRanges caseIgnorableRanges c.toNat

/-- The lower-case form of a character that stands alone. -/
def lowerChar (c : Char) : Text :=
  if c.toNat < 0x80 then [c.toLower]
  else if c = 'İ' then ['i', '\u0307']
  else [Char.ofNat (CaseRun.apply lowerRuns c.toNat)]

/-- The upper-case form of a character. -/
def upperChar (c : Char) : Text :=
  if c.toNat < 0x80 then [c.toUpper]
  else match upperExpansions.lookup c.toNat with
    | some form => form.map Char.ofNat
    | none => [Char.ofNat (CaseRun.apply upperRuns c.toNat)]

/-- Whether the first character that counts is a cased letter. -/
def startsCased (text : Text) : Bool :=
  match text.dropWhile isCaseIgnorable with
  | [] => false
  | c :: _ => isCased c

/-- The lower-case form of the rest of a text, where `inWord` says whether the last character
    before it that counts is a cased letter. -/
def lowerFrom : (inWord : Bool) → Text → Text
  | _, [] => []
  | inWord, c :: rest =>
    (if c = 'Σ' then [if inWord && !startsCased rest then 'ς' else 'σ'] else lowerChar c) ++
      lowerFrom (if isCaseIgnorable c then inWord else isCased c) rest

/-- The lower-case form of a text. -/
def lower (text : Text) : Text :=
  lowerFrom false text

/-- The text with the first letter of each word in upper case and the rest untouched, where
    `starting` says whether a word may start here. -/
def titleFrom : (starting : Bool) → Text → Text
  | _, [] => []
  | starting, c :: rest =>
    if isBlank c then c :: titleFrom true rest
    else if starting then upperChar c ++ titleFrom false rest
    else c :: titleFrom false rest

/-- The text with the first letter of each blank-separated word in upper case. -/
def titleCase (text : Text) : Text :=
  titleFrom true text

end DirectoryRecords.Text
