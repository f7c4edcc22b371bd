/-!
# Text — characters read from left to right

    Every rule of this library (filters, names, settings, JSON) walks a text
    from its first character to its last, so a text is simply the list of its
    characters. Order, length and equality are those of lists: two texts are
    compared by code point, character by character.

    Core already splits at a single character (`List.splitOn`) and joins
    (`List.intercalate`); this module adds the first cut, the search for a
    word, and the split at a word.
-/

namespace DirectoryRecords

/-- A text is the list of its characters. -/
abbrev Text := List Char

instance : Coe String Text := ⟨String.toList⟩

namespace Text

/-- The two sides of the first `mark` of a text, or nothing where it has none. -/
def cut (mark : Char) : Text → Option (Text × Text)
  | [] => none
  | c :: rest =>
    if c = mark then some ([], rest)
    else (cut mark rest).map fun (before, after) => (c :: before, after)

/-- Whether `word` stands somewhere in a text. -/
def occurs (word : Text) : Text → Bool
  | [] => word.isEmpty
  | c :: rest => word.isPrefixOf (c :: rest) || occurs word rest

/-- The two sides of the first occurrence of `word` in a text, or nothing where it has none. -/
def cutAt (word : Text) : Text → Option (Text × Text)
  | [] => if word.isEmpty then some ([], []) else none
  | c :: rest =>
    match word.isPrefixOf? (c :: rest) with
    | some after => some ([], after)
    | none => (cutAt word rest).map fun (before, after) => (c :: before, after)

/-- Puts a character in front of the first piece. -/
def consFirst (c : Char) : List Text → List Text
  | [] => [[c]]
  | piece :: pieces => (c :: piece) :: pieces

/-- The pieces between the occurrences of `word`, where `skip` characters of an occurrence
    already found remain to be passed over. -/
def splitFrom (word : Text) : Nat → Text → List Text
  | _, [] => [[]]
  | skip + 1, _ :: rest => splitFrom word skip rest
  | 0, c :: rest =>
    if word.isPrefixOf (c :: rest) then [] :: splitFrom word (word.length - 1) rest
    else consFirst c (splitFrom word 0 rest)

/-- The pieces of a text between the occurrences of a non-empty word, found from left to right
    without overlap. -/
def splitAtWord (word text : Text) : List Text :=
  splitFrom word 0 text

/-- The texts one after the other, with `mark` between each two. -/
def joinWith (mark : Char) (texts : List Text) : Text :=
  List.intercalate [mark] texts

end Text

end DirectoryRecords
