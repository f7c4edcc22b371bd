import DirectoryRecords.Text.AsciiCase
import DirectoryRecords.Text.Blank

/-!
# Field lists — which attributes a caller wants

    The wanted attributes come as a list or as one text with commas. Either
    way each name loses its surrounding white space and blank names are
    dropped; order and repetitions stay.
-/

namespace DirectoryRecords

/-- The attributes a caller wants, in one of two spellings, or none at all. -/
inductive FieldList where
  | list (names : List Text)
  | commaSeparated (names : Text)
  | unset
  deriving DecidableEq

namespace FieldList

/-- The names of a list without white space around them, blank ones dropped. -/
def clean (names : List Text) : List Text :=
  (names.map Text.trim).filter fun name => !name.isEmpty

/-- The wanted attributes. -/
def names : FieldList → List Text
  | list names => clean names
  | commaSeparated text => clean (text.splitOn ',')
  | unset => []

/-- The wanted attributes followed by those that are always included. -/
def select (wanted : FieldList) (always : List Text) : List Text :=
  wanted.names ++ always

/-- An explicit list of attributes with one more, unless it has it already in some letter case.
    The empty list asks for everything and stays as it is. -/
def ensure (name : Text) (names : List Text) : List Text :=
  if names.isEmpty || names.any (Text.agrees · name) then names else names ++ [name]

end FieldList

end DirectoryRecords
