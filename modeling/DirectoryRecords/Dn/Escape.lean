import DirectoryRecords.Text.Basic

/-!
# Escaped values — what may stand in a distinguished name

    A value is written into a distinguished name by the rules of RFC 4514: a
    character with a meaning there gets a backslash in front; NUL, a space at
    either end and a number sign at the start are written by their code.
-/

namespace DirectoryRecords.Dn

/-- The characters that get a backslash in front. -/
def specialChars : List Char :=
  [',', '+', '"', '\\', '<', '>', ';', '=']

/-- How one character of a value is written, given whether it is the first or the last one. -/
def escapeChar (first last : Bool) (c : Char) : Text :=
  if c ∈ specialChars then ['\\', c]
  else if c = '\x00' then ['\\', '0', '0']
  else if c = ' ' ∧ (first ∨ last) then ['\\', '2', '0']
  else if c = '#' ∧ first then ['\\', '2', '3']
  else [c]

/-- How the rest of a value is written, given whether it is the whole value. -/
def escapeFrom : (first : Bool) → Text → Text
  | _, [] => []
  | first, c :: rest => escapeChar first rest.isEmpty c ++ escapeFrom false rest

/-- A value as it is written in a distinguished name. -/
def escape (value : Text) : Text :=
  escapeFrom true value

end DirectoryRecords.Dn
