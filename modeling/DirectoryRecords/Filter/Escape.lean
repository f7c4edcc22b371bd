import DirectoryRecords.Text.Basic

/-!
# Escapes in filters — characters by their code

    In a filter a backslash and two hexadecimal digits stand for the character
    of that code. Writing uses this for the two parentheses and NUL, so a
    value cannot end its term; the star stays, since it asks for a pattern,
    and so does the backslash.
-/

namespace DirectoryRecords.Filter

/-! ## Writing -/

/-- How one character is written where only parentheses matter. -/
def escapeParenthesis (c : Char) : Text :=
  match c with
  | '(' => ['\\', '2', '8']
  | ')' => ['\\', '2', '9']
  | c => [c]

/-- A text with its parentheses written by their codes. -/
def escapeParentheses (text : Text) : Text :=
  text.flatMap escapeParenthesis

/-- How one character of a value is written. -/
def escapeChar (c : Char) : Text :=
  match c with
  | '\x00' => ['\\', '0', '0']
  | c => escapeParenthesis c

/-- A value as it is written in a filter. -/
def escape (value : Text) : Text :=
  value.flatMap escapeChar

/-! ## Reading -/

/-- The value of a hexadecimal digit. -/
def hexDigit? (c : Char) : Option Nat :=
  if '0' ≤ c ∧ c ≤ '9' then some (c.toNat - '0'.toNat)
  else if 'a' ≤ c ∧ c ≤ 'f' then some (c.toNat - 'a'.toNat + 10)
  else if 'A' ≤ c ∧ c ≤ 'F' then some (c.toNat - 'A'.toNat + 10)
  else none

/-- The character that two characters after a backslash stand for. A plus sign counts as a
    leading zero. -/
def codedChar? (high low : Char) : Option Char :=
  match if high = '+' then some 0 else hexDigit? high, hexDigit? low with
  | some h, some l => some (Char.ofNat (16 * h + l))
  | _, _ => none

/-- A text with its codes replaced by their characters. A backslash that starts no code stays,
    and reading goes on behind it. -/
def unescape : Text → Text
  | [] => []
  | [c] => [c]
  | [c, d] => [c, d]
  | c :: high :: low :: rest =>
    if c = '\\' then
      match codedChar? high low with
      | some coded => coded :: unescape rest
      | none => c :: unescape (high :: low :: rest)
    else c :: unescape (high :: low :: rest)

end DirectoryRecords.Filter
