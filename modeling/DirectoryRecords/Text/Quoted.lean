import DirectoryRecords.Text.Unprintable

/-!
# Quoted text — a text between quotation marks, fit for one line of a report

    A quotation mark and a backslash get a backslash in front; tab, line feed,
    carriage return and NUL have a letter of their own; every other character
    that would not show is written by its number in braces.
-/

namespace DirectoryRecords.Text

/-- How one character is written inside quotation marks. -/
def quotedChar (c : Char) : Text :=
  match c with
  | '"' => ['\\', '"']
  | '\\' => ['\\', '\\']
  | '\n' => ['\\', 'n']
  | '\r' => ['\\', 'r']
  | '\t' => ['\\', 't']
  | '\x00' => ['\\', '0']
  | c =>
    if isUnprintable c then ['\\', 'u', '\x7b'] ++ Nat.toDigits 16 c.toNat ++ ['\x7d']
    else [c]

/-- A text between quotation marks. -/
def quoted (text : Text) : Text :=
  '"' :: text.flatMap quotedChar ++ ['"']

/-- The texts between square brackets, each quoted. -/
def quotedList (texts : List Text) : Text :=
  '[' :: List.intercalate ", ".toList (texts.map quoted) ++ [']']

/-- A text that may be absent: its quoted form marked as present, or the word for absence. -/
def quotedOption : Option Text → Text
  | none => "None"
  | some text => "Some(" ++ quoted text ++ ")"

end DirectoryRecords.Text
