import DirectoryRecords.Json.Basic

/-!
# Writing JSON — one line without spaces

    Members and items follow each other separated by a comma alone. A string
    escapes the quotation mark, the backslash and the control characters
    below the space, five of them by a letter; all else stands as it is.
-/

namespace DirectoryRecords.Json

/-- How one character is written inside a string. -/
def stringChar (c : Char) : Text :=
  match c with
  | '"' => ['\\', '"']
  | '\\' => ['\\', '\\']
  | '\x08' => ['\\', 'b']
  | '\t' => ['\\', 't']
  | '\n' => ['\\', 'n']
  | '\x0c' => ['\\', 'f']
  | '\r' => ['\\', 'r']
  | c =>
    if c.toNat < 0x20 then
      ['\\', 'u', '0', '0', Nat.digitChar (c.toNat / 16), Nat.digitChar (c.toNat % 16)]
    else [c]

/-- A text as a string of JSON. -/
def writeString (text : Text) : Text :=
  '"' :: text.flatMap stringChar ++ ['"']

/-- A number in its decimal form. -/
def writeNumber (number : JsonNumber) : Text :=
  (if number.negative then ['-'] else []) ++ number.whole ++
    (if number.decimals.isEmpty then [] else '.' :: number.decimals) ++
    match number.exponent with
    | none => []
    | some (.ofNat n) => 'e' :: Decimal.write n
    | some (.negSucc n) => 'e' :: '-' :: Decimal.write (n + 1)

mutual

/-- The text of a value. -/
def write : Json → Text
  | .null => "null"
  | .bool true => "true"
  | .bool false => "false"
  | .number value => writeNumber value
  | .string value => writeString value
  | .illFormed => "null"
  | .array items => '[' :: writeItems items ++ [']']
  | .object members => '\x7b' :: writeMembers members ++ ['\x7d']

/-- The items of an array, separated by commas. -/
def writeItems : List Json → Text
  | [] => []
  | [item] => write item
  | item :: rest => write item ++ ',' :: writeItems rest

/-- The members of an object, separated by commas. -/
def writeMembers : List (Text × Json) → Text
  | [] => []
  | [(key, value)] => writeString key ++ ':' :: write value
  | (key, value) :: rest => writeString key ++ ':' :: write value ++ ',' :: writeMembers rest

end

end DirectoryRecords.Json
