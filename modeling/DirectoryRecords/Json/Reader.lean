import DirectoryRecords.Json.Basic

/-!
# Reading JSON — one value, and nothing after it

    Each step takes the text that is left and gives back what it read together
    with what is left then, or nothing where the text is no JSON. Values nest,
    so the steps for values, items and members call one another; a budget of
    steps, one per call, bounds them, and the length of the text is enough.

    White space is the four characters of JSON. Strings hold no control
    characters below the space. Numbers have no leading zeros and no bare
    points.
-/

namespace DirectoryRecords.Json

/-- The text without leading white space of JSON. -/
def skipSpace (text : Text) : Text :=
  text.dropWhile fun c => c == ' ' || c == '\n' || c == '\t' || c == '\r'

/-! ## Strings -/

/-- A piece of a string: a character, or the number of half a surrogate pair. -/
inductive Piece where
  | char (c : Char)
  | half (n : Nat)

/-- The value of a hexadecimal digit. -/
def hexDigit? (c : Char) : Option Nat :=
  if c.isDigit then some (c.toNat - '0'.toNat)
  else if 'a' ≤ c ∧ c ≤ 'f' then some (c.toNat - 'a'.toNat + 10)
  else if 'A' ≤ c ∧ c ≤ 'F' then some (c.toNat - 'A'.toNat + 10)
  else none

/-- The number of four hexadecimal digits. -/
def hexNumber? (a b c d : Char) : Option Nat := do
  let a ← hexDigit? a
  let b ← hexDigit? b
  let c ← hexDigit? c
  let d ← hexDigit? d
  return ((a * 16 + b) * 16 + c) * 16 + d

/-- The character that a letter after a backslash stands for. -/
def escapedChar? : Char → Option Char
  | '"' => some '"'
  | '\\' => some '\\'
  | '/' => some '/'
  | 'b' => some '\x08'
  | 'f' => some '\x0c'
  | 'n' => some '\n'
  | 'r' => some '\r'
  | 't' => some '\t'
  | _ => none

/-- The piece that a number after `\u` stands for. -/
def Piece.ofNumber (n : Nat) : Piece :=
  if 0xD800 ≤ n ∧ n ≤ 0xDFFF then .half n else .char (Char.ofNat n)

/-- Reads a string after its opening quotation mark. -/
def readPieces : Text → Option (List Piece × Text)
  | [] => none
  | '"' :: rest => some ([], rest)
  | '\\' :: 'u' :: a :: b :: c :: d :: rest =>
    match hexNumber? a b c d with
    | none => none
    | some n => (readPieces rest).map fun (pieces, after) => (.ofNumber n :: pieces, after)
  | '\\' :: letter :: rest =>
    match escapedChar? letter with
    | none => none
    | some c => (readPieces rest).map fun (pieces, after) => (.char c :: pieces, after)
  | c :: rest =>
    if c.toNat < 0x20 || c == '\\' then none
    else (readPieces rest).map fun (pieces, after) => (.char c :: pieces, after)

/-- The text that pieces make up, if each half of a pair is followed by its other half. -/
def joinPieces : List Piece → Option Text
  | [] => some []
  | .char c :: rest => (joinPieces rest).map (c :: ·)
  | .half high :: .half low :: rest =>
    if high < 0xDC00 ∧ 0xDC00 ≤ low then
      (joinPieces rest).map
        (Char.ofNat (0x10000 + (high - 0xD800) * 0x400 + (low - 0xDC00)) :: ·)
    else none
  | .half _ :: _ => none

/-! ## Numbers -/

/-- The digits at the start of a text, at least one, and the rest. -/
def readDigits (text : Text) : Option (Text × Text) :=
  match text.takeWhile Char.isDigit with
  | [] => none
  | digits => some (digits, text.dropWhile Char.isDigit)

/-- The whole part of a number: a zero, or digits that do not start with one. -/
def readWhole : Text → Option (Text × Text)
  | '0' :: rest => some (['0'], rest)
  | text => readDigits text

/-- The digits after the point of a number, none where no point stands. -/
def readDecimals : Text → Option (Text × Text)
  | '.' :: rest => readDigits rest
  | text => some ([], text)

/-- The exponent after its letter. -/
def readExponentValue : Text → Option (Int × Text)
  | '-' :: rest => (readDigits rest).map fun (digits, after) =>
      (-(Nat.ofDigitChars 10 digits 0 : Int), after)
  | '+' :: rest => (readDigits rest).map fun (digits, after) =>
      ((Nat.ofDigitChars 10 digits 0 : Int), after)
  | text => (readDigits text).map fun (digits, after) =>
      ((Nat.ofDigitChars 10 digits 0 : Int), after)

/-- The exponent of a number, if it has one. -/
def readExponent : Text → Option (Option Int × Text)
  | 'e' :: rest | 'E' :: rest =>
    (readExponentValue rest).map fun (exponent, after) => (some exponent, after)
  | text => some (none, text)

/-- Reads a number after its sign. -/
def readUnsigned (negative : Bool) (text : Text) : Option (JsonNumber × Text) := do
  let (whole, rest) ← readWhole text
  let (decimals, rest) ← readDecimals rest
  let (exponent, rest) ← readExponent rest
  return (⟨negative, whole, decimals, exponent⟩, rest)

/-- Reads a number. -/
def readNumber : Text → Option (JsonNumber × Text)
  | '-' :: rest => readUnsigned true rest
  | text => readUnsigned false text

/-! ## Values -/

/-- The value of a string whose pieces have been read. -/
def ofPieces (pieces : List Piece) : Json :=
  match joinPieces pieces with
  | some text => .string text
  | none => .illFormed

/-- The object of members whose keys may not be texts. -/
def ofMembers (members : List (Option Text × Json)) : Json :=
  match members.mapM fun (key, value) => key.map (·, value) with
  | some members => .object members
  | none => .illFormed

mutual

/-- Reads a value and its leading white space. -/
def readValue : (budget : Nat) → Text → Option (Json × Text)
  | 0, _ => none
  | budget + 1, text =>
    match skipSpace text with
    | '"' :: rest => (readPieces rest).map fun (pieces, after) => (ofPieces pieces, after)
    | '[' :: rest =>
      match skipSpace rest with
      | ']' :: after => some (.array [], after)
      | _ => (readItems budget rest).map fun (items, after) => (.array items, after)
    | '\x7b' :: rest =>
      match skipSpace rest with
      | '\x7d' :: after => some (.object [], after)
      | _ => (readMembers budget rest).map fun (members, after) => (ofMembers members, after)
    | 'n' :: 'u' :: 'l' :: 'l' :: rest => some (.null, rest)
    | 't' :: 'r' :: 'u' :: 'e' :: rest => some (.bool true, rest)
    | 'f' :: 'a' :: 'l' :: 's' :: 'e' :: rest => some (.bool false, rest)
    | text => (readNumber text).map fun (n, after) => (.number n, after)

/-- Reads the items of an array, at least one, and its closing bracket. -/
def readItems : (budget : Nat) → Text → Option (List Json × Text)
  | 0, _ => none
  | budget + 1, text =>
    match readValue budget text with
    | none => none
    | some (item, rest) =>
      match skipSpace rest with
      | ',' :: rest =>
        (readItems budget rest).map fun (items, after) => (item :: items, after)
      | ']' :: after => some ([item], after)
      | _ => none

/-- Reads the members of an object, at least one, and its closing brace. -/
def readMembers : (budget : Nat) → Text → Option (List (Option Text × Json) × Text)
  | 0, _ => none
  | budget + 1, text =>
    match skipSpace text with
    | '"' :: rest =>
      match readPieces rest with
      | none => none
      | some (pieces, rest) =>
        match skipSpace rest with
        | ':' :: rest =>
          match readValue budget rest with
          | none => none
          | some (value, rest) =>
            match skipSpace rest with
            | ',' :: rest => (readMembers budget rest).map fun (members, after) =>
                ((joinPieces pieces, value) :: members, after)
            | '\x7d' :: after => some ([(joinPieces pieces, value)], after)
            | _ => none
        | _ => none
    | _ => none

end

/-- The value that a text spells, with nothing but white space around it. -/
def read (text : Text) : Option Json :=
  match readValue (2 * text.length + 2) text with
  | some (value, rest) => if (skipSpace rest).isEmpty then some value else none
  | none => none

end DirectoryRecords.Json
