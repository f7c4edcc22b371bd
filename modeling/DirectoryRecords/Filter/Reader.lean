import DirectoryRecords.Error
import DirectoryRecords.Filter.Basic
import DirectoryRecords.Filter.Escape
import DirectoryRecords.Text.Blank

/-!
# Reading filters — one parenthesised filter, and nothing around it

    A filter stands in parentheses. Inside stand `&` or `|` and any number of
    filters, `!` and one filter, one filter alone, or a test: all that comes
    before the next closing parenthesis, with an attribute before its first
    equals sign and a value after it. The value `*` asks for presence, a value
    with stars for a pattern, any other for equality; the attribute loses its
    surrounding white space, the value its escapes.

    Filters nest, so reading one and reading several call each other; a
    budget of calls bounds them, and the length of the text is enough.
-/

namespace DirectoryRecords.Filter

/-- The test that stands between two parentheses. -/
def ofItem (item : Text) : Option Filter :=
  match Text.cut '=' item with
  | none => none
  | some (name, value) =>
    if value = ['*'] then some (.present (Text.trim name))
    else if '*' ∈ value then some (.pattern (Text.trim name) ((value.splitOn '*').map unescape))
    else some (.equals (Text.trim name) (unescape value))

/-- Passes over a closing parenthesis. -/
def close (filter : Filter) : Text → Option (Filter × Text)
  | ')' :: rest => some (filter, rest)
  | _ => none

/-- Reads a test and its closing parenthesis. -/
def readItem (text : Text) : Option (Filter × Text) :=
  match ofItem (text.takeWhile (· != ')')) with
  | none => none
  | some filter => close filter (text.dropWhile (· != ')'))

mutual

/-- Reads a filter from its opening to its closing parenthesis. -/
def readOne : (budget : Nat) → Text → Option (Filter × Text)
  | 0, _ => none
  | budget + 1, '(' :: '&' :: rest =>
    match readMany budget rest with
    | none => none
    | some (filters, rest) => close (.and filters) rest
  | budget + 1, '(' :: '|' :: rest =>
    match readMany budget rest with
    | none => none
    | some (filters, rest) => close (.or filters) rest
  | budget + 1, '(' :: '!' :: rest =>
    match readOne budget rest with
    | none => none
    | some (filter, rest) => close (.not filter) rest
  | budget + 1, '(' :: '(' :: rest =>
    match readOne budget ('(' :: rest) with
    | none => none
    | some (filter, rest) => close filter rest
  | _ + 1, '(' :: rest => readItem rest
  | _ + 1, _ => none

/-- Reads the filters that follow one another. -/
def readMany : (budget : Nat) → Text → Option (List Filter × Text)
  | 0, _ => none
  | budget + 1, '(' :: rest =>
    match readOne budget ('(' :: rest) with
    | none => none
    | some (filter, rest) =>
      match readMany budget rest with
      | none => none
      | some (filters, rest) => some (filter :: filters, rest)
  | _ + 1, rest => some ([], rest)

end

/-- The filter that a text spells, up to white space around it. -/
def read? (text : Text) : Option Filter :=
  let text := Text.trim text
  match readOne (2 * text.length + 2) text with
  | some (filter, []) => some filter
  | _ => none

/-- The filter that a text spells; a text that spells none fails the search for it. -/
def read (text : Text) : Except Error Filter :=
  match read? text with
  | some filter => .ok filter
  | none => .error (.searchFailed ("bad search filter: " ++ text) none)

end DirectoryRecords.Filter
