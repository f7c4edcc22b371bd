import DirectoryRecords.Schema.Basic
import DirectoryRecords.Text.Blank

/-!
# Attribute types — schema definitions as directories publish them

    A definition by RFC 4512 is a parenthesised list of keywords. Two of them
    matter here: `NAME`, with one quoted name or a parenthesised list of them,
    and `SYNTAX`, with an object identifier and perhaps a length in braces.
    Every name of a definition is bound to the identifier, or to the empty
    text where the definition has none.
-/

namespace DirectoryRecords.AttributeType

/-- The second, fourth and every further piece in an even place. -/
def evenPlaces : List Text → List Text
  | _ :: piece :: rest => piece :: evenPlaces rest
  | _ => []

/-- The names between quotation marks, empty ones left out. -/
def quotedNames (text : Text) : List Text :=
  (evenPlaces (text.splitOn '\'')).filter fun name => !name.isEmpty

/-- The names at the start of a text: the quoted ones of a parenthesised list, or else the first
    quoted one. -/
def leadingNames : Text → List Text
  | '(' :: list =>
    match Text.cut ')' list with
    | some (inside, _) => quotedNames inside
    | none => []
  | text =>
    match (Text.cut '\'' text).bind fun (_, quoted) => Text.cut '\'' quoted with
    | some ([], _) => []
    | some (name, _) => [name]
    | none => []

/-- The names of a definition. -/
def names (definition : Text) : List Text :=
  match Text.cutAt " NAME " definition with
  | some (_, after) => leadingNames (Text.trimStart after)
  | none => []

/-- Whether a character ends the value of a keyword. -/
def endsValue (c : Char) : Bool :=
  Text.isBlank c || c == ')' || c == '\''

/-- The value that stands right behind a keyword. -/
def keywordValue? (keyword definition : Text) : Option Text :=
  match Text.cutAt (' ' :: keyword ++ [' ']) definition with
  | none => none
  | some (_, after) =>
    match after.takeWhile fun c => !endsValue c with
    | [] => none
    | value => some value

/-- An identifier without the length in braces behind it. -/
def withoutLength (identifier : Text) : Text :=
  identifier.takeWhile (· != '\x7b')

/-- The identifier of the syntax of a definition, empty where it names none. -/
def identifier (definition : Text) : Text :=
  withoutLength ((keywordValue? "SYNTAX" definition).getD [])

/-- Each name of a definition with the identifier. -/
def bindings (definition : Text) : List (Text × Text) :=
  (names definition).map (·, identifier definition)

/-- The schema map of a list of definitions. -/
def schemaMap (definitions : List Text) : SchemaMap :=
  .ofList (definitions.flatMap bindings)

end DirectoryRecords.AttributeType
