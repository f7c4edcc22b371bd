import DirectoryRecords.Text.Case
import DirectoryRecords.TextMap

/-!
# Schema maps — which attributes a directory defines

    A schema map gives, for the lower-case form of an attribute name, the
    object identifier of the syntax of its values, which may be empty.
-/

namespace DirectoryRecords

/-- Syntax identifiers under lower-case attribute names. -/
structure SchemaMap where
  identifiers : TextMap Text
  deriving DecidableEq

namespace SchemaMap

/-- The map that defines no attribute. -/
def empty : SchemaMap := ⟨∅⟩

instance : EmptyCollection SchemaMap := ⟨empty⟩

/-- The map with an attribute defined in addition, or anew. -/
def insert (schema : SchemaMap) (name identifier : Text) : SchemaMap :=
  ⟨schema.identifiers.insert (Text.lower name) identifier⟩

/-- The map of a list of definitions, of which the last one of a name counts. -/
def ofList (definitions : List (Text × Text)) : SchemaMap :=
  definitions.foldl (fun schema (name, identifier) => schema.insert name identifier) ∅

/-- The syntax identifier of an attribute, whatever the letter case of its name. -/
def get? (schema : SchemaMap) (name : Text) : Option Text :=
  schema.identifiers.get? (Text.lower name)

/-- Whether an attribute is defined. -/
def contains (schema : SchemaMap) (name : Text) : Bool :=
  schema.identifiers.contains (Text.lower name)

/-- The definitions in the order of their names. -/
def toList (schema : SchemaMap) : List (Text × Text) :=
  schema.identifiers.toList

/-- The number of defined attributes. -/
def size (schema : SchemaMap) : Nat :=
  schema.identifiers.size

/-- Whether no attribute is defined. -/
def isEmpty (schema : SchemaMap) : Bool :=
  schema.identifiers.isEmpty

@[simp] theorem get?_insert (schema : SchemaMap) (name identifier key : Text) :
    (schema.insert name identifier).get? key =
      if Text.lower key = Text.lower name then some identifier else schema.get? key :=
  TextMap.get?_insert schema.identifiers (Text.lower name) (Text.lower key) identifier

/-- A schema map keeps what a map of the lower-case names keeps. -/
theorem identifiers_ofList (definitions : List (Text × Text)) :
    (ofList definitions).identifiers
      = .ofList (definitions.map fun (name, identifier) => (Text.lower name, identifier)) := by
  have hfold : ∀ schema : SchemaMap,
      (definitions.foldl (fun schema (name, identifier) => schema.insert name identifier)
          schema).identifiers
        = (definitions.map fun (name, identifier) => (Text.lower name, identifier)).foldl
            (fun map (key, identifier) => map.insert key identifier) schema.identifiers := by
    induction definitions with
    | nil => exact fun _ => rfl
    | cons definition rest ih => exact fun schema => ih (schema.insert definition.1 definition.2)
  exact hfold ∅

/-- The first of some names that the schema does not define. The empty schema objects to none. -/
def firstUnknown? (schema : SchemaMap) (names : List Text) : Option Text :=
  if schema.isEmpty then none else names.find? fun name => !schema.contains name

end SchemaMap

end DirectoryRecords
