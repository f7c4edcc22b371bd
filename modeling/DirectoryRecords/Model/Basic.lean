import DirectoryRecords.Error
import DirectoryRecords.Json.Fields
import DirectoryRecords.Text.Blank
import DirectoryRecords.Text.Case
import DirectoryRecords.Text.Quoted

/-!
# Models — one kind of object and where it lives

    A model names a kind of object, the base below which its entries lie, and
    how they are found and created. What it leaves open follows from its
    object class: people are known by `uid`, groups by `cn`.
-/

namespace DirectoryRecords

/-- The broad kinds of object. -/
inductive ObjectKind where
  | person
  | group
  deriving DecidableEq, Repr

/-- A kind of object in a directory. -/
structure Model where
  name : Text
  baseDn : Text
  objectClass? : Option Text
  defaultFields : List Text
  objectClasses : List Text
  namingAttribute? : Option Text
  deriving DecidableEq

namespace ObjectKind

/-- The attribute that entries of a kind are known by. -/
def keyAttribute : ObjectKind → Text
  | person => "uid"
  | group => "cn"

end ObjectKind

namespace Model

/-- A model of which only the name and the base are known. -/
def ofName (name baseDn : Text) : Model := ⟨name, baseDn, none, [], [], none⟩

/-- The object class of the entries: the model's name unless another one is given. -/
def objectClass (model : Model) : Text :=
  model.objectClass?.getD model.name

/-- The object classes of groups, in lower case. -/
def groupClasses : List Text :=
  ["group", "groupofnames", "groupofuniquenames", "posixgroup"]

/-- The kind of the entries, told from their object class. -/
def kind (model : Model) : ObjectKind :=
  if Text.lower model.objectClass ∈ groupClasses then .group else .person

/-- The attribute whose first value is the key of an entry in an option list. -/
def listKey (model : Model) : Text :=
  model.kind.keyAttribute

/-- The attribute that names a new entry below its base. -/
def namingAttribute (model : Model) : Text :=
  model.namingAttribute?.getD model.listKey

/-- The object classes of a new entry. -/
def creationClasses (model : Model) : List Text :=
  if model.objectClasses.isEmpty then ["top".toList, model.objectClass] else model.objectClasses

/-- Accepts a model that has a name and a base. -/
def validate (model : Model) : Except Error Unit :=
  if Text.isAllBlank model.name then .error (.invalidConfiguration "model name is required")
  else if Text.isAllBlank model.baseDn then
    .error (.invalidConfiguration ("model '" ++ model.name ++ "' has no base DN"))
  else .ok ()

/-! ## JSON and report -/

/-- An optional text is null where it is absent. -/
def optionToJson : Option Text → Json
  | some text => .string text
  | none => .null

/-- A model is an object with all of its fields. -/
def toJson (model : Model) : Json :=
  .object
    [("name".toList, .string model.name),
     ("base_dn".toList, .string model.baseDn),
     ("object_class".toList, optionToJson model.objectClass?),
     ("default_fields".toList, .strings model.defaultFields),
     ("object_classes".toList, .strings model.objectClasses),
     ("naming_attribute".toList, optionToJson model.namingAttribute?)]

/-- The names of the fields in their order. -/
def fieldNames : List Text :=
  ["name", "base_dn", "object_class", "default_fields", "object_classes", "naming_attribute"]

/-- The model of a structure; all but its name and its base may be left out. -/
def ofJson? (json : Json) : Option Model :=
  match json.fields? fieldNames with
  | some [name, baseDn, objectClass, defaultFields, objectClasses, namingAttribute] => do
    return {
      name := ← Json.required Json.string? name
      baseDn := ← Json.required Json.string? baseDn
      objectClass? := ← Json.optional Json.string? objectClass
      defaultFields := ← Json.orDefault [] Json.strings? defaultFields
      objectClasses := ← Json.orDefault [] Json.strings? objectClasses
      namingAttribute? := ← Json.optional Json.string? namingAttribute }
  | _ => none

/-- A model as a report shows it. -/
def report (model : Model) : Text :=
  "Model \x7b name: " ++ Text.quoted model.name ++
    ", base_dn: " ++ Text.quoted model.baseDn ++
    ", object_class: " ++ Text.quotedOption model.objectClass? ++
    ", default_fields: " ++ Text.quotedList model.defaultFields ++
    ", object_classes: " ++ Text.quotedList model.objectClasses ++
    ", naming_attribute: " ++ Text.quotedOption model.namingAttribute? ++ " \x7d"

end Model

end DirectoryRecords
