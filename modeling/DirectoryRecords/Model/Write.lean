import DirectoryRecords.Dn.Basic
import DirectoryRecords.Dn.Escape
import DirectoryRecords.Session
import DirectoryRecords.Model.Basic
import DirectoryRecords.Record

/-!
# Writing records — create, update, delete

    A new record may leave its distinguished name open: it is then built from
    the value of the naming attribute and the base of the model. Object
    classes are written first unless the record brings its own.

    Before anything is written, every attribute has to be defined by the
    schema. A schema that cannot be fetched, or that defines nothing, lets
    everything pass.
-/

namespace DirectoryRecords

namespace Record

/-- The attributes of a record in the order of their names, with all of their values. -/
def entryAttributes (record : Record) : List Attribute :=
  record.attributes.toList.map fun (name, value) => ⟨name, value.toList⟩

end Record

namespace Model

/-- The distinguished name of a new record, from the first value of the naming attribute. -/
def deriveDn (model : Model) (record : Record) : Except Error Text :=
  match record.firstValue? model.namingAttribute with
  | some (c :: rest) =>
    .ok (Dn.below model.baseDn (model.namingAttribute ++ '=' :: Dn.escape (c :: rest)))
  | _ => .error (.invalidData ("missing naming attribute '" ++ model.namingAttribute ++ "'"))

/-- The distinguished name under which a record is created. -/
def creationDn (model : Model) (record : Record) : Except Error Text :=
  if Text.isAllBlank record.dn then model.deriveDn record else .ok record.dn

/-- The attributes with which a record is created. -/
def creationAttributes (model : Model) (record : Record) : List Attribute :=
  (if record.has "objectclass" then [] else [⟨"objectClass", model.creationClasses⟩]) ++
    record.entryAttributes

/-- Adds a record and answers with its distinguished name. -/
def create (model : Model) (record : Record) : Session.Action Text := do
  let dn ← model.creationDn record
  Session.checkNames record.attributes.keys
  Session.onDirectory (Directory.add dn (model.creationAttributes record))
  return dn

/-- Replaces the attributes of a record, if it has any. -/
def update (record : Record) : Session.Action Unit := do
  if Text.isAllBlank record.dn then
    throw (.invalidData "update requires a DN")
  if record.isEmpty then
    return ()
  Session.checkNames record.attributes.keys
  Session.onDirectory (Directory.modifyReplace record.dn record.entryAttributes)

/-- Deletes the entry of a name. -/
def delete (dn : Text) : Session.Action Unit :=
  Session.onDirectory (Directory.delete dn)

/-- A model together with the identity of its directory, as a report shows them. -/
def reportIn (model : Model) (identity : Text) : Text :=
  "Mapper \x7b directory: " ++ Text.quoted identity ++ ", model: " ++ model.report ++ " \x7d"

end Model

end DirectoryRecords
