import DirectoryRecords.Text.Case
import DirectoryRecords.TextMap
import DirectoryRecords.Value

/-!
# Records — objects as a caller sees them

    A record is a distinguished name and a map from attribute names to
    values. Writing and reading go by the lower-case form of a name, so the
    letter case of a name never matters; reading also answers `dn` with the
    distinguished name.

    A shaped record is a record under the label of its kind, with the lists
    of related records found for it, each under a label of its own.
-/

namespace DirectoryRecords

/-- A distinguished name and values under attribute names. -/
structure Record where
  dn : Text
  attributes : TextMap Value
  deriving DecidableEq

/-- A record under its label, with related records under theirs. -/
structure ShapedRecord where
  label : Text
  record : Record
  related : TextMap (List Record)
  deriving DecidableEq

namespace Record

/-- A record without attributes. -/
def ofDn (dn : Text) : Record := ⟨dn, ∅⟩

/-- The record with a value under the lower-case form of a name. -/
def set (record : Record) (name : Text) (value : Value) : Record :=
  { record with attributes := record.attributes.insert (Text.lower name) value }

/-- The value under a name; the name `dn` answers with the distinguished name. -/
def get? (record : Record) (name : Text) : Option Value :=
  if Text.lower name = "dn".toList then some (.single record.dn)
  else record.attributes.get? (Text.lower name)

/-- The first value under a name. -/
def firstValue? (record : Record) (name : Text) : Option Text :=
  (record.get? name).bind Value.first?

/-- The text under a name, if the attribute has a single value. -/
def text? (record : Record) (name : Text) : Option Text :=
  (record.attributes.get? (Text.lower name)).bind Value.single?

/-- Whether an attribute has a value. -/
def has (record : Record) (name : Text) : Bool :=
  record.attributes.contains (Text.lower name)

/-- The number of attributes. -/
def size (record : Record) : Nat :=
  record.attributes.size

/-- Whether the record has no attributes. -/
def isEmpty (record : Record) : Bool :=
  record.attributes.isEmpty

/-- A record is an object with the distinguished name first and the attributes in order. -/
def toJson (record : Record) : Json :=
  .object (("dn".toList, .string record.dn) ::
    record.attributes.toList.map fun (name, value) => (name, value.toJson))

/-- Whether a member of an object is the distinguished name. -/
def isDnMember (member : Text × Json) : Bool :=
  member.1 == "dn".toList

/-- The attribute that a member of an object gives, under its name as it stands. -/
def attributeOfMember? (member : Text × Json) : Option (Text × Value) :=
  (Value.ofJson? member.2).map (member.1, ·)

/-- The record of an object: one member is the distinguished name, every other one an attribute.
    Of an attribute given twice the last one counts. -/
def ofJson? : Json → Option Record
  | .object members =>
    match members.filter isDnMember,
        (members.filter fun member => !isDnMember member).mapM attributeOfMember? with
    | [(_, .string dn)], some attributes => some ⟨dn, .ofList attributes⟩
    | _, _ => none
  | _ => none

end Record

namespace ShapedRecord

/-- A record under a label, without related records. -/
def ofRecord (label : Text) (record : Record) : ShapedRecord := ⟨label, record, ∅⟩

/-- The shaped record with a list of related records under a label. -/
def attach (shaped : ShapedRecord) (label : Text) (records : List Record) : ShapedRecord :=
  { shaped with related := shaped.related.insert label records }

/-- A shaped record is an object with the record under its label first, and then the lists of
    related records in the order of their labels. -/
def toJson (shaped : ShapedRecord) : Json :=
  .object ((shaped.label, shaped.record.toJson) ::
    shaped.related.toList.map fun (label, records) => (label, .array (records.map Record.toJson)))

end ShapedRecord

end DirectoryRecords
