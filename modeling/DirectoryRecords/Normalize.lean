import DirectoryRecords.Entry
import DirectoryRecords.Error
import DirectoryRecords.Record

/-!
# Normalization — from entries to records

    An attribute of an entry becomes one of the record under the lower-case
    form of its name: a single value if it has one, a sequence if it has
    several. Attributes without values, and those that would hide the
    distinguished name, are left out; of two with the same name the later one
    counts.
-/

namespace DirectoryRecords

namespace Attribute

/-- The value of an attribute, if it has any. -/
def value? (a : Attribute) : Option Value :=
  match a.values with
  | [] => none
  | values => some (.ofList values)

/-- What an attribute of an entry contributes to the record: a lower-case name and a value. -/
def binding? (a : Attribute) : Option (Text × Value) :=
  if Text.agrees a.name "dn" then none
  else a.value?.map (Text.lower a.name, ·)

end Attribute

namespace Entry

/-- The record of an entry. -/
def normalize (entry : Entry) : Record :=
  ⟨entry.dn, .ofList (entry.attributes.filterMap Attribute.binding?)⟩

/-- The records of the entries that a search found, under the label of their kind. A search that
    found none is an error of its own. -/
def normalizeAll (kind : Text) (entries : List Entry) : Except Error (List ShapedRecord) :=
  if entries.isEmpty then .error .noResults
  else .ok (entries.map fun entry => .ofRecord (Text.titleCase kind) entry.normalize)

end Entry

end DirectoryRecords
