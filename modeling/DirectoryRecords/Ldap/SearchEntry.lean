import DirectoryRecords.Entry
import DirectoryRecords.Text.Base64

/-!
# Search entries — what a server sends for one object

    A server sends text attributes and binary attributes apart and in no
    particular order. As an entry they stand together, binary values in
    Base64, in the order of the lower-case forms of their names; of a text
    and a binary attribute with one such form the text attribute comes first.
-/

namespace DirectoryRecords

/-- An object with its text attributes and its binary attributes. -/
structure SearchEntry where
  dn : Text
  texts : List Attribute
  binaries : List (Text × List (List UInt8))

namespace SearchEntry

/-- A binary attribute as one of text. -/
def encodeBinary (name : Text) (values : List (List UInt8)) : Attribute :=
  ⟨name, values.map Base64.encode⟩

/-- Whether an attribute may stand in front of another one. -/
def inOrder (a b : Attribute) : Bool :=
  !decide (Text.lower b.name < Text.lower a.name)

/-- The object as an entry. -/
def toEntry (found : SearchEntry) : Entry :=
  let attributes := found.texts ++ found.binaries.map fun (name, values) => encodeBinary name values
  ⟨found.dn, attributes.mergeSort inOrder⟩

end SearchEntry

end DirectoryRecords
