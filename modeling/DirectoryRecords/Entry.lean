import DirectoryRecords.Text.AsciiCase
import DirectoryRecords.Text.Case

/-!
# Entries — objects as a directory holds them

    An entry is a distinguished name and its attributes in the order of the
    directory, each with all of its values. A name may occur more than once,
    in any letter case; lookups take the first attribute of the name.
-/

namespace DirectoryRecords

/-- An attribute with all of its values. -/
structure Attribute where
  name : Text
  values : List Text
  deriving DecidableEq

/-- An object of a directory. -/
structure Entry where
  dn : Text
  attributes : List Attribute
  deriving DecidableEq

namespace Attribute

/-- The number of values. -/
def count (a : Attribute) : Nat :=
  a.values.length

end Attribute

namespace Entry

/-- The values of the first attribute with a name, whatever its letter case. -/
def values? (entry : Entry) (name : Text) : Option (List Text) :=
  (entry.attributes.find? (Text.agrees ·.name name)).map Attribute.values

/-- The text an entry is ordered by: the first value of an attribute, or the empty text. -/
def sortKey (name : Text) (entry : Entry) : Text :=
  (entry.values? name).bind List.head? |>.getD []

/-- The entries in increasing order of the first value of an attribute; entries with the same
    key keep their order. Without an attribute the entries stay as they are. -/
def sort (order : Option Text) (entries : List Entry) : List Entry :=
  match order with
  | none => entries
  | some name => entries.mergeSort fun a b => !decide (b.sortKey name < a.sortKey name)

/-- The entry with the requested attributes only: all of them when none is requested or a star
    is among the requests. -/
def project (requested : List Text) (entry : Entry) : Entry :=
  if requested.isEmpty || requested.contains "*".toList then entry
  else ⟨entry.dn, entry.attributes.filter fun a => requested.any (Text.agrees · a.name)⟩

/-- Whether an entry lies in the subtree of a base: it is the base or ends with a comma and the
    base, whatever the letter case. Every entry lies in the subtree of the empty base. -/
def inSubtree (base : Text) (entry : Entry) : Bool :=
  base.isEmpty || Text.lower entry.dn == Text.lower base ||
    (',' :: Text.lower base).isSuffixOf (Text.lower entry.dn)

end Entry

end DirectoryRecords
