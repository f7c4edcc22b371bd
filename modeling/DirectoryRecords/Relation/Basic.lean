import DirectoryRecords.Json.Fields
import DirectoryRecords.Text.AsciiCase

/-!
# Relations — how records point at others

    A relation names an attribute of a record, whose values are looked for,
    and the attribute of the entries below a base in which they are looked
    for. The remote attribute `dn` means that a value is the distinguished
    name of the entry itself.
-/

namespace DirectoryRecords

/-- A way from a record to the records related to it. -/
structure Relation where
  localKey : Text
  remoteAttribute : Text
  base : Text
  fields : List Text
  deriving DecidableEq

/-- What becomes of the records found for several values of the local key: all of them count,
    or those for the last value that has any. -/
inductive RelationKind where
  | belongsTo
  | hasMany
  deriving DecidableEq, Repr

namespace Relation

/-- Whether the values of the local key are distinguished names. -/
def byDn (relation : Relation) : Bool :=
  Text.agrees relation.remoteAttribute "dn"

/-- A relation is an object with all of its fields. -/
def toJson (relation : Relation) : Json :=
  .object
    [("local_key".toList, .string relation.localKey),
     ("remote_attribute".toList, .string relation.remoteAttribute),
     ("base".toList, .string relation.base),
     ("fields".toList, .strings relation.fields)]

/-- The names of the fields in their order. -/
def fieldNames : List Text :=
  ["local_key", "remote_attribute", "base", "fields"]

/-- The relation of a structure; its list of fields may be left out. -/
def ofJson? (json : Json) : Option Relation :=
  match json.fields? fieldNames with
  | some [localKey, remoteAttribute, base, fields] => do
    return {
      localKey := ← Json.required Json.string? localKey
      remoteAttribute := ← Json.required Json.string? remoteAttribute
      base := ← Json.required Json.string? base
      fields := ← Json.orDefault [] Json.strings? fields }
  | _ => none

end Relation

end DirectoryRecords
