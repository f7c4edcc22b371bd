import DirectoryRecords.Directory.Basic
import DirectoryRecords.Dn.Basic
import DirectoryRecords.Normalize
import DirectoryRecords.Relation.Basic

/-!
# Looking up related records — one call for each value

    For every value of the local key of every record, in order, one call is
    made: the entry of that name is read, or the entries below the base with
    that value are searched. What was found goes under the label of the base;
    a record for which nothing was found stays as it is. Related records are
    not followed any further.
-/

namespace DirectoryRecords

namespace RelationKind

/-- What counts of the records found for each value in turn. -/
def collect (kind : RelationKind) (found : List (List Record)) : List Record :=
  match kind with
  | belongsTo => found.flatten
  | hasMany => ((found.filter fun records => !records.isEmpty).getLast?).getD []

end RelationKind

namespace Relation

/-- The records that a value of the local key points at. -/
def lookup (relation : Relation) (value : Text) : Directory.Action (List Record) :=
  if relation.byDn then do
    let entry ← Directory.readOne value matchAll relation.fields
    return entry.toList.map Entry.normalize
  else do
    let filter := (Conditions.equals relation.remoteAttribute value).compile
    let entries ← Directory.search relation.base filter relation.fields none
    return entries.map Entry.normalize

/-- The values of the local key of a record. -/
def localValues (relation : Relation) (record : Record) : List Text :=
  ((record.get? relation.localKey).map Value.toList).getD []

/-- A record with the records related to it under a label, if there are any. -/
def resolveOne (relation : Relation) (kind : RelationKind) (label : Text)
    (shaped : ShapedRecord) : Directory.Action ShapedRecord := do
  let found ← (relation.localValues shaped.record).mapM relation.lookup
  let records := kind.collect found
  return if records.isEmpty then shaped else shaped.attach label records

/-- The records with those related to them. A base without a label fails before any call. -/
def resolve (relation : Relation) (kind : RelationKind) (records : List ShapedRecord) :
    Directory.Action (List ShapedRecord) := do
  let label ← Dn.leafLabel relation.base
  records.mapM (relation.resolveOne kind label)

/-- The records with those related to them, where there is a relation. -/
def resolve? (relation : Option Relation) (kind : RelationKind) (records : List ShapedRecord) :
    Directory.Action (List ShapedRecord) :=
  match relation with
  | some relation => relation.resolve kind records
  | none => return records

end Relation

end DirectoryRecords
