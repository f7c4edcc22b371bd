import DirectoryRecords.Conditions.Basic
import DirectoryRecords.Error
import DirectoryRecords.FieldList
import DirectoryRecords.Relation.Basic
import DirectoryRecords.Text.Case

/-!
# Queries — what to find and in which shape

    A query asks for the first match, all matches, their number, or an option
    list of them. Conditions, fields, a limit, an order and relations may be
    added.
-/

namespace DirectoryRecords

/-- The shapes of an answer. -/
inductive QueryType where
  | first
  | all
  | count
  | list
  deriving DecidableEq, Repr

/-- A request for records. -/
structure Query where
  queryType : QueryType
  conditions : Conditions := Conditions.everything
  fields : FieldList := FieldList.unset
  limit : Option Nat := none
  order : Option Text := none
  belongsTo : Option Relation := none
  hasMany : Option Relation := none
  deriving DecidableEq

namespace QueryType

/-- The name of a query type. -/
def name : QueryType → Text
  | first => "first"
  | all => "all"
  | count => "count"
  | list => "list"

/-- The query type of a name in any letter case. -/
def ofName (text : Text) : Except Error QueryType :=
  match [first, all, count, list].find? (name · == Text.lower text) with
  | some queryType => .ok queryType
  | none => .error (.invalidQueryType text)

end QueryType

namespace Query

/-- A query of a type that matches everything. -/
def ofType (queryType : QueryType) : Query := { queryType }

/-- The number of entries to ask the directory for: one for the first match, otherwise the
    limit, where zero means none. -/
def effectiveLimit (query : Query) : Option Nat :=
  match query.queryType with
  | .first => some 1
  | _ => query.limit.filter (0 < ·)

end Query

end DirectoryRecords
