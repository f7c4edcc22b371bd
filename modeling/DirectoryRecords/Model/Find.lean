import DirectoryRecords.Model.Basic
import DirectoryRecords.OptionList
import DirectoryRecords.Query
import DirectoryRecords.Relation.Lookup

/-!
# Finding records — from a query to its answer

    A query is one search below the base of the model, with the compiled
    conditions and the effective limit. What comes back is counted, or
    ordered, normalized and put into the shape that the query asks for; only
    first and all follow the relations, after the search. A search without
    matches is an answer of its own and never an error.

    The attributes asked for are the wanted ones and the model's own, and to
    an explicit list the key of an option list and the attribute of the order
    are added.
-/

namespace DirectoryRecords

/-- The answer to a query. -/
inductive FindResult where
  | first (record : ShapedRecord)
  | all (records : List ShapedRecord)
  | count (number : Nat)
  | list (options : OptionList)
  | empty
  deriving DecidableEq

namespace FindResult

/-- Whether nothing matched; a count is an answer even if it is zero. -/
def isEmpty : FindResult → Bool
  | empty => true
  | _ => false

/-- The first record of an answer that has records. -/
def first? : FindResult → Option ShapedRecord
  | first record => some record
  | all records => records.head?
  | _ => none

/-- The records of an answer. -/
def records : FindResult → List ShapedRecord
  | first record => [record]
  | all records => records
  | _ => []

/-- The number that a count answers. -/
def count? : FindResult → Option Nat
  | count number => some number
  | _ => none

/-- The option list of an answer, without entries where it is none. -/
def options : FindResult → OptionList
  | list options => options
  | _ => ∅

/-- The first record is an object, all records are an array, a count is a number, an option list
    an object, and the answer without matches is `false`. -/
def toJson : FindResult → Json
  | first record => record.toJson
  | all records => .array (records.map ShapedRecord.toJson)
  | count number => .nat number
  | list options => options.toJson
  | empty => .bool false

end FindResult

namespace OptionList

/-- The option list of records: the first value of one attribute as the key, that of another one
    to display. Records without a key are left out. -/
def ofRecords (key display : Text) (records : List ShapedRecord) : OptionList :=
  .ofPairs (records.filterMap fun shaped =>
    (shaped.record.firstValue? key).map (·, (shaped.record.firstValue? display).getD []))

end OptionList

namespace Query

/-- The records with those of the relations of a query, the ones they belong to first. -/
def relate (query : Query) (records : List ShapedRecord) :
    Directory.Action (List ShapedRecord) := do
  let records ← Relation.resolve? query.belongsTo .belongsTo records
  Relation.resolve? query.hasMany .hasMany records

/-- Records in the shape of a query for the first of them or for all. -/
def shape (query : Query) (records : List ShapedRecord) : FindResult :=
  if query.queryType = .first then (records.head?.map .first).getD .empty else .all records

end Query

namespace Model

/-- The attributes to ask for: the wanted ones and the model's own, and in an explicit list the
    key of an option list and the attribute of the order. -/
def projection (model : Model) (query : Query) : List Text :=
  let names := query.fields.select model.defaultFields
  let names := if query.queryType = .list then FieldList.ensure model.listKey names else names
  match query.order with
  | some order => FieldList.ensure order names
  | none => names

/-- The search that a query stands for. -/
def search (model : Model) (query : Query) : Directory.Action (List Entry) :=
  Directory.search model.baseDn query.conditions.compile (model.projection query)
    query.effectiveLimit

/-- The attribute to display in an option list: the first wanted one, or the key. -/
def display (model : Model) (query : Query) : Text :=
  query.fields.names.head?.getD model.listKey

/-- The answer to a query from the entries that its search found. -/
def answer (model : Model) (query : Query) (entries : List Entry) :
    Directory.Action FindResult :=
  if query.queryType = .count then return .count entries.length
  else
    match Entry.normalizeAll model.name (Entry.sort query.order entries) with
    | .error .noResults => return .empty
    | .error e => throw e
    | .ok records =>
      if query.queryType = .list then
        return .list (.ofRecords model.listKey (model.display query) records)
      else return query.shape (← query.relate records)

/-- Answers a query. -/
def find (model : Model) (query : Query) : Directory.Action FindResult := do
  model.answer query (← model.search query)

/-- The first record with a value of an attribute. -/
def findBy (model : Model) (name value : Text) : Directory.Action (Option ShapedRecord) := do
  let result ← model.find { Query.ofType .first with conditions := .equals name value }
  return result.first?

/-- All records with a value of an attribute. -/
def findAllBy (model : Model) (name value : Text) : Directory.Action (List ShapedRecord) := do
  let result ← model.find { Query.ofType .all with conditions := .equals name value }
  return result.records

end Model

end DirectoryRecords
