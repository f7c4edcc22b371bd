import DirectoryRecords.Conditions.Basic
import DirectoryRecords.Filter.Reader
import DirectoryRecords.Schema.Basic

/-!
# Directories — entries, a schema, and a record of every call

    A directory is a value: the identity of the connection, the entries in
    the order in which they were added, the schema it publishes, and two
    switches that make it fail. Every call is logged whether it succeeds or
    not, so that a caller can be held to the calls it makes.

    An action answers from the directory as it stands and leaves a directory
    behind. Reading leaves everything but the log as it was; writing replaces
    the entries when it succeeds.
-/

namespace DirectoryRecords

/-- The calls that a directory logs. -/
inductive Call where
  | search (base filter : Text) (attributes : List Text) (limit : Option Nat)
  | readOne (dn : Text)
  | add (dn : Text)
  | modifyReplace (dn : Text)
  | delete (dn : Text)
  | fetchSchema
  deriving DecidableEq

/-- A directory that holds its entries itself. -/
structure Directory where
  identity : Text
  entries : List Entry
  schema : SchemaMap
  calls : List Call
  schemaFetches : Nat
  schemaFails : Bool
  searchesFail : Bool
  deriving DecidableEq

namespace Directory

/-- What is done with a directory: an answer or an error, and the directory afterwards. -/
abbrev Action (α : Type) := ExceptT Error (StateM Directory) α

/-- A directory without entries and schema. -/
def ofIdentity (identity : Text) : Directory :=
  ⟨identity, [], ∅, [], 0, false, false⟩

/-- The identity of a directory that is given none. -/
def defaultIdentity : Text := "memory://default"

/-- The directory with a call added to its log. -/
def log (directory : Directory) (call : Call) : Directory :=
  { directory with calls := directory.calls ++ [call] }

/-- The entry of a name, whatever its letter case. -/
def entry? (directory : Directory) (dn : Text) : Option Entry :=
  directory.entries.find? (Text.agrees ·.dn dn)

/-! ## Reading -/

/-- The entries below a base that pass a filter, in stored order, as many as the limit allows,
    each with the requested attributes. -/
def select (directory : Directory) (base : Text) (filter : Filter) (attributes : List Text)
    (limit : Option Nat) : List Entry :=
  let found := directory.entries.filter fun entry => entry.inSubtree base && filter.holds entry
  (match limit with
    | some n => found.take n
    | none => found).map (Entry.project attributes)

/-- The answer to a search. -/
def searchAnswer (directory : Directory) (base filter : Text) (attributes : List Text)
    (limit : Option Nat) : Except Error (List Entry) :=
  if directory.searchesFail then .error (.searchFailed "directory unavailable" none)
  else (Filter.read filter).map (directory.select base · attributes limit)

/-- Searches the entries below a base. -/
def search (base filter : Text) (attributes : List Text) (limit : Option Nat) :
    Action (List Entry) := fun directory =>
  (directory.searchAnswer base filter attributes limit,
    directory.log (.search base filter attributes limit))

/-- The answer to the reading of one entry: the first of its name that passes the filter. -/
def readAnswer (directory : Directory) (dn filter : Text) (attributes : List Text) :
    Except Error (Option Entry) :=
  if directory.searchesFail then .error (.readFailed dn "directory unavailable" none)
  else (Filter.read filter).map fun filter =>
    (directory.entries.find? fun entry => Text.agrees entry.dn dn && filter.holds entry).map
      (Entry.project attributes)

/-- Reads the entry of a name. -/
def readOne (dn filter : Text) (attributes : List Text) : Action (Option Entry) :=
  fun directory => (directory.readAnswer dn filter attributes, directory.log (.readOne dn))

/-- The answer to a request for the schema. -/
def schemaAnswer (directory : Directory) : Except Error SchemaMap :=
  if directory.schemaFails then .error (.schemaFetchFailed "subschema entry not readable")
  else .ok directory.schema

/-- Fetches the schema; each attempt is counted. -/
def fetchSchema : Action SchemaMap := fun directory =>
  (directory.schemaAnswer,
    { directory.log .fetchSchema with schemaFetches := directory.schemaFetches + 1 })

/-! ## Writing -/

/-- The entries with one more, if no entry has its name yet. -/
def added (directory : Directory) (dn : Text) (attributes : List Attribute) :
    Except Error (List Entry) :=
  if (directory.entry? dn).isSome then .error (.objectAlreadyExists dn)
  else .ok (directory.entries ++ [⟨dn, attributes⟩])

/-- The attributes of an entry after one was replaced: those of its name are gone, and it stands
    at the end if it has any values. -/
def replaceAttribute (attributes : List Attribute) (change : Attribute) : List Attribute :=
  attributes.filter (fun a => !Text.agrees a.name change.name) ++
    if change.values.isEmpty then [] else [change]

/-- An entry after its attributes were replaced one by one. -/
def replaceAttributes (changes : List Attribute) (entry : Entry) : Entry :=
  ⟨entry.dn, changes.foldl replaceAttribute entry.attributes⟩

/-- The list with the first entry of a name changed, if there is one. -/
def changeFirst (dn : Text) (change : Entry → Entry) : List Entry → Option (List Entry)
  | [] => none
  | entry :: rest =>
    if Text.agrees entry.dn dn then some (change entry :: rest)
    else (changeFirst dn change rest).map (entry :: ·)

/-- The entries with the attributes of the first one of a name replaced. -/
def modified (directory : Directory) (dn : Text) (changes : List Attribute) :
    Except Error (List Entry) :=
  match changeFirst dn (replaceAttributes changes) directory.entries with
  | some entries => .ok entries
  | none => .error (.objectNotFound dn)

/-- The entries without those of a name, if there is one. -/
def deleted (directory : Directory) (dn : Text) : Except Error (List Entry) :=
  if (directory.entry? dn).isSome then
    .ok (directory.entries.filter fun entry => !Text.agrees entry.dn dn)
  else .error (.objectNotFound dn)

/-- The outcome of a call that writes. -/
def write (call : Call) (outcome : Directory → Except Error (List Entry)) : Action Unit :=
  fun directory =>
    match outcome directory with
    | .ok entries => (.ok (), { directory.log call with entries })
    | .error e => (.error e, directory.log call)

/-- Adds an entry. -/
def add (dn : Text) (attributes : List Attribute) : Action Unit :=
  write (.add dn) (·.added dn attributes)

/-- Replaces attributes of an entry. -/
def modifyReplace (dn : Text) (changes : List Attribute) : Action Unit :=
  write (.modifyReplace dn) (·.modified dn changes)

/-- Deletes an entry. -/
def delete (dn : Text) : Action Unit :=
  write (.delete dn) (·.deleted dn)

end Directory

end DirectoryRecords
