import DirectoryRecords.Directory.Basic
import DirectoryRecords.Schema.Cache

/-!
# Sessions — a directory together with the schema cache

    Writing checks the attributes against the schema, and the schema is kept
    in a cache that all connections share. A session is the directory of one
    connection and that cache.
-/

namespace DirectoryRecords

/-- A directory and the schema cache. -/
structure Session where
  directory : Directory
  cache : SchemaCache
  deriving DecidableEq

namespace Session

/-- What is done in a session: an answer or an error, and the session afterwards. -/
abbrev Action (α : Type) := ExceptT Error (StateM Session) α

/-- Does something with the directory of the session. -/
def onDirectory {α : Type} (action : Directory.Action α) : Action α := fun session =>
  match action session.directory with
  | (answer, directory) => (answer, { session with directory })

/-- The map kept for the connection. -/
def cachedSchema? (session : Session) : Option SchemaMap :=
  session.cache.get? session.directory.identity

/-- Offers a map to the cache and answers with the one kept. -/
def keepSchema (schema : SchemaMap) : Action SchemaMap := fun session =>
  let cache := session.cache.keep session.directory.identity schema
  (.ok ((cache.get? session.directory.identity).getD schema), { session with cache })

/-- The schema of the connection: the one kept, or one that is fetched and kept now. A failed
    fetch leaves the cache as it is. -/
def schema : Action SchemaMap := do
  match (← get).cachedSchema? with
  | some schema => return schema
  | none =>
    let schema ← onDirectory Directory.fetchSchema
    keepSchema schema

/-- The schema of the connection, if it can be had. -/
def schema? : Action (Option SchemaMap) :=
  tryCatch (do return some (← schema)) fun e =>
    match e with
    | .schemaFetchFailed _ => return none
    | e => throw e

/-- Refuses names that the schema does not define. -/
def checkNames (names : List Text) : Action Unit := do
  match (← schema?).bind (·.firstUnknown? names) with
  | some name => throw (.unknownAttribute name)
  | none => return ()

end Session

end DirectoryRecords
