import DirectoryRecords.Session

/-!
# Pools — several directories and the one cache that they share

    The schema cache belongs to no directory: a map fetched from one of them
    is kept for every other one with the same identity. A pool is a list of
    directories and that cache. An action runs in the session of one
    directory, and the other directories stay as they are.
-/

namespace DirectoryRecords

/-- Directories that share a schema cache. -/
structure Pool where
  directories : List Directory
  cache : SchemaCache
  deriving DecidableEq

namespace Pool

/-- The pool of some directories, with nothing cached yet. -/
def ofDirectories (directories : List Directory) : Pool := ⟨directories, ∅⟩

/-- The session of the directory in a place. -/
def session? (pool : Pool) (place : Nat) : Option Session :=
  pool.directories[place]?.map (⟨·, pool.cache⟩)

/-- The pool after a session of the directory in a place. -/
def store (pool : Pool) (place : Nat) (session : Session) : Pool :=
  ⟨pool.directories.set place session.directory, session.cache⟩

/-- The answer and the pool after an action on the directory in a place, if there is one. -/
def run {α : Type} (pool : Pool) (place : Nat) (action : Session.Action α) :
    Option (Except Error α × Pool) :=
  (pool.session? place).map fun session =>
    match action session with
    | (answer, session) => (answer, pool.store place session)

/-- The pool with the directory in a place changed and the cache as it is. -/
def modify (pool : Pool) (place : Nat) (change : Directory → Directory) : Pool :=
  { pool with directories := pool.directories.modify place change }

/-- The pool with the map of an identity dropped from the cache. -/
def dropSchema (pool : Pool) (identity : Text) : Pool :=
  { pool with cache := pool.cache.drop identity }

end Pool

end DirectoryRecords
