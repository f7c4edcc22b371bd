import DirectoryRecords.Schema.Basic

/-!
# Schema cache — one map for each connection

    The cache keeps the schema map of a connection under its identity. A map
    is looked up first; where there is none it is fetched, and what was
    fetched is kept only if no other map has arrived in the meantime. So a map
    once kept never changes until it is dropped.
-/

namespace DirectoryRecords

/-- Schema maps under the identities of connections. -/
structure SchemaCache where
  maps : TextMap SchemaMap
  deriving DecidableEq

namespace SchemaCache

/-- The cache that keeps nothing. -/
def empty : SchemaCache := ⟨∅⟩

instance : EmptyCollection SchemaCache := ⟨empty⟩

/-- The map kept for an identity. -/
def get? (cache : SchemaCache) (identity : Text) : Option SchemaMap :=
  cache.maps.get? identity

/-- Keeps a map for an identity that has none. -/
def keep (cache : SchemaCache) (identity : Text) (schema : SchemaMap) : SchemaCache :=
  match cache.get? identity with
  | some _ => cache
  | none => ⟨cache.maps.insert identity schema⟩

/-- Drops the map of an identity. -/
def drop (cache : SchemaCache) (identity : Text) : SchemaCache :=
  ⟨cache.maps.erase identity⟩

/-- What is kept for an identity after a map was offered for it: the earlier one if there is
    one. -/
theorem get?_keep_self (cache : SchemaCache) (identity : Text) (schema : SchemaMap) :
    (cache.keep identity schema).get? identity = some ((cache.get? identity).getD schema) := by
  unfold keep
  split
  · next held => simp [held]
  · next absent => rw [absent]; simp [get?]

/-- Other identities are not touched. -/
theorem get?_keep_of_ne (cache : SchemaCache) {identity other : Text} (schema : SchemaMap)
    (ne : other ≠ identity) : (cache.keep identity schema).get? other = cache.get? other := by
  unfold keep
  split
  · rfl
  · simp [get?, ne]

end SchemaCache

end DirectoryRecords
