import DirectoryRecords.Pool
import DirectoryRecords.Proofs.SchemaRuns

/-!
# Schema fetches — at most one that succeeds for an identity

    Directories of one pool share the cache, and those that share an identity
    share the map that is kept for it. A history is what happens to them, one
    event after the other, each in a place of its own. As long as the schema is
    only asked for through the cache, there is an account of it: the map that
    is kept for an identity is the one that was kept before, or else the one
    that a fetch has brought (`get?_apply` for one event, `get?_after` for a
    history). There is room for one map under an identity, so one fetch at most
    has brought one (`one_fetch_for_identity`).
-/

namespace DirectoryRecords

open Directory

/-- A call that fetches the schema, with the identity of the directory and what it answers. -/
structure SchemaFetch where
  identity : Text
  answer : Except Error SchemaMap
  deriving DecidableEq

namespace SchemaFetch

/-- The maps that fetches have brought for an identity. -/
def brought (identity : Text) (fetches : List SchemaFetch) : List SchemaMap :=
  fetches.filterMap fun fetch =>
    if fetch.identity = identity then fetch.answer.toOption else none

theorem brought_append (identity : Text) (earlier later : List SchemaFetch) :
    brought identity (earlier ++ later) = brought identity earlier ++ brought identity later :=
  List.filterMap_append

theorem brought_singleton (identity : Text) (fetch : SchemaFetch) :
    brought identity [fetch]
      = if fetch.identity = identity then fetch.answer.toOption.toList else [] := by
  rw [brought, List.filterMap_cons, List.filterMap_nil]
  by_cases hidentity : fetch.identity = identity
  · rw [if_pos hidentity, if_pos hidentity]
    cases fetch.answer with
    | error e => rfl
    | ok schema => rfl
  · rw [if_neg hidentity, if_neg hidentity]

end SchemaFetch

/-! ## Events -/

namespace Event

variable {event : Event} {operation : Operation} {session : Session}

/-- Whether an event leaves the schema to the cache: it does not fetch one past it, and puts none
    into it from elsewhere. -/
def viaCache : Event → Bool
  | perform .fetchSchema | share _ => false
  | _ => true

/-- The fetches that an event adds to the log, with what the directory answers them. -/
def fetches (event : Event) (session : Session) : List SchemaFetch :=
  List.replicate
    ((event.apply session).directory.calls.count .fetchSchema
      - session.directory.calls.count .fetchSchema)
    ⟨session.directory.identity, session.directory.schemaAnswer⟩

/-- An operation that does not ask for the schema does not fetch it. -/
theorem fetches_of_not_asks (h : operation.asksSchema = false)
    (hfetch : operation ≠ .fetchSchema) (session : Session) :
    (perform operation).fetches session = [] := by
  have hcount := (Operation.unasked_of_not_asks h hfetch session).fetches
  show List.replicate ((operation.perform session).2.directory.calls.count .fetchSchema - _) _ = []
  rw [hcount, Nat.sub_self]
  rfl

/-- An operation that asks for the schema fetches it once, if none is kept. -/
theorem fetches_of_asks (h : operation.asksSchema = true) (session : Session) :
    (perform operation).fetches session
      = match session.cachedSchema? with
        | some _ => []
        | none => [⟨session.directory.identity, session.directory.schemaAnswer⟩] := by
  have hcount := (Operation.unasked_of_asks h session).fetches
  show List.replicate ((operation.perform session).2.directory.calls.count .fetchSchema - _) _ = _
  rw [hcount, Session.afterSchema]
  cases session.cachedSchema? with
  | some schema =>
      rw [Nat.sub_self]
      rfl
  | none =>
      show List.replicate ((session.directory.calls ++ [Call.fetchSchema]).count .fetchSchema - _) _
        = _
      rw [List.count_append, List.count_singleton_self, Nat.add_sub_cancel_left]
      rfl

/-- **What an event does to the cache.** The map that is kept afterwards for an identity is the one
    that was kept before, or the one that its fetches have brought. -/
theorem get?_apply (h : event.viaCache = true) (session : Session) (identity : Text) :
    ((event.apply session).cache.get? identity).toList
      = (session.cache.get? identity).toList
        ++ SchemaFetch.brought identity (event.fetches session) := by
  cases event with
  | perform operation =>
      have hfetch : operation ≠ .fetchSchema := by
        rintro rfl
        cases h
      cases hasks : operation.asksSchema with
      | false =>
          show ((operation.perform session).2.cache.get? identity).toList = _
          rw [(Operation.unasked_of_not_asks hasks hfetch session).cache,
            fetches_of_not_asks hasks hfetch]
          exact (List.append_nil _).symm
      | true =>
          show ((operation.perform session).2.cache.get? identity).toList = _
          rw [(Operation.unasked_of_asks hasks session).cache, fetches_of_asks hasks]
          cases hcached : session.cachedSchema? with
          | some schema =>
              rw [Session.afterSchema, hcached]
              exact (List.append_nil _).symm
          | none =>
              rw [Session.get?_afterSchema, Session.schemaInForce?, Session.schemaAnswer, hcached,
                SchemaFetch.brought_singleton]
              by_cases hidentity : identity = session.directory.identity
              · have hkept : session.cache.get? identity = none := hidentity ▸ hcached
                rw [if_pos hidentity, if_pos hidentity.symm, hkept]
                rfl
              · rw [if_neg hidentity, if_neg (Ne.symm hidentity), List.append_nil]
  | failSchema fails | failSearches fails =>
      -- A switch logs nothing.
      let logged := session.directory.calls.count .fetchSchema
      show _ = _ ++ SchemaFetch.brought identity (List.replicate (logged - logged) _)
      rw [Nat.sub_self]
      exact (List.append_nil _).symm
  | share cache => cases h

end Event

/-! ## Histories -/

namespace Pool

variable {pool : Pool} {history : List (Nat × Event)}

/-- The pool after an event in a place; an event in a place without a directory is none. -/
def happen (pool : Pool) (place : Nat) (event : Event) : Pool :=
  match pool.session? place with
  | some session => pool.store place (event.apply session)
  | none => pool

/-- An operation happens in a place as it runs there. -/
theorem happen_perform (pool : Pool) (place : Nat) (operation : Operation) :
    pool.happen place (.perform operation)
      = ((pool.run place operation.perform).map (·.2)).getD pool := by
  rw [happen, run]
  cases pool.session? place with
  | none => rfl
  | some session => rfl

/-- The pool after a history. -/
def after (pool : Pool) (history : List (Nat × Event)) : Pool :=
  history.foldl (fun pool (place, event) => pool.happen place event) pool

/-- The fetches of an event in a place. -/
def fetchesAt (pool : Pool) (place : Nat) (event : Event) : List SchemaFetch :=
  match pool.session? place with
  | some session => event.fetches session
  | none => []

/-- The fetches of a history, in all of its places. -/
def fetches (pool : Pool) : List (Nat × Event) → List SchemaFetch
  | [] => []
  | (place, event) :: rest => pool.fetchesAt place event ++ (pool.happen place event).fetches rest

/-- What an event does to the cache of a pool. -/
theorem get?_happen {event : Event} (h : event.viaCache = true) (pool : Pool) (place : Nat)
    (identity : Text) :
    ((pool.happen place event).cache.get? identity).toList
      = (pool.cache.get? identity).toList
        ++ SchemaFetch.brought identity (pool.fetchesAt place event) := by
  rw [happen, fetchesAt, session?]
  cases pool.directories[place]? with
  | none => exact (List.append_nil _).symm
  | some directory => exact Event.get?_apply h ⟨directory, pool.cache⟩ identity

/-- What a history does to the cache of a pool. -/
theorem get?_after (h : ∀ happening ∈ history, happening.2.viaCache = true) (pool : Pool)
    (identity : Text) :
    ((pool.after history).cache.get? identity).toList
      = (pool.cache.get? identity).toList
        ++ SchemaFetch.brought identity (pool.fetches history) := by
  induction history generalizing pool with
  | nil => exact (List.append_nil _).symm
  | cons happening rest ih =>
      obtain ⟨place, event⟩ := happening
      obtain ⟨hfirst, hrest⟩ := List.forall_mem_cons.mp h
      rw [fetches, SchemaFetch.brought_append, ← List.append_assoc,
        ← get?_happen hfirst pool place identity]
      exact ih hrest (pool.happen place event)

/-- The cache of a session in a pool is that of the pool. -/
theorem cache_of_session? {place : Nat} {session : Session}
    (h : pool.session? place = some session) : session.cache = pool.cache := by
  obtain ⟨directory, _, rfl⟩ := Option.map_eq_some_iff.mp h
  rfl

/-- **One fetch for an identity.** Where nothing was cached at first and the schema is only asked
    for through the cache, all fetches for directories of one identity bring one map at most.
    Before it is there, an operation that asks for the schema fetches it once and others do not;
    and once it is there, no operation fetches, and every directory of that identity is described
    by it. -/
theorem one_fetch_for_identity (directories : List Directory)
    (h : ∀ happening ∈ history, happening.2.viaCache = true) :
    let start := Pool.ofDirectories directories
    let brought := fun identity => SchemaFetch.brought identity (start.fetches history)
    (∀ identity, (brought identity).length ≤ 1) ∧
      ∀ place session, (start.after history).session? place = some session →
        let identity := session.directory.identity
        (brought identity = [] → ∀ operation, operation ≠ .fetchSchema →
          (Event.perform operation).fetches session
            = if operation.asksSchema then [⟨identity, session.directory.schemaAnswer⟩] else []) ∧
          ∀ schema ∈ brought identity,
            (∀ operation, operation ≠ .fetchSchema →
              (Event.perform operation).fetches session = []) ∧
            (Operation.describe.perform session).1 = .ok schema := by
  intro start brought
  have hkept : ∀ identity, ((start.after history).cache.get? identity).toList = brought identity :=
    get?_after h start
  refine ⟨fun identity => ?_, fun place session hsession => ?_⟩
  · rw [← hkept]
    exact Option.length_toList_le
  · intro identity
    have hcached : session.cachedSchema?.toList = brought identity := by
      rw [← hkept, ← cache_of_session? hsession]
      rfl
    refine ⟨fun hnone operation hfetch => ?_, fun schema hmem => ⟨fun operation hfetch => ?_, ?_⟩⟩
    · rw [hnone, Option.toList_eq_nil_iff] at hcached
      cases hasks : operation.asksSchema with
      | false => exact Event.fetches_of_not_asks hasks hfetch session
      | true =>
          rw [Event.fetches_of_asks hasks, hcached]
          rfl
    · rw [← hcached, Option.mem_toList] at hmem
      cases hasks : operation.asksSchema with
      | false => exact Event.fetches_of_not_asks hasks hfetch session
      | true => rw [Event.fetches_of_asks hasks, hmem]
    · rw [← hcached, Option.mem_toList] at hmem
      show (Session.schema session).1 = .ok schema
      rw [Session.schema_run, Session.schemaAnswer, hmem]

/-- Two directories share an identity and define different attributes. A fetch from the first one
    fails, one from the second brings its map, and then the first one is described by that map
    although it could be asked again. -/
theorem one_fetch_for_identity_shared :
    let first : Directory := { Directory.ofIdentity "memory://people" with
      schema := .ofList [("uid", "1.3.6.1.4.1.1466.115.121.1.15")] }
    let second : Directory := { Directory.ofIdentity "memory://people" with
      schema := .ofList [("mail", "1.3.6.1.4.1.1466.115.121.1.26")] }
    let history : List (Nat × Event) := [(0, .failSchema true), (0, .perform .describe),
      (1, .perform .describe), (0, .failSchema false)]
    let start := Pool.ofDirectories [first, second]
    start.fetches history
        = [⟨"memory://people", .error (.schemaFetchFailed "subschema entry not readable")⟩,
          ⟨"memory://people", .ok second.schema⟩] ∧
      ∀ session, (start.after history).session? 0 = some session →
        (Event.perform .describe).fetches session = [] ∧
          (Operation.describe.perform session).1 = .ok second.schema := by
  intro first second history start
  have hfetches : start.fetches history
      = [⟨"memory://people", .error (.schemaFetchFailed "subschema entry not readable")⟩,
        ⟨"memory://people", .ok second.schema⟩] := by decide +kernel
  refine ⟨hfetches, fun session hsession => ?_⟩
  have hidentity : session.directory.identity = "memory://people".toList := by
    have hplace : ((start.after history).session? 0).map (·.directory.identity)
        = some "memory://people".toList := by decide +kernel
    rw [hsession] at hplace
    exact Option.some.inj hplace
  have hcache : ∀ happening ∈ history, happening.2.viaCache = true := by decide
  have hbrought : second.schema
      ∈ SchemaFetch.brought session.directory.identity (start.fetches history) := by
    rw [hfetches, hidentity]
    decide +kernel
  obtain ⟨_, hplaces⟩ := one_fetch_for_identity [first, second] hcache
  obtain ⟨_, hafter⟩ := hplaces 0 session hsession
  obtain ⟨hquiet, hdescribed⟩ := hafter second.schema hbrought
  exact ⟨hquiet .describe nofun, hdescribed⟩

end Pool

end DirectoryRecords
