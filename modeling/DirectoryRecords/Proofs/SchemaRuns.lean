import DirectoryRecords.Proofs.Operations
import DirectoryRecords.Proofs.QuerySteps

/-!
# Schema runs — what asking for the schema answers, and what it leaves

    Whoever needs the schema asks for it in one way: the map that is kept for
    the connection is taken, and where there is none the directory is asked
    and what it sends is kept. So a session has a schema or a reason why it
    cannot be had (`schemaAnswer`), and a state after it was asked for
    (`afterSchema`), and the three actions that ask are told by these two
    (`schema_run`, `schema?_run`, `checkNames_run`).

    Describing asks, and so do creating and updating a record that can be
    written at all; nothing else does. What writes a record asks first, and
    then it is refused or makes its one call (`exists_store`).

    A session that nobody asks for its schema has the same cache and the same
    fetches in its log afterwards: it is `Unasked`. What asks for it leaves a
    session that nobody has asked since (`unasked_of_asks`), and what does not
    ask leaves it unasked (`unasked_of_not_asks`).
-/

namespace DirectoryRecords

open Directory

namespace Session

variable {α β : Type}

/-- The schema of the connection: the map that is kept, or what the directory sends if it is
    asked. -/
def schemaAnswer (session : Session) : Except Error SchemaMap :=
  match session.cachedSchema? with
  | some schema => .ok schema
  | none => session.directory.schemaAnswer

/-- The schema that decides about names, if it can be had. -/
def schemaInForce? (session : Session) : Option SchemaMap :=
  session.schemaAnswer.toOption

/-- The session after its directory was asked for the schema: what it sent is kept. -/
def fetched (session : Session) : Session where
  directory := (fetchSchema session.directory).2
  cache :=
    match session.directory.schemaAnswer with
    | .ok schema => session.cache.keep session.directory.identity schema
    | .error _ => session.cache

/-- The session after its schema was asked for. -/
def afterSchema (session : Session) : Session :=
  match session.cachedSchema? with
  | some _ => session
  | none => session.fetched

/-- After a fetch the cache keeps what was sent, and keeps for other connections what it kept. -/
theorem get?_fetched {session : Session} (h : session.cachedSchema? = none) (identity : Text) :
    session.fetched.cache.get? identity
      = if identity = session.directory.identity then session.directory.schemaAnswer.toOption
        else session.cache.get? identity := by
  have hnone : session.cache.get? session.directory.identity = none := h
  rw [fetched]
  by_cases hidentity : identity = session.directory.identity
  · rw [if_pos hidentity, hidentity]
    cases session.directory.schemaAnswer with
    | error e => exact hnone
    | ok schema =>
        show (session.cache.keep session.directory.identity schema).get? _ = some schema
        rw [SchemaCache.get?_keep_self, hnone]
        rfl
  · rw [if_neg hidentity]
    cases session.directory.schemaAnswer with
    | error e => rfl
    | ok schema => exact SchemaCache.get?_keep_of_ne session.cache schema hidentity

/-- After the schema was asked for, the cache keeps it if it could be had, and keeps for other
    connections what it kept. -/
theorem get?_afterSchema (session : Session) (identity : Text) :
    session.afterSchema.cache.get? identity
      = if identity = session.directory.identity then session.schemaInForce?
        else session.cache.get? identity := by
  rw [afterSchema, schemaInForce?, schemaAnswer]
  cases hcached : session.cachedSchema? with
  | none => exact get?_fetched hcached identity
  | some schema =>
      have hkept : session.cache.get? session.directory.identity = some schema := hcached
      by_cases hidentity : identity = session.directory.identity
      · rw [if_pos hidentity, hidentity]
        exact hkept
      · rw [if_neg hidentity]

/-! ## Actions that ask -/

/-- A fetch answers what the directory sends, and keeps it. -/
theorem fetch_run (session : Session) (h : session.cachedSchema? = none) :
    (onDirectory fetchSchema >>= keepSchema) session
      = (session.directory.schemaAnswer, session.fetched) := by
  have hfetch : onDirectory fetchSchema session = (session.directory.schemaAnswer,
      { session with directory := (fetchSchema session.directory).2 }) := rfl
  rw [bind_run, hfetch, fetched]
  cases session.directory.schemaAnswer with
  | error e => rfl
  | ok schema =>
      -- No map is kept yet, so the one that was fetched is.
      have hnone : session.cache.get? session.directory.identity = none := h
      have hkept : (session.cache.keep session.directory.identity schema).get?
          session.directory.identity = some schema := by
        rw [SchemaCache.get?_keep_self, hnone]
        rfl
      show (Except.ok (((session.cache.keep session.directory.identity schema).get?
        session.directory.identity).getD schema), _) = _
      rw [hkept]
      rfl

theorem schema_run (session : Session) :
    schema session = (session.schemaAnswer, session.afterSchema) := by
  rw [schema, bind_run]
  show (match session.cachedSchema? with
    | some schema => (pure schema : Action SchemaMap)
    | none => onDirectory fetchSchema >>= keepSchema) session = _
  rw [schemaAnswer, afterSchema]
  cases h : session.cachedSchema? with
  | some schema => rfl
  | none => exact fetch_run session h

/-- The only reason why a schema cannot be had is that it cannot be fetched. -/
theorem exists_of_schemaAnswer_error {session : Session} {e : Error}
    (h : session.schemaAnswer = .error e) :
    session.cachedSchema? = none ∧ session.directory.schemaFails = true ∧
      ∃ message, e = .schemaFetchFailed message := by
  rw [schemaAnswer] at h
  cases hcached : session.cachedSchema? with
  | some schema =>
      rw [hcached] at h
      exact nomatch h
  | none =>
      rw [hcached] at h
      have hfetch : (if session.directory.schemaFails then
          .error (.schemaFetchFailed "subschema entry not readable")
        else .ok session.directory.schema : Except Error SchemaMap) = .error e := h
      by_cases hfails : session.directory.schemaFails = true
      · rw [if_pos hfails] at hfetch
        exact ⟨rfl, hfails, _, (Except.error.inj hfetch).symm⟩
      · rw [if_neg hfails] at hfetch
        exact nomatch hfetch

theorem schema?_run (session : Session) :
    schema? session = (.ok session.schemaInForce?, session.afterSchema) := by
  rw [schema?, tryCatch_run, bind_run, schema_run, schemaInForce?]
  cases h : session.schemaAnswer with
  | ok schema => rfl
  | error e =>
      obtain ⟨_, _, message, rfl⟩ := exists_of_schemaAnswer_error h
      rfl

/-- The name that the schema objects to, if it can be had and does. -/
def refused? (session : Session) (names : List Text) : Option Text :=
  session.schemaInForce?.bind (·.firstUnknown? names)

theorem checkNames_run (names : List Text) (session : Session) :
    checkNames names session
      = (match session.refused? names with
          | some name => .error (.unknownAttribute name)
          | none => .ok (), session.afterSchema) := by
  rw [checkNames, bind_run, schema?_run]
  show (match session.refused? names with
    | some name => (throw (Error.unknownAttribute name) : Action Unit)
    | none => pure ()) session.afterSchema = _
  cases session.refused? names with
  | some name => rfl
  | none => rfl

/-- What comes after a check of names comes only if no name is refused. -/
theorem checkNames_bind_run (names : List Text) (next : Action α) (session : Session) :
    (checkNames names >>= fun _ => next) session
      = match session.refused? names with
        | some name => (.error (.unknownAttribute name), session.afterSchema)
        | none => next session.afterSchema := by
  rw [bind_run, checkNames_run]
  cases session.refused? names with
  | some name => rfl
  | none => rfl

end Session

/-- A record with a name is created if the schema refuses none of its attributes. -/
theorem Model.create_run {model : Model} {record : Record} {dn : Text}
    (h : model.creationDn record = .ok dn) (session : Session) :
    model.create record session
      = match session.refused? record.attributes.keys with
        | some name => (.error (.unknownAttribute name), session.afterSchema)
        | none => (do
            return (fun _ => dn) (← Session.onDirectory
              (add dn (model.creationAttributes record))) : Session.Action Text)
            session.afterSchema := by
  rw [create, h]
  exact Session.checkNames_bind_run record.attributes.keys _ session

/-- A record with a name and attributes is updated if the schema refuses none of them. -/
theorem Model.update_run {record : Record} (hdn : Text.isAllBlank record.dn = false)
    (hattributes : record.isEmpty = false) (session : Session) :
    Model.update record session
      = match session.refused? record.attributes.keys with
        | some name => (.error (.unknownAttribute name), session.afterSchema)
        | none => Session.onDirectory (modifyReplace record.dn record.entryAttributes)
            session.afterSchema := by
  rw [update, hdn, hattributes]
  exact Session.checkNames_bind_run record.attributes.keys _ session

/-! ## Sessions that nobody asks -/

namespace Session

variable {α β : Type} {before middle after : Session}

/-- Between two states of a session nobody has asked for its schema: the cache is the same, and
    the log has as many fetches. -/
structure Unasked (before after : Session) : Prop where
  cache : after.cache = before.cache
  fetches : after.directory.calls.count .fetchSchema = before.directory.calls.count .fetchSchema

theorem Unasked.refl (session : Session) : session.Unasked session := ⟨rfl, rfl⟩

/-- What reads without a fetch does not ask for the schema. -/
theorem unasked_of_reads {action : Directory.Action α} (h : Reads action) (session : Session)
    (hcalls : .fetchSchema ∉ callsOf action session.directory) :
    session.Unasked (onDirectory action session).2 := by
  have hrun : onDirectory action session = (outcome action session.directory,
      { session with directory := { session.directory with
          calls := session.directory.calls ++ callsOf action session.directory } }) := by
    rw [onDirectory, h.run session.directory]
  rw [hrun]
  refine ⟨rfl, ?_⟩
  rw [List.count_append, List.count_eq_zero.mpr hcalls, Nat.add_zero]

/-- An answer may be made of what is answered. -/
theorem snd_map_run (action : Action α) (f : α → β) (session : Session) :
    ((do return f (← action) : Action β) session).2 = (action session).2 := by
  rw [bind_run]
  cases action session with
  | mk outcome after =>
      cases outcome with
      | ok answer => rfl
      | error e => rfl

/-- A call that writes is logged whether it succeeds or not. -/
theorem calls_write (call : Call) (outcome : Directory → Except Error (List Entry))
    (session : Session) :
    (onDirectory (write call outcome) session).2.directory.calls
      = session.directory.calls ++ [call] := by
  rw [onDirectory, write]
  cases outcome session.directory with
  | ok entries => rfl
  | error e => rfl

theorem unasked_write (call : Call) (h : call ≠ .fetchSchema)
    (outcome : Directory → Except Error (List Entry)) (session : Session) :
    session.Unasked (onDirectory (write call outcome) session).2 := by
  refine ⟨rfl, ?_⟩
  rw [calls_write, List.count_append, List.count_singleton, beq_false_of_ne h]
  rfl

end Session

/-! ### Queries and relations -/

/-- The calls of steps are calls that one of them makes. -/
theorem Step.exists_of_mem_calls {steps : List Step} {call : Call} (h : call ∈ Step.calls steps) :
    ∃ step ∈ steps, step.call? = some call := by
  induction steps with
  | nil => cases h
  | cons step rest ih =>
      rw [calls] at h
      rcases List.mem_append.mp h with hfirst | hrest
      · exact ⟨step, List.mem_cons_self, Option.mem_toList.mp hfirst⟩
      · cases hfailure : step.failure? with
        | some e =>
            rw [hfailure] at hrest
            cases hrest
        | none =>
            rw [hfailure] at hrest
            obtain ⟨later, hmem, hcall⟩ := ih hrest
            exact ⟨later, List.mem_cons_of_mem step hmem, hcall⟩

/-- The steps of a relation look at its base and look up values; none of them is a fetch. -/
theorem Relation.call?_ne_fetchSchema {relation : Relation} {source : Directory}
    {records : List ShapedRecord} {step : Step} (h : step ∈ relation.steps source records) :
    step.call? ≠ some .fetchSchema := by
  rw [steps] at h
  rcases List.mem_cons.mp h with rfl | h
  · intro hcall
    cases hcall
  · obtain ⟨shaped, _, h⟩ := List.mem_flatMap.mp h
    obtain ⟨value, _, rfl⟩ := List.mem_map.mp h
    intro hcall
    have hlookup : relation.lookupCall value = .fetchSchema := Option.some.inj hcall
    rw [lookupCall] at hlookup
    split at hlookup <;> cases hlookup

theorem Query.call?_ne_fetchSchema {query : Query} {source : Directory}
    {records : List ShapedRecord} {step : Step} (h : step ∈ query.relationSteps source records) :
    step.call? ≠ some .fetchSchema := by
  rw [relationSteps] at h
  rcases List.mem_append.mp h with h | h
  · obtain ⟨relation, _, h⟩ := List.mem_flatMap.mp h
    exact Relation.call?_ne_fetchSchema h
  · obtain ⟨relation, _, h⟩ := List.mem_flatMap.mp h
    exact Relation.call?_ne_fetchSchema h

/-- The steps of a query are its search and those of its relations. -/
theorem Model.call?_ne_fetchSchema {model : Model} {query : Query} {source : Directory}
    {step : Step} (h : step ∈ model.steps query source) : step.call? ≠ some .fetchSchema := by
  rw [steps] at h
  rcases List.mem_cons.mp h with rfl | h
  · intro hcall
    cases hcall
  · split at h
    · rw [answerSteps] at h
      split at h
      · exact Query.call?_ne_fetchSchema h
      · cases h
    · cases h

/-- What follows steps without a fetch does not ask for the schema. -/
theorem Session.unasked_of_follows {α : Type} {action : Directory.Action α} (hreads : Reads action)
    {session : Session} {steps : List Step} (h : Follows session.directory action steps)
    (hsteps : ∀ step ∈ steps, step.call? ≠ some .fetchSchema) :
    session.Unasked (onDirectory action session).2 := by
  refine unasked_of_reads hreads session fun hmem => ?_
  rw [h.calls] at hmem
  obtain ⟨step, hstep, hcall⟩ := Step.exists_of_mem_calls hmem
  exact hsteps step hstep hcall

/-! ### Operations -/

/-- Whether a call writes attributes. -/
def Call.storesAttributes : Call → Bool
  | add _ | modifyReplace _ => true
  | search _ _ _ _ | readOne _ | delete _ | fetchSchema => false

namespace Operation

variable {operation : Operation} {record : Record}

/-- Whether an operation asks for the schema: describing does, and so do creating and updating a
    record that has a name and, to be updated, attributes. -/
def asksSchema : Operation → Bool
  | describe => true
  | create model record =>
    match model.creationDn record with
    | .ok _ => true
    | .error _ => false
  | update record => !(Text.isAllBlank record.dn || record.isEmpty)
  | _ => false

theorem unasked_add (dn : Text) (attributes : List Attribute) (session : Session) :
    session.Unasked (Session.onDirectory (Directory.add dn attributes) session).2 :=
  Session.unasked_write (.add dn) nofun (·.added dn attributes) session

theorem unasked_modifyReplace (dn : Text) (changes : List Attribute) (session : Session) :
    session.Unasked (Session.onDirectory (Directory.modifyReplace dn changes) session).2 :=
  Session.unasked_write (.modifyReplace dn) nofun (·.modified dn changes) session

theorem unasked_delete (dn : Text) (session : Session) :
    session.Unasked (Session.onDirectory (Directory.delete dn) session).2 :=
  Session.unasked_write (.delete dn) nofun (·.deleted dn) session

/-- A query does not ask for the schema, whatever is made of its answer. -/
theorem unasked_find (model : Model) (query : Query) {α : Type} (f : FindResult → α)
    (session : Session) :
    session.Unasked (Session.onDirectory (do return f (← model.find query)) session).2 :=
  Session.unasked_of_follows ((model.reads_find query).map f)
    (follows_map (model.reads_find query) f (model.follows_find query session.directory))
    fun _ => Model.call?_ne_fetchSchema

/-- The record that an operation writes. -/
def written? : Operation → Option Record
  | create _ record | update record => some record
  | _ => none

/-- What cannot be written at all leaves the session as it is. -/
theorem perform_of_not_asks (h : operation.written? = some record)
    (hasks : operation.asksSchema = false) (session : Session) :
    (operation.perform session).2 = session := by
  cases operation with
  | create model record =>
      rw [asksSchema] at hasks
      show (model.create record session).2 = session
      cases hdn : model.creationDn record with
      | ok dn =>
          rw [hdn] at hasks
          cases hasks
      | error e =>
          rw [Model.create, hdn]
          rfl
  | update record =>
      show (Model.update record session).2 = session
      rw [Model.update]
      by_cases hblank : Text.isAllBlank record.dn = true
      · rw [if_pos hblank]
        rfl
      · have hempty : record.isEmpty = true := by
          rw [asksSchema, Bool.eq_false_iff.mpr hblank] at hasks
          exact (Bool.not_eq_false' _).mp hasks
        rw [if_neg hblank, if_pos hempty]
        rfl
  | search | readOne | add | modifyReplace | remove | fetchSchema | find | findBy | findAllBy
  | describe | delete | resolve => cases h

/-- An operation that writes a record and asks for the schema does so first, and fails where a name
    is refused. Otherwise one action follows, which makes one call that writes attributes and does
    not ask again. -/
theorem exists_store (h : operation.written? = some record)
    (hasks : operation.asksSchema = true) :
    ∃ (store : Session.Action operation.Answer) (call : Call), call.storesAttributes = true ∧
      (∀ session, (store session).2.directory.calls = session.directory.calls ++ [call]) ∧
      (∀ session : Session, session.Unasked (store session).2) ∧
      ∀ session, operation.perform session
        = match session.refused? record.attributes.keys with
          | some name => (.error (.unknownAttribute name), session.afterSchema)
          | none => store session.afterSchema := by
  cases operation with
  | create model created =>
      obtain rfl : created = record := Option.some.inj h
      rw [asksSchema] at hasks
      cases hdn : model.creationDn created with
      | error e =>
          rw [hdn] at hasks
          exact nomatch hasks
      | ok dn =>
          let add := Session.onDirectory (Directory.add dn (model.creationAttributes created))
          refine ⟨(do return (fun _ => dn) (← add) : Session.Action Text), .add dn, rfl,
            fun session => ?_, fun session => ?_, Model.create_run hdn⟩
          · rw [Session.snd_map_run]
            exact Session.calls_write (.add dn) _ session
          · rw [Session.snd_map_run]
            exact unasked_add dn _ session
  | update updated =>
      obtain rfl : updated = record := Option.some.inj h
      have hneither : (Text.isAllBlank updated.dn || updated.isEmpty) = false :=
        (Bool.not_eq_true' _).mp hasks
      obtain ⟨hdn, hattributes⟩ := Bool.or_eq_false_iff.mp hneither
      exact ⟨Session.onDirectory (Directory.modifyReplace updated.dn updated.entryAttributes),
        .modifyReplace updated.dn, rfl, Session.calls_write (.modifyReplace updated.dn) _,
        unasked_modifyReplace updated.dn _, Model.update_run hdn hattributes⟩
  | search | readOne | add | modifyReplace | remove | fetchSchema | find | findBy | findAllBy
  | describe | delete | resolve => exact nomatch h

/-- **Who does not ask does not fetch.** An operation that does not ask for the schema leaves the
    cache as it is and logs no fetch, unless it is the fetch itself. -/
theorem unasked_of_not_asks (h : operation.asksSchema = false)
    (hfetch : operation ≠ .fetchSchema) (session : Session) :
    session.Unasked (operation.perform session).2 := by
  cases operation with
  | search base filter attributes limit =>
      exact Session.unasked_of_follows (reads_search base filter attributes limit)
        (follows_of_performs (performs_search session.directory base filter attributes limit))
        (List.forall_mem_singleton.mpr nofun)
  | readOne dn filter attributes =>
      exact Session.unasked_of_follows (reads_readOne dn filter attributes)
        (follows_of_performs (performs_readOne session.directory dn filter attributes))
        (List.forall_mem_singleton.mpr nofun)
  | add dn attributes => exact unasked_add dn attributes session
  | modifyReplace dn changes => exact unasked_modifyReplace dn changes session
  | remove dn | delete dn => exact unasked_delete dn session
  | fetchSchema => exact absurd rfl hfetch
  | find model query =>
      exact Session.unasked_of_follows (model.reads_find query)
        (model.follows_find query session.directory) fun _ => Model.call?_ne_fetchSchema
  | findBy model name value => exact unasked_find model _ FindResult.first? session
  | findAllBy model name value => exact unasked_find model _ FindResult.records session
  | describe => exact nomatch h
  | create model record =>
      rw [perform_of_not_asks rfl h]
      exact Session.Unasked.refl session
  | update record =>
      rw [perform_of_not_asks rfl h]
      exact Session.Unasked.refl session
  | resolve relation kind records =>
      exact Session.unasked_of_follows (relation.reads_resolve kind records)
        (relation.follows_resolve kind records session.directory)
        fun _ => Relation.call?_ne_fetchSchema

/-- An operation that writes a record asks for the schema once at most. -/
theorem unasked_of_written (h : operation.written? = some record)
    (hasks : operation.asksSchema = true) (session : Session) :
    session.afterSchema.Unasked (operation.perform session).2 := by
  obtain ⟨store, _, _, _, hunasked, hrun⟩ := exists_store h hasks
  rw [hrun]
  cases session.refused? record.attributes.keys with
  | some name => exact Session.Unasked.refl session.afterSchema
  | none => exact hunasked session.afterSchema

/-- **Who asks, asks once.** An operation that asks for the schema leaves what asking leaves and
    does not ask again. -/
theorem unasked_of_asks (h : operation.asksSchema = true) (session : Session) :
    session.afterSchema.Unasked (operation.perform session).2 := by
  cases operation with
  | describe =>
      show session.afterSchema.Unasked (Session.schema session).2
      rw [Session.schema_run]
      exact Session.Unasked.refl session.afterSchema
  | create model record => exact unasked_of_written rfl h session
  | update record => exact unasked_of_written rfl h session
  | search | readOne | add | modifyReplace | remove | fetchSchema | find | findBy | findAllBy
  | delete | resolve => exact nomatch h

end Operation

end DirectoryRecords
