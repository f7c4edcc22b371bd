import DirectoryRecords.Proofs.SchemaRuns

/-!
# The schema gate — what has to be defined before it is written

    A record is created or updated by one call that writes, and before that
    call the schema is asked about the names of its attributes. The schema
    that decides is the one that is kept for the connection, or else the one
    that its directory sends. It lets the names pass if it defines none at all
    or all of these, and refuses the first one that it does not define; a
    schema that cannot be had lets everything pass. Where a schema was made of
    some definitions, the letter case of their names and of the record's does
    not count (`SchemaMap.contains_ofList`).

    So an operation that writes a record does nothing if the record cannot be
    written at all (`perform_of_not_asks`), and otherwise it asks, and then
    fails with the name that is refused or makes its one call
    (`exists_store`). Which of the three it is follows from the record and the
    schema alone (`perform_gated`).
-/

namespace DirectoryRecords

open Directory

/-! ## What a schema lets pass -/

namespace SchemaMap

variable {schema : SchemaMap} {names : List Text}

/-- A schema lets names pass if it defines no attribute, or all of these. -/
def Allows (schema : SchemaMap) (names : List Text) : Prop :=
  schema.isEmpty = true ∨ ∀ name ∈ names, schema.contains name = true

/-- Some definitions have a name: the name of one of them has the same lower-case form. -/
def Defined (definitions : List (Text × Text)) (name : Text) : Prop :=
  ∃ definition ∈ definitions, Text.lower name = Text.lower definition.1

/-- The schema of some definitions contains the names that they have. -/
theorem contains_ofList (definitions : List (Text × Text)) (name : Text) :
    (ofList definitions).contains name = true ↔ Defined definitions name := by
  rw [contains, identifiers_ofList, TextMap.contains, TextMap.get?_ofList, List.lookup_isSome_iff]
  simp only [Defined, List.mem_reverse, List.mem_map, exists_exists_and_eq_and, beq_iff_eq]

theorem isEmpty_ofList {definitions : List (Text × Text)} :
    (ofList definitions).isEmpty = true ↔ definitions = [] := by
  cases definitions with
  | nil => exact ⟨fun _ => rfl, fun _ => rfl⟩
  | cons definition rest =>
      refine ⟨fun hempty => ?_, nofun⟩
      -- The empty map would not contain the first of the names.
      have hfirst : (ofList (definition :: rest)).contains definition.1 = true :=
        (contains_ofList _ _).mpr ⟨definition, List.mem_cons_self, rfl⟩
      rw [contains, TextMap.contains, TextMap.get?, List.isEmpty_iff.mp hempty] at hfirst
      exact nomatch hfirst

/-- The schema of some definitions lets the names pass that they have, and any if there are none. -/
theorem allows_ofList {definitions : List (Text × Text)} :
    (ofList definitions).Allows names
      ↔ definitions = [] ∨ ∀ name ∈ names, Defined definitions name := by
  rw [Allows, isEmpty_ofList]
  exact or_congr_right (forall₂_congr fun name _ => contains_ofList definitions name)

theorem firstUnknown?_eq_none_iff : schema.firstUnknown? names = none ↔ schema.Allows names := by
  rw [firstUnknown?, Allows]
  by_cases hempty : schema.isEmpty = true
  · rw [if_pos hempty]
    exact ⟨fun _ => .inl hempty, fun _ => rfl⟩
  · rw [if_neg hempty, List.find?_eq_none, or_iff_right hempty]
    simp only [Bool.not_eq_true', Bool.not_eq_false]

/-- What a schema refuses is the first of the names that it does not define, if it defines any. -/
theorem firstUnknown?_eq_some_iff {name : Text} :
    schema.firstUnknown? names = some name ↔ schema.isEmpty = false ∧
      ∃ front back, names = front ++ name :: back ∧
        (∀ earlier ∈ front, schema.contains earlier = true) ∧ schema.contains name = false := by
  rw [firstUnknown?]
  cases hempty : schema.isEmpty with
  | true => exact ⟨nofun, fun h => nomatch h.1⟩
  | false =>
      rw [if_neg Bool.false_ne_true, List.find?_eq_some_iff_append]
      simp only [Bool.not_not, Bool.not_eq_true', true_and]
      constructor
      · rintro ⟨hname, front, back, hnames, hfront⟩
        exact ⟨front, back, hnames, hfront, hname⟩
      · rintro ⟨front, back, hnames, hfront, hname⟩
        exact ⟨hname, front, back, hnames, hfront⟩

/-- A schema that is not empty refuses something where a name is lacking. -/
theorem exists_firstUnknown? (hnonempty : schema.isEmpty = false)
    (hlacking : ∃ name ∈ names, schema.contains name = false) :
    ∃ name, schema.firstUnknown? names = some name := by
  obtain ⟨lacking, hmem, hlacking⟩ := hlacking
  refine Option.ne_none_iff_exists'.mp fun hnone => ?_
  rcases firstUnknown?_eq_none_iff.mp hnone with hempty | hall
  · exact absurd (hnonempty.symm.trans hempty) Bool.false_ne_true
  · exact absurd (hlacking.symm.trans (hall lacking hmem)) Bool.false_ne_true

/-- The schema of some definitions refuses the first name that they do not have. -/
theorem firstUnknown?_ofList {definitions : List (Text × Text)} (hsome : definitions ≠ [])
    {front : List Text} (hfront : ∀ earlier ∈ front, Defined definitions earlier) {name : Text}
    (hname : ¬ Defined definitions name) (back : List Text) :
    (ofList definitions).firstUnknown? (front ++ name :: back) = some name := by
  refine firstUnknown?_eq_some_iff.mpr ⟨?_, front, back, rfl, fun earlier hmem => ?_, ?_⟩
  · exact Bool.eq_false_iff.mpr (isEmpty_ofList.not.mpr hsome)
  · exact (contains_ofList definitions earlier).mpr (hfront earlier hmem)
  · exact Bool.eq_false_iff.mpr ((contains_ofList definitions name).not.mpr hname)

end SchemaMap

namespace Session

variable {session : Session} {names : List Text}

/-- Where there is a schema, it decides which name is refused. -/
theorem refused?_of_inForce {schema : SchemaMap} (h : session.schemaInForce? = some schema)
    (names : List Text) : session.refused? names = schema.firstUnknown? names := by
  rw [refused?, h]
  rfl

/-- Names pass if the schema cannot be had, or lets them pass. -/
theorem refused?_eq_none_iff :
    session.refused? names = none
      ↔ (session.cachedSchema? = none ∧ session.directory.schemaFails = true) ∨
        ∃ schema, session.schemaInForce? = some schema ∧ schema.Allows names := by
  rw [refused?, schemaInForce?]
  cases hanswer : session.schemaAnswer with
  | error e =>
      obtain ⟨hcached, hfails, _⟩ := exists_of_schemaAnswer_error hanswer
      exact ⟨fun _ => .inl ⟨hcached, hfails⟩, fun _ => rfl⟩
  | ok schema =>
      have havailable : ¬(session.cachedSchema? = none ∧ session.directory.schemaFails = true) := by
        rintro ⟨hcached, hfails⟩
        rw [schemaAnswer, hcached, Directory.schemaAnswer, if_pos hfails] at hanswer
        cases hanswer
      rw [or_iff_right havailable]
      show schema.firstUnknown? names = none ↔ ∃ other, some schema = some other ∧ _
      rw [SchemaMap.firstUnknown?_eq_none_iff]
      constructor
      · exact fun hallows => ⟨schema, rfl, hallows⟩
      · rintro ⟨other, hother, hallows⟩
        rw [Option.some.inj hother]
        exact hallows

/-- Asking for the schema logs a fetch, or nothing. -/
theorem exists_calls_afterSchema (session : Session) :
    ∃ fetches, session.afterSchema.directory.calls = session.directory.calls ++ fetches ∧
      ∀ call ∈ fetches, call = .fetchSchema := by
  rw [afterSchema]
  cases session.cachedSchema? with
  | some schema => exact ⟨[], (List.append_nil _).symm, List.forall_mem_nil _⟩
  | none => exact ⟨[.fetchSchema], rfl, List.forall_mem_singleton.mpr rfl⟩

end Session

/-! ## What is written -/

namespace Operation

variable {operation : Operation} {record : Record} {session : Session}

/-- The record of an operation can be written at all: a new one has a name, or a value to make one
    of, and one to be updated has a name and attributes. -/
def Writable : Operation → Prop
  | create model record => Text.isAllBlank record.dn = false ∨
      ∃ value, record.firstValue? model.namingAttribute = some value ∧ value ≠ []
  | update record => Text.isAllBlank record.dn = false ∧ record.isEmpty = false
  | _ => False

/-- A new record has a name exactly where one is given or can be made. -/
theorem exists_creationDn_iff (model : Model) (record : Record) :
    (∃ dn, model.creationDn record = .ok dn) ↔ (create model record).Writable := by
  rw [Writable, Model.creationDn, Model.deriveDn]
  by_cases hblank : Text.isAllBlank record.dn = true
  · rw [if_pos hblank, or_iff_right (by rw [hblank]; exact Bool.noConfusion)]
    cases hvalue : record.firstValue? model.namingAttribute with
    | none => exact ⟨nofun, nofun⟩
    | some value =>
        cases value with
        | nil =>
            refine ⟨nofun, ?_⟩
            rintro ⟨value, hnil, hne⟩
            exact absurd (Option.some.inj hnil).symm hne
        | cons c rest => exact ⟨fun _ => ⟨c :: rest, rfl, nofun⟩, fun _ => ⟨_, rfl⟩⟩
  · rw [if_neg hblank]
    exact ⟨fun _ => .inl (Bool.eq_false_iff.mpr hblank), fun _ => ⟨_, rfl⟩⟩

/-- What can be written at all asks for the schema. -/
theorem asksSchema_iff_writable (h : operation.written? = some record) :
    operation.asksSchema = true ↔ operation.Writable := by
  cases operation with
  | create model record =>
      rw [← exists_creationDn_iff, asksSchema]
      cases model.creationDn record with
      | ok dn => exact ⟨fun _ => ⟨dn, rfl⟩, fun _ => rfl⟩
      | error e =>
          constructor
          · intro hasks
            cases hasks
          · rintro ⟨dn, hdn⟩
            cases hdn
  | update record =>
      rw [asksSchema, Writable, Bool.not_eq_true', Bool.or_eq_false_iff]
  | search | readOne | add | modifyReplace | remove | fetchSchema | find | findBy | findAllBy
  | describe | delete | resolve => cases h

/-- Where a name is refused, the operation fails with it and leaves what asking leaves. -/
theorem perform_refused (h : operation.written? = some record)
    (hasks : operation.asksSchema = true) {name : Text}
    (hrefused : session.refused? record.attributes.keys = some name) :
    operation.perform session = (.error (.unknownAttribute name), session.afterSchema) := by
  obtain ⟨store, _, _, _, _, hrun⟩ := exists_store h hasks
  rw [hrun, hrefused]

/-- Where no name is refused, the operation makes one call that writes attributes, after those of
    asking. -/
theorem calls_perform_of_passed (h : operation.written? = some record)
    (hasks : operation.asksSchema = true)
    (hpassed : session.refused? record.attributes.keys = none) :
    ∃ call : Call, call.storesAttributes = true ∧
      (operation.perform session).2.directory.calls
        = session.afterSchema.directory.calls ++ [call] := by
  obtain ⟨store, call, hcall, hcalls, _, hrun⟩ := exists_store h hasks
  refine ⟨call, hcall, ?_⟩
  rw [hrun, hpassed]
  exact hcalls session.afterSchema

/-- What an operation that writes a record adds to the log has a call that writes attributes
    exactly where the record can be written at all and no name is refused. -/
theorem exists_issued (h : operation.written? = some record) (session : Session) :
    ∃ issued, (operation.perform session).2.directory.calls
        = session.directory.calls ++ issued ∧
      ((∃ call ∈ issued, call.storesAttributes = true)
        ↔ operation.Writable ∧ session.refused? record.attributes.keys = none) := by
  rw [← asksSchema_iff_writable h]
  cases hasks : operation.asksSchema with
  | false =>
      refine ⟨[], ?_, nofun, nofun⟩
      rw [perform_of_not_asks h hasks, List.append_nil]
  | true =>
      obtain ⟨fetches, hfetches, hfetch⟩ := session.exists_calls_afterSchema
      have hnone : ¬∃ call ∈ fetches, call.storesAttributes = true := by
        rintro ⟨call, hmem, hcall⟩
        rw [hfetch call hmem] at hcall
        exact nomatch hcall
      cases hrefused : session.refused? record.attributes.keys with
      | some name =>
          refine ⟨fetches, ?_, fun hstores => absurd hstores hnone, nofun⟩
          rw [perform_refused h hasks hrefused]
          exact hfetches
      | none =>
          obtain ⟨call, hcall, hcalls⟩ := calls_perform_of_passed h hasks hrefused
          refine ⟨fetches ++ [call], ?_, fun _ => ⟨rfl, rfl⟩, fun _ => ?_⟩
          · rw [hcalls, hfetches, List.append_assoc]
          · exact ⟨call, List.mem_append_right _ List.mem_cons_self, hcall⟩

/-- **Writes are gated by the schema.** Creating or updating a record makes a call that writes
    attributes if and only if the record can be written at all and its names pass: the schema
    cannot be had, or it is empty, or it defines every name. Where a schema that is not empty lacks
    a name, a record that can be written at all is refused with the first such name, and no call is
    made but to fetch the schema. For a schema that was made of definitions this means: there are
    none, or they have every name in some letter case; and what is refused is the first name that
    they have in none. -/
theorem perform_gated (h : operation.written? = some record) (session : Session) :
    let names := record.attributes.keys
    ∃ issued, (operation.perform session).2.directory.calls
        = session.directory.calls ++ issued ∧
      ((∃ call ∈ issued, call.storesAttributes = true) ↔
        operation.Writable ∧
          ((session.cachedSchema? = none ∧ session.directory.schemaFails = true) ∨
            ∃ schema, session.schemaInForce? = some schema ∧
              (schema.isEmpty = true ∨ ∀ name ∈ names, schema.contains name = true))) ∧
      (∀ schema, session.schemaInForce? = some schema → schema.isEmpty = false →
        (∃ name ∈ names, schema.contains name = false) → operation.Writable →
        (∀ call ∈ issued, call = .fetchSchema) ∧
          ∃ front name back, names = front ++ name :: back ∧
            (∀ earlier ∈ front, schema.contains earlier = true) ∧
            schema.contains name = false ∧
            (operation.perform session).1 = .error (.unknownAttribute name)) ∧
      ∀ definitions, session.schemaInForce? = some (.ofList definitions) →
        ((∃ call ∈ issued, call.storesAttributes = true) ↔
          operation.Writable ∧
            (definitions = [] ∨ ∀ name ∈ names, SchemaMap.Defined definitions name)) ∧
        ∀ front name back, names = front ++ name :: back →
          (∀ earlier ∈ front, SchemaMap.Defined definitions earlier) →
          ¬ SchemaMap.Defined definitions name → definitions ≠ [] → operation.Writable →
          (operation.perform session).1 = .error (.unknownAttribute name) := by
  intro names
  obtain ⟨issued, hcalls, hissued⟩ := exists_issued h session
  refine ⟨issued, hcalls, ?_, ?_, ?_⟩
  · rw [hissued, Session.refused?_eq_none_iff]
    rfl
  · intro schema hforce hnonempty hlacking hwritable
    obtain ⟨name, hname⟩ := SchemaMap.exists_firstUnknown? hnonempty hlacking
    have hrun := perform_refused h ((asksSchema_iff_writable h).mpr hwritable)
      ((Session.refused?_of_inForce hforce names).trans hname)
    obtain ⟨_, front, back, hnames, hfront, hunknown⟩ :=
      SchemaMap.firstUnknown?_eq_some_iff.mp hname
    obtain ⟨fetches, hfetches, hfetch⟩ := session.exists_calls_afterSchema
    rw [hrun] at hcalls
    obtain rfl : issued = fetches := List.append_cancel_left (hcalls.symm.trans hfetches)
    refine ⟨hfetch, front, name, back, hnames, hfront, hunknown, ?_⟩
    rw [hrun]
  · intro definitions hforce
    have hrefused := Session.refused?_of_inForce hforce names
    refine ⟨?_, fun front name back hnames hfront hname hsome hwritable => ?_⟩
    · rw [hissued, hrefused, SchemaMap.firstUnknown?_eq_none_iff, SchemaMap.allows_ofList]
    · have hfirst : (SchemaMap.ofList definitions).firstUnknown? names = some name := by
        rw [hnames]
        exact SchemaMap.firstUnknown?_ofList hsome hfront hname back
      rw [perform_refused h ((asksSchema_iff_writable h).mpr hwritable) (hrefused.trans hfirst)]

/-- A new person is written while the schema cannot be had, and refused by the schema that another
    connection has fetched, which defines `UID` but no shoe size. -/
theorem perform_gated_shoesize :
    let directory : Directory := { Directory.ofIdentity "memory://people" with
      schemaFails := true }
    let fetched : SchemaMap := .ofList [("UID", "1.3.6.1.4.1.1466.115.121.1.15")]
    let person := ((Record.ofDn "").set "uid" (.single "ann")).set "shoeSize" (.single "38")
    let create := Operation.create (Model.ofName "person" "ou=People,dc=x") person
    let unavailable : Session := ⟨directory, ∅⟩
    let available : Session := ⟨directory, SchemaCache.keep ∅ "memory://people" fetched⟩
    (∃ call ∈ (create.perform unavailable).2.directory.calls, call.storesAttributes = true) ∧
      (∀ call ∈ (create.perform available).2.directory.calls, call = .fetchSchema) ∧
      (create.perform available).1 = .error (.unknownAttribute "shoesize") := by
  intro directory fetched person create unavailable available
  have hwritten : create.written? = some person := rfl
  have hwritable : create.Writable := .inr ⟨"ann".toList, rfl, nofun⟩
  obtain ⟨written, hcalls, hstores, _⟩ := perform_gated hwritten unavailable
  obtain ⟨issued, hissued, _, hgate, hdefinitions⟩ := perform_gated hwritten available
  obtain ⟨hreads, _⟩ := hgate fetched rfl rfl ⟨"shoesize".toList, by decide, by decide⟩ hwritable
  obtain ⟨_, hrefused⟩ := hdefinitions [("UID", "1.3.6.1.4.1.1466.115.121.1.15")] rfl
  refine ⟨?_, ?_, ?_⟩
  · rw [hcalls]
    exact hstores.mpr ⟨hwritable, .inl ⟨rfl, rfl⟩⟩
  · rw [hissued]
    exact hreads
  · have hlacking : ¬ SchemaMap.Defined [("UID", "1.3.6.1.4.1.1466.115.121.1.15")] "shoesize" := by
      rintro ⟨definition, hmem, hname⟩
      rw [List.mem_singleton.mp hmem] at hname
      exact absurd hname (by decide)
    exact hrefused [] "shoesize" ["uid"] rfl (List.forall_mem_nil _) hlacking
      (List.cons_ne_nil _ _) hwritable

end Operation

end DirectoryRecords
