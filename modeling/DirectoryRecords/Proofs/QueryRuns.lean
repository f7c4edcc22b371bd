import DirectoryRecords.Model.Find
import DirectoryRecords.Proofs.EntryOrder
import DirectoryRecords.Proofs.Reading
import DirectoryRecords.Proofs.RelationLookup

/-!
# Query runs — what a query answers and which calls it makes

    A query only reads. It makes one search, and a query for records makes
    the lookups of its relations after it, one for each value of a local key
    in the order of the records. Each function on the way, from the lookup of
    a value to the whole query, gets three lemmas here: that it reads, what
    its outcome is, and what its calls are. Where a relation succeeds, it does
    so for each record on its own (`outcome_resolve_eq_ok_iff`). What follows
    from these is the subject of other modules.
-/

namespace DirectoryRecords

open Text Directory

/-! ## Relations -/

namespace Relation

/-- The call that is made for a value of the local key. -/
def lookupCall (relation : Relation) (value : Text) : Call :=
  if relation.byDn then .readOne value else relation.callFor value

/-- The calls that are made for the local keys of some records, if none of them fails. -/
def lookupCalls (relation : Relation) (records : List ShapedRecord) : List Call :=
  records.flatMap fun shaped => (relation.localValues shaped.record).map relation.lookupCall

/-- What a value of the local key finds. -/
def lookupAnswer (relation : Relation) (value : Text) (source : Directory) :
    Except Error (List Record) :=
  if relation.byDn then
    (source.readAnswer value matchAll relation.fields).map fun entry =>
      entry.toList.map Entry.normalize
  else
    (source.searchAnswer relation.base (relation.filterFor value) relation.fields none).map
      (List.map Entry.normalize)

/-- A value is looked up by one call. -/
theorem performs_lookup (relation : Relation) (value : Text) (source : Directory) :
    Performs source (relation.lookup value) (relation.lookupAnswer value source)
      [relation.lookupCall value] := by
  rw [lookup, lookupAnswer, lookupCall]
  split
  · exact performs_map (reads_readOne value matchAll relation.fields)
      (fun entry => entry.toList.map Entry.normalize) source
  · exact performs_map (reads_search relation.base (relation.filterFor value) relation.fields none)
      (List.map Entry.normalize) source

theorem reads_lookup (relation : Relation) (value : Text) : Reads (relation.lookup value) :=
  reads_of_performs (relation.performs_lookup value)

theorem outcome_lookup (relation : Relation) (value : Text) (source : Directory) :
    outcome (relation.lookup value) source = relation.lookupAnswer value source :=
  (relation.performs_lookup value source).outcome_eq

theorem callsOf_lookup (relation : Relation) (value : Text) (source : Directory) :
    callsOf (relation.lookup value) source = [relation.lookupCall value] :=
  (relation.performs_lookup value source).callsOf_eq

/-- A record is resolved by the lookups for its local key; what they find is attached. -/
theorem performs_resolveOne (relation : Relation) (kind : RelationKind) (label : Text)
    (shaped : ShapedRecord) (source : Directory) :
    Performs source (relation.resolveOne kind label shaped)
      (((relation.localValues shaped.record).mapM fun value =>
        outcome (relation.lookup value) source).map fun found =>
          shaped.attachAny label (kind.collect found))
      ((tried (fun value => outcome (relation.lookup value) source)
        (relation.localValues shaped.record)).map relation.lookupCall) := by
  have hlookups := performs_mapM relation.reads_lookup (relation.localValues shaped.record) source
  have hrun := performs_map (Reads.mapM relation.reads_lookup (relation.localValues shaped.record))
    (fun found => shaped.attachAny label (kind.collect found)) source
  rw [hlookups.outcome_eq, hlookups.callsOf_eq] at hrun
  simp only [callsOf_lookup, ← List.map_eq_flatMap] at hrun
  exact hrun

theorem reads_resolveOne (relation : Relation) (kind : RelationKind) (label : Text)
    (shaped : ShapedRecord) : Reads (relation.resolveOne kind label shaped) :=
  reads_of_performs (relation.performs_resolveOne kind label shaped)

theorem reads_resolve (relation : Relation) (kind : RelationKind) (records : List ShapedRecord) :
    Reads (relation.resolve kind records) :=
  (reads_lift (Dn.leafLabel relation.base)).bind fun label =>
    Reads.mapM (relation.reads_resolveOne kind label) records

/-- Records are resolved one by one, once the base has a label. -/
theorem outcome_resolve (relation : Relation) (kind : RelationKind) (records : List ShapedRecord)
    (source : Directory) :
    outcome (relation.resolve kind records) source
      = Dn.leafLabel relation.base >>= fun label =>
          records.mapM fun shaped => outcome (relation.resolveOne kind label shaped) source := by
  rw [resolve, outcome_bind (reads_lift _) fun label =>
    Reads.mapM (relation.reads_resolveOne kind label) records]
  simp only [outcome_mapM (relation.reads_resolveOne kind _)]
  rfl

/-- A base without a label is noticed before any call. -/
theorem callsOf_resolve_of_error {relation : Relation} {e : Error}
    (h : Dn.leafLabel relation.base = .error e) (kind : RelationKind)
    (records : List ShapedRecord) (source : Directory) :
    callsOf (relation.resolve kind records) source = [] := by
  rw [resolve, h]
  rfl

/-- Where a record is resolved, every value of its local key was looked up. -/
theorem callsOf_resolveOne_of_ok {relation : Relation} {kind : RelationKind} {label : Text}
    {shaped resolved : ShapedRecord} {source : Directory}
    (h : outcome (relation.resolveOne kind label shaped) source = .ok resolved) :
    callsOf (relation.resolveOne kind label shaped) source
      = (relation.localValues shaped.record).map relation.lookupCall := by
  have hrun := relation.performs_resolveOne kind label shaped source
  rw [hrun.outcome_eq] at h
  obtain ⟨found, hfound, _⟩ := exists_ok_of_map h
  rw [hrun.callsOf_eq, tried_eq_self (exists_ok_of_mem hfound)]

/-- Where all records are resolved, every value of every record was looked up. -/
theorem callsOf_resolve_of_ok {relation : Relation} {kind : RelationKind}
    {records resolved : List ShapedRecord} {source : Directory}
    (h : outcome (relation.resolve kind records) source = .ok resolved) :
    callsOf (relation.resolve kind records) source = relation.lookupCalls records := by
  rw [outcome_resolve] at h
  obtain ⟨label, hlabel, hall⟩ := exists_ok_of_bind h
  have hone := exists_ok_of_mem hall
  have hcalls : callsOf (relation.resolve kind records) source
      = callsOf (records.mapM (relation.resolveOne kind label)) source := by
    rw [resolve, hlabel]
    rfl
  rw [hcalls, callsOf_mapM (relation.reads_resolveOne kind label), tried_eq_self hone,
    lookupCalls]
  refine List.flatMap_congr fun shaped hmem => ?_
  obtain ⟨answer, hanswer⟩ := hone shaped hmem
  exact callsOf_resolveOne_of_ok hanswer

/-! ## Relations that succeed -/

/-- What a value of the local key finds, where its lookup succeeds. -/
def lookedUp (relation : Relation) (source : Directory) (value : Text) : List Record :=
  match relation.lookupAnswer value source with
  | .ok found => found
  | .error _ => []

theorem lookedUp_of_ok {relation : Relation} {source : Directory} (value : Text)
    (found : List Record) (h : relation.lookupAnswer value source = .ok found) :
    relation.lookedUp source value = found := by
  rw [lookedUp, h]

/-- The lookups for the local key of a record all succeed. -/
def Answered (relation : Relation) (source : Directory) (record : Record) : Prop :=
  ∀ value ∈ relation.localValues record, ∃ found, relation.lookupAnswer value source = .ok found

/-- What a relation finds for a record, where the lookups succeed. -/
def foundFor (relation : Relation) (source : Directory) (kind : RelationKind) (record : Record) :
    List Record :=
  kind.collect ((relation.localValues record).map (relation.lookedUp source))

/-- A record with what a relation finds for it. -/
def withFound (relation : Relation) (source : Directory) (kind : RelationKind) (label : Text)
    (shaped : ShapedRecord) : ShapedRecord :=
  shaped.attachAny label (relation.foundFor source kind shaped.record)

@[simp] theorem record_withFound (relation : Relation) (source : Directory) (kind : RelationKind)
    (label : Text) (shaped : ShapedRecord) :
    (relation.withFound source kind label shaped).record = shaped.record :=
  shaped.record_attachAny label _

/-- A record is resolved where its lookups succeed, with what they find. -/
theorem outcome_resolveOne_eq_ok_iff (relation : Relation) (kind : RelationKind) (label : Text)
    (shaped resolved : ShapedRecord) (source : Directory) :
    outcome (relation.resolveOne kind label shaped) source = .ok resolved
      ↔ relation.Answered source shaped.record ∧
          relation.withFound source kind label shaped = resolved := by
  have hlookups (found : List (List Record)) :
      (relation.localValues shaped.record).mapM (relation.lookupAnswer · source) = .ok found
        ↔ relation.Answered source shaped.record ∧
            (relation.localValues shaped.record).map (relation.lookedUp source) = found :=
    mapM_eq_ok_iff lookedUp_of_ok
  rw [(relation.performs_resolveOne kind label shaped source).outcome_eq]
  simp only [outcome_lookup]
  constructor
  · intro h
    obtain ⟨found, hfound, hresolved⟩ := exists_ok_of_map h
    obtain ⟨hanswered, rfl⟩ := (hlookups found).mp hfound
    exact ⟨hanswered, hresolved⟩
  · rintro ⟨hanswered, rfl⟩
    rw [(hlookups _).mpr ⟨hanswered, rfl⟩]
    rfl

/-- **A relation succeeds record by record.** With a label for its base, a relation resolves
    records exactly where all their lookups succeed, and each record with what it finds. -/
theorem outcome_resolve_eq_ok_iff {relation : Relation} {label : Text}
    (hlabel : Dn.leafLabel relation.base = .ok label) (kind : RelationKind)
    (records resolved : List ShapedRecord) (source : Directory) :
    outcome (relation.resolve kind records) source = .ok resolved
      ↔ (∀ shaped ∈ records, relation.Answered source shaped.record) ∧
          records.map (relation.withFound source kind label) = resolved := by
  have hone (shaped resolved : ShapedRecord) :=
    relation.outcome_resolveOne_eq_ok_iff kind label shaped resolved source
  rw [outcome_resolve, hlabel]
  refine (mapM_eq_ok_iff fun shaped resolved h => ((hone shaped resolved).mp h).2).trans ?_
  refine and_congr_left fun _ => forall₂_congr fun shaped _ => ?_
  constructor
  · rintro ⟨answer, hanswer⟩
    exact ((hone shaped answer).mp hanswer).1
  · intro hanswered
    exact ⟨_, (hone shaped _).mpr ⟨hanswered, rfl⟩⟩

/-- Where a relation succeeds, its base has a label and all lookups succeed. -/
theorem exists_of_resolve {relation : Relation} {kind : RelationKind}
    {records resolved : List ShapedRecord} {source : Directory}
    (h : outcome (relation.resolve kind records) source = .ok resolved) :
    ∃ label, Dn.leafLabel relation.base = .ok label ∧
      (∀ shaped ∈ records, relation.Answered source shaped.record) ∧
      records.map (relation.withFound source kind label) = resolved := by
  have hwhole := h
  rw [outcome_resolve] at hwhole
  obtain ⟨label, hlabel, _⟩ := exists_ok_of_bind hwhole
  exact ⟨label, hlabel, (outcome_resolve_eq_ok_iff hlabel kind records resolved source).mp h⟩

/-- Relations add to records and leave the records themselves alone. -/
theorem records_of_resolve {relation : Relation} {kind : RelationKind}
    {records resolved : List ShapedRecord} {source : Directory}
    (h : outcome (relation.resolve kind records) source = .ok resolved) :
    resolved.map (·.record) = records.map (·.record) := by
  obtain ⟨label, _, _, rfl⟩ := exists_of_resolve h
  rw [List.map_map]
  exact List.map_congr_left fun shaped _ => relation.record_withFound source kind label shaped

/-! ## Where there may be a relation -/

theorem reads_resolve? (relation : Option Relation) (kind : RelationKind)
    (records : List ShapedRecord) : Reads (resolve? relation kind records) := by
  cases relation with
  | none => exact reads_pure records
  | some relation => exact relation.reads_resolve kind records

theorem records_of_resolve? {relation : Option Relation} {kind : RelationKind}
    {records resolved : List ShapedRecord} {source : Directory}
    (h : outcome (resolve? relation kind records) source = .ok resolved) :
    resolved.map (·.record) = records.map (·.record) := by
  cases relation with
  | none => rw [Except.ok.inj (show Except.ok records = .ok resolved from h)]
  | some relation => exact records_of_resolve h

theorem callsOf_resolve?_of_ok {relation : Option Relation} {kind : RelationKind}
    {records resolved : List ShapedRecord} {source : Directory}
    (h : outcome (resolve? relation kind records) source = .ok resolved) :
    callsOf (resolve? relation kind records) source
      = relation.toList.flatMap (·.lookupCalls records) := by
  cases relation with
  | none => rfl
  | some relation =>
      rw [Option.toList_some, List.flatMap_singleton]
      exact callsOf_resolve_of_ok h

end Relation

/-! ## Queries -/

namespace Query

/-- A query that answers with records: for the first of them or for all. -/
def ForRecords (query : Query) : Prop :=
  query.queryType = .first ∨ query.queryType = .all

theorem forRecords_iff {query : Query} :
    query.ForRecords ↔ query.queryType ≠ .count ∧ query.queryType ≠ .list := by
  rw [ForRecords]
  cases query.queryType <;> decide

instance (query : Query) : Decidable query.ForRecords :=
  inferInstanceAs (Decidable (_ ∨ _))

theorem reads_relate (query : Query) (records : List ShapedRecord) : Reads (query.relate records) :=
  (Relation.reads_resolve? query.belongsTo .belongsTo records).bind fun resolved =>
    Relation.reads_resolve? query.hasMany .hasMany resolved

theorem outcome_relate (query : Query) (records : List ShapedRecord) (source : Directory) :
    outcome (query.relate records) source
      = outcome (Relation.resolve? query.belongsTo .belongsTo records) source >>= fun resolved =>
          outcome (Relation.resolve? query.hasMany .hasMany resolved) source :=
  outcome_bind (Relation.reads_resolve? query.belongsTo .belongsTo records)
    (Relation.reads_resolve? query.hasMany .hasMany) source

/-- Relations leave the records themselves alone. -/
theorem records_of_relate {query : Query} {records resolved : List ShapedRecord}
    {source : Directory} (h : outcome (query.relate records) source = .ok resolved) :
    resolved.map (·.record) = records.map (·.record) := by
  rw [outcome_relate] at h
  obtain ⟨first, hfirst, hsecond⟩ := exists_ok_of_bind h
  exact (Relation.records_of_resolve? hsecond).trans (Relation.records_of_resolve? hfirst)

theorem callsOf_relate (query : Query) (records : List ShapedRecord) (source : Directory) :
    callsOf (query.relate records) source
      = callsOf (Relation.resolve? query.belongsTo .belongsTo records) source ++
          callsAfter (outcome (Relation.resolve? query.belongsTo .belongsTo records) source)
            (Relation.resolve? query.hasMany .hasMany) source :=
  callsOf_bind (Relation.reads_resolve? query.belongsTo .belongsTo records)
    (Relation.reads_resolve? query.hasMany .hasMany) source

/-- The records of an answer in the shape of a query: the first of them, or all. -/
theorem records_shape (query : Query) (records : List ShapedRecord) :
    (query.shape records).records
      = if query.queryType = .first then records.take 1 else records := by
  rw [shape]
  by_cases h : query.queryType = .first
  · rw [if_pos h, if_pos h]
    cases records with
    | nil => rfl
    | cons first rest => rfl
  · rw [if_neg h, if_neg h]
    rfl

/-- The records of an answer are among those that were put into its shape. -/
theorem mem_of_mem_shape {query : Query} {records : List ShapedRecord} {shaped : ShapedRecord}
    (h : shaped ∈ (query.shape records).records) : shaped ∈ records := by
  rw [records_shape] at h
  split at h
  · exact List.mem_of_mem_take h
  · exact h

end Query

namespace Model

variable {model : Model}

/-- The call of the search of a query. -/
def searchCall (model : Model) (query : Query) : Call :=
  .search model.baseDn query.conditions.compile (model.projection query) query.effectiveLimit

/-- What the search of a query finds. -/
def found (model : Model) (query : Query) (source : Directory) : Except Error (List Entry) :=
  source.searchAnswer model.baseDn query.conditions.compile (model.projection query)
    query.effectiveLimit

/-- The records of the entries that were found, in the order of the query. -/
def recordsOf (model : Model) (query : Query) (entries : List Entry) : List ShapedRecord :=
  (Entry.sort query.order entries).map fun entry =>
    .ofRecord (Text.titleCase model.name) entry.normalize

theorem isEmpty_recordsOf (model : Model) (query : Query) (entries : List Entry) :
    (model.recordsOf query entries).isEmpty = entries.isEmpty := by
  rw [recordsOf, List.isEmpty_map, Entry.isEmpty_sort]

/-! ## Answers -/

/-- A query for records answers with those of the entries that were found, with the records
    related to them; nothing found is nothing to relate. -/
theorem answer_of_forRecords {query : Query} (h : query.ForRecords) (model : Model)
    (entries : List Entry) :
    model.answer query entries
      = if entries.isEmpty then pure .empty
        else do return query.shape (← query.relate (model.recordsOf query entries)) := by
  obtain ⟨hcount, hlist⟩ := Query.forRecords_iff.mp h
  rw [answer, if_neg hcount, Entry.normalizeAll, Entry.isEmpty_sort]
  cases entries.isEmpty with
  | true => rfl
  | false =>
      simp only [Bool.false_eq_true, if_false]
      rw [if_neg hlist]
      rfl

/-- A query for a number answers with that of the entries. -/
theorem answer_of_count {query : Query} (h : query.queryType = .count) (model : Model)
    (entries : List Entry) : model.answer query entries = pure (.count entries.length) := by
  rw [answer, if_pos h]

/-- A query for options answers with those of the records, if there are any. -/
theorem answer_of_list {query : Query} (h : query.queryType = .list) (model : Model)
    (entries : List Entry) :
    model.answer query entries
      = pure (if entries.isEmpty then .empty
          else .list (.ofRecords model.listKey (model.display query)
            (model.recordsOf query entries))) := by
  rw [answer, if_neg (by rw [h]; decide), Entry.normalizeAll, Entry.isEmpty_sort]
  cases entries.isEmpty with
  | true => rfl
  | false =>
      simp only [Bool.false_eq_true, if_false]
      rw [if_pos h]
      rfl

/-- A query for a number or for options is answered without the directory. -/
theorem exists_answer_eq_pure {query : Query} (h : ¬query.ForRecords) (model : Model)
    (entries : List Entry) : ∃ result, model.answer query entries = pure result := by
  by_cases hcount : query.queryType = .count
  · exact ⟨_, answer_of_count hcount model entries⟩
  · have hlist : query.queryType = .list :=
      Decidable.byContradiction fun hlist => h (Query.forRecords_iff.mpr ⟨hcount, hlist⟩)
    exact ⟨_, answer_of_list hlist model entries⟩

theorem reads_answer (model : Model) (query : Query) (entries : List Entry) :
    Reads (model.answer query entries) := by
  by_cases h : query.ForRecords
  · rw [answer_of_forRecords h]
    cases entries.isEmpty with
    | true => exact reads_pure FindResult.empty
    | false => exact (query.reads_relate (model.recordsOf query entries)).map query.shape
  · obtain ⟨result, hresult⟩ := exists_answer_eq_pure h model entries
    rw [hresult]
    exact reads_pure result

/-- The relations are all that an answer with records looks up. -/
theorem performs_answer {query : Query} (h : query.ForRecords) (model : Model)
    {entries : List Entry} (hentries : entries ≠ []) (source : Directory) :
    Performs source (model.answer query entries)
      ((outcome (query.relate (model.recordsOf query entries)) source).map query.shape)
      (callsOf (query.relate (model.recordsOf query entries)) source) := by
  rw [answer_of_forRecords h, if_neg (by rw [List.isEmpty_iff]; exact hentries)]
  exact performs_map (query.reads_relate (model.recordsOf query entries)) query.shape source

/-- An answer with records fails where the relations do. -/
theorem outcome_answer {query : Query} (h : query.ForRecords) (model : Model)
    (entries : List Entry) (source : Directory) :
    outcome (model.answer query entries) source
      = if entries.isEmpty then .ok .empty
        else (outcome (query.relate (model.recordsOf query entries)) source).map query.shape := by
  by_cases hentries : entries = []
  · rw [hentries, answer_of_forRecords h]
    rfl
  · rw [(performs_answer h model hentries source).outcome_eq,
      if_neg (by rw [List.isEmpty_iff]; exact hentries)]

/-- After its search a query fails only where its relations do. -/
theorem outcome_answer_error_iff {query : Query} {entries : List Entry} {source : Directory}
    {e : Error} :
    outcome (model.answer query entries) source = .error e
      ↔ query.ForRecords ∧ entries ≠ [] ∧
          outcome (query.relate (model.recordsOf query entries)) source = .error e := by
  constructor
  · intro h
    by_cases hrecords : query.ForRecords
    · by_cases hentries : entries = []
      · rw [hentries, answer_of_forRecords hrecords] at h
        exact nomatch h
      · rw [(performs_answer hrecords model hentries source).outcome_eq] at h
        exact ⟨hrecords, hentries, eq_error_of_map h⟩
    · obtain ⟨result, hresult⟩ := exists_answer_eq_pure hrecords model entries
      rw [hresult] at h
      exact nomatch h
  · rintro ⟨hrecords, hentries, h⟩
    rw [(performs_answer hrecords model hentries source).outcome_eq, h]
    rfl

/-! ## Whole queries -/

theorem reads_find (model : Model) (query : Query) : Reads (model.find query) :=
  (reads_search model.baseDn query.conditions.compile (model.projection query)
    query.effectiveLimit).bind (model.reads_answer query)

theorem outcome_find (model : Model) (query : Query) (source : Directory) :
    outcome (model.find query) source
      = model.found query source >>= fun entries => outcome (model.answer query entries) source :=
  outcome_bind (reads_search model.baseDn query.conditions.compile (model.projection query)
    query.effectiveLimit) (model.reads_answer query) source

/-- A query for records whose search finds nothing has no relation to follow. -/
theorem outcome_find_of_nil {query : Query} {source : Directory} (hrecords : query.ForRecords)
    (hfound : model.found query source = .ok []) :
    outcome (model.find query) source = .ok .empty := by
  rw [outcome_find, hfound]
  exact outcome_answer hrecords model [] source

/-- A query for records whose search finds some answers with them, once they are related. -/
theorem outcome_find_of_ne_nil {query : Query} {source : Directory}
    (hrecords : query.ForRecords) {entries : List Entry}
    (hfound : model.found query source = .ok entries) (hentries : entries ≠ []) :
    outcome (model.find query) source
      = (outcome (query.relate (model.recordsOf query entries)) source).map query.shape := by
  rw [outcome_find, hfound]
  exact (performs_answer hrecords model hentries source).outcome_eq

/-- The first record with a value is that of a query for it. -/
theorem outcome_findBy_eq_map (model : Model) (name value : Text) (source : Directory) :
    outcome (model.findBy name value) source
      = (outcome (model.find { Query.ofType .first with conditions := .equals name value })
          source).map FindResult.first? :=
  (performs_map (model.reads_find _) FindResult.first? source).outcome_eq

/-- All records with a value are those of a query for them. -/
theorem outcome_findAllBy_eq_map (model : Model) (name value : Text) (source : Directory) :
    outcome (model.findAllBy name value) source
      = (outcome (model.find { Query.ofType .all with conditions := .equals name value })
          source).map FindResult.records :=
  (performs_map (model.reads_find _) FindResult.records source).outcome_eq

/-- The search is the first call of a query, whatever comes of it. -/
theorem callsOf_find (model : Model) (query : Query) (source : Directory) :
    callsOf (model.find query) source
      = model.searchCall query ::
          callsAfter (model.found query source) (model.answer query) source :=
  callsOf_bind (reads_search model.baseDn query.conditions.compile (model.projection query)
    query.effectiveLimit) (model.reads_answer query) source

end Model

end DirectoryRecords
