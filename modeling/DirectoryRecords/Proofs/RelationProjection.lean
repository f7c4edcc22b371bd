import DirectoryRecords.Proofs.Correspondence
import DirectoryRecords.Proofs.Projection
import DirectoryRecords.Proofs.QueryRuns

/-!
# Relations under projections — what is related depends on what is shown

    The local key of a relation is read from a record after the projection,
    and the wanted attributes decide about the projection. Nothing adds the
    local key to them, so the same query may relate different records, or
    none, when other attributes are wanted.

    * Records are `Alike` for some relations when they have the same values of
      their local keys; relating keeps alike records alike, one relation after
      the other (`corresponds_resolve`, `corresponds_relate`).
    * Two projections make alike records of an entry when they show the same
      attributes of the local keys (`alike_project`). Then the related records
      are the same (`find_related_of_showAlike`).
    * A projection that hides the local keys leaves nothing to look up, and
      the query answers as if it had no relations (`find_of_hides`).

    Both are put together in `find_related_by_projection`.
-/

namespace DirectoryRecords

open Text Directory

namespace ShapedRecord

/-- Two records with one name, the same related records and the same values of the local keys of
    some relations. -/
structure Alike (relations : List Relation) (left right : ShapedRecord) : Prop where
  dn : left.record.dn = right.record.dn
  related : left.related = right.related
  values : ∀ relation ∈ relations,
    relation.localValues left.record = relation.localValues right.record

variable {relations : List Relation} {left right : ShapedRecord}

/-- Attaching the same records keeps records alike. -/
theorem Alike.attachAny (h : Alike relations left right) (label : Text) (records : List Record) :
    Alike relations (left.attachAny label records) (right.attachAny label records) := by
  cases records with
  | nil => exact h
  | cons first rest =>
      refine ⟨h.dn, ?_, h.values⟩
      show left.related.insert label (first :: rest) = right.related.insert label (first :: rest)
      rw [h.related]

end ShapedRecord

open ShapedRecord (Alike)

/-! ## Relations -/

namespace Relation

variable {relations : List Relation} {relation : Relation} {source : Directory}

/-! ### The values of a local key -/

theorem localValues_of_showAlike {requested requested' : List Text} {entry : Entry}
    (h : Entry.ShowAlike requested requested' relation.localKey entry) :
    relation.localValues (entry.project requested).normalize
      = relation.localValues (entry.project requested').normalize := by
  rw [localValues, Entry.get?_project h, localValues]

theorem localValues_of_hides {requested : List Text} {entry : Entry}
    (h : Entry.Hides requested relation.localKey entry) :
    relation.localValues (entry.project requested).normalize = [] := by
  rw [localValues, Entry.get?_project_of_hides h]
  rfl

/-! ### Relating alike records -/

theorem corresponds_resolveOne (hmem : relation ∈ relations) (kind : RelationKind) (label : Text)
    {left right : ShapedRecord} (h : Alike relations left right) :
    Corresponds (Alike relations) (outcome (relation.resolveOne kind label left) source)
      (outcome (relation.resolveOne kind label right) source) := by
  rw [(relation.performs_resolveOne kind label left source).outcome_eq,
    (relation.performs_resolveOne kind label right source).outcome_eq, h.values relation hmem]
  cases (relation.localValues right.record).mapM fun value =>
      outcome (relation.lookup value) source with
  | error e => exact .error e
  | ok found => exact .ok (h.attachAny label (kind.collect found))

/-- A relation keeps alike records alike. -/
theorem corresponds_resolve (hmem : relation ∈ relations) (kind : RelationKind)
    {records records' : List ShapedRecord} (h : List.Forall₂ (Alike relations) records records') :
    Corresponds (List.Forall₂ (Alike relations)) (outcome (relation.resolve kind records) source)
      (outcome (relation.resolve kind records') source) := by
  rw [outcome_resolve, outcome_resolve]
  cases Dn.leafLabel relation.base with
  | error e => exact .error e
  | ok label =>
      exact Corresponds.mapM h fun left right halike =>
        corresponds_resolveOne hmem kind label halike

theorem corresponds_resolve? {relation? : Option Relation}
    (hmem : ∀ relation ∈ relation?, relation ∈ relations) (kind : RelationKind)
    {records records' : List ShapedRecord} (h : List.Forall₂ (Alike relations) records records') :
    Corresponds (List.Forall₂ (Alike relations)) (outcome (resolve? relation? kind records) source)
      (outcome (resolve? relation? kind records') source) := by
  cases relation? with
  | none => exact .ok h
  | some relation => exact corresponds_resolve (hmem relation rfl) kind h

/-! ### Nothing to look up -/

/-- Records without a value of the local key stay as they are, once the base has a label. -/
theorem outcome_resolve_of_keyless {label : Text} (hbase : Dn.leafLabel relation.base = .ok label)
    (kind : RelationKind) {records : List ShapedRecord}
    (h : ∀ shaped ∈ records, relation.localValues shaped.record = []) :
    outcome (relation.resolve kind records) source = .ok records := by
  rw [outcome_resolve, hbase]
  show (records.mapM fun shaped => outcome (relation.resolveOne kind label shaped) source) = _
  rw [mapM_eq_map (f := id), List.map_id]
  intro shaped hmem
  rw [(relation.performs_resolveOne kind label shaped source).outcome_eq, h shaped hmem]
  cases kind with
  | belongsTo => rfl
  | hasMany => rfl

theorem outcome_resolve?_of_keyless {relation? : Option Relation} (kind : RelationKind)
    {records : List ShapedRecord}
    (h : ∀ relation ∈ relation?, (∃ label, Dn.leafLabel relation.base = .ok label) ∧
      ∀ shaped ∈ records, relation.localValues shaped.record = []) :
    outcome (resolve? relation? kind records) source = .ok records := by
  cases relation? with
  | none => rfl
  | some relation =>
      obtain ⟨⟨label, hbase⟩, hkeyless⟩ := h relation rfl
      exact outcome_resolve_of_keyless hbase kind hkeyless

end Relation

namespace Query

variable {query : Query} {source : Directory}

/-- The relations of a query. -/
def relations (query : Query) : List Relation :=
  query.belongsTo.toList ++ query.hasMany.toList

theorem mem_relations_of_belongsTo {relation : Relation} (h : relation ∈ query.belongsTo) :
    relation ∈ query.relations :=
  List.mem_append_left _ (Option.mem_toList.mpr h)

theorem mem_relations_of_hasMany {relation : Relation} (h : relation ∈ query.hasMany) :
    relation ∈ query.relations :=
  List.mem_append_right _ (Option.mem_toList.mpr h)

/-- Relating keeps alike records alike. -/
theorem corresponds_relate {records records' : List ShapedRecord}
    (h : List.Forall₂ (Alike query.relations) records records') :
    Corresponds (List.Forall₂ (Alike query.relations)) (outcome (query.relate records) source)
      (outcome (query.relate records') source) := by
  rw [outcome_relate, outcome_relate]
  exact (Relation.corresponds_resolve? (fun _ => mem_relations_of_belongsTo) .belongsTo h).bind
    fun _ _ hresolved =>
      Relation.corresponds_resolve? (fun _ => mem_relations_of_hasMany) .hasMany hresolved

/-- Records without values of the local keys stay as they are. -/
theorem outcome_relate_of_keyless {records : List ShapedRecord}
    (h : ∀ relation ∈ query.relations, (∃ label, Dn.leafLabel relation.base = .ok label) ∧
      ∀ shaped ∈ records, relation.localValues shaped.record = []) :
    outcome (query.relate records) source = .ok records := by
  rw [outcome_relate, Relation.outcome_resolve?_of_keyless .belongsTo fun relation hrelation =>
    h relation (mem_relations_of_belongsTo hrelation)]
  exact Relation.outcome_resolve?_of_keyless .hasMany fun relation hrelation =>
    h relation (mem_relations_of_hasMany hrelation)

/-- The query without its relations. -/
def alone (query : Query) : Query := { query with belongsTo := none, hasMany := none }

end Query

namespace FindResult

/-- The names of the records of an answer, each with the records related to it. -/
def relatedMaps (result : FindResult) : List (Text × TextMap (List Record)) :=
  result.records.map fun shaped => (shaped.record.dn, shaped.related)

end FindResult

namespace Query

/-- The query with other wanted attributes. -/
def wanting (query : Query) (fields : FieldList) : Query := { query with fields }

/-- The names and related records of the records that a query answers with. -/
theorem relatedMaps_shape (query : Query) (records : List ShapedRecord) :
    (query.shape records).relatedMaps
      = let maps := records.map fun shaped => (shaped.record.dn, shaped.related)
        if query.queryType = .first then maps.take 1 else maps := by
  rw [FindResult.relatedMaps, records_shape, apply_ite (List.map _), List.map_take]

end Query

/-- Alike records have the same names and related records. -/
theorem ShapedRecord.Alike.maps_eq {relations : List Relation}
    {records records' : List ShapedRecord}
    (h : List.Forall₂ (Alike relations) records records') :
    records.map (fun shaped => (shaped.record.dn, shaped.related))
      = records'.map fun shaped => (shaped.record.dn, shaped.related) := by
  induction h with
  | nil => rfl
  | cons hfirst _ ih => rw [List.map_cons, List.map_cons, ih, hfirst.dn, hfirst.related]

/-! ## Queries with different projections -/

namespace Model

variable {model : Model} {query : Query} {source : Directory}

/-- The entries that match a query, with all of their attributes. -/
def matched (model : Model) (query : Query) (source : Directory) : Except Error (List Entry) :=
  source.searchAnswer model.baseDn query.conditions.compile [] query.effectiveLimit

theorem found_eq_matched (model : Model) (query : Query) (source : Directory) :
    model.found query source
      = (model.matched query source).map (List.map (Entry.project (model.projection query))) :=
  searchAnswer_project source model.baseDn query.conditions.compile (model.projection query)
    query.effectiveLimit

/-- The attribute of the order is shown, whatever is wanted. -/
theorem shows_order (model : Model) (query : Query) :
    ∀ name ∈ query.order, Entry.shows (model.projection query) name = true := by
  intro name hname
  rw [projection, hname]
  exact Entry.shows_ensure name _

/-- The projection does not change the order of the records. -/
theorem recordsOf_project (model : Model) (query : Query) (entries : List Entry) :
    model.recordsOf query (entries.map (Entry.project (model.projection query)))
      = (Entry.sort query.order entries).map fun entry =>
          .ofRecord (titleCase model.name)
            (entry.project (model.projection query)).normalize := by
  rw [recordsOf, Entry.sort_map_project (model.shows_order query), List.map_map]
  rfl

/-- Two projections that show the same attributes of the local keys make alike records. -/
theorem alike_project {requested requested' : List Text} {relations : List Relation}
    {entry : Entry}
    (h : ∀ relation ∈ relations, Entry.ShowAlike requested requested' relation.localKey entry)
    (label : Text) :
    Alike relations (.ofRecord label (entry.project requested).normalize)
      (.ofRecord label (entry.project requested').normalize) := by
  refine ⟨?_, rfl, ?_⟩
  · rw [Entry.project_eq, Entry.project_eq]
    rfl
  · intro relation hmem
    exact Relation.localValues_of_showAlike (h relation hmem)

/-- So they do for all entries that match a query. -/
theorem alike_recordsOf {wanted wanted' : FieldList} {entries : List Entry}
    (h : ∀ relation ∈ query.relations, ∀ entry ∈ entries,
      Entry.ShowAlike (model.projection (query.wanting wanted))
        (model.projection (query.wanting wanted')) relation.localKey entry) :
    List.Forall₂ (Alike query.relations)
      (model.recordsOf (query.wanting wanted)
        (entries.map (Entry.project (model.projection (query.wanting wanted)))))
      (model.recordsOf (query.wanting wanted')
        (entries.map (Entry.project (model.projection (query.wanting wanted'))))) := by
  rw [recordsOf_project, recordsOf_project, List.forall₂_map_left_iff, List.forall₂_map_right_iff]
  refine List.forall₂_same.mpr fun entry hmem => ?_
  have hentry : entry ∈ entries := (Entry.sort_perm query.order entries).mem_iff.mp hmem
  exact alike_project (fun relation hrelation => h relation hrelation entry hentry) _

/-- Then the answers have the same related records. -/
theorem corresponds_answer (h : query.ForRecords) (source : Directory)
    {wanted wanted' : FieldList} {entries : List Entry}
    (hshow : ∀ relation ∈ query.relations, ∀ entry ∈ entries,
      Entry.ShowAlike (model.projection (query.wanting wanted))
        (model.projection (query.wanting wanted')) relation.localKey entry) :
    Corresponds (fun left right => left.relatedMaps = right.relatedMaps)
      (outcome (model.answer (query.wanting wanted)
        (entries.map (Entry.project (model.projection (query.wanting wanted))))) source)
      (outcome (model.answer (query.wanting wanted')
        (entries.map (Entry.project (model.projection (query.wanting wanted'))))) source) := by
  have hleft : (query.wanting wanted).ForRecords := h
  have hright : (query.wanting wanted').ForRecords := h
  rw [outcome_answer hleft, outcome_answer hright, List.isEmpty_map, List.isEmpty_map]
  cases entries.isEmpty with
  | true => exact .ok rfl
  | false =>
      have hrecords := alike_recordsOf hshow
      refine (Query.corresponds_relate hrecords).map fun records records' halike => ?_
      rw [Query.relatedMaps_shape, Query.relatedMaps_shape, ShapedRecord.Alike.maps_eq halike]
      rfl

/-- If two projections show the same attributes of every local key among the entries of the
    directory, the records have the same related records, or the query fails with the same
    error. -/
theorem find_related_of_showAlike (h : query.ForRecords) {wanted wanted' : FieldList}
    (hshow : ∀ relation ∈ query.relations, ∀ entry ∈ source.entries,
      Entry.ShowAlike (model.projection (query.wanting wanted))
        (model.projection (query.wanting wanted')) relation.localKey entry) :
    (outcome (model.find (query.wanting wanted)) source).map FindResult.relatedMaps
      = (outcome (model.find (query.wanting wanted')) source).map FindResult.relatedMaps := by
  have hmatched : model.matched (query.wanting wanted) source
      = model.matched (query.wanting wanted') source := rfl
  rw [outcome_find, outcome_find, found_eq_matched, found_eq_matched, hmatched]
  cases hentries : model.matched (query.wanting wanted') source with
  | error e => rfl
  | ok entries =>
      have hanswers := corresponds_answer h source fun relation hrelation entry hentry =>
        hshow relation hrelation entry (mem_of_searchAnswer hentries entry hentry)
      exact hanswers.map_eq fun _ _ hmaps => hmaps

/-- A query whose projection hides the local keys of all of its relations answers as if it had
    none of them, once their bases have labels. -/
theorem find_of_hides (h : query.ForRecords)
    (hbase : ∀ relation ∈ query.relations, ∃ label, Dn.leafLabel relation.base = .ok label)
    (hhide : ∀ relation ∈ query.relations, ∀ entry ∈ source.entries,
      Entry.Hides (model.projection query) relation.localKey entry) :
    outcome (model.find query) source = outcome (model.find query.alone) source := by
  have hfound : model.found query.alone source = model.found query source := rfl
  have halone : query.alone.ForRecords := h
  rw [outcome_find, outcome_find, hfound, found_eq_matched]
  cases hentries : model.matched query source with
  | error e => rfl
  | ok entries =>
      show outcome (model.answer query (entries.map _)) source
        = outcome (model.answer query.alone (entries.map _)) source
      rw [outcome_answer h, outcome_answer halone]
      have hkeyless : ∀ relation ∈ query.relations, ∀ shaped ∈ model.recordsOf query
          (entries.map (Entry.project (model.projection query))),
          relation.localValues shaped.record = [] := by
        intro relation hrelation shaped hshaped
        rw [recordsOf_project] at hshaped
        obtain ⟨entry, hentry, hrecord⟩ := List.mem_map.mp hshaped
        have hsource := mem_of_searchAnswer hentries entry
          ((Entry.sort_perm query.order entries).mem_iff.mp hentry)
        rw [← hrecord]
        exact Relation.localValues_of_hides (hhide relation hrelation entry hsource)
      rw [Query.outcome_relate_of_keyless fun relation hrelation =>
        ⟨hbase relation hrelation, hkeyless relation hrelation⟩]
      rfl

/-- **Related records depend on what is shown of the local keys.** Whatever is wanted of a query
    for records, two projections that show the same attributes of every local key among the
    entries of the directory lead to the same related records, or to the same error. A projection
    that hides the local keys leads to none: the query answers as if it had no relations, once
    their bases have labels. -/
theorem find_related_by_projection (h : query.ForRecords) (model : Model) (source : Directory) :
    (∀ wanted wanted' : FieldList,
      (∀ relation ∈ query.relations, ∀ entry ∈ source.entries,
        Entry.ShowAlike (model.projection (query.wanting wanted))
          (model.projection (query.wanting wanted')) relation.localKey entry) →
      (outcome (model.find (query.wanting wanted)) source).map FindResult.relatedMaps
        = (outcome (model.find (query.wanting wanted')) source).map FindResult.relatedMaps) ∧
    ∀ wanted : FieldList,
      (∀ relation ∈ query.relations, ∃ label, Dn.leafLabel relation.base = .ok label) →
      (∀ relation ∈ query.relations, ∀ entry ∈ source.entries,
        Entry.Hides (model.projection (query.wanting wanted)) relation.localKey entry) →
      outcome (model.find (query.wanting wanted)) source
        = outcome (model.find (query.wanting wanted).alone) source := by
  constructor
  · intro wanted wanted' hshow
    exact find_related_of_showAlike h hshow
  · intro wanted hbase hhide
    have hrecords : (query.wanting wanted).ForRecords := h
    exact find_of_hides hrecords hbase hhide

/-- The groups of a person: with or without wanting them alone, the related record is found; when
    another attribute is wanted alone, the answer is that of a query without relations. -/
theorem find_related_by_projection_memberOf :
    let model := Model.ofName "person" "ou=People,dc=x"
    let query := { Query.ofType .first with
      belongsTo := some ⟨"memberOf", "dn", "ou=Group,dc=x", []⟩ }
    let staff : Entry := ⟨"cn=staff,ou=Group,dc=x", [⟨"cn", ["staff"]⟩]⟩
    let ann : Entry := ⟨"uid=ann,ou=People,dc=x",
      [⟨"uid", ["ann"]⟩, ⟨"memberof", ["cn=staff,ou=Group,dc=x"]⟩]⟩
    let source := { ofIdentity "memory://people" with entries := [ann, staff] }
    let found (wanted : FieldList) :=
      (outcome (model.find (query.wanting wanted)) source).map FindResult.relatedMaps
    query.ForRecords ∧
      found .unset = .ok [(ann.dn, (∅ : TextMap (List Record)).insert "Group" [staff.normalize])] ∧
      found (.list ["memberOf"]) = found .unset ∧
      outcome (model.find (query.wanting (.list ["uid"]))) source
        = outcome (model.find (query.wanting (.list ["uid"])).alone) source := by
  intro model query staff ann source found
  have hrecords : query.ForRecords := .inl rfl
  obtain ⟨hshown, hhidden⟩ := find_related_by_projection hrecords model source
  refine ⟨hrecords, rfl, hshown (.list ["memberOf"]) .unset (by decide), ?_⟩
  refine hhidden (.list ["uid"]) ?_ (by decide)
  intro relation hrelation
  rw [List.mem_singleton.mp hrelation]
  exact ⟨"Group", rfl⟩

/-- When only another attribute is wanted, the related record is no longer found. -/
theorem find_related_of_other_attribute :
    let model := Model.ofName "person" "ou=People,dc=x"
    let query := { Query.ofType .first with
      belongsTo := some ⟨"memberOf", "dn", "ou=Group,dc=x", []⟩ }
    let staff : Entry := ⟨"cn=staff,ou=Group,dc=x", [⟨"cn", ["staff"]⟩]⟩
    let ann : Entry := ⟨"uid=ann,ou=People,dc=x",
      [⟨"uid", ["ann"]⟩, ⟨"memberof", ["cn=staff,ou=Group,dc=x"]⟩]⟩
    let source := { ofIdentity "memory://people" with entries := [ann, staff] }
    query.ForRecords ∧
      (outcome (model.find (query.wanting (.list ["uid"]))) source).map FindResult.relatedMaps
        ≠ (outcome (model.find (query.wanting .unset)) source).map FindResult.relatedMaps := by
  intro model query staff ann source
  refine ⟨.inl rfl, ?_⟩
  have hhidden : (outcome (model.find (query.wanting (.list ["uid"]))) source).map
      FindResult.relatedMaps = .ok [(ann.dn, ∅)] := rfl
  have hshown : (outcome (model.find (query.wanting .unset)) source).map FindResult.relatedMaps
      = .ok [(ann.dn, (∅ : TextMap (List Record)).insert "Group" [staff.normalize])] := rfl
  rw [hhidden, hshown]
  exact fun h => absurd (Except.ok.inj h) (by decide)

end Model

end DirectoryRecords
