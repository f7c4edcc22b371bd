import DirectoryRecords.Proofs.QueryRuns

/-!
# Malformed bases — when a query notices that a relation leads nowhere

    The base of a relation needs a label, and a malformed base has none. A
    query looks at a base when it gets to the relation: after its search, if
    that found any records, and for the second relation after all lookups of
    the first. So a query that fails because of a malformed base has searched
    the directory before.

    * The calls themselves never fail in this way (`ofReading_of_lookup`), and
      a relation fails in this way exactly when its base has no label
      (`outcome_resolve_malformedDn_iff`).
    * A query `Reaches` the base of its first relation without a lookup, and
      that of its second one after the lookups of a first one that succeeded.
    * What fails in this way, and in which state, is assembled from the two
      (`find_malformedDn_iff`).
-/

namespace DirectoryRecords

open Text Directory

/-! ## Failing calls -/

/-- The errors of the calls that read. -/
def Error.OfReading : Error → Prop
  | searchFailed _ _ => True
  | readFailed _ _ _ => True
  | _ => False

theorem Filter.ofReading_of_map_read {α : Type} {text : Text} {f : Filter → α} {e : Error}
    (h : (Filter.read text).map f = .error e) : e.OfReading := by
  rw [Filter.read] at h
  split at h
  · cases h
  · cases h
    trivial

namespace Directory

theorem ofReading_of_searchAnswer {source : Directory} {base filter : Text}
    {attributes : List Text} {limit : Option Nat} {e : Error}
    (h : source.searchAnswer base filter attributes limit = .error e) : e.OfReading := by
  rw [searchAnswer] at h
  split at h
  · cases h
    trivial
  · exact Filter.ofReading_of_map_read h

theorem ofReading_of_readAnswer {source : Directory} {dn filter : Text} {attributes : List Text}
    {e : Error} (h : source.readAnswer dn filter attributes = .error e) : e.OfReading := by
  rw [readAnswer] at h
  split at h
  · cases h
    trivial
  · exact Filter.ofReading_of_map_read h

end Directory

/-! ## Relations -/

namespace Relation

variable {relation : Relation} {source : Directory}

theorem ofReading_of_lookup {value : Text} {e : Error}
    (h : outcome (relation.lookup value) source = .error e) : e.OfReading := by
  rw [outcome_lookup, lookupAnswer] at h
  split at h
  · exact ofReading_of_readAnswer (eq_error_of_map h)
  · exact ofReading_of_searchAnswer (eq_error_of_map h)

theorem ofReading_of_resolveOne {kind : RelationKind} {label : Text} {shaped : ShapedRecord}
    {e : Error} (h : outcome (relation.resolveOne kind label shaped) source = .error e) :
    e.OfReading := by
  rw [(relation.performs_resolveOne kind label shaped source).outcome_eq] at h
  obtain ⟨value, _, hvalue⟩ := exists_error_of_mapM (eq_error_of_map h)
  exact ofReading_of_lookup hvalue

/-- **A relation meets a malformed name exactly in its base.** -/
theorem outcome_resolve_malformedDn_iff (kind : RelationKind) (records : List ShapedRecord)
    {dn piece : Text} :
    outcome (relation.resolve kind records) source = .error (.malformedDn dn piece)
      ↔ Dn.leafLabel relation.base = .error (.malformedDn dn piece) := by
  rw [outcome_resolve]
  cases Dn.leafLabel relation.base with
  | error e =>
      constructor
      · intro h
        exact congrArg Except.error (Except.error.inj h)
      · intro h
        exact congrArg Except.error (Except.error.inj h)
  | ok label =>
      constructor
      · intro h
        obtain ⟨shaped, _, hshaped⟩ := exists_error_of_mapM h
        exact (ofReading_of_resolveOne hshaped).elim
      · exact nofun

/-! ## Where there may be a relation -/

theorem outcome_resolve?_malformedDn_iff {relation? : Option Relation} {kind : RelationKind}
    {records : List ShapedRecord} {dn piece : Text} :
    outcome (resolve? relation? kind records) source = .error (.malformedDn dn piece)
      ↔ ∃ relation, relation? = some relation ∧
          Dn.leafLabel relation.base = .error (.malformedDn dn piece) := by
  cases relation? with
  | none =>
      constructor
      · exact nofun
      · rintro ⟨relation, hrelation, _⟩
        exact nomatch hrelation
  | some relation =>
      refine (outcome_resolve_malformedDn_iff kind records).trans ⟨fun h => ⟨relation, rfl, h⟩, ?_⟩
      rintro ⟨relation', hrelation, hbase⟩
      rw [Option.some.inj hrelation]
      exact hbase

/-- What meets a malformed name has not called the directory. -/
theorem callsOf_resolve?_of_malformedDn {relation? : Option Relation} {kind : RelationKind}
    {records : List ShapedRecord} {dn piece : Text}
    (h : outcome (resolve? relation? kind records) source = .error (.malformedDn dn piece)) :
    callsOf (resolve? relation? kind records) source = [] := by
  obtain ⟨relation, hrelation, hbase⟩ := outcome_resolve?_malformedDn_iff.mp h
  rw [hrelation]
  exact callsOf_resolve_of_error hbase kind records source

end Relation

/-! ## Queries -/

namespace Query

variable {query : Query} {source : Directory} {records : List ShapedRecord}

/-- The query comes to look at the base of a relation, after some lookups: the first relation is
    looked at at once, the second one when all lookups of the first have succeeded. -/
inductive Reaches (query : Query) (source : Directory) (records : List ShapedRecord) :
    Relation → List Call → Prop where
  | belongsTo {relation : Relation} (h : query.belongsTo = some relation) :
      Reaches query source records relation []
  | hasMany {relation : Relation} {resolved : List ShapedRecord}
      (hfirst : outcome (Relation.resolve? query.belongsTo .belongsTo records) source
        = .ok resolved)
      (h : query.hasMany = some relation) :
      Reaches query source records relation
        (query.belongsTo.toList.flatMap (·.lookupCalls records))

/-- Relations meet a malformed name only in a base that the query reaches, after the calls that
    led there. -/
theorem reaches_of_malformedDn {dn piece : Text}
    (h : outcome (query.relate records) source = .error (.malformedDn dn piece)) :
    ∃ relation, query.Reaches source records relation (callsOf (query.relate records) source) ∧
      Dn.leafLabel relation.base = .error (.malformedDn dn piece) := by
  rw [outcome_relate] at h
  rw [callsOf_relate]
  cases hfirst : outcome (Relation.resolve? query.belongsTo .belongsTo records) source with
  | error e =>
      rw [hfirst] at h
      have he : e = .malformedDn dn piece := Except.error.inj h
      rw [he] at hfirst
      obtain ⟨relation, hrelation, hbase⟩ := Relation.outcome_resolve?_malformedDn_iff.mp hfirst
      rw [Relation.callsOf_resolve?_of_malformedDn hfirst]
      exact ⟨relation, .belongsTo hrelation, hbase⟩
  | ok resolved =>
      rw [hfirst] at h
      have hsecond : outcome (Relation.resolve? query.hasMany .hasMany resolved) source
          = .error (.malformedDn dn piece) := h
      obtain ⟨relation, hrelation, hbase⟩ := Relation.outcome_resolve?_malformedDn_iff.mp hsecond
      rw [Relation.callsOf_resolve?_of_ok hfirst, callsAfter,
        Relation.callsOf_resolve?_of_malformedDn hsecond, List.append_nil]
      exact ⟨relation, .hasMany hfirst hrelation, hbase⟩

/-- A malformed base that is reached ends the query, with no calls but those that led there. -/
theorem malformedDn_of_reaches {relation : Relation} {lookups : List Call} {dn piece : Text}
    (hreaches : query.Reaches source records relation lookups)
    (hbase : Dn.leafLabel relation.base = .error (.malformedDn dn piece)) :
    outcome (query.relate records) source = .error (.malformedDn dn piece) ∧
      callsOf (query.relate records) source = lookups := by
  rw [outcome_relate, callsOf_relate]
  cases hreaches with
  | belongsTo h =>
      have hfirst : outcome (Relation.resolve? query.belongsTo .belongsTo records) source
          = .error (.malformedDn dn piece) :=
        Relation.outcome_resolve?_malformedDn_iff.mpr ⟨relation, h, hbase⟩
      rw [hfirst, Relation.callsOf_resolve?_of_malformedDn hfirst]
      exact ⟨rfl, rfl⟩
  | @hasMany resolved hfirst h =>
      have hsecond : outcome (Relation.resolve? query.hasMany .hasMany resolved) source
          = .error (.malformedDn dn piece) :=
        Relation.outcome_resolve?_malformedDn_iff.mpr ⟨relation, h, hbase⟩
      rw [hfirst, Relation.callsOf_resolve?_of_ok hfirst, callsAfter,
        Relation.callsOf_resolve?_of_malformedDn hsecond, List.append_nil]
      exact ⟨hsecond, rfl⟩

end Query

namespace Model

variable {model : Model} {query : Query} {source after : Directory}

/-- **A malformed base is noticed after the search.** A query fails because of a malformed name
    exactly when it is one for records, its search succeeds and finds some, and a base that it
    reaches is malformed in this way. The directory has then logged the search and the lookups
    that led there, and is otherwise as it was. -/
theorem find_malformedDn_iff (model : Model) (query : Query) (source after : Directory)
    (dn piece : Text) :
    model.find query source = (.error (.malformedDn dn piece), after)
      ↔ ∃ entries relation lookups, query.ForRecords ∧
          model.found query source = .ok entries ∧ entries ≠ [] ∧
          query.Reaches source (model.recordsOf query entries) relation lookups ∧
          Dn.leafLabel relation.base = .error (.malformedDn dn piece) ∧
          after = { source with
            calls := source.calls ++ model.searchCall query :: lookups } := by
  rw [(model.reads_find query).run source, outcome_find, callsOf_find]
  constructor
  · intro h
    have houtcome := congrArg Prod.fst h
    have hafter := congrArg Prod.snd h
    cases hfound : model.found query source with
    | error e =>
        rw [hfound] at houtcome
        have he : e = .malformedDn dn piece := Except.error.inj houtcome
        rw [he] at hfound
        exact (ofReading_of_searchAnswer hfound).elim
    | ok entries =>
        rw [hfound] at houtcome hafter
        obtain ⟨hrecords, hentries, hrelate⟩ := outcome_answer_error_iff.mp houtcome
        obtain ⟨relation, hreaches, hbase⟩ := Query.reaches_of_malformedDn hrelate
        rw [callsAfter, (performs_answer hrecords model hentries source).callsOf_eq] at hafter
        exact ⟨entries, relation, _, hrecords, rfl, hentries, hreaches, hbase, hafter.symm⟩
  · rintro ⟨entries, relation, lookups, hrecords, hfound, hentries, hreaches, hbase, hafter⟩
    obtain ⟨hrelate, hcalls⟩ := Query.malformedDn_of_reaches hreaches hbase
    have houtcome : outcome (model.answer query entries) source = .error (.malformedDn dn piece) :=
      outcome_answer_error_iff.mpr ⟨hrecords, hentries, hrelate⟩
    rw [hfound, callsAfter, (performs_answer hrecords model hentries source).callsOf_eq, hcalls,
      hafter]
    exact Prod.ext houtcome rfl

/-- A base without an equals sign is not noticed before the search: one entry is found, and the
    call is in the log when the query fails. -/
theorem find_malformedDn_after_search :
    let model := Model.ofName "person" "ou=People,dc=x"
    let query := { Query.ofType .first with
      belongsTo := some ⟨"memberof", "dn", "People", []⟩ }
    let source := { Directory.ofIdentity "memory://people" with
      entries := [⟨"uid=ann,ou=People,dc=x", [⟨"uid", ["ann"]⟩]⟩] }
    (model.find query source).1 = .error (.malformedDn "People" "People") ∧
      (model.find query source).2.calls ≠ source.calls := by
  intro model query source
  exact ⟨rfl, by decide⟩

end Model

end DirectoryRecords
