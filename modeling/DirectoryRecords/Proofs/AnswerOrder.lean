import DirectoryRecords.Proofs.QueryTypes
import DirectoryRecords.Proofs.RelationProjection

/-!
# Answer order — the order of an answer, whatever is asked for

    An answer is put in order when the projection has already taken attributes
    away, and still it has the order of the entries as they are stored: the
    attribute of the order is always asked for, so its first value is there to
    be compared, and where it is missing it was missing before.

    The matches do not depend on the projection either. So the names of all
    matches come in one sequence (`dns_find`): that of the stored entries in
    the stable order of their keys, of which there is only one.
-/

namespace DirectoryRecords

open Text Directory

/-- The names of the records of an answer, in their order. -/
def FindResult.dns (result : FindResult) : List Text :=
  result.records.map (·.record.dn)

namespace Model

variable {query : Query}

/-- Without a limit, everything matches that lies below the base and passes the filter. -/
theorem matched_eq_ok_iff (hlimit : query.effectiveLimit = none) {model : Model}
    {source : Directory} {matching : List Entry} :
    model.matched query source = .ok matching
      ↔ source.searchesFail = false ∧
          ∃ filter, Filter.read query.conditions.compile = .ok filter ∧
            (source.entries.filter fun entry =>
              entry.inSubtree model.baseDn && Filter.holds entry filter) = matching := by
  have hall (found : List Entry) : found.map (Entry.project []) = found := List.map_id found
  rw [matched, hlimit, searchAnswer_eq_ok_iff]
  simp only [select, hall]

theorem exists_matched_iff (hlimit : query.effectiveLimit = none) {model : Model}
    {source : Directory} :
    (∃ matching, model.matched query source = .ok matching)
      ↔ source.searchesFail = false ∧
          ∃ filter, Filter.read query.conditions.compile = .ok filter := by
  simp only [matched_eq_ok_iff hlimit, exists_and_left]
  refine and_congr_right fun _ => ?_
  constructor
  · rintro ⟨_, filter, hfilter, _⟩
    exact ⟨filter, hfilter⟩
  · rintro ⟨filter, hfilter⟩
    exact ⟨_, filter, hfilter, rfl⟩

/-- The names of all matches are those of the stored entries in order, or the search fails. -/
theorem dns_find (h : query.Unrelated) (hall : query.queryType = .all) (model : Model)
    (source : Directory) :
    (outcome (model.find query) source).map FindResult.dns
      = (model.matched query source).map fun matching =>
          (Entry.sort query.order matching).map Entry.dn := by
  have hquery : query.withType .all = query := by
    rw [← hall]
    rfl
  have hfind := outcome_find_all h model source
  rw [hquery] at hfind
  rw [hfind, found_eq_matched]
  cases model.matched query source with
  | error e => rfl
  | ok matching =>
      have hdn (entry : Entry) : (entry.project (model.projection query)).dn = entry.dn := by
        rw [Entry.project_eq]
      show Except.ok (FindResult.dns (.ofAll (model.recordsOf query (matching.map _)))) = .ok _
      rw [FindResult.dns, FindResult.records_ofAll, recordsOf_project, List.map_map]
      exact congrArg Except.ok (List.map_congr_left fun entry _ => hdn entry)

/-- **The order of an answer is that of the stored entries.** A query for all records, without a
    limit and without relations, succeeds whatever is wanted, if searches do and its conditions
    can be read. The names in its answer are then those of all stored entries that match, in the
    stable order of the first values that they have stored under the attribute of the order: an
    entry without the attribute or without a value in it counts as having the empty text. So they
    come in one sequence, whatever is wanted. -/
theorem find_in_stable_order (h : query.Unrelated) (hall : query.queryType = .all)
    (hlimit : query.effectiveLimit = none) {name : Text} (horder : query.order = some name)
    (model : Model) (source : Directory) :
    (∀ wanted, (∃ result, outcome (model.find (query.wanting wanted)) source = .ok result)
      ↔ source.searchesFail = false ∧
          ∃ filter, Filter.read query.conditions.compile = .ok filter) ∧
    (∀ wanted result, outcome (model.find (query.wanting wanted)) source = .ok result →
      ∃ filter ordered, Filter.read query.conditions.compile = .ok filter ∧
        Entry.StableOrder (Entry.sortKey name)
          (source.entries.filter fun entry =>
            entry.inSubtree model.baseDn && Filter.holds entry filter) ordered ∧
        result.dns = ordered.map Entry.dn) ∧
    ∀ wanted wanted', (outcome (model.find (query.wanting wanted)) source).map FindResult.dns
      = (outcome (model.find (query.wanting wanted')) source).map FindResult.dns := by
  -- What is wanted is no part of what matches, nor of the order.
  have hdns (wanted : FieldList) :
      (outcome (model.find (query.wanting wanted)) source).map FindResult.dns
        = (model.matched query source).map fun matching =>
            (Entry.sort (some name) matching).map Entry.dn := by
    have hunrelated : (query.wanting wanted).Unrelated := h
    rw [← horder]
    exact dns_find hunrelated hall model source
  refine ⟨fun wanted => ?_, fun wanted result hresult => ?_, fun wanted wanted' => ?_⟩
  · rw [← exists_matched_iff hlimit]
    constructor
    · rintro ⟨result, hresult⟩
      have hnames := hdns wanted
      rw [hresult] at hnames
      obtain ⟨matching, hmatching, -⟩ := exists_ok_of_map hnames.symm
      exact ⟨matching, hmatching⟩
    · rintro ⟨matching, hmatching⟩
      have hnames := hdns wanted
      rw [hmatching] at hnames
      obtain ⟨result, hresult, -⟩ := exists_ok_of_map hnames
      exact ⟨result, hresult⟩
  · have hnames := hdns wanted
    rw [hresult] at hnames
    obtain ⟨matching, hmatching, hordered⟩ := exists_ok_of_map hnames.symm
    obtain ⟨-, filter, hfilter, rfl⟩ := (matched_eq_ok_iff hlimit).mp hmatching
    exact ⟨filter, _, hfilter, Entry.stableOrder_sort name _, hordered.symm⟩
  · rw [hdns, hdns]

/-- People of one surname stay as they are stored, one without a value in it comes first, and only
    the first of two surnames counts. None of this is wanted, and the model includes something
    else. -/
theorem find_in_stable_order_of_surnames :
    let model := { Model.ofName "person" "ou=People,dc=x" with defaultFields := ["mail"] }
    let query := { Query.ofType .all with order := some "SN", limit := some 0 }
    let person (uid : String) (surnames : List Text) : Entry :=
      ⟨"uid=".toList ++ uid.toList ++ ",ou=People,dc=x".toList, [⟨"Sn", surnames⟩]⟩
    let ann := person "ann" ["Lee"]
    let bob := person "bob" []
    let cid := person "cid" ["Lee", "Abe"]
    let dan := person "dan" ["Abe"]
    let source := { ofIdentity "memory://people" with entries := [ann, bob, cid, dan] }
    let names (wanted : FieldList) :=
      (outcome (model.find (query.wanting wanted)) source).map FindResult.dns
    query.Unrelated ∧ query.effectiveLimit = none ∧
      names (.list ["uid"]) = .ok [bob.dn, dan.dn, ann.dn, cid.dn] ∧
      names .unset = names (.list ["uid"]) := by
  intro model query person ann bob cid dan source names
  have hunrelated : query.Unrelated := ⟨rfl, rfl⟩
  obtain ⟨hsucceeds, hordered, hsame⟩ :=
    find_in_stable_order hunrelated rfl (by rfl) rfl model source
  refine ⟨hunrelated, rfl, ?_, hsame .unset (.list ["uid"])⟩
  have hsorted : Entry.sort (some "SN") source.entries = [bob, dan, ann, cid] := by
    show Entry.sort (some "SN") [ann, bob, cid, dan] = _
    rw [Entry.sort_cons, Entry.sort_cons, Entry.sort_cons, Entry.sort_singleton]
    decide
  obtain ⟨result, hresult⟩ := (hsucceeds (.list ["uid"])).mpr ⟨rfl, .present "objectClass", rfl⟩
  obtain ⟨filter, ordered, hfilter, hstable, hnames⟩ := hordered (.list ["uid"]) result hresult
  obtain rfl : .present "objectClass" = filter := Except.ok.inj hfilter
  have hstored := Entry.stableOrder_sort "SN" source.entries
  rw [hsorted] at hstored
  rw [hstable.eq hstored] at hnames
  show (outcome (model.find (query.wanting (.list ["uid"]))) source).map FindResult.dns = _
  rw [hresult]
  exact congrArg Except.ok hnames

end Model

end DirectoryRecords
