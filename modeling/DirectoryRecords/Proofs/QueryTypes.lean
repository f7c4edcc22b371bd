import DirectoryRecords.Proofs.OrderedLimit

/-!
# Query types — one search, whatever is made of its matches

    The type of a query decides what becomes of the entries that its search
    finds, and not which ones these are: a query for a number makes the same
    search as one for all records (`found_count`), and a query for the first
    record makes it with a limit of one.

    So the number is that of the records (`outcome_find_count`), as neither
    the order nor the rewriting of entries loses one. The first record is the
    head of all of them where the query has no order of its own
    (`outcome_find_one_of_unordered`): it is the first match that is stored,
    and so are all matches in the order in which they are stored. Both look-ups
    by a value are queries of this kind.
-/

namespace DirectoryRecords

open Text Directory

namespace Query

variable {query : Query}

/-- The query with the same settings and another type. -/
def withType (query : Query) (queryType : QueryType) : Query := { query with queryType }

/-- Without an order every match may stand in front of every other one. -/
theorem foremost_of_unordered (h : query.order = none) (n : Nat) (entries : List Entry) :
    query.Foremost n entries := by
  intro a _ b _
  rw [h]
  rfl

end Query

namespace FindResult

theorem first?_ofFirst (records : List ShapedRecord) :
    (ofFirst records).first? = records.head? := by
  cases records with
  | nil => rfl
  | cons first rest => rfl

theorem ofAll_eq_empty_iff (records : List ShapedRecord) :
    ofAll records = .empty ↔ records = [] := by
  cases records with
  | nil => exact ⟨fun _ => rfl, fun _ => rfl⟩
  | cons first rest => exact ⟨nofun, nofun⟩

end FindResult

namespace Model

variable {query : Query}

/-! ## Numbers -/

/-- A query for a number makes the search of the query for all records. -/
theorem found_count (model : Model) (query : Query) (source : Directory) :
    model.found (query.withType .count) source = model.found (query.withType .all) source := rfl

theorem length_recordsOf (model : Model) (query : Query) (entries : List Entry) :
    (model.recordsOf query entries).length = entries.length := by
  rw [recordsOf, List.length_map]
  exact (Entry.sort_perm query.order entries).length_eq

/-- A query for a number answers with that of the entries found. -/
theorem outcome_find_count (model : Model) (query : Query) (source : Directory) :
    outcome (model.find (query.withType .count)) source
      = (model.found (query.withType .all) source).map fun entries => .count entries.length := by
  rw [outcome_find, found_count]
  cases model.found (query.withType .all) source with
  | error e => rfl
  | ok entries =>
      show outcome (model.answer (query.withType .count) entries) source = _
      rw [answer_of_count rfl]
      rfl

/-- A query for all records answers with those of the entries found. -/
theorem outcome_find_all (h : query.Unrelated) (model : Model) (source : Directory) :
    outcome (model.find (query.withType .all)) source
      = (model.found (query.withType .all) source).map fun entries =>
          .ofAll (model.recordsOf query entries) :=
  outcome_find_of_unrelated model (query.withType .all) h (.inr rfl) source

/-! ## First records -/

/-- Without an order, the first match is the first of all matches. -/
theorem outcome_find_one_of_unordered (h : query.Unrelated) (horder : query.order = none)
    (model : Model) (source : Directory) :
    outcome (model.find query.one) source
      = (outcome (model.find query.every) source).map FindResult.head := by
  rw [outcome_find_one h, outcome_find_every h]
  cases model.found query.every source with
  | error e => rfl
  | ok entries =>
      show Except.ok (FindResult.ofFirst (model.recordsOf query (entries.take 1)))
        = Except.ok (FindResult.head (.ofAll (model.recordsOf query entries)))
      rw [recordsOf_take (query.foremost_of_unordered horder 1 entries), FindResult.head_ofAll,
        FindResult.ofFirst_take]

/-- The first record with a value is the first of all records with it. -/
theorem outcome_findBy_eq_head (model : Model) (name value : Text) (source : Directory) :
    outcome (model.findBy name value) source
      = (outcome (model.findAllBy name value) source).map List.head? := by
  let query := { Query.ofType .all with conditions := .equals name value }
  have halone : query.Unrelated := ⟨rfl, rfl⟩
  rw [outcome_findBy_eq_map, outcome_findAllBy_eq_map]
  show (outcome (model.find query.one) source).map FindResult.first?
    = ((outcome (model.find query.every) source).map FindResult.records).map List.head?
  rw [outcome_find_one_of_unordered halone rfl, outcome_find_every halone]
  cases model.found query.every source with
  | error e => rfl
  | ok entries =>
      show Except.ok (FindResult.ofAll (model.recordsOf query entries)).head.first?
        = Except.ok (FindResult.ofAll (model.recordsOf query entries)).records.head?
      rw [FindResult.head_ofAll, FindResult.first?_ofFirst, FindResult.records_ofAll]

/-! ## All types -/

/-- **The types of a query agree on what matched.** Without relations, a query for a number fails
    with the error of the query for all records with the same settings, or answers with the number
    of its records, which is zero just if that one answers that there are none. And the first record
    with a value of an attribute is the head of all records with this value, or both fail with the
    same error. -/
theorem find_types_agree (h : query.Unrelated) (model : Model) (source : Directory) :
    outcome (model.find (query.withType .count)) source
        = (outcome (model.find (query.withType .all)) source).map
            (fun result => .count result.records.length) ∧
      (outcome (model.find (query.withType .count)) source = .ok (.count 0)
        ↔ outcome (model.find (query.withType .all)) source = .ok .empty) ∧
      ∀ name value : Text,
        outcome (model.findBy name value) source
          = (outcome (model.findAllBy name value) source).map List.head? := by
  rw [outcome_find_count, outcome_find_all h]
  refine ⟨?_, ?_, fun name value => model.outcome_findBy_eq_head name value source⟩
  · cases model.found (query.withType .all) source with
    | error e => rfl
    | ok entries =>
        show Except.ok (FindResult.count entries.length)
          = .ok (.count (FindResult.ofAll (model.recordsOf query entries)).records.length)
        rw [FindResult.records_ofAll, length_recordsOf]
  · cases model.found (query.withType .all) source with
    | error e => exact ⟨nofun, nofun⟩
    | ok entries =>
        show Except.ok (FindResult.count entries.length) = .ok (.count 0)
          ↔ Except.ok (FindResult.ofAll (model.recordsOf query entries)) = .ok .empty
        rw [Except.ok.injEq, Except.ok.injEq, FindResult.count.injEq,
          FindResult.ofAll_eq_empty_iff, ← List.length_eq_zero_iff, length_recordsOf]

/-- Of two people in one order, a limit lets the first one stored through, and the number is one;
    the other one is found by its value in other letters. -/
theorem find_types_agree_limited :
    let model := Model.ofName "person" "ou=People,dc=x"
    let query := { Query.ofType .all with limit := some 1, order := some "uid" }
    let person (uid : String) : Entry := ⟨"uid=".toList ++ uid.toList ++ ",ou=People,dc=x".toList,
      [⟨"uid", [uid.toList]⟩]⟩
    let record (uid : String) := ShapedRecord.ofRecord "Person" (person uid).normalize
    let source := { ofIdentity "memory://people" with entries := [person "bob", person "ann"] }
    query.Unrelated ∧
      outcome (model.find (query.withType .all)) source = .ok (.all [record "bob"]) ∧
      outcome (model.find (query.withType .count)) source = .ok (.count 1) ∧
      outcome (model.findAllBy "uid" "ANN") source = .ok [record "ann"] ∧
      outcome (model.findBy "uid" "ANN") source = .ok (some (record "ann")) := by
  intro model query person record source
  have hunrelated : query.Unrelated := ⟨rfl, rfl⟩
  obtain ⟨hcount, -, hfirst⟩ := find_types_agree hunrelated model source
  have hall : outcome (model.find (query.withType .all)) source = .ok (.all [record "bob"]) := by
    rw [outcome_find_all hunrelated]
    show Except.ok (FindResult.ofAll (model.recordsOf query [person "bob"])) = _
    rw [recordsOf_singleton]
    rfl
  have hvalue : outcome (model.findAllBy "uid" "ANN") source = .ok [record "ann"] := rfl
  refine ⟨hunrelated, hall, ?_, hvalue, ?_⟩
  · rw [hcount, hall]
    rfl
  · rw [hfirst, hvalue]
    rfl

end Model

end DirectoryRecords
