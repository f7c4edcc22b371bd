import DirectoryRecords.Proofs.QueryRuns

/-!
# Limits and orders — which records a limited query answers

    A limit goes with the search, which counts matches as they are stored; the
    order is applied afterwards, to what the search has sent. So a limited
    query answers with the first matches stored and not with the first ones of
    the order (`outcome_find_atMost`, `outcome_find_one`).

    The two are the same where the order puts no later match in front of one
    of the first: then taking the first matches and ordering them is ordering
    all and taking the first (`find_limited`).
-/

namespace DirectoryRecords

open Text Directory

namespace FindResult

/-- The answer of a query for all records. -/
def ofAll (records : List ShapedRecord) : FindResult :=
  if records.isEmpty then .empty else .all records

/-- The answer of a query for the first of some records. -/
def ofFirst (records : List ShapedRecord) : FindResult :=
  (records.head?.map .first).getD .empty

/-- The first record of an answer with all of them. -/
def head : FindResult → FindResult
  | all records => ofFirst records
  | other => other

/-- The first records of an answer with all of them. -/
def take (n : Nat) : FindResult → FindResult
  | all records => ofAll (records.take n)
  | other => other

theorem records_ofAll (records : List ShapedRecord) : (ofAll records).records = records := by
  cases records with
  | nil => rfl
  | cons first rest => rfl

theorem ofFirst_of_any (records : List ShapedRecord) :
    (if records.isEmpty then empty else ofFirst records) = ofFirst records := by
  cases records with
  | nil => rfl
  | cons first rest => rfl

theorem ofFirst_take (records : List ShapedRecord) :
    ofFirst (records.take 1) = ofFirst records := by
  cases records with
  | nil => rfl
  | cons first rest => rfl

theorem head_ofAll (records : List ShapedRecord) : (ofAll records).head = ofFirst records := by
  cases records with
  | nil => rfl
  | cons first rest => rfl

theorem take_ofAll (n : Nat) (records : List ShapedRecord) :
    (ofAll records).take n = ofAll (records.take n) := by
  cases records with
  | nil =>
      rw [List.take_nil]
      rfl
  | cons first rest => rfl

end FindResult

namespace Query

variable {query : Query}

/-- The query for all matches, without a limit. -/
def every (query : Query) : Query := { query with queryType := .all, limit := none }

/-- The query for all matches up to a limit. -/
def atMost (query : Query) (n : Nat) : Query := { query with queryType := .all, limit := some n }

/-- The query for the first match. -/
def one (query : Query) : Query := { query with queryType := .first }

/-- A query that follows no relations. -/
def Unrelated (query : Query) : Prop :=
  query.belongsTo = none ∧ query.hasMany = none

/-- In the order of the query, each of the first entries may precede every later one. -/
def Foremost (query : Query) (n : Nat) (entries : List Entry) : Prop :=
  ∀ a ∈ entries.take n, ∀ b ∈ entries.drop n, Entry.mayPrecede query.order a b = true

instance (query : Query) (n : Nat) (entries : List Entry) :
    Decidable (query.Foremost n entries) :=
  inferInstanceAs (Decidable (∀ a ∈ entries.take n, ∀ b ∈ entries.drop n, _ = true))

theorem relate_of_unrelated (h : query.Unrelated) (records : List ShapedRecord) :
    query.relate records = pure records := by
  rw [relate, h.1, h.2]
  rfl

end Query

namespace Model

variable {model : Model} {query : Query} {source : Directory}

/-! ## What is found -/

/-- A limit takes the first entries of those that are found without it. -/
theorem searchAnswer_some (source : Directory) (base filter : Text) (attributes : List Text)
    (n : Nat) :
    source.searchAnswer base filter attributes (some n)
      = (source.searchAnswer base filter attributes none).map (List.take n) :=
  searchAnswer_eq_map fun _ => List.map_take

theorem found_atMost (model : Model) (query : Query) {n : Nat} (hn : 0 < n) (source : Directory) :
    model.found (query.atMost n) source
      = (model.found query.every source).map (List.take n) := by
  have hlimit : (query.atMost n).effectiveLimit = some n := by
    simp [Query.effectiveLimit, Query.atMost, hn]
  rw [found, hlimit]
  exact searchAnswer_some source model.baseDn query.conditions.compile
    (model.projection query.every) n

theorem found_one (model : Model) (query : Query) (source : Directory) :
    model.found query.one source = (model.found query.every source).map (List.take 1) :=
  searchAnswer_some source model.baseDn query.conditions.compile (model.projection query.every) 1

/-! ## What is answered -/

theorem recordsOf_singleton (model : Model) (query : Query) (entry : Entry) :
    model.recordsOf query [entry] = [.ofRecord (titleCase model.name) entry.normalize] := by
  rw [recordsOf, Entry.sort_singleton]
  rfl

theorem outcome_find_of_unrelated (model : Model) (query : Query) (h : query.Unrelated)
    (hrecords : query.ForRecords) (source : Directory) :
    outcome (model.find query) source
      = (model.found query source).map fun entries =>
          if (model.recordsOf query entries).isEmpty then .empty
          else query.shape (model.recordsOf query entries) := by
  rw [outcome_find]
  cases model.found query source with
  | error e => rfl
  | ok entries =>
      show outcome (model.answer query entries) source = .ok (if _ then _ else _)
      rw [outcome_answer hrecords, Query.relate_of_unrelated h, isEmpty_recordsOf]
      cases entries.isEmpty with
      | true => rfl
      | false => rfl

/-- Without a limit all matches are answered, in the order of the query. -/
theorem outcome_find_every (h : query.Unrelated) (model : Model) (source : Directory) :
    outcome (model.find query.every) source
      = (model.found query.every source).map fun entries =>
          .ofAll (model.recordsOf query entries) :=
  outcome_find_of_unrelated model query.every h (.inr rfl) source

/-- With a limit the first matches that are stored are answered, in the order of the query. -/
theorem outcome_find_atMost (h : query.Unrelated) {n : Nat} (hn : 0 < n) (model : Model)
    (source : Directory) :
    outcome (model.find (query.atMost n)) source
      = (model.found query.every source).map fun entries =>
          .ofAll (model.recordsOf query (entries.take n)) := by
  rw [outcome_find_of_unrelated model (query.atMost n) h (.inr rfl), found_atMost model query hn]
  cases model.found query.every source with
  | error e => rfl
  | ok entries => rfl

/-- The first match is the first one that is stored. -/
theorem outcome_find_one (h : query.Unrelated) (model : Model) (source : Directory) :
    outcome (model.find query.one) source
      = (model.found query.every source).map fun entries =>
          .ofFirst (model.recordsOf query (entries.take 1)) := by
  rw [outcome_find_of_unrelated model query.one h (.inl rfl), found_one]
  cases model.found query.every source with
  | error e => rfl
  | ok entries =>
      show Except.ok (if _ then FindResult.empty else FindResult.ofFirst _) = Except.ok _
      rw [FindResult.ofFirst_of_any]
      rfl

/-! ## Limits and orders -/

/-- Where the first matches are the foremost ones, putting them in order is taking them from the
    order. -/
theorem recordsOf_take {n : Nat} {entries : List Entry} (h : query.Foremost n entries)
    (model : Model) :
    model.recordsOf query (entries.take n) = (model.recordsOf query entries).take n := by
  rw [recordsOf, recordsOf, ← List.map_take, (Entry.take_sort_iff query.order entries n).mpr h]

/-- **A limit counts matches as they are stored.** Without a limit, a query without relations
    answers all matches in the order of the query, with a limit the first matches that are stored,
    ordered among themselves, and a query for the first match the one stored first; if the search
    fails, all three fail with its error. Where the order puts no later match in front of one of
    the first, a limited query answers the first records of the unlimited one, and a query for the
    first match its head. -/
theorem find_limited (h : query.Unrelated) (model : Model) (source : Directory) :
    let stored := model.found query.every source
    outcome (model.find query.every) source
        = stored.map (fun entries => .ofAll (model.recordsOf query entries)) ∧
      outcome (model.find query.one) source
        = stored.map (fun entries => .ofFirst (model.recordsOf query (entries.take 1))) ∧
      (∀ n > 0, outcome (model.find (query.atMost n)) source
        = stored.map fun entries => .ofAll (model.recordsOf query (entries.take n))) ∧
      ((∀ entries, stored = .ok entries → query.Foremost 1 entries) →
        outcome (model.find query.one) source
          = (outcome (model.find query.every) source).map FindResult.head) ∧
      ∀ n > 0, (∀ entries, stored = .ok entries → query.Foremost n entries) →
        outcome (model.find (query.atMost n)) source
          = (outcome (model.find query.every) source).map (FindResult.take n) := by
  refine ⟨outcome_find_every h model source, outcome_find_one h model source,
    fun n hn => outcome_find_atMost h hn model source, ?_, ?_⟩
  · intro hforemost
    rw [outcome_find_one h, outcome_find_every h]
    cases hfound : model.found query.every source with
    | error e => rfl
    | ok entries =>
        show Except.ok (FindResult.ofFirst (model.recordsOf query (entries.take 1)))
          = Except.ok (FindResult.head (.ofAll (model.recordsOf query entries)))
        rw [recordsOf_take (hforemost entries hfound), FindResult.head_ofAll,
          FindResult.ofFirst_take]
  · intro n hn hforemost
    rw [outcome_find_atMost h hn, outcome_find_every h]
    cases hfound : model.found query.every source with
    | error e => rfl
    | ok entries =>
        show Except.ok (FindResult.ofAll (model.recordsOf query (entries.take n)))
          = Except.ok (FindResult.take n (.ofAll (model.recordsOf query entries)))
        rw [recordsOf_take (hforemost entries hfound), FindResult.take_ofAll]

/-- Stored in order, the first of two people is the first of the order, with a limit as well. -/
theorem find_limited_in_order :
    let model := Model.ofName "person" "ou=People,dc=x"
    let query := { Query.ofType .all with order := some "uid" }
    let person (uid : String) : Entry := ⟨"uid=".toList ++ uid.toList ++ ",ou=People,dc=x".toList,
      [⟨"uid", [uid.toList]⟩]⟩
    let source := { ofIdentity "memory://people" with entries := [person "ann", person "bob"] }
    query.Unrelated ∧
      outcome (model.find query.one) source
        = .ok (.first (.ofRecord "Person" (person "ann").normalize)) ∧
      outcome (model.find query.one) source
        = (outcome (model.find query.every) source).map FindResult.head ∧
      outcome (model.find (query.atMost 1)) source
        = (outcome (model.find query.every) source).map (FindResult.take 1) := by
  intro model query person source
  have hunrelated : query.Unrelated := ⟨rfl, rfl⟩
  obtain ⟨_, hone, _, hhead, htake⟩ := find_limited hunrelated model source
  have hforemost : ∀ entries, model.found query.every source = .ok entries →
      query.Foremost 1 entries := by
    intro entries hentries
    have hfound : model.found query.every source = .ok [person "ann", person "bob"] := rfl
    rw [← Except.ok.inj (hfound.symm.trans hentries)]
    decide
  refine ⟨hunrelated, ?_, hhead hforemost, htake 1 Nat.one_pos hforemost⟩
  rw [hone]
  show Except.ok (FindResult.ofFirst (model.recordsOf query [person "ann"])) = _
  rw [recordsOf_singleton]
  rfl

/-- Stored the other way round, the first match is the second one of the order. -/
theorem find_one_not_head :
    let model := Model.ofName "person" "ou=People,dc=x"
    let query := { Query.ofType .all with order := some "uid" }
    let person (uid : String) : Entry := ⟨"uid=".toList ++ uid.toList ++ ",ou=People,dc=x".toList,
      [⟨"uid", [uid.toList]⟩]⟩
    let source := { ofIdentity "memory://people" with entries := [person "bob", person "ann"] }
    query.Unrelated ∧
      outcome (model.find query.one) source
        ≠ (outcome (model.find query.every) source).map FindResult.head := by
  intro model query person source
  have hunrelated : query.Unrelated := ⟨rfl, rfl⟩
  have hsorted : Entry.sort query.order [person "bob", person "ann"]
      = [person "ann", person "bob"] := by
    rw [Entry.sort_cons, Entry.sort_singleton]
    rfl
  have hrecords : model.recordsOf query [person "bob", person "ann"]
      = [.ofRecord "Person" (person "ann").normalize,
          .ofRecord "Person" (person "bob").normalize] := by
    rw [recordsOf, hsorted]
    rfl
  refine ⟨hunrelated, ?_⟩
  rw [outcome_find_one hunrelated, outcome_find_every hunrelated]
  show Except.ok (FindResult.ofFirst (model.recordsOf query [person "bob"]))
    ≠ Except.ok (FindResult.head (.ofAll (model.recordsOf query [person "bob", person "ann"])))
  rw [recordsOf_singleton, hrecords]
  exact fun h => absurd (Except.ok.inj h) (by decide)

end Model

end DirectoryRecords
