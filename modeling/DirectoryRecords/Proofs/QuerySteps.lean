import DirectoryRecords.Proofs.MalformedBase

/-!
# Query steps — the calls of a query in order, and where it stops

    What a query will do can be written down before it is run. It is a list of
    steps: the search, then for each relation a look at its base and one
    lookup for each value of a local key. A step makes one call or none, and
    it may fail; steps are taken in order up to the first that fails
    (`Step.exists_of_failure`).

    * An action `Follows` steps if its calls are those of the steps that are
      taken, and its failure is theirs. Actions in a row follow their steps in
      a row (`follows_bind`), and so do actions for the elements of a list
      (`follows_mapM`, by induction on the list).
    * From a single lookup up to the whole query each function has its steps
      and follows them (`follows_lookup` to `follows_find`). The steps are
      read off the records that the search found: what a relation attaches
      does not matter to the next one.
    * So the log and the failures of a query are known, and with what it
      answers where nothing was found they make up the main result
      (`find_by_steps`).
-/

namespace DirectoryRecords

open Text Directory

/-- The error of an outcome that is a failure. -/
def failureOf {α : Type} : Except Error α → Option Error
  | .ok _ => none
  | .error e => some e

theorem failureOf_eq_some_iff {α : Type} {result : Except Error α} {e : Error} :
    failureOf result = some e ↔ result = .error e := by
  cases result with
  | ok answer => exact ⟨nofun, nofun⟩
  | error e' =>
      constructor
      · intro h
        exact congrArg Except.error (Option.some.inj h)
      · intro h
        exact congrArg some (Except.error.inj h)

theorem failureOf_map {α β : Type} (result : Except Error α) (f : α → β) :
    failureOf (result.map f) = failureOf result := by
  cases result with
  | ok answer => rfl
  | error e => rfl

/-! ## Steps -/

/-- Something an action does: the call it makes, if it makes one, and how it fails, if it does. -/
structure Step where
  call? : Option Call
  failure? : Option Error

namespace Step

/-- The step of a call and what the directory answers. -/
def asks {α : Type} (call : Call) (answer : Except Error α) : Step := ⟨some call, failureOf answer⟩

/-- The step of a check that needs no call. -/
def checks {α : Type} (result : Except Error α) : Step := ⟨none, failureOf result⟩

/-- The calls of steps that are taken in order, up to and with the first that fails. -/
def calls : List Step → List Call
  | [] => []
  | step :: rest =>
    step.call?.toList ++
      match step.failure? with
      | some _ => []
      | none => calls rest

/-- How steps that are taken in order fail, if one of them does. -/
def failure (steps : List Step) : Option Error :=
  steps.findSome? (·.failure?)

theorem failure_append (first second : List Step) :
    failure (first ++ second) = (failure first).or (failure second) :=
  List.findSome?_append

theorem calls_append_of_failure {first : List Step} {e : Error} (h : failure first = some e)
    (second : List Step) : calls (first ++ second) = calls first := by
  induction first with
  | nil => exact nomatch h
  | cons step rest ih =>
      rw [failure, List.findSome?_cons] at h
      rw [List.cons_append, calls, calls]
      cases hstep : step.failure? with
      | some e' => rfl
      | none =>
          rw [hstep] at h
          exact congrArg (step.call?.toList ++ ·) (ih h)

theorem calls_append_of_success {first : List Step} (h : failure first = none)
    (second : List Step) : calls (first ++ second) = calls first ++ calls second := by
  induction first with
  | nil => rfl
  | cons step rest ih =>
      rw [failure, List.findSome?_cons] at h
      rw [List.cons_append, calls, calls]
      cases hstep : step.failure? with
      | some e =>
          rw [hstep] at h
          exact nomatch h
      | none =>
          rw [hstep] at h
          rw [List.append_assoc]
          exact congrArg (step.call?.toList ++ ·) (ih h)

/-- Steps that all succeed make all of their calls. -/
theorem calls_of_success {steps : List Step} (h : failure steps = none) :
    calls steps = steps.filterMap (·.call?) := by
  induction steps with
  | nil => rfl
  | cons step rest ih =>
      rw [failure, List.findSome?_eq_none_iff] at h
      have hstep : step.failure? = none := h step List.mem_cons_self
      have hrest : failure rest = none :=
        List.findSome?_eq_none_iff.mpr fun other hmem => h other (List.mem_cons_of_mem step hmem)
      rw [calls, hstep, List.filterMap_cons]
      show step.call?.toList ++ calls rest = _
      rw [ih hrest]
      cases step.call? with
      | none => rfl
      | some call => rfl

/-- Steps that fail do so at one of them, after steps that all succeed; they make the calls up to
    there. -/
theorem exists_of_failure {steps : List Step} {e : Error} (h : failure steps = some e) :
    ∃ before step after, steps = before ++ step :: after ∧ failure before = none ∧
      step.failure? = some e ∧ calls steps = (before ++ [step]).filterMap (·.call?) := by
  obtain ⟨before, step, after, hsteps, hstep, hbefore⟩ := List.findSome?_eq_some_iff.mp h
  have hsuccess : failure before = none := List.findSome?_eq_none_iff.mpr hbefore
  refine ⟨before, step, after, hsteps, hsuccess, hstep, ?_⟩
  rw [hsteps, calls_append_of_success hsuccess, calls_of_success hsuccess, List.filterMap_append,
    calls, hstep]
  cases hcall : step.call? with
  | none => rw [List.filterMap_cons_none hcall]; rfl
  | some call => rw [List.filterMap_cons_some hcall]; rfl

end Step

/-! ## Actions that follow steps -/

namespace Directory

variable {α β : Type} {source : Directory}

/-- The action makes the calls of the steps that are taken, and fails where and as they do. -/
structure Follows (source : Directory) (action : Action α) (steps : List Step) : Prop where
  calls : callsOf action source = Step.calls steps
  failure : failureOf (outcome action source) = Step.failure steps

theorem follows_pure (source : Directory) (answer : α) :
    Follows source (pure answer) [] :=
  ⟨rfl, rfl⟩

theorem follows_lift (source : Directory) (result : Except Error α) :
    Follows source (liftM result) [.checks result] := by
  refine ⟨?_, ?_⟩
  · rw [(performs_lift source result).callsOf_eq, Step.calls]
    cases (Step.checks result).failure? with
    | some e => rfl
    | none => rfl
  · rw [(performs_lift source result).outcome_eq]
    cases result with
    | ok answer => rfl
    | error e => rfl

/-- An action that performs one call follows the step of that call. -/
theorem follows_of_performs {action : Action α} {answer : Except Error α} {call : Call}
    (h : Performs source action answer [call]) : Follows source action [.asks call answer] := by
  refine ⟨?_, ?_⟩
  · rw [h.callsOf_eq]
    cases answer with
    | ok answer => rfl
    | error e => rfl
  · rw [h.outcome_eq]
    cases answer with
    | ok answer => rfl
    | error e => rfl

/-- Of two actions in a row, the second takes its steps after those of the first. -/
theorem follows_bind {action : Action α} {next : α → Action β} {first second : List Step}
    (hreads : Reads action) (hnext : ∀ answer, Reads (next answer))
    (hfirst : Follows source action first)
    (hsecond : ∀ answer, outcome action source = .ok answer →
      Follows source (next answer) second) :
    Follows source (action >>= next) (first ++ second) := by
  have hfailure := hfirst.failure
  refine ⟨?_, ?_⟩
  · rw [callsOf_bind hreads hnext, hfirst.calls]
    cases houtcome : outcome action source with
    | error e =>
        rw [houtcome] at hfailure
        rw [Step.calls_append_of_failure hfailure.symm]
        exact List.append_nil _
    | ok answer =>
        rw [houtcome] at hfailure
        rw [Step.calls_append_of_success hfailure.symm, callsAfter,
          (hsecond answer houtcome).calls]
  · rw [outcome_bind hreads hnext, Step.failure_append, ← hfailure]
    cases houtcome : outcome action source with
    | error e => rfl
    | ok answer => exact (hsecond answer houtcome).failure

theorem follows_map {action : Action α} {steps : List Step} (hreads : Reads action) (f : α → β)
    (h : Follows source action steps) : Follows source (do return f (← action)) steps := by
  have hrun := performs_map hreads f source
  refine ⟨hrun.callsOf_eq.trans h.calls, ?_⟩
  rw [hrun.outcome_eq, failureOf_map]
  exact h.failure

/-- Actions for the elements of a list take their steps one element after the other. -/
theorem follows_mapM {action : α → Action β} {steps : α → List Step}
    (hreads : ∀ element, Reads (action element)) {elements : List α}
    (h : ∀ element ∈ elements, Follows source (action element) (steps element)) :
    Follows source (elements.mapM action) (elements.flatMap steps) := by
  induction elements with
  | nil => exact follows_pure source []
  | cons first rest ih =>
      have hrest := ih fun element hmem => h element (List.mem_cons_of_mem first hmem)
      rw [List.mapM_cons, List.flatMap_cons]
      exact follows_bind (hreads first) (fun answer => (Reads.mapM hreads rest).map (answer :: ·))
        (h first List.mem_cons_self)
        fun answer _ => follows_map (Reads.mapM hreads rest) (answer :: ·) hrest

end Directory

/-! ## Errors of queries -/

/-- The errors that a query can end with: those of its calls, and that of a malformed base. -/
def Error.OfQuery (e : Error) : Prop :=
  e.OfReading ∨ ∃ dn piece, e = .malformedDn dn piece

theorem Error.not_ofQuery_noResults : ¬Error.OfQuery .noResults := by
  rintro (h | ⟨dn, piece, h⟩)
  · exact h
  · exact nomatch h

/-- A name that cannot be split is malformed. -/
theorem Dn.exists_malformedDn_of_split {dn : Text} {e : Error} (h : Dn.split dn = .error e) :
    ∃ piece, e = .malformedDn dn piece := by
  rw [split] at h
  split at h
  · exact nomatch h
  · obtain ⟨piece, _, hpiece⟩ := exists_error_of_mapM h
    split at hpiece
    · exact nomatch hpiece
    · exact ⟨piece, (Except.error.inj hpiece).symm⟩

/-- A name without a label is malformed. -/
theorem Dn.exists_malformedDn_of_leafLabel {dn : Text} {e : Error}
    (h : Dn.leafLabel dn = .error e) : ∃ piece, e = .malformedDn dn piece := by
  rw [leafLabel] at h
  split at h
  · exact nomatch h
  · exact ⟨[], (Except.error.inj h).symm⟩
  · next hvalues =>
      obtain rfl := Except.error.inj h
      exact exists_malformedDn_of_split (eq_error_of_map hvalues)

/-! ## Relations -/

namespace Relation

/-- The lookup of a value. -/
def lookupStep (relation : Relation) (source : Directory) (value : Text) : Step :=
  .asks (relation.lookupCall value) (relation.lookupAnswer value source)

/-- A relation looks at its base, and then looks up the values of the local key: record by
    record, and value by value in each record. -/
def steps (relation : Relation) (source : Directory) (records : List ShapedRecord) : List Step :=
  .checks (Dn.leafLabel relation.base) ::
    records.flatMap fun shaped =>
      (relation.localValues shaped.record).map (relation.lookupStep source)

theorem follows_lookup (relation : Relation) (source : Directory) (value : Text) :
    Follows source (relation.lookup value) [relation.lookupStep source value] :=
  follows_of_performs (relation.performs_lookup value source)

theorem follows_resolveOne (relation : Relation) (kind : RelationKind) (label : Text)
    (shaped : ShapedRecord) (source : Directory) :
    Follows source (relation.resolveOne kind label shaped)
      ((relation.localValues shaped.record).map (relation.lookupStep source)) := by
  have hlookups : Follows source ((relation.localValues shaped.record).mapM relation.lookup)
      ((relation.localValues shaped.record).flatMap fun value =>
        [relation.lookupStep source value]) :=
    follows_mapM relation.reads_lookup fun value _ => relation.follows_lookup source value
  rw [← List.map_eq_flatMap] at hlookups
  exact follows_map (Reads.mapM relation.reads_lookup _)
    (fun found => shaped.attachAny label (kind.collect found)) hlookups

theorem follows_resolve (relation : Relation) (kind : RelationKind) (records : List ShapedRecord)
    (source : Directory) :
    Follows source (relation.resolve kind records) (relation.steps source records) :=
  follows_bind (reads_lift (Dn.leafLabel relation.base))
    (fun label => Reads.mapM (relation.reads_resolveOne kind label) records)
    (follows_lift source (Dn.leafLabel relation.base))
    fun label _ => follows_mapM (relation.reads_resolveOne kind label) fun shaped _ =>
      relation.follows_resolveOne kind label shaped source

theorem follows_resolve? (relation : Option Relation) (kind : RelationKind)
    (records : List ShapedRecord) (source : Directory) :
    Follows source (resolve? relation kind records)
      (relation.toList.flatMap (·.steps source records)) := by
  cases relation with
  | none => exact follows_pure source records
  | some relation =>
      rw [Option.toList_some, List.flatMap_singleton]
      exact relation.follows_resolve kind records source

/-- What is attached to records does not change the steps of a relation. -/
theorem steps_congr (relation : Relation) (source : Directory)
    {records records' : List ShapedRecord} (h : records.map (·.record) = records'.map (·.record)) :
    relation.steps source records = relation.steps source records' := by
  have hsteps (records : List ShapedRecord) :
      relation.steps source records = .checks (Dn.leafLabel relation.base) ::
        (records.map (·.record)).flatMap fun record =>
          (relation.localValues record).map (relation.lookupStep source) := by
    rw [steps, List.flatMap_map]
  rw [hsteps, hsteps, h]

/-- The steps of a relation fail with errors of queries. -/
theorem ofQuery_of_mem_steps {relation : Relation} {source : Directory}
    {records : List ShapedRecord} {step : Step} (hmem : step ∈ relation.steps source records)
    {e : Error} (h : step.failure? = some e) : e.OfQuery := by
  rw [steps] at hmem
  rcases List.mem_cons.mp hmem with rfl | hmem
  · obtain ⟨piece, hpiece⟩ := Dn.exists_malformedDn_of_leafLabel (failureOf_eq_some_iff.mp h)
    exact .inr ⟨relation.base, piece, hpiece⟩
  · obtain ⟨shaped, _, hmem⟩ := List.mem_flatMap.mp hmem
    obtain ⟨value, _, rfl⟩ := List.mem_map.mp hmem
    exact .inl (ofReading_of_lookup ((relation.outcome_lookup value source).trans
      (failureOf_eq_some_iff.mp h)))

end Relation

/-! ## Queries -/

namespace Query

/-- The steps of the relations of a query: what its records belong to comes before what they
    have. -/
def relationSteps (query : Query) (source : Directory) (records : List ShapedRecord) :
    List Step :=
  query.belongsTo.toList.flatMap (·.steps source records) ++
    query.hasMany.toList.flatMap (·.steps source records)

theorem follows_relate (query : Query) (records : List ShapedRecord) (source : Directory) :
    Follows source (query.relate records) (query.relationSteps source records) := by
  refine follows_bind (Relation.reads_resolve? query.belongsTo .belongsTo records)
    (Relation.reads_resolve? query.hasMany .hasMany)
    (Relation.follows_resolve? query.belongsTo .belongsTo records source) fun resolved h => ?_
  -- The second relation finds the records of the first one, with more attached to them.
  have hsteps : query.hasMany.toList.flatMap (·.steps source records)
      = query.hasMany.toList.flatMap (·.steps source resolved) :=
    List.flatMap_congr fun relation _ =>
      relation.steps_congr source (Relation.records_of_resolve? h).symm
  rw [hsteps]
  exact Relation.follows_resolve? query.hasMany .hasMany resolved source

theorem ofQuery_of_mem_relationSteps {query : Query} {source : Directory}
    {records : List ShapedRecord} {step : Step} (hmem : step ∈ query.relationSteps source records)
    {e : Error} (h : step.failure? = some e) : e.OfQuery := by
  rw [relationSteps] at hmem
  rcases List.mem_append.mp hmem with hmem | hmem
  · obtain ⟨relation, _, hmem⟩ := List.mem_flatMap.mp hmem
    exact Relation.ofQuery_of_mem_steps hmem h
  · obtain ⟨relation, _, hmem⟩ := List.mem_flatMap.mp hmem
    exact Relation.ofQuery_of_mem_steps hmem h

end Query

namespace Model

variable {model : Model} {query : Query} {source : Directory}

/-- The steps after the search: those of the relations, where there are records to relate. -/
def answerSteps (model : Model) (query : Query) (source : Directory) (entries : List Entry) :
    List Step :=
  if query.ForRecords ∧ entries ≠ [] then query.relationSteps source (model.recordsOf query entries)
  else []

/-- The steps of a query: its search, and what follows if that succeeds. -/
def steps (model : Model) (query : Query) (source : Directory) : List Step :=
  .asks (model.searchCall query) (model.found query source) ::
    match model.found query source with
    | .ok entries => model.answerSteps query source entries
    | .error _ => []

theorem follows_answer (model : Model) (query : Query) (source : Directory)
    (entries : List Entry) :
    Follows source (model.answer query entries) (model.answerSteps query source entries) := by
  rw [answerSteps]
  by_cases hrecords : query.ForRecords
  · by_cases hentries : entries = []
    · rw [if_neg fun h => h.2 hentries, hentries, answer_of_forRecords hrecords]
      exact follows_pure source FindResult.empty
    · rw [if_pos ⟨hrecords, hentries⟩, answer_of_forRecords hrecords,
        if_neg (by rw [List.isEmpty_iff]; exact hentries)]
      exact follows_map (query.reads_relate _) query.shape
        (query.follows_relate (model.recordsOf query entries) source)
  · obtain ⟨result, hresult⟩ := exists_answer_eq_pure hrecords model entries
    rw [if_neg fun h => hrecords h.1, hresult]
    exact follows_pure source result

/-- A query follows its steps. -/
theorem follows_find (model : Model) (query : Query) (source : Directory) :
    Follows source (model.find query) (model.steps query source) := by
  refine follows_bind (reads_search model.baseDn query.conditions.compile (model.projection query)
    query.effectiveLimit) (model.reads_answer query) (follows_of_performs
      (performs_search source model.baseDn query.conditions.compile (model.projection query)
        query.effectiveLimit)) fun entries h => ?_
  have hfound : model.found query source = .ok entries := h
  rw [hfound]
  exact model.follows_answer query source entries

/-! ### Nothing found -/

/-- The answer of a query whose search finds nothing. -/
theorem outcome_answer_nil (model : Model) (query : Query) (source : Directory) :
    outcome (model.answer query []) source
      = .ok (if query.queryType = .count then .count 0 else .empty) := by
  cases htype : query.queryType with
  | count =>
      rw [answer_of_count htype]
      rfl
  | list =>
      rw [answer_of_list htype]
      rfl
  | first =>
      rw [answer_of_forRecords (.inl htype)]
      rfl
  | all =>
      rw [answer_of_forRecords (.inr htype)]
      rfl

/-- Records in the shape of a query do not look as if there were none. -/
theorem shape_ne_nothing (query : Query) {records : List ShapedRecord} (h : records ≠ []) :
    query.shape records ≠ .empty ∧ query.shape records ≠ .count 0 := by
  obtain ⟨first, rest, rfl⟩ := List.exists_cons_of_ne_nil h
  rw [Query.shape]
  split
  · show FindResult.first first ≠ .empty ∧ FindResult.first first ≠ .count 0
    simp only [ne_eq, reduceCtorEq, not_false_eq_true, and_self]
  · simp only [ne_eq, reduceCtorEq, not_false_eq_true, and_self]

/-- An answer from entries that were found does not look as if there were none. -/
theorem answer_ne_nothing {entries : List Entry} {result : FindResult} (hentries : entries ≠ [])
    (h : outcome (model.answer query entries) source = .ok result) :
    result ≠ .empty ∧ result ≠ .count 0 := by
  have hany : entries.isEmpty = false := by
    rw [Bool.eq_false_iff, Ne, List.isEmpty_iff]
    exact hentries
  by_cases hrecords : query.ForRecords
  · rw [outcome_answer hrecords, hany] at h
    obtain ⟨resolved, hresolved, rfl⟩ := exists_ok_of_map h
    refine shape_ne_nothing query fun hnil => ?_
    -- There are as many resolved records as entries.
    have hrecords := Query.records_of_relate hresolved
    rw [hnil, List.map_nil, eq_comm, List.map_eq_nil_iff, ← List.isEmpty_iff, isEmpty_recordsOf,
      hany] at hrecords
    exact nomatch hrecords
  · by_cases hcount : query.queryType = .count
    · rw [answer_of_count hcount] at h
      obtain rfl : FindResult.count entries.length = result := Except.ok.inj h
      refine ⟨nofun, fun hzero => hentries ?_⟩
      exact List.length_eq_zero_iff.mp (FindResult.count.inj hzero)
    · have hlist : query.queryType = .list :=
        Decidable.byContradiction fun hlist => hrecords (Query.forRecords_iff.mpr ⟨hcount, hlist⟩)
      rw [answer_of_list hlist, hany] at h
      obtain rfl := Except.ok.inj h
      exact ⟨nofun, nofun⟩

/-- The answers that say that there is nothing are given where the search finds nothing, and each
    to its own queries. -/
theorem outcome_find_nothing_iff (model : Model) (query : Query) (source : Directory)
    {result : FindResult} (hresult : result = .empty ∨ result = .count 0) :
    outcome (model.find query) source = .ok result
      ↔ model.found query source = .ok [] ∧
          result = if query.queryType = .count then .count 0 else .empty := by
  rw [outcome_find]
  constructor
  · intro h
    obtain ⟨entries, hfound, hanswer⟩ := exists_ok_of_bind h
    by_cases hentries : entries = []
    · rw [hentries, outcome_answer_nil] at hanswer
      exact ⟨hfound.trans (congrArg Except.ok hentries), (Except.ok.inj hanswer).symm⟩
    · obtain ⟨hempty, hcount⟩ := answer_ne_nothing hentries hanswer
      exact (hresult.elim hempty hcount).elim
  · rintro ⟨hfound, rfl⟩
    rw [hfound]
    exact outcome_answer_nil model query source

/-! ### Failures -/

/-- The steps of a query fail with errors of queries. -/
theorem ofQuery_of_mem_steps {step : Step} (hmem : step ∈ model.steps query source) {e : Error}
    (h : step.failure? = some e) : e.OfQuery := by
  rw [steps] at hmem
  rcases List.mem_cons.mp hmem with rfl | hmem
  · exact .inl (ofReading_of_searchAnswer (failureOf_eq_some_iff.mp h))
  · split at hmem
    · rw [answerSteps] at hmem
      split at hmem
      · exact Query.ofQuery_of_mem_relationSteps hmem h
      · exact nomatch hmem
    · exact nomatch hmem

/-- **A query goes by its steps.** It adds the calls of the steps that are taken to the log and
    changes nothing else, and it fails where and as one of the steps does. It answers that there is
    nothing exactly where its search finds nothing, and never by a failure. -/
theorem find_by_steps (model : Model) (query : Query) (source : Directory) :
    (model.find query source).2
        = { source with calls := source.calls ++ Step.calls (model.steps query source) } ∧
      (∀ e, (model.find query source).1 = .error e
        ↔ Step.failure (model.steps query source) = some e) ∧
      ((model.find query source).1 = .ok .empty
        ↔ model.found query source = .ok [] ∧ query.queryType ≠ .count) ∧
      ((model.find query source).1 = .ok (.count 0)
        ↔ model.found query source = .ok [] ∧ query.queryType = .count) ∧
      (model.find query source).1 ≠ .error .noResults := by
  obtain ⟨hcalls, hfailure⟩ := model.follows_find query source
  have herror (e : Error) : outcome (model.find query) source = .error e
      ↔ Step.failure (model.steps query source) = some e := by
    rw [← hfailure]
    exact failureOf_eq_some_iff.symm
  rw [← hcalls]
  refine ⟨congrArg Prod.snd ((model.reads_find query).run source), herror, ?_, ?_, ?_⟩
  · refine (outcome_find_nothing_iff model query source (.inl rfl)).trans
      (and_congr_right fun _ => ?_)
    by_cases hcount : query.queryType = .count
    · rw [if_pos hcount]
      exact ⟨nofun, fun h => (h hcount).elim⟩
    · rw [if_neg hcount]
      exact ⟨fun _ => hcount, fun _ => rfl⟩
  · refine (outcome_find_nothing_iff model query source (.inr rfl)).trans
      (and_congr_right fun _ => ?_)
    by_cases hcount : query.queryType = .count
    · rw [if_pos hcount]
      exact ⟨fun _ => hcount, fun _ => rfl⟩
    · rw [if_neg hcount]
      exact ⟨nofun, fun h => (hcount h).elim⟩
  · intro h
    obtain ⟨before, step, after, hsteps, _, hstep, _⟩ := Step.exists_of_failure ((herror _).mp h)
    have hmem : step ∈ model.steps query source := by
      rw [hsteps]
      exact List.mem_append_right before List.mem_cons_self
    exact Error.not_ofQuery_noResults (ofQuery_of_mem_steps hmem hstep)

/-- A filter that starts like a negation cannot be read: the first of two lookups fails, and nothing
    comes after it. -/
example :
    let model := Model.ofName "person" "ou=People,dc=x"
    let query := { Query.ofType .all with
      belongsTo := some ⟨"mail", "!", "ou=Group,dc=x", []⟩
      hasMany := some ⟨"uid", "dn", "Group", []⟩ }
    let ann : Entry := ⟨"uid=ann,ou=People,dc=x", [⟨"uid", ["ann"]⟩, ⟨"mail", ["a", "b"]⟩]⟩
    let source := { ofIdentity "memory://people" with entries := [ann] }
    (model.find query source).2.calls
      = [.search "ou=People,dc=x" "(objectClass=*)" [] none,
         .search "ou=Group,dc=x" "(!=a)" [] none] := rfl

end Model

end DirectoryRecords
