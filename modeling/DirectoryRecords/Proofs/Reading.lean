import DirectoryRecords.Directory.Basic
import DirectoryRecords.Proofs.Runs
import Mathlib.Data.List.Forall2

/-!
# Reading — actions that look at a directory and only add to its log

    A search or a read has an outcome, which may be a failure, and leaves a
    longer log. Neither depends on what was logged before, and all that
    consists of searches and reads is of this kind: it `Reads`. So such an
    action has an `outcome` and a list of calls (`callsOf`) on a directory,
    and both are found piece by piece:

    * of two actions in a row, the calls of the second follow those of the
      first, if that one succeeds (`outcome_bind`, `callsOf_bind`);
    * of an action for each element of a list, elements are tried in order up
      to the first that fails (`outcome_mapM`, `callsOf_mapM`, by induction
      on the list).
-/

namespace DirectoryRecords.Directory

variable {α β : Type} {source : Directory}

/-- What an action answers on a directory, or how it fails. -/
def outcome (action : Action α) (source : Directory) : Except Error α :=
  (action source).1

/-- The calls of an action: what it leaves in a log that was empty. -/
def callsOf (action : Action α) (source : Directory) : List Call :=
  (action { source with calls := [] }).2.calls

/-- Whatever was logged before, the action ends in this way on the directory and adds these calls
    to the log. -/
def Performs (source : Directory) (action : Action α) (result : Except Error α)
    (calls : List Call) : Prop :=
  ∀ earlier, action { source with calls := earlier }
    = (result, { source with calls := earlier ++ calls })

/-- The action changes nothing but the log, and what was logged before does not matter to it. -/
def Reads (action : Action α) : Prop :=
  ∀ source, Performs source action (outcome action source) (callsOf action source)

theorem Performs.outcome_eq {action : Action α} {result : Except Error α} {calls : List Call}
    (h : Performs source action result calls) : outcome action source = result :=
  congrArg Prod.fst (h source.calls)

theorem Performs.callsOf_eq {action : Action α} {result : Except Error α} {calls : List Call}
    (h : Performs source action result calls) : callsOf action source = calls :=
  congrArg (fun run => run.2.calls) (h [])

theorem reads_of_performs {action : Action α} {result : Directory → Except Error α}
    {calls : Directory → List Call} (h : ∀ source, Performs source action (result source)
      (calls source)) : Reads action := by
  intro source
  rw [(h source).outcome_eq, (h source).callsOf_eq]
  exact h source

/-- The run of a reading action: its outcome, and its calls behind those of before. -/
theorem Reads.run {action : Action α} (h : Reads action) (source : Directory) :
    action source
      = (outcome action source, { source with calls := source.calls ++ callsOf action source }) :=
  h source source.calls

/-! ## Single actions -/

theorem performs_pure (source : Directory) (answer : α) :
    Performs source (pure answer) (.ok answer) [] := by
  intro earlier
  rw [List.append_nil]
  rfl

/-- A result that needs no directory makes no call. -/
theorem performs_lift (source : Directory) (result : Except Error α) :
    Performs source (liftM result) result [] := by
  intro earlier
  rw [List.append_nil]
  rfl

theorem performs_search (source : Directory) (base filter : Text) (attributes : List Text)
    (limit : Option Nat) :
    Performs source (search base filter attributes limit)
      (source.searchAnswer base filter attributes limit)
      [.search base filter attributes limit] := by
  intro earlier
  rfl

/-- A search whose selection is rewritten has the rewritten answer. -/
theorem searchAnswer_eq_map {base filter : Text} {attributes attributes' : List Text}
    {limit limit' : Option Nat} {f : List Entry → List Entry}
    (h : ∀ filter, source.select base filter attributes limit
      = f (source.select base filter attributes' limit')) :
    source.searchAnswer base filter attributes limit
      = (source.searchAnswer base filter attributes' limit').map f := by
  rw [searchAnswer, searchAnswer]
  cases source.searchesFail with
  | true => rfl
  | false =>
      cases Filter.read filter with
      | error e => rfl
      | ok filter => exact congrArg Except.ok (h filter)

/-- A search succeeds where searches do and its filter can be read, and finds what it selects. -/
theorem searchAnswer_eq_ok_iff {base filter : Text} {attributes : List Text} {limit : Option Nat}
    {entries : List Entry} :
    source.searchAnswer base filter attributes limit = .ok entries
      ↔ source.searchesFail = false ∧ ∃ parsed, Filter.read filter = .ok parsed ∧
          source.select base parsed attributes limit = entries := by
  rw [searchAnswer]
  cases source.searchesFail with
  | true => exact ⟨nofun, nofun⟩
  | false =>
      rw [if_neg Bool.false_ne_true]
      cases Filter.read filter with
      | error e => exact ⟨nofun, nofun⟩
      | ok parsed =>
          constructor
          · intro h
            exact ⟨rfl, parsed, rfl, Except.ok.inj h⟩
          · rintro ⟨-, parsed', hparsed, rfl⟩
            rw [Except.ok.inj hparsed]
            rfl

theorem performs_readOne (source : Directory) (dn filter : Text) (attributes : List Text) :
    Performs source (readOne dn filter attributes) (source.readAnswer dn filter attributes)
      [.readOne dn] := by
  intro earlier
  rfl

theorem reads_pure (answer : α) : Reads (pure answer : Action α) :=
  reads_of_performs fun source => performs_pure source answer

theorem reads_lift (result : Except Error α) : Reads (liftM result : Action α) :=
  reads_of_performs fun source => performs_lift source result

theorem reads_search (base filter : Text) (attributes : List Text) (limit : Option Nat) :
    Reads (search base filter attributes limit) :=
  reads_of_performs fun source => performs_search source base filter attributes limit

theorem reads_readOne (dn filter : Text) (attributes : List Text) :
    Reads (readOne dn filter attributes) :=
  reads_of_performs fun source => performs_readOne source dn filter attributes

/-! ## Actions in a row -/

/-- The calls that follow an action: those of the next one if there is an answer for it. -/
def callsAfter (result : Except Error α) (next : α → Action β) (source : Directory) : List Call :=
  match result with
  | .ok answer => callsOf (next answer) source
  | .error _ => []

theorem performs_bind {action : Action α} {next : α → Action β} (h : Reads action)
    (hnext : ∀ answer, Reads (next answer)) (source : Directory) :
    Performs source (action >>= next)
      (outcome action source >>= fun answer => outcome (next answer) source)
      (callsOf action source ++ callsAfter (outcome action source) next source) := by
  intro earlier
  rw [bind_run, h source earlier]
  cases outcome action source with
  | ok answer =>
      show next answer _ = _
      -- The second action finds the calls of the first one in the log.
      rw [hnext answer source (earlier ++ callsOf action source), List.append_assoc]
      rfl
  | error e =>
      show _ = (_, { source with calls := earlier ++ (callsOf action source ++ []) })
      rw [List.append_nil]
      rfl

theorem Reads.bind {action : Action α} {next : α → Action β} (h : Reads action)
    (hnext : ∀ answer, Reads (next answer)) : Reads (action >>= next) :=
  reads_of_performs (performs_bind h hnext)

theorem outcome_bind {action : Action α} {next : α → Action β} (h : Reads action)
    (hnext : ∀ answer, Reads (next answer)) (source : Directory) :
    outcome (action >>= next) source
      = outcome action source >>= fun answer => outcome (next answer) source :=
  (performs_bind h hnext source).outcome_eq

theorem callsOf_bind {action : Action α} {next : α → Action β} (h : Reads action)
    (hnext : ∀ answer, Reads (next answer)) (source : Directory) :
    callsOf (action >>= next) source
      = callsOf action source ++ callsAfter (outcome action source) next source :=
  (performs_bind h hnext source).callsOf_eq

/-! ## An answer that is only rewritten -/

theorem performs_map {action : Action α} (h : Reads action) (f : α → β) (source : Directory) :
    Performs source (do return f (← action)) ((outcome action source).map f)
      (callsOf action source) := by
  intro earlier
  rw [bind_run, h source earlier]
  cases outcome action source with
  | ok answer => rfl
  | error e => rfl

theorem Reads.map {action : Action α} (h : Reads action) (f : α → β) :
    Reads (do return f (← action)) :=
  reads_of_performs (performs_map h f)

/-- What follows an outcome succeeds only if both do. -/
theorem exists_ok_of_bind {result : Except Error α} {next : α → Except Error β} {answer : β}
    (h : result >>= next = .ok answer) :
    ∃ middle, result = .ok middle ∧ next middle = .ok answer := by
  cases result with
  | ok middle => exact ⟨middle, rfl, h⟩
  | error e => exact nomatch h

/-- What follows an outcome fails if one of the two does. -/
theorem error_of_bind {result : Except Error α} {next : α → Except Error β} {e : Error}
    (h : result >>= next = .error e) :
    result = .error e ∨ ∃ middle, result = .ok middle ∧ next middle = .error e := by
  cases result with
  | ok middle => exact .inr ⟨middle, rfl, h⟩
  | error e' => exact .inl (congrArg Except.error (Except.error.inj h))

theorem exists_ok_of_map {result : Except Error α} {f : α → β} {answer : β}
    (h : result.map f = .ok answer) : ∃ middle, result = .ok middle ∧ f middle = answer := by
  cases result with
  | ok middle => exact ⟨middle, rfl, Except.ok.inj h⟩
  | error e => exact nomatch h

theorem eq_error_of_map {result : Except Error α} {f : α → β} {e : Error}
    (h : result.map f = .error e) : result = .error e := by
  cases result with
  | ok answer => exact nomatch h
  | error e' => exact congrArg Except.error (Except.error.inj h)

/-! ## An action for each element -/

/-- The elements that are tried: all of them, or those up to the first that fails. -/
def tried (result : α → Except Error β) : List α → List α
  | [] => []
  | element :: rest =>
    match result element with
    | .ok _ => element :: tried result rest
    | .error _ => [element]

theorem performs_mapM {action : α → Action β} (h : ∀ element, Reads (action element))
    (elements : List α) (source : Directory) :
    Performs source (elements.mapM action)
      (elements.mapM fun element => outcome (action element) source)
      ((tried (fun element => outcome (action element) source) elements).flatMap
        fun element => callsOf (action element) source) := by
  induction elements with
  | nil => exact performs_pure source []
  | cons element rest ih =>
      intro earlier
      rw [List.mapM_cons, List.mapM_cons, bind_run, h element source earlier, tried]
      cases outcome (action element) source with
      | error e =>
          rw [List.flatMap_cons, List.flatMap_nil, List.append_nil]
          rfl
      | ok answer =>
          show (rest.mapM action >>= fun answers => pure (answer :: answers)) _ = _
          rw [bind_run, ih (earlier ++ callsOf (action element) source), List.flatMap_cons,
            List.append_assoc]
          cases rest.mapM fun element => outcome (action element) source with
          | ok answers => rfl
          | error e => rfl

theorem Reads.mapM {action : α → Action β} (h : ∀ element, Reads (action element))
    (elements : List α) : Reads (elements.mapM action) :=
  reads_of_performs (performs_mapM h elements)

theorem outcome_mapM {action : α → Action β} (h : ∀ element, Reads (action element))
    (elements : List α) (source : Directory) :
    outcome (elements.mapM action) source
      = elements.mapM fun element => outcome (action element) source :=
  (performs_mapM h elements source).outcome_eq

theorem callsOf_mapM {action : α → Action β} (h : ∀ element, Reads (action element))
    (elements : List α) (source : Directory) :
    callsOf (elements.mapM action) source
      = (tried (fun element => outcome (action element) source) elements).flatMap
        fun element => callsOf (action element) source :=
  (performs_mapM h elements source).callsOf_eq

/-- Where a list of actions succeeds, each of them does. -/
theorem exists_ok_of_mem {result : α → Except Error β} {elements : List α} {answers : List β}
    (h : elements.mapM result = .ok answers) :
    ∀ element ∈ elements, ∃ answer, result element = .ok answer := by
  induction elements generalizing answers with
  | nil =>
      intro element hmem
      exact nomatch hmem
  | cons first rest ih =>
      rw [List.mapM_cons] at h
      obtain ⟨answer, hfirst, h⟩ := exists_ok_of_bind h
      obtain ⟨others, hrest, _⟩ := exists_ok_of_bind h
      intro element hmem
      rcases List.mem_cons.mp hmem with rfl | hmem
      · exact ⟨answer, hfirst⟩
      · exact ih hrest element hmem

/-- Elements that all succeed have the list of their answers for an outcome. -/
theorem mapM_eq_map {result : α → Except Error β} {f : α → β} {elements : List α}
    (h : ∀ element ∈ elements, result element = .ok (f element)) :
    elements.mapM result = .ok (elements.map f) := by
  induction elements with
  | nil => rfl
  | cons first rest ih =>
      rw [List.mapM_cons, h first List.mem_cons_self,
        ih fun element hmem => h element (List.mem_cons_of_mem first hmem)]
      rfl

/-- A list of actions succeeds exactly where each of them does, and then with their answers. -/
theorem mapM_eq_ok_iff {result : α → Except Error β} {f : α → β}
    (hf : ∀ element answer, result element = .ok answer → f element = answer)
    {elements : List α} {answers : List β} :
    elements.mapM result = .ok answers
      ↔ (∀ element ∈ elements, ∃ answer, result element = .ok answer) ∧
          elements.map f = answers := by
  have hall (hok : ∀ element ∈ elements, ∃ answer, result element = .ok answer) :
      elements.mapM result = .ok (elements.map f) := by
    refine mapM_eq_map fun element hmem => ?_
    obtain ⟨answer, hanswer⟩ := hok element hmem
    rw [hanswer, hf element answer hanswer]
  constructor
  · intro h
    have hok := exists_ok_of_mem h
    exact ⟨hok, Except.ok.inj ((hall hok).symm.trans h)⟩
  · rintro ⟨hok, rfl⟩
    exact hall hok

/-- A list of actions has these answers exactly where its elements have them one by one. -/
theorem mapM_eq_ok_iff_forall₂ {result : α → Except Error β} {elements : List α}
    {answers : List β} :
    elements.mapM result = .ok answers
      ↔ List.Forall₂ (fun element answer => result element = .ok answer) elements answers := by
  induction elements generalizing answers with
  | nil =>
      rw [List.forall₂_nil_left_iff]
      exact ⟨fun h => (Except.ok.inj h).symm, fun h => congrArg Except.ok h.symm⟩
  | cons first rest ih =>
      rw [List.mapM_cons, List.forall₂_cons_left_iff]
      constructor
      · intro h
        obtain ⟨answer, hfirst, h⟩ := exists_ok_of_bind h
        obtain ⟨others, hrest, h⟩ := exists_ok_of_bind h
        exact ⟨answer, others, hfirst, ih.mp hrest, (Except.ok.inj h).symm⟩
      · rintro ⟨answer, others, hfirst, hrest, rfl⟩
        rw [hfirst, ih.mpr hrest]
        rfl

/-- A list of actions fails as the first of them does that fails. -/
theorem mapM_eq_error_iff {result : α → Except Error β} {elements : List α} {e : Error} :
    elements.mapM result = .error e
      ↔ ∃ front element back, elements = front ++ element :: back ∧
          (∀ earlier ∈ front, ∃ answer, result earlier = .ok answer) ∧
          result element = .error e := by
  induction elements with
  | nil =>
      refine ⟨nofun, ?_⟩
      rintro ⟨front, element, back, hsplit, -⟩
      exact absurd hsplit (by simp)
  | cons first rest ih =>
      rw [List.mapM_cons]
      constructor
      · intro h
        rcases error_of_bind h with hfirst | ⟨answer, hfirst, h⟩
        · exact ⟨[], first, rest, rfl, nofun, hfirst⟩
        · rcases error_of_bind h with hrest | ⟨answers, _, hnone⟩
          · obtain ⟨front, element, back, rfl, hfront, helement⟩ := ih.mp hrest
            refine ⟨first :: front, element, back, rfl, ?_, helement⟩
            exact List.forall_mem_cons.mpr ⟨⟨answer, hfirst⟩, hfront⟩
          · exact nomatch hnone
      · rintro ⟨front, element, back, hsplit, hfront, helement⟩
        cases front with
        | nil =>
            obtain ⟨rfl, rfl⟩ := List.cons.inj hsplit
            rw [helement]
            rfl
        | cons earlier front =>
            obtain ⟨rfl, rfl⟩ := List.cons.inj hsplit
            obtain ⟨⟨answer, hfirst⟩, hfront⟩ := List.forall_mem_cons.mp hfront
            rw [hfirst, ih.mpr ⟨front, element, back, rfl, hfront, helement⟩]
            rfl

/-- Where a list of actions fails, one of them fails in this way. -/
theorem exists_error_of_mapM {result : α → Except Error β} {elements : List α} {e : Error}
    (h : elements.mapM result = .error e) : ∃ element ∈ elements, result element = .error e := by
  obtain ⟨front, element, back, rfl, -, helement⟩ := mapM_eq_error_iff.mp h
  exact ⟨element, List.mem_append_right front List.mem_cons_self, helement⟩

/-- Where all elements succeed, all of them are tried. -/
theorem tried_eq_self {result : α → Except Error β} {elements : List α}
    (h : ∀ element ∈ elements, ∃ answer, result element = .ok answer) :
    tried result elements = elements := by
  induction elements with
  | nil => rfl
  | cons first rest ih =>
      obtain ⟨answer, hfirst⟩ := h first List.mem_cons_self
      rw [tried, hfirst]
      show first :: tried result rest = first :: rest
      rw [ih fun element hmem => h element (List.mem_cons_of_mem first hmem)]

end DirectoryRecords.Directory
