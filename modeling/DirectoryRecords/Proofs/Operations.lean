import DirectoryRecords.Model.Write
import DirectoryRecords.Proofs.Frames
import DirectoryRecords.Proofs.QueryRuns

/-!
# Operations — what can be done with a directory, and what it writes

    The calls of a directory, the operations of a mapper on it and the
    resolution of a relation are values here, so that a statement can be about
    each of them and about sequences of them. Six of them write, and what an
    operation writes is known beforehand: one entry is added, changed or
    removed.

    What an operation can do at all is said once (`perform_commits`): it
    extends the log; if it fails it leaves the entries as they are, and if it
    succeeds they are those after its write. That holds of a call that writes
    (`commits_write`), of what disturbs nothing and a write after it
    (`Commits.after_undisturbing`), and so of every operation.
-/

namespace DirectoryRecords

/-! ## Writes -/

/-- What an operation writes. -/
inductive Write where
  | add (entry : Entry)
  | replace (dn : Text) (changes : List Attribute)
  | remove (dn : Text)
  deriving DecidableEq

namespace Write

/-- The name under which something is written. -/
def dn : Write → Text
  | add entry => entry.dn
  | replace dn _ => dn
  | remove dn => dn

/-- The entries of a directory after something was written, or why it cannot be. -/
def outcome : Write → Directory → Except Error (List Entry)
  | add entry, directory => directory.added entry.dn entry.attributes
  | replace dn changes, directory => directory.modified dn changes
  | remove dn, directory => directory.deleted dn

/-- Only the entries decide what becomes of a write. -/
theorem outcome_congr {left right : Directory} (h : left.entries = right.entries)
    (write : Write) : write.outcome left = write.outcome right := by
  have hentry : ∀ dn, left.entry? dn = right.entry? dn := by
    intro dn
    rw [Directory.entry?, Directory.entry?, h]
  cases write with
  | add entry =>
      show left.added entry.dn entry.attributes = right.added entry.dn entry.attributes
      rw [Directory.added, Directory.added, hentry, h]
  | replace dn changes =>
      show left.modified dn changes = right.modified dn changes
      rw [Directory.modified, Directory.modified, h]
  | remove dn =>
      show left.deleted dn = right.deleted dn
      rw [Directory.deleted, Directory.deleted, hentry, h]

/-- The entries after what may be written: without a write those of before. -/
def outcome? (write? : Option Write) (directory : Directory) : Except Error (List Entry) :=
  match write? with
  | some write => write.outcome directory
  | none => .ok directory.entries

theorem outcome?_congr {left right : Directory} (h : left.entries = right.entries)
    (write? : Option Write) : outcome? write? left = outcome? write? right := by
  cases write? with
  | some write => exact write.outcome_congr h
  | none => exact congrArg Except.ok h

end Write

/-- Where the first entry of a name was changed, one that agrees with it has made way for what it
    was changed into, and nothing else has moved. -/
theorem Directory.exists_of_changeFirst {dn : Text} {change : Entry → Entry}
    {entries changed : List Entry} (h : changeFirst dn change entries = some changed) :
    ∃ front entry back, entries = front ++ entry :: back ∧ Text.agrees entry.dn dn = true ∧
      changed = front ++ change entry :: back := by
  induction entries generalizing changed with
  | nil => exact nomatch h
  | cons first rest ih =>
      rw [changeFirst] at h
      by_cases hfirst : Text.agrees first.dn dn = true
      · rw [if_pos hfirst] at h
        exact ⟨[], first, rest, rfl, hfirst, (Option.some.inj h).symm⟩
      · rw [if_neg hfirst] at h
        obtain ⟨others, hothers, hcons⟩ := Option.map_eq_some_iff.mp h
        obtain ⟨front, entry, back, hrest, hentry, hchanged⟩ := ih hothers
        refine ⟨first :: front, entry, back, ?_, hentry, ?_⟩
        · rw [hrest, List.cons_append]
        · rw [← hcons, hchanged, List.cons_append]

/-! ## Actions that may write -/

namespace Session

variable {α β : Type}

/-- However the action ends, it only adds to the log. If it fails it leaves the entries as they
    are, and if it succeeds they are those after what it writes, if it writes anything. -/
structure Commits (write? : Option Write) (action : Action α) (session : Session) : Prop where
  frame : session.directory.Extends (action session).2.directory
  failed : ∀ e, (action session).1 = .error e →
    (action session).2.directory.entries = session.directory.entries
  done : ∀ answer, (action session).1 = .ok answer →
    Write.outcome? write? session.directory = .ok (action session).2.directory.entries

variable {write? : Option Write} {action : Action α} {session : Session}

theorem commits_of_error {e : Error} {after : Session} (hrun : action session = (.error e, after))
    (hframe : session.directory.Extends after.directory)
    (hentries : after.directory.entries = session.directory.entries) :
    Commits write? action session := by
  refine ⟨?_, fun _ _ => ?_, fun answer hanswer => ?_⟩
  · rw [hrun]
    exact hframe
  · rw [hrun]
    exact hentries
  · rw [hrun] at hanswer
    exact nomatch hanswer

theorem commits_of_ok {answer : α} {after : Session} (hrun : action session = (.ok answer, after))
    (hframe : session.directory.Extends after.directory)
    (hentries : Write.outcome? write? session.directory = .ok after.directory.entries) :
    Commits write? action session := by
  refine ⟨?_, fun e he => ?_, fun _ _ => ?_⟩
  · rw [hrun]
    exact hframe
  · rw [hrun] at he
    exact nomatch he
  · rw [hrun]
    exact hentries

theorem commits_throw (e : Error) (write? : Option Write) (session : Session) :
    Commits write? (throw e : Action α) session :=
  commits_of_error rfl (Directory.Extends.refl session.directory) rfl

theorem Undisturbing.commits (h : Undisturbing action) (session : Session) :
    Commits none action session := by
  have hsession := h session
  cases hrun : action session with
  | mk outcome after =>
      rw [hrun] at hsession
      cases outcome with
      | error e => exact commits_of_error hrun hsession.toExtends hsession.entries
      | ok answer =>
          exact commits_of_ok hrun hsession.toExtends (congrArg Except.ok hsession.entries.symm)

/-- What disturbs nothing may come before the write. -/
theorem Commits.after_undisturbing (h : Undisturbing action) {next : α → Action β}
    (hnext : ∀ answer middle, Commits write? (next answer) middle) (session : Session) :
    Commits write? (action >>= next) session := by
  have hfirst := h session
  cases hrun : action session with
  | mk outcome middle =>
      rw [hrun] at hfirst
      cases outcome with
      | error e =>
          have hboth : (action >>= next) session = (.error e, middle) := by
            rw [bind_run, hrun]
          exact commits_of_error hboth hfirst.toExtends hfirst.entries
      | ok answer =>
          have hboth : (action >>= next) session = next answer middle := by
            rw [bind_run, hrun]
          obtain ⟨hframe, hfailed, hdone⟩ := hnext answer middle
          cases hsecond : next answer middle with
          | mk outcome after =>
              rw [hsecond] at hboth hframe hfailed hdone
              cases outcome with
              | error e =>
                  exact commits_of_error hboth (hfirst.toExtends.trans hframe)
                    ((hfailed e rfl).trans hfirst.entries)
              | ok result =>
                  -- The write finds the entries of before.
                  rw [Write.outcome?_congr hfirst.entries] at hdone
                  exact commits_of_ok hboth (hfirst.toExtends.trans hframe) (hdone result rfl)

/-- An answer may be made of what the write answers. -/
theorem Commits.map (h : Commits write? action session) (f : α → β) :
    Commits write? (do return f (← action)) session := by
  obtain ⟨hframe, hfailed, hdone⟩ := h
  cases hrun : action session with
  | mk outcome after =>
      rw [hrun] at hframe hfailed hdone
      cases outcome with
      | error e =>
          have hboth : (do return f (← action) : Action β) session = (.error e, after) := by
            rw [bind_run, hrun]
          exact commits_of_error hboth hframe (hfailed e rfl)
      | ok answer =>
          have hboth : (do return f (← action) : Action β) session = (.ok (f answer), after) := by
            rw [bind_run, hrun]
            rfl
          exact commits_of_ok hboth hframe (hdone answer rfl)

/-- A call that writes leaves the entries after the write, or those of before if it fails. -/
theorem commits_write (write : Write) (call : Call) (session : Session) :
    Commits (some write) (onDirectory (Directory.write call write.outcome)) session := by
  have hlog := Directory.undisturbed_log session.directory call
  cases houtcome : write.outcome session.directory with
  | error e =>
      have hrun : onDirectory (Directory.write call write.outcome) session
          = (.error e, { session with directory := session.directory.log call }) := by
        rw [onDirectory, Directory.write, houtcome]
      exact commits_of_error hrun hlog.toExtends hlog.entries
  | ok entries =>
      have hrun : onDirectory (Directory.write call write.outcome) session
          = (.ok (), { session with
              directory := { session.directory.log call with entries } }) := by
        rw [onDirectory, Directory.write, houtcome]
      exact commits_of_ok hrun ⟨rfl, rfl, rfl, rfl, hlog.calls⟩ houtcome

theorem commits_add (dn : Text) (attributes : List Attribute) (session : Session) :
    Commits (some (.add ⟨dn, attributes⟩)) (onDirectory (Directory.add dn attributes)) session :=
  commits_write (.add ⟨dn, attributes⟩) (.add dn) session

theorem commits_modifyReplace (dn : Text) (changes : List Attribute) (session : Session) :
    Commits (some (.replace dn changes)) (onDirectory (Directory.modifyReplace dn changes))
      session :=
  commits_write (.replace dn changes) (.modifyReplace dn) session

theorem commits_delete (dn : Text) (session : Session) :
    Commits (some (.remove dn)) (onDirectory (Directory.delete dn)) session :=
  commits_write (.remove dn) (.delete dn) session

end Session

/-! ## Operations -/

/-- What can be done with a directory: the calls of the directory itself, the operations of a
    mapper, and the resolution of a relation. -/
inductive Operation where
  | search (base filter : Text) (attributes : List Text) (limit : Option Nat)
  | readOne (dn filter : Text) (attributes : List Text)
  | add (dn : Text) (attributes : List Attribute)
  | modifyReplace (dn : Text) (changes : List Attribute)
  | remove (dn : Text)
  | fetchSchema
  | find (model : Model) (query : Query)
  | findBy (model : Model) (name value : Text)
  | findAllBy (model : Model) (name value : Text)
  | describe
  | create (model : Model) (record : Record)
  | update (record : Record)
  | delete (dn : Text)
  | resolve (relation : Relation) (kind : RelationKind) (records : List ShapedRecord)
  deriving DecidableEq

namespace Operation

/-- What an operation answers. -/
def Answer : Operation → Type
  | search _ _ _ _ => List Entry
  | readOne _ _ _ => Option Entry
  | fetchSchema | describe => SchemaMap
  | find _ _ => FindResult
  | findBy _ _ _ => Option ShapedRecord
  | findAllBy _ _ _ | resolve _ _ _ => List ShapedRecord
  | create _ _ => Text
  | add _ _ | modifyReplace _ _ | remove _ | update _ | delete _ => Unit

/-- Does what an operation says. -/
def perform : (operation : Operation) → Session.Action operation.Answer
  | search base filter attributes limit =>
    Session.onDirectory (Directory.search base filter attributes limit)
  | readOne dn filter attributes => Session.onDirectory (Directory.readOne dn filter attributes)
  | add dn attributes => Session.onDirectory (Directory.add dn attributes)
  | modifyReplace dn changes => Session.onDirectory (Directory.modifyReplace dn changes)
  | remove dn => Session.onDirectory (Directory.delete dn)
  | fetchSchema => Session.onDirectory Directory.fetchSchema
  | find model query => Session.onDirectory (model.find query)
  | findBy model name value => Session.onDirectory (model.findBy name value)
  | findAllBy model name value => Session.onDirectory (model.findAllBy name value)
  | describe => Session.schema
  | create model record => model.create record
  | update record => Model.update record
  | delete dn => Model.delete dn
  | resolve relation kind records => Session.onDirectory (relation.resolve kind records)

/-- What an operation writes if it succeeds. An update without attributes writes nothing. -/
def write? : Operation → Option Write
  | add dn attributes => some (.add ⟨dn, attributes⟩)
  | modifyReplace dn changes => some (.replace dn changes)
  | remove dn | delete dn => some (.remove dn)
  | create model record =>
    match model.creationDn record with
    | .ok dn => some (.add ⟨dn, model.creationAttributes record⟩)
    | .error _ => none
  | update record =>
    if record.isEmpty then none else some (.replace record.dn record.entryAttributes)
  | _ => none

/-! ### Runs -/

theorem commits_create (model : Model) (record : Record) (session : Session) :
    Session.Commits (create model record).write? (model.create record) session := by
  rw [write?, Model.create]
  cases model.creationDn record with
  | error e => exact Session.commits_throw e none session
  | ok dn =>
      show Session.Commits _ (Session.checkNames record.attributes.keys >>= fun _ =>
        (do return (fun _ => dn) (← Session.onDirectory
          (Directory.add dn (model.creationAttributes record))))) session
      exact Session.Commits.after_undisturbing
        (Session.undisturbing_checkNames record.attributes.keys)
        (fun _ middle => (Session.commits_add dn _ middle).map fun _ => dn) session

theorem commits_update (record : Record) (session : Session) :
    Session.Commits (update record).write? (Model.update record) session := by
  rw [write?, Model.update]
  by_cases hblank : Text.isAllBlank record.dn = true
  · rw [if_pos hblank]
    exact Session.commits_throw _ _ session
  · rw [if_neg hblank]
    by_cases hempty : record.isEmpty = true
    · rw [if_pos hempty, if_pos hempty]
      exact (Session.undisturbing_pure ()).commits session
    · rw [if_neg hempty, if_neg hempty]
      exact Session.Commits.after_undisturbing
        (Session.undisturbing_checkNames record.attributes.keys)
        (fun _ middle => Session.commits_modifyReplace record.dn record.entryAttributes middle)
        session

theorem reads_findBy (model : Model) (name value : Text) :
    Directory.Reads (model.findBy name value) :=
  (model.reads_find { Query.ofType .first with conditions := .equals name value }).map
    FindResult.first?

theorem reads_findAllBy (model : Model) (name value : Text) :
    Directory.Reads (model.findAllBy name value) :=
  (model.reads_find { Query.ofType .all with conditions := .equals name value }).map
    FindResult.records

/-- **What an operation can do.** However it ends, it only adds to the log. If it fails it leaves
    the entries as they are, and if it succeeds they are those after what it writes. -/
theorem perform_commits (operation : Operation) (session : Session) :
    Session.Commits operation.write? operation.perform session := by
  have hread : ∀ {α : Type} {action : Directory.Action α}, Directory.Reads action →
      Session.Commits none (Session.onDirectory action) session :=
    fun h => (Session.undisturbing_of_reads h).commits session
  cases operation with
  | search base filter attributes limit =>
      exact hread (Directory.reads_search base filter attributes limit)
  | readOne dn filter attributes => exact hread (Directory.reads_readOne dn filter attributes)
  | add dn attributes => exact Session.commits_add dn attributes session
  | modifyReplace dn changes => exact Session.commits_modifyReplace dn changes session
  | remove dn => exact Session.commits_delete dn session
  | fetchSchema => exact Session.undisturbing_fetchSchema.commits session
  | find model query => exact hread (model.reads_find query)
  | findBy model name value => exact hread (reads_findBy model name value)
  | findAllBy model name value => exact hread (reads_findAllBy model name value)
  | describe => exact Session.undisturbing_schema.commits session
  | create model record => exact commits_create model record session
  | update record => exact commits_update record session
  | delete dn => exact Session.commits_delete dn session
  | resolve relation kind records => exact hread (relation.reads_resolve kind records)

end Operation

/-! ## Runs -/

/-- What happens to a directory: someone does something with it, a switch is thrown, or other
    connections leave something else in the cache. -/
inductive Event where
  | perform (operation : Operation)
  | failSchema (fails : Bool)
  | failSearches (fails : Bool)
  | share (cache : SchemaCache)
  deriving DecidableEq

/-- The session after an event; what an operation answers is not kept. -/
def Event.apply : Event → Session → Session
  | perform operation, session => (operation.perform session).2
  | failSchema fails, session =>
    { session with directory := { session.directory with schemaFails := fails } }
  | failSearches fails, session =>
    { session with directory := { session.directory with searchesFail := fails } }
  | share cache, session => { session with cache }

/-- The session after some events, one after the other. -/
def Session.after (session : Session) (events : List Event) : Session :=
  events.foldl (fun session event => event.apply session) session

end DirectoryRecords
