import DirectoryRecords.Proofs.Reading
import DirectoryRecords.Session

/-!
# Frames — what an action leaves as it found it

    Nothing that is done with a directory changes its identity, its schema or
    its switches, and nothing takes a call out of its log: the directory
    afterwards `Extends` the one before. What only looks at a directory, or
    asks it for its schema, leaves its entries alone as well: the directory is
    `Undisturbed`.

    Both are closed under doing one thing after the other, so it is enough to
    look at the single calls. An action of a session that leaves the directory
    undisturbed, whether it succeeds or not, is called `Undisturbing`.
-/

namespace DirectoryRecords

variable {α β : Type}

namespace Directory

/-- What no action changes in a directory is the same in a later state, and the log has only
    grown. -/
structure Extends (before after : Directory) : Prop where
  identity : after.identity = before.identity
  schema : after.schema = before.schema
  schemaFails : after.schemaFails = before.schemaFails
  searchesFail : after.searchesFail = before.searchesFail
  calls : before.calls <+: after.calls

/-- A later state has the same entries as well. -/
structure Undisturbed (before after : Directory) : Prop extends Extends before after where
  entries : after.entries = before.entries

variable {before middle after : Directory}

theorem Extends.refl (directory : Directory) : directory.Extends directory :=
  ⟨rfl, rfl, rfl, rfl, List.prefix_refl _⟩

theorem Extends.trans (h : before.Extends middle) (h' : middle.Extends after) :
    before.Extends after :=
  ⟨h'.identity.trans h.identity, h'.schema.trans h.schema, h'.schemaFails.trans h.schemaFails,
    h'.searchesFail.trans h.searchesFail, h.calls.trans h'.calls⟩

theorem Undisturbed.refl (directory : Directory) : directory.Undisturbed directory :=
  ⟨Extends.refl directory, rfl⟩

theorem Undisturbed.trans (h : before.Undisturbed middle) (h' : middle.Undisturbed after) :
    before.Undisturbed after :=
  ⟨h.toExtends.trans h'.toExtends, h'.entries.trans h.entries⟩

/-! ## Single calls -/

/-- A call in the log disturbs nothing. -/
theorem undisturbed_log (directory : Directory) (call : Call) :
    directory.Undisturbed (directory.log call) :=
  ⟨⟨rfl, rfl, rfl, rfl, List.prefix_append _ _⟩, rfl⟩

/-- What reads disturbs nothing. -/
theorem undisturbed_of_reads {action : Action α} (h : Reads action) (directory : Directory) :
    directory.Undisturbed (action directory).2 := by
  rw [h.run directory]
  exact ⟨⟨rfl, rfl, rfl, rfl, List.prefix_append _ _⟩, rfl⟩

/-- Fetching the schema is logged and counted, and disturbs nothing. -/
theorem undisturbed_fetchSchema (directory : Directory) :
    directory.Undisturbed (fetchSchema directory).2 :=
  ⟨⟨rfl, rfl, rfl, rfl, List.prefix_append _ _⟩, rfl⟩

end Directory

namespace Session

/-- Whether it succeeds or not, the action leaves the directory undisturbed. -/
def Undisturbing (action : Action α) : Prop :=
  ∀ session : Session, session.directory.Undisturbed (action session).2.directory

theorem undisturbing_pure (answer : α) : Undisturbing (pure answer : Action α) :=
  fun session => Directory.Undisturbed.refl session.directory

theorem undisturbing_throw (e : Error) : Undisturbing (throw e : Action α) :=
  fun session => Directory.Undisturbed.refl session.directory

theorem Undisturbing.bind {action : Action α} {next : α → Action β} (h : Undisturbing action)
    (hnext : ∀ answer, Undisturbing (next answer)) : Undisturbing (action >>= next) := by
  intro session
  have hfirst := h session
  rw [bind_run]
  cases hrun : action session with
  | mk outcome middle =>
      rw [hrun] at hfirst
      cases outcome with
      | ok answer => exact hfirst.trans (hnext answer middle)
      | error e => exact hfirst

theorem Undisturbing.tryCatch {action : Action α} {handle : Error → Action α}
    (h : Undisturbing action) (hhandle : ∀ e, Undisturbing (handle e)) :
    Undisturbing (tryCatch action handle) := by
  intro session
  have hfirst := h session
  rw [tryCatch_run]
  cases hrun : action session with
  | mk outcome middle =>
      rw [hrun] at hfirst
      cases outcome with
      | ok answer => exact hfirst
      | error e => exact hfirst.trans (hhandle e middle)

/-- What reads the directory of a session disturbs nothing. -/
theorem undisturbing_of_reads {action : Directory.Action α} (h : Directory.Reads action) :
    Undisturbing (onDirectory action) :=
  fun session => Directory.undisturbed_of_reads h session.directory

/-! ## The schema -/

theorem undisturbing_fetchSchema : Undisturbing (onDirectory Directory.fetchSchema) :=
  fun session => Directory.undisturbed_fetchSchema session.directory

/-- Asking for the schema may log a call, count it and fill the cache, but no more. -/
theorem undisturbing_schema : Undisturbing schema := by
  have hget : Undisturbing (get : Action Session) :=
    fun session => Directory.Undisturbed.refl session.directory
  have hkeep : ∀ schema, Undisturbing (keepSchema schema) :=
    fun _ session => Directory.Undisturbed.refl session.directory
  refine hget.bind fun session => ?_
  split
  · exact undisturbing_pure _
  · exact undisturbing_fetchSchema.bind hkeep

theorem undisturbing_schema? : Undisturbing schema? := by
  refine Undisturbing.tryCatch (undisturbing_schema.bind fun _ => undisturbing_pure _) ?_
  intro e
  split
  · exact undisturbing_pure _
  · exact undisturbing_throw _

/-- Names are checked without a look at the entries. -/
theorem undisturbing_checkNames (names : List Text) : Undisturbing (checkNames names) := by
  refine undisturbing_schema?.bind fun schema => ?_
  split
  · exact undisturbing_throw _
  · exact undisturbing_pure _

end Session

end DirectoryRecords
