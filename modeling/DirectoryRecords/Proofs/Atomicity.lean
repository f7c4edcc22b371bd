import DirectoryRecords.Proofs.Operations

/-!
# Atomicity — what an operation leaves alone

    An operation does what it does or nothing: if it fails, or has nothing to
    write, the entries are those of before. If it does write, it writes under
    one name, and the entries of other names stay as they are and in their
    order (`others_of_outcome`, one case for each kind of write).
    Whatever becomes of it, the schema and the switches stay, and no call
    leaves the log (`perform_frame`).
-/

namespace DirectoryRecords

open Text

/-- The entries that do not have a name, in their order. -/
def Entry.others (dn : Text) (entries : List Entry) : List Entry :=
  entries.filter fun entry => !agrees entry.dn dn

theorem Entry.others_append (dn : Text) (front back : List Entry) :
    others dn (front ++ back) = others dn front ++ others dn back :=
  List.filter_append front back

theorem Entry.others_cons_of_agrees {dn : Text} {entry : Entry} (h : agrees entry.dn dn = true)
    (entries : List Entry) : others dn (entry :: entries) = others dn entries :=
  List.filter_cons_of_neg (by rw [h]; exact Bool.false_ne_true)

namespace Write

/-- **A write touches the entries of its own name only.** -/
theorem others_of_outcome {write : Write} {directory : Directory} {entries : List Entry}
    (h : write.outcome directory = .ok entries) :
    Entry.others write.dn entries = Entry.others write.dn directory.entries := by
  cases write with
  | add entry =>
      rw [outcome, Directory.added] at h
      split at h
      · cases h
      · rw [← Except.ok.inj h, Entry.others_append]
        show _ ++ Entry.others entry.dn [entry] = _
        rw [Entry.others_cons_of_agrees (agrees_refl entry.dn)]
        exact List.append_nil _
  | replace dn changes =>
      rw [outcome, Directory.modified] at h
      cases hchange : Directory.changeFirst dn (Directory.replaceAttributes changes)
          directory.entries with
      | none =>
          rw [hchange] at h
          cases h
      | some changed =>
          rw [hchange] at h
          obtain ⟨front, entry, back, hbefore, hentry, hafter⟩ :=
            Directory.exists_of_changeFirst hchange
          -- The entry that is changed has the name before and after.
          have hkept : agrees (Directory.replaceAttributes changes entry).dn dn = true := hentry
          rw [← Except.ok.inj h, hbefore, hafter, Entry.others_append, Entry.others_append]
          show _ ++ Entry.others dn _ = _ ++ Entry.others dn _
          rw [Entry.others_cons_of_agrees hkept, Entry.others_cons_of_agrees hentry]
  | remove dn =>
      rw [outcome, Directory.deleted] at h
      split at h
      · rw [← Except.ok.inj h]
        show Entry.others dn (Entry.others dn directory.entries) = _
        rw [Entry.others, Entry.others, List.filter_filter]
        simp only [Bool.and_self]
        rfl
      · cases h

end Write

namespace Operation

/-- **An operation does what it writes or nothing.** Whatever the directory and the cache hold,
    an operation leaves the schema and the switches alone and takes no call out of the log. If it
    fails or has nothing to write, as what only reads has, or an update without attributes, it
    leaves the entries alone. If it succeeds, the entries are those after what it writes, and all
    entries of other names are as they were, in their order. -/
theorem perform_frame (operation : Operation) (session : Session) :
    let before := session.directory
    let after := (operation.perform session).2.directory
    after.schema = before.schema ∧ after.schemaFails = before.schemaFails ∧
      after.searchesFail = before.searchesFail ∧ before.calls <+: after.calls ∧
      ((∃ e, (operation.perform session).1 = .error e) → after.entries = before.entries) ∧
      (operation.write? = none → after.entries = before.entries) ∧
      ∀ answer write, (operation.perform session).1 = .ok answer →
        operation.write? = some write →
        write.outcome before = .ok after.entries ∧
          Entry.others write.dn after.entries = Entry.others write.dn before.entries := by
  intro before after
  obtain ⟨hframe, hfailed, hdone⟩ := operation.perform_commits session
  refine ⟨hframe.schema, hframe.schemaFails, hframe.searchesFail, hframe.calls, ?_, ?_, ?_⟩
  · rintro ⟨e, he⟩
    exact hfailed e he
  · intro hnothing
    cases houtcome : (operation.perform session).1 with
    | error e => exact hfailed e houtcome
    | ok answer =>
        have hentries := hdone answer houtcome
        rw [hnothing] at hentries
        exact (Except.ok.inj hentries).symm
  · intro answer write hanswer hwrite
    have hentries := hdone answer hanswer
    rw [hwrite] at hentries
    exact ⟨hentries, Write.others_of_outcome hentries⟩

/-- An update under a name in other letter case changes the second of three entries and leaves the
    others in their places; an update without attributes succeeds and changes nothing, and a
    creation under a name that is taken fails and changes nothing. -/
theorem perform_frame_update_and_create :
    let ann : Entry := ⟨"uid=ann,ou=People,dc=x", [⟨"uid", ["ann"]⟩]⟩
    let bob : Entry := ⟨"uid=bob,ou=People,dc=x", [⟨"uid", ["bob"]⟩, ⟨"Mail", ["b@x"]⟩]⟩
    let staff : Entry := ⟨"cn=staff,ou=Group,dc=x", [⟨"cn", ["staff"]⟩]⟩
    let session : Session := ⟨{ Directory.ofIdentity "memory://people" with
      entries := [ann, bob, staff], schemaFails := true }, ∅⟩
    let update := Operation.update
      ((Record.ofDn "UID=Bob,ou=People,dc=x").set "mail" (.single "bob@x"))
    let touch := Operation.update (Record.ofDn "uid=bob,ou=People,dc=x")
    let create := Operation.create (Model.ofName "person" "ou=People,dc=x")
      ((Record.ofDn "").set "uid" (.single "ANN"))
    (update.perform session).1 = .ok () ∧
      Entry.others "UID=Bob,ou=People,dc=x" (update.perform session).2.directory.entries
        = [ann, staff] ∧
      (touch.perform session).1 = .ok () ∧
      (touch.perform session).2.directory.entries = [ann, bob, staff] ∧
      (∃ e, (create.perform session).1 = .error e) ∧
      (create.perform session).2.directory.entries = [ann, bob, staff] := by
  intro ann bob staff session update touch create
  have hupdate : (update.perform session).1 = .ok () := rfl
  have hcreate : ∃ e, (create.perform session).1 = .error e :=
    ⟨.objectAlreadyExists "uid=ANN,ou=People,dc=x", rfl⟩
  obtain ⟨_, _, _, _, _, _, hwritten⟩ := perform_frame update session
  obtain ⟨_, _, _, _, _, hnothing, _⟩ := perform_frame touch session
  obtain ⟨_, _, _, _, hfailed, _, _⟩ := perform_frame create session
  obtain ⟨_, hothers⟩ := hwritten () _ hupdate rfl
  exact ⟨hupdate, hothers, rfl, hnothing rfl, hcreate, hfailed hcreate⟩

end Operation

end DirectoryRecords
