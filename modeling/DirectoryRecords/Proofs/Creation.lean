import DirectoryRecords.Proofs.Frames
import DirectoryRecords.Proofs.ReadBack

/-!
# Creation — what creating a record leaves behind, and how deleting undoes it

    A record is created by one call that writes; what comes before it chooses
    a name and checks the attributes against the schema. So the argument has
    three parts:

    * choosing and checking leave the entries as they are, whatever they
      answer and whatever they do to the log and to the cache
      (`keepsEntries_checkNames`);
    * adding succeeds only where no entry has the name, and puts the new entry
      behind all the others (`eq_append_of_add`), where it is the one that the
      name finds;
    * deleting removes every entry of the name, which is this one only
      (`delete_of_append`).
-/

namespace DirectoryRecords

open Text

namespace Session

variable {α : Type}

/-! ## Actions that leave the entries alone -/

/-- Whether it succeeds or not, the action leaves the entries of the directory as they are. -/
def KeepsEntries (action : Action α) : Prop :=
  ∀ session, (action session).2.directory.entries = session.directory.entries

/-- Names are checked without a look at the entries. -/
theorem keepsEntries_checkNames (names : List Text) : KeepsEntries (checkNames names) :=
  fun session => (undisturbing_checkNames names session).entries

end Session

/-! ## Adding and deleting -/

namespace Directory

/-- Adding succeeds only if no entry has the name, and puts the new entry at the end. -/
theorem eq_append_of_add {directory after : Directory} {dn : Text} {attributes : List Attribute}
    (h : add dn attributes directory = (.ok (), after)) :
    directory.entry? dn = none ∧ after.entries = directory.entries ++ [⟨dn, attributes⟩] := by
  rw [add, write, added] at h
  cases hentry : directory.entry? dn with
  | some entry =>
      rw [hentry] at h
      exact nomatch (congrArg Prod.fst h)
  | none =>
      rw [hentry] at h
      have hafter : { directory.log (.add dn) with
          entries := directory.entries ++ [⟨dn, attributes⟩] } = after := congrArg Prod.snd h
      rw [← hafter]
      exact ⟨rfl, rfl⟩

/-- An entry behind others that do not have its name is the one that the name finds. -/
theorem entry?_of_append {earlier directory : Directory} (entry : Entry)
    (hnew : earlier.entry? entry.dn = none)
    (h : directory.entries = earlier.entries ++ [entry]) :
    directory.entry? entry.dn = some entry := by
  rw [ entry?, h, List.find?_append]
  show (earlier.entry? entry.dn).or _ = _
  rw [hnew]
  exact List.find?_cons_of_pos (p := fun e : Entry => agrees e.dn entry.dn) (agrees_refl entry.dn)

/-- Such an entry is the only one that is deleted under its name. -/
theorem delete_of_append {earlier directory : Directory} (entry : Entry)
    (hnew : earlier.entry? entry.dn = none)
    (h : directory.entries = earlier.entries ++ [entry]) :
    delete entry.dn directory
      = (.ok (), { directory.log (.delete entry.dn) with entries := earlier.entries }) := by
  have hothers : earlier.entries.filter (fun other => !agrees other.dn entry.dn)
      = earlier.entries := by
    refine List.filter_eq_self.mpr fun other hmem => ?_
    have hdiffers := List.find?_eq_none.mp hnew other hmem
    rw [Bool.not_eq_true] at hdiffers
    rw [hdiffers]
    rfl
  have hitself : [entry].filter (fun other => !agrees other.dn entry.dn) = [] := by
    rw [List.filter_singleton, agrees_refl]
    rfl
  have houtcome : directory.deleted entry.dn = .ok earlier.entries := by
    rw [deleted, entry?_of_append entry hnew h, h, List.filter_append, hothers, hitself,
      List.append_nil]
    rfl
  rw [delete, write, houtcome]

end Directory

namespace Model

/-! ## Creating -/

/-- Creating succeeds only under a name that no entry has, and adds an entry with this name and
    the attributes to write behind the others. -/
theorem eq_append_of_create {model : Model} {record : Record} {session after : Session} {dn : Text}
    (h : model.create record session = (.ok dn, after)) :
    session.directory.entry? dn = none ∧
      after.directory.entries
        = session.directory.entries ++ [⟨dn, model.creationAttributes record⟩] := by
  obtain ⟨name, start, hname, h⟩ := eq_ok_of_bind h
  obtain ⟨⟨⟩, checked, hcheck, h⟩ := eq_ok_of_bind h
  obtain ⟨⟨⟩, last, hadd, h⟩ := eq_ok_of_bind h
  have hstart : start = session := (congrArg Prod.snd hname).symm
  have hdn : name = dn := Except.ok.inj (congrArg Prod.fst h)
  have hlast : last = after := congrArg Prod.snd h
  rw [hstart] at hcheck
  rw [hdn, hlast] at hadd
  have hkeeps : checked.directory.entries = session.directory.entries := by
    have := Session.keepsEntries_checkNames record.attributes.keys session
    rwa [hcheck] at this
  cases hrun : Directory.add dn (model.creationAttributes record) checked.directory with
  | mk outcome directory =>
      have hsession : (outcome, { checked with directory }) = (Except.ok (), after) := by
        rw [← hadd, Session.onDirectory, hrun]
      have houtcome : outcome = .ok () := congrArg Prod.fst hsession
      rw [houtcome] at hrun
      obtain ⟨hnew, hentries⟩ := Directory.eq_append_of_add hrun
      have hafter : after.directory = directory :=
        (congrArg (fun run => run.2.directory) hsession).symm
      rw [ Directory.entry?, hkeeps] at hnew
      rw [hafter, hentries, hkeeps]
      exact ⟨hnew, rfl⟩

/-- **Creating can be read back and undone.** Where a readable record is created, whatever the
    directory and the cache held, one entry stands behind all earlier ones, the answered name
    finds it, and it reads as the record under that name, with the object classes of the model
    if the record had none. Deleting the name then succeeds and restores the entries. -/
theorem create_delete {model : Model} {record : Record} (hrecord : record.Readable)
    {session : Session} {dn : Text} (h : (model.create record session).1 = .ok dn) :
    let after := (model.create record session).2
    ∃ entry, after.directory.entries = session.directory.entries ++ [entry] ∧
      after.directory.entry? dn = some entry ∧
      entry.normalize = ⟨dn, model.createdAttributes record⟩ ∧
      (delete dn after).1 = .ok () ∧
      (delete dn after).2.directory.entries = session.directory.entries := by
  intro after
  have hrun : model.create record session = (.ok dn, after) := Prod.ext h rfl
  obtain ⟨hnew, hentries⟩ := eq_append_of_create hrun
  have hfound := Directory.entry?_of_append ⟨dn, model.creationAttributes record⟩ hnew hentries
  have hdelete := Directory.delete_of_append ⟨dn, model.creationAttributes record⟩ hnew hentries
  refine ⟨⟨dn, model.creationAttributes record⟩, hentries, hfound,
    normalize_created model hrecord dn, ?_, ?_⟩
  · rw [delete, Session.onDirectory, hdelete]
  · rw [delete, Session.onDirectory, hdelete]

/-- A record without a name of its own is created under one that is built from a value with a
    comma, read back with two object classes in addition, and deleted again. -/
theorem create_delete_escaped_name :
    let model := Model.ofName "person" "ou=People,dc=x"
    let record := ((Record.ofDn " ").set "uid" (.single "lee, ann")).set "mail"
      (.multi ["ann@x", "lee@x"])
    let earlier : Entry := ⟨"uid=lee,ou=People,dc=x", [⟨"uid", ["lee"]⟩]⟩
    let session : Session := ⟨{ Directory.ofIdentity "memory://people" with
      entries := [earlier], schema := ((∅ : SchemaMap).insert "UID" []).insert "mail" [] }, ∅⟩
    let dn : Text := "uid=lee\\, ann,ou=People,dc=x"
    let after := (model.create record session).2
    record.Readable ∧ (model.create record session).1 = .ok dn ∧
      ∃ entry, after.directory.entries = [earlier, entry] ∧
        after.directory.entry? dn = some entry ∧
        entry.normalize
          = ⟨dn, record.attributes.insert "objectclass" (.multi ["top", "person"])⟩ ∧
        (delete dn after).1 = .ok () ∧ (delete dn after).2.directory.entries = [earlier] := by
  intro model record earlier session dn after
  have hrecord : record.Readable := ⟨by decide, by decide, by decide⟩
  have hcreate : (model.create record session).1 = .ok dn := rfl
  exact ⟨hrecord, hcreate, create_delete hrecord hcreate⟩

end Model

end DirectoryRecords
