import DirectoryRecords.Proofs.LetterCase
import DirectoryRecords.Proofs.Operations

/-!
# Distinct names — an invariant of everything that happens to a directory

    Lookups take the first attribute of a name and records the last one, and
    a name may find only the first of two entries. None of this matters as
    long as names are distinct whatever their letter case: those of the
    entries, and within each entry those of its attributes.

    A directory that starts like this stays like this. The argument follows
    what is written:

    * an entry is added only under a new name, and the attributes of a record
      in lower case are distinct, with the object classes as well
      (`distinct_creationAttributes`);
    * an attribute is replaced by removing those of its name first
      (`distinct_replaceAttribute`);
    * removing entries keeps the others distinct;

    so each write keeps names distinct (`allDistinct_of_outcome`), each event
    does (`allDistinct_apply`), and by induction each run.
-/

namespace DirectoryRecords

open Text

/-! ## Lists of names -/

namespace Text

/-- No two of the names agree. -/
def Distinct (names : List Text) : Prop :=
  (names.map asciiLower).Nodup

instance (names : List Text) : Decidable (Distinct names) :=
  inferInstanceAs (Decidable (List.Nodup _))

theorem Distinct.sublist {names others : List Text} (h : Distinct names)
    (hsub : others.Sublist names) : Distinct others :=
  List.Nodup.sublist (hsub.map asciiLower) h

theorem Distinct.append_singleton {names : List Text} {name : Text} (h : Distinct names)
    (hnew : ∀ other ∈ names, agrees other name = false) : Distinct (names ++ [name]) := by
  rw [Distinct, List.map_append, List.nodup_append]
  refine ⟨h, List.pairwise_singleton _ _, ?_⟩
  intro lowered hlowered last hlast heq
  obtain ⟨other, hother, rfl⟩ := List.mem_map.mp hlowered
  rw [List.map_singleton, List.mem_singleton] at hlast
  have hagrees := (agrees_iff other name).mpr (heq.trans hlast)
  rw [hnew other hother] at hagrees
  exact Bool.false_ne_true hagrees

end Text

/-! ## Attributes -/

namespace Directory

/-- A replaced attribute stands alone under its name. -/
theorem distinct_replaceAttribute {attributes : List Attribute} (change : Attribute)
    (h : Distinct (attributes.map Attribute.name)) :
    Distinct ((replaceAttribute attributes change).map Attribute.name) := by
  have hkept : Distinct ((attributes.filter fun a => !agrees a.name change.name).map
      Attribute.name) :=
    h.sublist (List.filter_sublist.map Attribute.name)
  rw [replaceAttribute, List.map_append]
  by_cases hvalues : change.values.isEmpty = true
  · rw [if_pos hvalues, List.map_nil, List.append_nil]
    exact hkept
  · rw [if_neg hvalues]
    refine hkept.append_singleton fun other hother => ?_
    obtain ⟨a, ha, rfl⟩ := List.mem_map.mp hother
    obtain ⟨_, hdiffers⟩ := List.mem_filter.mp ha
    exact Bool.not_eq_true' _ ▸ hdiffers

theorem distinct_replaceAttributes (changes : List Attribute) {entry : Entry}
    (h : Distinct (entry.attributes.map Attribute.name)) :
    Distinct ((replaceAttributes changes entry).attributes.map Attribute.name) := by
  show Distinct ((changes.foldl replaceAttribute entry.attributes).map Attribute.name)
  generalize entry.attributes = attributes at h ⊢
  induction changes generalizing attributes with
  | nil => exact h
  | cons change rest ih => exact ih _ (distinct_replaceAttribute change h)

end Directory

theorem TextMap.mem_keys_iff {α : Type} {map : TextMap α} {key : Text} :
    key ∈ map.keys ↔ map.contains key = true := by
  rw [keys, contains, get?, List.lookup_isSome_iff, List.mem_map]
  refine exists_congr fun binding => and_congr_right fun _ => ?_
  rw [beq_iff_eq, eq_comm]

/-- In a map no name occurs twice. -/
theorem TextMap.nodup_keys {α : Type} (map : TextMap α) : map.keys.Nodup := by
  rw [keys, List.Nodup, List.pairwise_map]
  refine map.sorted.imp fun {a b} (hlt : a.1 < b.1) (heq : a.1 = b.1) => ?_
  rw [heq] at hlt
  exact List.lt_irrefl b.1 hlt

namespace Record

/-- The names of the attributes are their own lower-case forms. -/
def Lowered (record : Record) : Prop :=
  ∀ name ∈ record.attributes.keys, lower name = name

instance (record : Record) : Decidable record.Lowered :=
  inferInstanceAs (Decidable (∀ name ∈ _, _ = _))

theorem Lowered.map_asciiLower {record : Record} (h : record.Lowered) :
    record.attributes.keys.map asciiLower = record.attributes.keys :=
  (List.map_congr_left fun name hname => asciiLower_of_lower_eq (h name hname)).trans
    (List.map_id _)

theorem map_name_entryAttributes (record : Record) :
    record.entryAttributes.map Attribute.name = record.attributes.keys := by
  rw [entryAttributes, List.map_map]
  rfl

end Record

/-- The names that are written of a new record are its own, and that of the object classes if it
    has none. -/
theorem Model.map_name_creationAttributes (model : Model) (record : Record) :
    (model.creationAttributes record).map Attribute.name
      = if record.has "objectclass" then record.attributes.keys
        else "objectClass".toList :: record.attributes.keys := by
  rw [creationAttributes, List.map_append, Record.map_name_entryAttributes]
  split <;> rfl

/-- **What is written of a new record has distinct names**, the object classes among them. -/
theorem Model.distinct_creationAttributes (model : Model) {record : Record} (h : record.Lowered) :
    Distinct ((model.creationAttributes record).map Attribute.name) := by
  have hkeys : record.attributes.keys.Nodup := record.attributes.nodup_keys
  rw [Distinct, map_name_creationAttributes]
  by_cases hhas : record.has "objectclass" = true
  · rw [if_pos hhas, h.map_asciiLower]
    exact hkeys
  · rw [if_neg hhas, List.map_cons, h.map_asciiLower]
    refine List.nodup_cons.mpr ⟨fun hmem => hhas ?_, hkeys⟩
    -- The object classes agree with no name of the record but the one it is looked up under.
    have hname : asciiLower "objectClass" = lower "objectclass" := by decide
    rw [hname] at hmem
    exact TextMap.mem_keys_iff.mp hmem

/-! ## Entries -/

namespace Entry

/-- No two of the entries have names that agree, and no two attributes of one entry. -/
structure AllDistinct (entries : List Entry) : Prop where
  names : Distinct (entries.map Entry.dn)
  attributes : ∀ entry ∈ entries, Distinct (entry.attributes.map Attribute.name)

instance (entries : List Entry) : Decidable (AllDistinct entries) :=
  decidable_of_iff (_ ∧ _) ⟨fun h => ⟨h.1, h.2⟩, fun h => ⟨h.names, h.attributes⟩⟩

theorem AllDistinct.sublist {entries others : List Entry} (h : AllDistinct entries)
    (hsub : others.Sublist entries) : AllDistinct others :=
  ⟨h.names.sublist (hsub.map Entry.dn), fun entry hmem => h.attributes entry (hsub.subset hmem)⟩

end Entry

open Entry (AllDistinct)

/-! ## Writes -/

/-- What is added has distinct attribute names. -/
def Write.Clean : Write → Prop
  | add entry => Distinct (entry.attributes.map Attribute.name)
  | replace _ _ | remove _ => True

/-- **A write keeps names distinct.** -/
theorem Write.allDistinct_of_outcome {write : Write} (hclean : write.Clean) {directory : Directory}
    {entries : List Entry} (hdistinct : AllDistinct directory.entries)
    (h : write.outcome directory = .ok entries) : AllDistinct entries := by
  cases write with
  | add entry =>
      rw [outcome, Directory.added] at h
      split at h
      · cases h
      · next hnew =>
        have hnone : directory.entry? entry.dn = none := Option.not_isSome_iff_eq_none.mp hnew
        rw [← Except.ok.inj h]
        constructor
        · rw [List.map_append]
          refine hdistinct.names.append_singleton fun other hother => ?_
          obtain ⟨stored, hstored, rfl⟩ := List.mem_map.mp hother
          exact Bool.eq_false_iff.mpr (List.find?_eq_none.mp hnone stored hstored)
        · intro stored hstored
          rcases List.mem_append.mp hstored with hstored | hstored
          · exact hdistinct.attributes stored hstored
          · rw [List.mem_singleton.mp hstored]
            exact hclean
  | replace dn changes =>
      rw [outcome, Directory.modified] at h
      cases hchange : Directory.changeFirst dn (Directory.replaceAttributes changes)
          directory.entries with
      | none =>
          rw [hchange] at h
          cases h
      | some changed =>
          rw [hchange] at h
          obtain ⟨front, entry, back, hbefore, _, hafter⟩ :=
            Directory.exists_of_changeFirst hchange
          rw [hbefore] at hdistinct
          rw [← Except.ok.inj h, hafter]
          constructor
          · -- The entry keeps its name.
            have hnames := hdistinct.names
            rw [List.map_append, List.map_cons] at hnames ⊢
            exact hnames
          · intro stored hstored
            rcases List.mem_append.mp hstored with hfront | hstored
            · exact hdistinct.attributes stored (List.mem_append_left _ hfront)
            · rcases List.mem_cons.mp hstored with rfl | hback
              · exact Directory.distinct_replaceAttributes changes
                  (hdistinct.attributes entry (List.mem_append_right _ List.mem_cons_self))
              · exact hdistinct.attributes stored
                  (List.mem_append_right _ (List.mem_cons_of_mem _ hback))
  | remove dn =>
      rw [outcome, Directory.deleted] at h
      split at h
      · rw [← Except.ok.inj h]
        exact hdistinct.sublist List.filter_sublist
      · cases h

/-! ## Operations and events -/

namespace Operation

/-- What is added through the operation has distinct attribute names: those of a record to create
    are in lower case. -/
def Clean : Operation → Prop
  | add _ attributes => Distinct (attributes.map Attribute.name)
  | create _ record => record.Lowered
  | _ => True

theorem Clean.write {operation : Operation} (h : operation.Clean) {write : Write}
    (hwrite : operation.write? = some write) : write.Clean := by
  cases operation with
  | add dn attributes =>
      rw [← Option.some.inj hwrite]
      exact h
  | create model record =>
      rw [write?] at hwrite
      split at hwrite
      · rw [← Option.some.inj hwrite]
        exact model.distinct_creationAttributes h
      · cases hwrite
  | update record =>
      rw [write?] at hwrite
      split at hwrite
      · cases hwrite
      · rw [← Option.some.inj hwrite]
        trivial
  | modifyReplace dn changes =>
      rw [← Option.some.inj hwrite]
      trivial
  | remove dn | delete dn =>
      rw [← Option.some.inj hwrite]
      trivial
  | search | readOne | fetchSchema | find | findBy | findAllBy | describe | resolve =>
      cases hwrite

/-- An operation keeps names distinct, whether it succeeds or not. -/
theorem allDistinct_perform {operation : Operation} (hclean : operation.Clean) {session : Session}
    (h : AllDistinct session.directory.entries) :
    AllDistinct (operation.perform session).2.directory.entries := by
  obtain ⟨_, hfailed, hdone⟩ := operation.perform_commits session
  cases houtcome : (operation.perform session).1 with
  | error e =>
      rw [hfailed e houtcome]
      exact h
  | ok answer =>
      have hentries := hdone answer houtcome
      cases hwrite : operation.write? with
      | none =>
          rw [hwrite] at hentries
          rw [← Except.ok.inj hentries]
          exact h
      | some write =>
          rw [hwrite] at hentries
          exact Write.allDistinct_of_outcome (hclean.write hwrite) h hentries

end Operation

namespace Event

/-- The operations among the events are clean. -/
def Clean : Event → Prop
  | perform operation => operation.Clean
  | failSchema _ | failSearches _ | share _ => True

/-- An event keeps names distinct. -/
theorem allDistinct_apply {event : Event} (hclean : event.Clean) {session : Session}
    (h : AllDistinct session.directory.entries) :
    AllDistinct (event.apply session).directory.entries := by
  cases event with
  | perform operation => exact Operation.allDistinct_perform hclean h
  | failSchema fails => exact h
  | failSearches fails => exact h
  | share cache => exact h

end Event

namespace Session

/-- **Names stay distinct.** Where no two entries have names that agree and no two attributes of
    an entry do, this is so after any events: any operations, in any order and of any mappers, with
    the switches thrown in between and with whatever other connections leave in the cache, as long
    as the records that are created have their names in lower case. -/
theorem allDistinct_after {session : Session} {events : List Event}
    (hstart : AllDistinct session.directory.entries) (hclean : ∀ event ∈ events, event.Clean) :
    AllDistinct (session.after events).directory.entries := by
  induction events generalizing session with
  | nil => exact hstart
  | cons event rest ih =>
      have hfirst := Event.allDistinct_apply (hclean event List.mem_cons_self) hstart
      exact ih hfirst fun later hlater => hclean later (List.mem_cons_of_mem event hlater)

/-- A person is created under a new name, and again under the same name in other letter case,
    which fails; the first one is updated while the schema cannot be fetched; another is deleted. -/
theorem allDistinct_after_create_update_delete :
    let model := Model.ofName "person" "ou=People,dc=x"
    let ann : Entry := ⟨"uid=ann,ou=People,dc=x", [⟨"UID", ["ann"]⟩, ⟨"cn", ["Ann"]⟩]⟩
    let session : Session := ⟨{ Directory.ofIdentity "memory://people" with entries := [ann] }, ∅⟩
    let bob (uid : String) := (Record.ofDn "").set "uid" (.single uid.toList)
    let mail := (Record.ofDn "UID=BOB,ou=People,dc=x").set "Mail" (.multi ["b@x", "bob@x"])
    let events : List Event :=
      [.perform (.create model (bob "bob")), .perform (.create model (bob "Bob")),
        .failSchema true, .share ∅, .perform (.update mail),
        .perform (.find model (Query.ofType .all)), .perform (.delete ann.dn)]
    AllDistinct session.directory.entries ∧ (∀ event ∈ events, event.Clean) ∧
      (session.after events).directory.entries
        = [⟨"uid=bob,ou=People,dc=x", [⟨"objectClass", ["top", "person"]⟩, ⟨"uid", ["bob"]⟩,
            ⟨"mail", ["b@x", "bob@x"]⟩]⟩] ∧
      AllDistinct (session.after events).directory.entries := by
  intro model ann session bob mail events
  have hstart : AllDistinct session.directory.entries := by decide
  have hclean : ∀ event ∈ events, event.Clean := by
    simp only [events, List.forall_mem_cons]
    have hbob : (bob "bob").Lowered := by decide
    have hother : (bob "Bob").Lowered := by decide
    exact ⟨hbob, hother, trivial, trivial, trivial, trivial, trivial, List.forall_mem_nil _⟩
  have hrun : (session.after events).directory.entries
      = [⟨"uid=bob,ou=People,dc=x", [⟨"objectClass", ["top", "person"]⟩, ⟨"uid", ["bob"]⟩,
          ⟨"mail", ["b@x", "bob@x"]⟩]⟩] := by
    decide +kernel
  exact ⟨hstart, hclean, hrun, allDistinct_after hstart hclean⟩

end Session

end DirectoryRecords
