import DirectoryRecords.Proofs.ConditionSpellings
import DirectoryRecords.Proofs.DistinctNames
import DirectoryRecords.Proofs.QueryRuns
import Mathlib.Data.List.Nodup

/-!
# Shaped keys — what can be read back from the JSON of an answer

    A shaped record is written as an object with the record under its own
    label and the related records under theirs. The first label is the name of
    the model, the others are taken from the bases of the relations, and
    nothing keeps the two apart.

    * The related labels are distinct, since they are the names of a map. So a
      key is repeated only if the record's own label is also a related one
      (`nodup_keys_iff`).
    * The related labels of an answer are those of the relations that find
      something for the record (`mem_keys_related_iff`).

    Together this says when the keys of an answer are distinct, which is when
    every member of it can be read (`find_keys_distinct`).
-/

namespace DirectoryRecords

open Text Directory

/-- The names of an object are distinct if and only if each of its members is the only one of its
    name. -/
theorem Json.nodup_names_iff {members : List (Text × Json)} :
    (members.map Prod.fst).Nodup ↔ ∀ member ∈ members, Only member.1 member.2 members := by
  have hcount (name : Text) :
      (members.map Prod.fst).count name = (members.filter (·.1 == name)).length := by
    rw [List.count, List.countP_map, List.countP_eq_length_filter]
    rfl
  rw [List.nodup_iff_count_eq_one, List.forall_mem_map]
  refine forall₂_congr fun member hmember => ?_
  rw [hcount, Only]
  constructor
  · intro hone
    obtain ⟨held, hheld⟩ := List.length_eq_one_iff.mp hone
    have hmem : member ∈ members.filter (·.1 == member.1) :=
      List.mem_filter.mpr ⟨hmember, beq_self_eq_true member.1⟩
    rw [hheld, List.mem_singleton] at hmem
    rw [hheld, hmem]
  · intro honly
    rw [honly]
    rfl

/-! ## The keys of a shaped record -/

namespace ShapedRecord

/-- The members of the object that a shaped record is written as. -/
def members (shaped : ShapedRecord) : List (Text × Json) :=
  (shaped.label, shaped.record.toJson) ::
    shaped.related.toList.map fun (label, records) => (label, .array (records.map Record.toJson))

theorem toJson_eq (shaped : ShapedRecord) : shaped.toJson = .object shaped.members := rfl

/-- The keys of this object. -/
def keys (shaped : ShapedRecord) : List Text :=
  shaped.members.map Prod.fst

theorem keys_eq (shaped : ShapedRecord) : shaped.keys = shaped.label :: shaped.related.keys := by
  rw [keys, members, List.map_cons, List.map_map]
  rfl

/-- Only the label of the record itself can be repeated. -/
theorem nodup_keys_iff (shaped : ShapedRecord) :
    shaped.keys.Nodup ↔ shaped.label ∉ shaped.related.keys := by
  rw [keys_eq, List.nodup_cons, and_iff_left shaped.related.nodup_keys]

/-- Records are attached under a label, if there are any. -/
theorem mem_keys_attachAny {shaped : ShapedRecord} {label other : Text} {records : List Record} :
    other ∈ (shaped.attachAny label records).related.keys ↔
      other ∈ shaped.related.keys ∨ label = other ∧ records ≠ [] := by
  by_cases hrecords : records = []
  · rw [hrecords, attachAny_nil]
    simp
  · rw [attachAny_of_ne hrecords, attach, TextMap.mem_keys_iff, TextMap.mem_keys_iff,
      TextMap.contains, TextMap.get?_insert]
    by_cases hother : other = label
    · simp [hother, hrecords]
    · simp [hother, Ne.symm hother, TextMap.contains]

end ShapedRecord

/-! ## The related labels -/

namespace Relation

/-- A relation, if there is one, has a base of this label and finds something for a record. -/
def FindsUnder (relation? : Option Relation) (kind : RelationKind) (source : Directory)
    (label : Text) (record : Record) : Prop :=
  ∃ relation ∈ relation?,
    Dn.leafLabel relation.base = .ok label ∧ relation.foundFor source kind record ≠ []

/-- Following a relation adds its label to the records for which it finds something. -/
theorem exists_of_mem_resolve? {relation? : Option Relation} {kind : RelationKind}
    {records resolved : List ShapedRecord} {source : Directory}
    (h : outcome (resolve? relation? kind records) source = .ok resolved) {shaped : ShapedRecord}
    (hmem : shaped ∈ resolved) :
    ∃ plain ∈ records, shaped.label = plain.label ∧ shaped.record = plain.record ∧
      ∀ label, label ∈ shaped.related.keys ↔
        label ∈ plain.related.keys ∨ FindsUnder relation? kind source label shaped.record := by
  cases relation? with
  | none =>
      obtain rfl := Except.ok.inj (show Except.ok records = .ok resolved from h)
      exact ⟨shaped, hmem, rfl, rfl, fun label => by simp [FindsUnder]⟩
  | some relation =>
      obtain ⟨base, hbase, _, rfl⟩ := exists_of_resolve h
      obtain ⟨plain, hplain, rfl⟩ := List.mem_map.mp hmem
      refine ⟨plain, hplain, plain.label_attachAny base _, relation.record_withFound .., ?_⟩
      intro label
      rw [record_withFound, withFound, ShapedRecord.mem_keys_attachAny]
      simp [FindsUnder, hbase]

end Relation

namespace Query

/-- A relation of the query has a base of this label and finds something for a record. -/
def FindsUnder (query : Query) (source : Directory) (label : Text) (record : Record) : Prop :=
  Relation.FindsUnder query.belongsTo .belongsTo source label record ∨
    Relation.FindsUnder query.hasMany .hasMany source label record

theorem exists_of_mem_relate {query : Query} {records resolved : List ShapedRecord}
    {source : Directory} (h : outcome (query.relate records) source = .ok resolved)
    {shaped : ShapedRecord} (hmem : shaped ∈ resolved) :
    ∃ plain ∈ records, shaped.label = plain.label ∧ shaped.record = plain.record ∧
      ∀ label, label ∈ shaped.related.keys ↔
        label ∈ plain.related.keys ∨ query.FindsUnder source label shaped.record := by
  rw [outcome_relate] at h
  obtain ⟨middle, hfirst, hsecond⟩ := exists_ok_of_bind h
  obtain ⟨between, hbetween, hlabel, hrecord, hkeys⟩ :=
    Relation.exists_of_mem_resolve? hsecond hmem
  obtain ⟨plain, hplain, hlabel', hrecord', hkeys'⟩ :=
    Relation.exists_of_mem_resolve? hfirst hbetween
  refine ⟨plain, hplain, hlabel.trans hlabel', hrecord.trans hrecord', fun label => ?_⟩
  rw [hkeys, hkeys', ← hrecord, FindsUnder, or_assoc]

end Query

namespace Model

variable {model : Model} {query : Query} {source : Directory} {result : FindResult}
  {shaped : ShapedRecord}

/-- **The related labels of an answer are those of the relations that find something**, and its own
    label is the name of the model. -/
theorem mem_keys_related_iff (hrecords : query.ForRecords)
    (h : outcome (model.find query) source = .ok result) (hmem : shaped ∈ result.records) :
    shaped.label = titleCase model.name ∧
      ∀ label, label ∈ shaped.related.keys ↔ query.FindsUnder source label shaped.record := by
  have hwhole := h
  rw [outcome_find] at hwhole
  obtain ⟨entries, hfound, _⟩ := exists_ok_of_bind hwhole
  by_cases hentries : entries = []
  · rw [hentries] at hfound
    rw [outcome_find_of_nil hrecords hfound] at h
    obtain rfl := Except.ok.inj h
    cases hmem
  · rw [outcome_find_of_ne_nil hrecords hfound hentries] at h
    obtain ⟨resolved, hresolved, rfl⟩ := exists_ok_of_map h
    obtain ⟨plain, hplain, hlabel, _, hkeys⟩ :=
      Query.exists_of_mem_relate hresolved (Query.mem_of_mem_shape hmem)
    obtain ⟨entry, _, rfl⟩ := List.mem_map.mp hplain
    refine ⟨hlabel, fun label => (hkeys label).trans (or_iff_right ?_)⟩
    exact List.not_mem_nil

/-- **When the keys of an answer are distinct.** The object of a record in the answer to a query
    for records has the name of the model and the labels of the relations as its keys. They are
    distinct unless a relation whose base has the name of the model as its label finds something
    for the record, and this is also when each member can be read under its key. -/
theorem find_keys_distinct (hrecords : query.ForRecords)
    (h : outcome (model.find query) source = .ok result) (hmem : shaped ∈ result.records) :
    shaped.toJson = .object shaped.members ∧
      (shaped.keys.Nodup ↔ ¬query.FindsUnder source (titleCase model.name) shaped.record) ∧
      (shaped.keys.Nodup ↔ ∀ member ∈ shaped.members,
        Json.member? member.1 shaped.members = some (some member.2)) := by
  obtain ⟨hlabel, hkeys⟩ := mem_keys_related_iff hrecords h hmem
  refine ⟨shaped.toJson_eq, ?_, ?_⟩
  · rw [shaped.nodup_keys_iff, hlabel, hkeys]
  · rw [ShapedRecord.keys, Json.nodup_names_iff]
    simp only [Json.member?_eq_some_some_iff]

/-- A group with a member, in a query that also asks for the groups it belongs to: the base of this
    relation has the label of the group itself, but nothing is found there. -/
theorem find_keys_distinct_group_of_person :
    let model := Model.ofName "group" "ou=Group,dc=x"
    let query := { Query.ofType .all with
      belongsTo := some ⟨"memberof", "dn", "ou=Group,dc=x", []⟩
      hasMany := some ⟨"member", "dn", "ou=People,dc=x", []⟩ }
    let staff : Entry := ⟨"cn=staff,ou=Group,dc=x", [⟨"member", ["uid=ann,ou=People,dc=x"]⟩]⟩
    let ann : Entry := ⟨"uid=ann,ou=People,dc=x", [⟨"uid", ["ann"]⟩]⟩
    let source := { ofIdentity "memory://groups" with entries := [staff, ann] }
    let group := (ShapedRecord.ofRecord "Group" staff.normalize).attach "People" [ann.normalize]
    query.ForRecords ∧ outcome (model.find query) source = .ok (.all [group]) ∧
      group.keys = ["Group", "People"] ∧
      ¬query.FindsUnder source (titleCase model.name) group.record ∧
      ∀ member ∈ group.members, Json.member? member.1 group.members = some (some member.2) := by
  intro model query staff ann source group
  have hfind : outcome (model.find query) source = .ok (.all [group]) := rfl
  have hkeys : group.keys.Nodup := by decide
  obtain ⟨-, hfinds, hread⟩ :=
    find_keys_distinct (.inr rfl) hfind (List.mem_singleton_self group)
  exact ⟨.inr rfl, hfind, rfl, hfinds.mp hkeys, hread.mp hkeys⟩

/-- A group that belongs to another group: both are written under the same key, and neither can be
    read back. -/
theorem find_keys_repeated_group_of_group :
    let model := Model.ofName "group" "ou=Group,dc=x"
    let query := { Query.ofType .first with
      belongsTo := some ⟨"memberof", "dn", "ou=Group,dc=x", []⟩ }
    let staff : Entry := ⟨"cn=staff,ou=Group,dc=x", [⟨"memberof", ["cn=all,ou=Group,dc=x"]⟩]⟩
    let all : Entry := ⟨"cn=all,ou=Group,dc=x", [⟨"cn", ["all"]⟩]⟩
    let source := { ofIdentity "memory://groups" with entries := [staff, all] }
    ∃ group : ShapedRecord,
      outcome (model.find query) source = .ok (.first group) ∧
      group.toJson = .object
        [("Group", staff.normalize.toJson), ("Group", .array [all.normalize.toJson])] ∧
      ¬group.keys.Nodup ∧ Json.member? "Group" group.members = none := by
  intro model query staff all source
  exact ⟨(ShapedRecord.ofRecord "Group" staff.normalize).attach "Group" [all.normalize], rfl, rfl,
    by decide, rfl⟩

end Model

end DirectoryRecords
