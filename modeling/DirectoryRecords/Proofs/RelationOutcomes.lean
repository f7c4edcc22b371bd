import DirectoryRecords.Proofs.BothRelations
import DirectoryRecords.Proofs.QuerySteps

/-!
# Relation outcomes — what resolving leaves of the records, and what not

    A relation goes through the values of the local key of each record and
    keeps what they find: everything, or what the last value finds that finds
    anything. One more value adds to that, takes its place or leaves it as it
    is (`collect_concat`), and the facts about all values follow from this
    step, by induction on the list from its end:

    * nothing is kept exactly when no value finds anything
      (`collect_eq_nil_iff`);
    * what is kept is the concatenation of all that was found, or the last of
      it that is not empty (`collects_collect`);
    * the latter is the end of the former (`collect_suffix`).

    What is kept goes under the label of the base, and nothing else of a
    record changes (`attached_withFound`). Both kinds take the same steps, so
    they make the same calls and fail alike (`resolve_attaches`).
-/

namespace DirectoryRecords

open Text Directory

/-! ## What is kept -/

namespace RelationKind

variable {found : List (List Record)}

/-- One more value adds what it finds, or takes the place of what was found before it; a value
    that finds nothing does neither. -/
theorem collect_concat (kind : RelationKind) (found : List (List Record))
    (records : List Record) :
    kind.collect (found ++ [records]) =
      if records = [] then kind.collect found
      else match kind with
        | .belongsTo => kind.collect found ++ records
        | .hasMany => records := by
  cases kind with
  | belongsTo =>
      rw [collect, List.flatten_concat]
      split
      · next h => rw [h, List.append_nil, collect]
      · rfl
  | hasMany =>
      rw [collect, List.filter_append]
      split
      · next h =>
          rw [h, List.filter_cons_of_neg (by simp), List.filter_nil, List.append_nil, collect]
      · next h =>
          rw [List.filter_cons_of_pos (by simpa using h), List.filter_nil, List.getLast?_concat]
          rfl

/-- Nothing is kept exactly when no value finds anything. -/
theorem collect_eq_nil_iff {kind : RelationKind} :
    kind.collect found = [] ↔ ∀ records ∈ found, records = [] := by
  induction found using List.reverseRecOn with
  | nil => cases kind <;> exact iff_of_true rfl (List.forall_mem_nil _)
  | append_singleton found records ih =>
      rw [collect_concat, List.forall_mem_append, List.forall_mem_singleton]
      by_cases h : records = []
      · rw [if_pos h, ih, and_iff_left h]
      · rw [if_neg h]
        refine iff_of_false ?_ fun hall => h hall.2
        cases kind with
        | belongsTo => exact fun happend => h (List.append_eq_nil_iff.mp happend).2
        | hasMany => exact h

/-- The records are what is to be kept: all that was found, or the last of it that is not
    empty. -/
def Collects (kind : RelationKind) (found : List (List Record)) (records : List Record) : Prop :=
  match kind with
  | .belongsTo => records = found.flatten
  | .hasMany => records ≠ [] ∧ ∃ front back, found = front ++ records :: back ∧
      ∀ later ∈ back, later = []

theorem collects_collect {kind : RelationKind} (h : kind.collect found ≠ []) :
    kind.Collects found (kind.collect found) := by
  cases kind with
  | belongsTo => exact rfl
  | hasMany =>
      refine ⟨h, ?_⟩
      induction found using List.reverseRecOn with
      | nil => exact absurd rfl h
      | append_singleton found records ih =>
          rw [collect_concat] at h ⊢
          by_cases hempty : records = []
          · rw [if_pos hempty] at h ⊢
            obtain ⟨front, back, hfound, hback⟩ := ih h
            refine ⟨front, back ++ [records], ?_, ?_⟩
            · rw [← List.cons_append, ← List.append_assoc, ← hfound]
            · exact List.forall_mem_append.mpr
                ⟨hback, List.forall_mem_singleton.mpr hempty⟩
          · rw [if_neg hempty]
            exact ⟨found, [], rfl, List.forall_mem_nil _⟩

/-- What is kept of the last value is the end of what is kept of all. -/
theorem collect_suffix (found : List (List Record)) :
    collect .hasMany found <:+ collect .belongsTo found := by
  induction found using List.reverseRecOn with
  | nil => exact List.suffix_refl []
  | append_singleton found records ih =>
      rw [collect_concat, collect_concat]
      by_cases hempty : records = []
      · rw [if_pos hempty, if_pos hempty]
        exact ih
      · rw [if_neg hempty, if_neg hempty]
        exact List.suffix_append _ _

end RelationKind

/-! ## One record -/

namespace Relation

variable {relation : Relation} {source : Directory}

/-- What a relation makes of a record of which the values of the local key find these records.
    Only the records under the label change, and these only if anything was found. -/
structure Attached (relation : Relation) (source : Directory) (kind : RelationKind) (label : Text)
    (found : List (List Record)) (before after : ShapedRecord) : Prop where
  lookups : List.Forall₂
    (fun value records => outcome (relation.lookup value) source = .ok records)
    (relation.localValues before.record) found
  label_eq : after.label = before.label
  record_eq : after.record = before.record
  others : ∀ other, other ≠ label → after.related.get? other = before.related.get? other
  absent : before.record.get? relation.localKey = none → after = before
  nothing : (∀ records ∈ found, records = []) → after = before
  something : (∃ records ∈ found, records ≠ []) →
    ∃ records, kind.Collects found records ∧ after.related.get? label = some records

/-- Where the lookups for a record succeed, what they find is attached to it. -/
theorem attached_withFound {before : ShapedRecord}
    (h : relation.Answered source before.record) (kind : RelationKind) (label : Text) :
    relation.Attached source kind label
      ((relation.localValues before.record).map (relation.lookedUp source)) before
      (relation.withFound source kind label before) where
  lookups := by
    rw [List.forall₂_map_right_iff, List.forall₂_same]
    intro value hmem
    obtain ⟨records, hrecords⟩ := h value hmem
    rw [outcome_lookup, hrecords, lookedUp_of_ok value records hrecords]
  label_eq := before.label_attachAny label _
  record_eq := relation.record_withFound source kind label before
  others other hother := before.get?_attachAny_of_ne hother _
  absent hkey := by
    rw [withFound, foundFor, localValues, hkey]
    cases kind <;> rfl
  nothing hempty := by
    rw [withFound, foundFor, RelationKind.collect_eq_nil_iff.mpr hempty,
      ShapedRecord.attachAny_nil]
  something hsome := by
    have hne : relation.foundFor source kind before.record ≠ [] := by
      rw [foundFor, ne_eq, RelationKind.collect_eq_nil_iff]
      obtain ⟨records, hmem, hrecords⟩ := hsome
      exact fun hempty => hrecords (hempty records hmem)
    refine ⟨_, RelationKind.collects_collect hne, ?_⟩
    rw [withFound, ShapedRecord.attachAny_of_ne hne, ShapedRecord.attach, TextMap.get?_insert,
      if_pos rfl, foundFor]

/-- Under the label the last value leaves an end of what all values leave. -/
theorem under_withFound_suffix (relation : Relation) (source : Directory) (label : Text)
    (before : ShapedRecord) :
    (relation.withFound source .hasMany label before).under label
      <:+ (relation.withFound source .belongsTo label before).under label := by
  rw [withFound, withFound, ShapedRecord.under_attachAny, ShapedRecord.under_attachAny]
  -- Both kinds attach something or neither does, so what was there stays for both.
  have hboth : relation.foundFor source .hasMany before.record = [] ↔
      relation.foundFor source .belongsTo before.record = [] := by
    rw [foundFor, foundFor, RelationKind.collect_eq_nil_iff, RelationKind.collect_eq_nil_iff]
  by_cases hempty : relation.foundFor source .hasMany before.record = []
  · rw [if_neg fun h => h.2 hempty, if_neg fun h => h.2 (hboth.mp hempty)]
  · rw [if_pos ⟨rfl, hempty⟩, if_pos ⟨rfl, fun h => hempty (hboth.mpr h)⟩]
    exact RelationKind.collect_suffix _

/-! ## All records -/

/-- **What resolving leaves of the records.** Where a relation is resolved, its base has a label
    and the records come back one by one in their order, each with what the values of its local
    key find under this label, and otherwise as it was. On the same records both kinds make the
    same calls and fail with the same error; where they succeed, the records that the last value
    leaves under the label are the end of those that all values leave there. -/
theorem resolve_attaches (relation : Relation) (records : List ShapedRecord)
    (source : Directory) :
    (∀ kind resolved, outcome (relation.resolve kind records) source = .ok resolved →
      ∃ label, Dn.leafLabel relation.base = .ok label ∧
        List.Forall₂ (fun before after =>
          ∃ found, relation.Attached source kind label found before after) records resolved) ∧
    callsOf (relation.resolve .belongsTo records) source
      = callsOf (relation.resolve .hasMany records) source ∧
    (∀ e, outcome (relation.resolve .belongsTo records) source = .error e ↔
      outcome (relation.resolve .hasMany records) source = .error e) ∧
    (∀ all last, outcome (relation.resolve .belongsTo records) source = .ok all →
      outcome (relation.resolve .hasMany records) source = .ok last →
      ∃ label, Dn.leafLabel relation.base = .ok label ∧
        List.Forall₂ (fun one other => one.under label <:+ other.under label) last all) := by
  have hsteps := fun kind => relation.follows_resolve kind records source
  refine ⟨?_, ?_, ?_, ?_⟩
  · intro kind resolved h
    obtain ⟨label, hlabel, hanswered, rfl⟩ := exists_of_resolve h
    refine ⟨label, hlabel, ?_⟩
    rw [List.forall₂_map_right_iff, List.forall₂_same]
    exact fun shaped hmem => ⟨_, attached_withFound (hanswered shaped hmem) kind label⟩
  · rw [(hsteps .belongsTo).calls, (hsteps .hasMany).calls]
  · intro e
    rw [← failureOf_eq_some_iff, ← failureOf_eq_some_iff, (hsteps .belongsTo).failure,
      (hsteps .hasMany).failure]
  · intro all last hall hlast
    obtain ⟨label, hlabel, -, rfl⟩ := exists_of_resolve hall
    obtain ⟨label', hlabel', -, rfl⟩ := exists_of_resolve hlast
    obtain rfl := Except.ok.inj (hlabel.symm.trans hlabel')
    refine ⟨label, hlabel, ?_⟩
    rw [List.forall₂_map_right_iff, List.forall₂_map_left_iff, List.forall₂_same]
    exact fun shaped _ => relation.under_withFound_suffix source label shaped

/-- Of a person in four groups two are found, and another person is in none. Both had a group
    before: the one that is found last, or the two, take its place for the first person. -/
theorem resolve_attaches_two_of_four :
    let relation : Relation := ⟨"memberOf", "cn", "ou=Group,dc=x", []⟩
    let group (cn : String) : Entry :=
      ⟨"cn=".toList ++ cn.toList ++ ",ou=Group,dc=x".toList, [⟨"cn", [cn.toList]⟩]⟩
    let source := { ofIdentity "memory://groups" with entries := [group "staff", group "admins"] }
    let before (record : Record) : ShapedRecord :=
      (ShapedRecord.ofRecord "Person" record).attach "Group" [(group "guests").normalize]
    let ann := before ((Record.ofDn "uid=ann").set "memberOf"
      (.multi ["admins", "cooks", "staff", "cooks"]))
    let bob := before (Record.ofDn "uid=bob")
    let all := ann.attach "Group" [(group "admins").normalize, (group "staff").normalize]
    let last := ann.attach "Group" [(group "staff").normalize]
    outcome (relation.resolve .belongsTo [ann, bob]) source = .ok [all, bob] ∧
      outcome (relation.resolve .hasMany [ann, bob]) source = .ok [last, bob] ∧
      (∃ found, relation.Attached source .hasMany "Group" found ann last) ∧
      callsOf (relation.resolve .belongsTo [ann, bob]) source
        = callsOf (relation.resolve .hasMany [ann, bob]) source ∧
      last.under "Group" <:+ all.under "Group" := by
  intro relation group source before ann bob all last
  have hall : outcome (relation.resolve .belongsTo [ann, bob]) source = .ok [all, bob] := rfl
  have hlast : outcome (relation.resolve .hasMany [ann, bob]) source = .ok [last, bob] := rfl
  have hbase : Dn.leafLabel relation.base = .ok "Group".toList := rfl
  obtain ⟨hresolve, hcalls, -, hsuffix⟩ := relation.resolve_attaches [ann, bob] source
  obtain ⟨label, hlabel, hattached⟩ := hresolve .hasMany _ hlast
  obtain rfl := Except.ok.inj (hbase.symm.trans hlabel)
  obtain ⟨label, hlabel, hends⟩ := hsuffix _ _ hall hlast
  obtain rfl := Except.ok.inj (hbase.symm.trans hlabel)
  exact ⟨hall, hlast, (List.forall₂_cons.mp hattached).1, hcalls, (List.forall₂_cons.mp hends).1⟩

end Relation

end DirectoryRecords
