import DirectoryRecords.Proofs.QueryRuns

/-!
# Two relations in one query — what is kept of each

    A query with two relations follows one after the other and collects what
    they find in one map, under the labels of their bases. A label is only the
    first value of a name: two bases may share it, and two relations may share
    a base. What is attached under a label takes the place of what was there.

    * Both relations are followed from the same values, so a query with both
      succeeds only where a query with either of them alone does, and attaches
      to a record first what the one finds and then what the other finds
      (`outcome_relate_both`).
    * Of the second relation nothing is lost. The records of the first one are
      kept unless the labels agree and the second finds other records
      (`kept_of_both`).

    For whole queries this is `find_both_relations`, and an example where the
    first relation is lost follows it.
-/

namespace DirectoryRecords

open Text Directory

/-! ## Two attachments -/

namespace ShapedRecord

/-- The records under a label. -/
def under (shaped : ShapedRecord) (label : Text) : List Record :=
  (shaped.related.get? label).getD []

@[simp] theorem under_ofRecord (label other : Text) (record : Record) :
    (ofRecord label record).under other = [] := rfl

/-- Attached records take the place of those under the same label. -/
theorem under_attachAny (shaped : ShapedRecord) (label other : Text) (records : List Record) :
    (shaped.attachAny label records).under other
      = if other = label ∧ records ≠ [] then records else shaped.under other := by
  by_cases hrecords : records = []
  · rw [if_neg fun h => h.2 hrecords, hrecords, attachAny_nil]
  · rw [attachAny_of_ne hrecords, under, attach, TextMap.get?_insert]
    by_cases hother : other = label
    · rw [if_pos hother, if_pos ⟨hother, hrecords⟩]
      rfl
    · rw [if_neg hother, if_neg fun h => hother h.1]
      rfl

/-- Under a label where nothing was, there is what is attached. -/
theorem under_attachAny_of_fresh {shaped : ShapedRecord} {label : Text}
    (h : shaped.under label = []) (records : List Record) :
    (shaped.attachAny label records).under label = records := by
  rw [under_attachAny]
  by_cases hrecords : records = []
  · rw [if_neg fun h => h.2 hrecords, h, hrecords]
  · rw [if_pos ⟨rfl, hrecords⟩]

/-- Of two attachments the second is kept; the first is kept unless they share a label under which
    the second has other records. -/
theorem kept_of_both {shaped : ShapedRecord} {label label' : Text}
    (h : shaped.under label = []) (h' : shaped.under label' = []) (first second : List Record) :
    let one := shaped.attachAny label first
    let other := shaped.attachAny label' second
    let both := one.attachAny label' second
    other.under label' ⊆ both.under label' ∧
      (one.under label ⊆ both.under label
        ↔ label ≠ label' ∨ other.under label' = [] ∨ one.under label ⊆ other.under label') := by
  intro one other both
  have hone : one.under label = first := under_attachAny_of_fresh h first
  have hother : other.under label' = second := under_attachAny_of_fresh h' second
  rw [hone, hother]
  by_cases hsecond : second = []
  · have hboth : both = one := by
      show one.attachAny label' second = one
      rw [hsecond, attachAny_nil]
    rw [hboth, hone, hsecond]
    exact ⟨List.nil_subset _, fun _ => .inr (.inl rfl), fun _ => List.Subset.refl first⟩
  · refine ⟨?_, ?_⟩
    · rw [under_attachAny, if_pos ⟨rfl, hsecond⟩]
      exact List.Subset.refl second
    · rw [under_attachAny]
      by_cases hlabel : label = label'
      · rw [if_pos ⟨hlabel, hsecond⟩]
        exact ⟨fun hkept => .inr (.inr hkept), fun hkept =>
          (hkept.resolve_left fun hne => hne hlabel).resolve_left hsecond⟩
      · rw [if_neg fun hboth => hlabel hboth.1, hone]
        exact ⟨fun _ => .inl hlabel, fun _ => List.Subset.refl first⟩

end ShapedRecord

/-! ## Two relations -/

namespace Query

variable {query : Query} {belongsTo hasMany : Relation} {label label' : Text} {source : Directory}

/-- The query without its second relation. -/
def belongsToAlone (query : Query) : Query := { query with hasMany := none }

/-- The query without its first relation. -/
def hasManyAlone (query : Query) : Query := { query with belongsTo := none }

theorem outcome_relate_belongsToAlone (hfirst : query.belongsTo = some belongsTo)
    (hlabel : Dn.leafLabel belongsTo.base = .ok label) (records resolved : List ShapedRecord) :
    outcome (query.belongsToAlone.relate records) source = .ok resolved
      ↔ (∀ shaped ∈ records, belongsTo.Answered source shaped.record) ∧
          records.map (belongsTo.withFound source .belongsTo label) = resolved := by
  have hrelate : outcome (query.belongsToAlone.relate records) source
      = outcome (belongsTo.resolve .belongsTo records) source := by
    rw [outcome_relate, belongsToAlone, hfirst]
    show outcome (belongsTo.resolve .belongsTo records) source >>= pure = _
    exact bind_pure _
  rw [hrelate]
  exact Relation.outcome_resolve_eq_ok_iff hlabel .belongsTo records resolved source

theorem outcome_relate_hasManyAlone (hsecond : query.hasMany = some hasMany)
    (hlabel' : Dn.leafLabel hasMany.base = .ok label') (records resolved : List ShapedRecord) :
    outcome (query.hasManyAlone.relate records) source = .ok resolved
      ↔ (∀ shaped ∈ records, hasMany.Answered source shaped.record) ∧
          records.map (hasMany.withFound source .hasMany label') = resolved := by
  have hrelate : outcome (query.hasManyAlone.relate records) source
      = outcome (hasMany.resolve .hasMany records) source := by
    rw [outcome_relate, hasManyAlone, hsecond]
    rfl
  rw [hrelate]
  exact Relation.outcome_resolve_eq_ok_iff hlabel' .hasMany records resolved source

/-- A query with two relations attaches what the first one finds, and then what the second one
    finds; both are followed from the values of the record itself. -/
theorem outcome_relate_both (hfirst : query.belongsTo = some belongsTo)
    (hsecond : query.hasMany = some hasMany) (hlabel : Dn.leafLabel belongsTo.base = .ok label)
    (hlabel' : Dn.leafLabel hasMany.base = .ok label') {records resolved : List ShapedRecord}
    (h : outcome (query.relate records) source = .ok resolved) :
    (∀ shaped ∈ records, belongsTo.Answered source shaped.record) ∧
      (∀ shaped ∈ records, hasMany.Answered source shaped.record) ∧
      records.map (hasMany.withFound source .hasMany label' ∘
        belongsTo.withFound source .belongsTo label) = resolved := by
  rw [outcome_relate, hfirst, hsecond] at h
  obtain ⟨middle, hmiddle, hresolved⟩ := exists_ok_of_bind h
  obtain ⟨hbelongs, rfl⟩ :=
    (Relation.outcome_resolve_eq_ok_iff hlabel .belongsTo records middle source).mp hmiddle
  obtain ⟨hhave, rfl⟩ :=
    (Relation.outcome_resolve_eq_ok_iff hlabel' .hasMany _ resolved source).mp hresolved
  simp only [List.forall_mem_map, Relation.record_withFound] at hhave
  exact ⟨hbelongs, hhave, List.map_map.symm⟩

/-- Rewritten records are answered in the places of the records themselves. -/
theorem records_shape_map (query : Query) (f : ShapedRecord → ShapedRecord)
    (records : List ShapedRecord) :
    (query.shape (records.map f)).records = (query.shape records).records.map f := by
  rw [records_shape, records_shape, apply_ite (List.map f), List.map_take]

end Query

namespace Model

variable {model : Model} {query : Query} {belongsTo hasMany : Relation} {label label' : Text}
  {source : Directory}

/-! ## Queries -/

/-- Nothing is attached to the records of the entries that are found. -/
theorem under_of_mem_shape_recordsOf {entries : List Entry} {shaped : ShapedRecord}
    (h : shaped ∈ (query.shape (model.recordsOf query entries)).records) (label : Text) :
    shaped.under label = [] := by
  obtain ⟨entry, _, rfl⟩ := List.mem_map.mp (Query.mem_of_mem_shape h)
  exact ShapedRecord.under_ofRecord _ label entry.normalize

/-- Where a query with two relations succeeds, it does so with either of them alone, and all three
    answer with the same records: with what both relations find for them, or one of them. -/
theorem exists_records_of_find (hrecords : query.ForRecords)
    (hfirst : query.belongsTo = some belongsTo) (hsecond : query.hasMany = some hasMany)
    (hlabel : Dn.leafLabel belongsTo.base = .ok label)
    (hlabel' : Dn.leafLabel hasMany.base = .ok label') {both : FindResult}
    (h : outcome (model.find query) source = .ok both) :
    ∃ (records : List ShapedRecord) (first second : FindResult),
      (∀ shaped ∈ records, ∀ label, shaped.under label = []) ∧
      outcome (model.find query.belongsToAlone) source = .ok first ∧
      outcome (model.find query.hasManyAlone) source = .ok second ∧
      first.records = records.map (belongsTo.withFound source .belongsTo label) ∧
      second.records = records.map (hasMany.withFound source .hasMany label') ∧
      both.records = records.map (hasMany.withFound source .hasMany label' ∘
        belongsTo.withFound source .belongsTo label) := by
  have hwhole := h
  rw [outcome_find] at hwhole
  obtain ⟨entries, hfound, _⟩ := exists_ok_of_bind hwhole
  -- A relation has no part in the search, which is the same without it.
  have hfound₁ : model.found query.belongsToAlone source = .ok entries := hfound
  have hfound₂ : model.found query.hasManyAlone source = .ok entries := hfound
  have hrecords₁ : query.belongsToAlone.ForRecords := hrecords
  have hrecords₂ : query.hasManyAlone.ForRecords := hrecords
  by_cases hentries : entries = []
  · rw [hentries] at hfound hfound₁ hfound₂
    rw [outcome_find_of_nil hrecords hfound] at h
    obtain rfl := Except.ok.inj h
    exact ⟨[], .empty, .empty, List.forall_mem_nil _, outcome_find_of_nil hrecords₁ hfound₁,
      outcome_find_of_nil hrecords₂ hfound₂, rfl, rfl, rfl⟩
  · rw [outcome_find_of_ne_nil hrecords hfound hentries] at h
    obtain ⟨resolved, hresolved, rfl⟩ := exists_ok_of_map h
    obtain ⟨hbelongs, hhave, rfl⟩ :=
      Query.outcome_relate_both hfirst hsecond hlabel hlabel' hresolved
    have hone := (Query.outcome_relate_belongsToAlone hfirst hlabel _ _).mpr ⟨hbelongs, rfl⟩
    have hother := (Query.outcome_relate_hasManyAlone hsecond hlabel' _ _).mpr ⟨hhave, rfl⟩
    refine ⟨(query.shape (model.recordsOf query entries)).records,
      query.shape ((model.recordsOf query entries).map
        (belongsTo.withFound source .belongsTo label)),
      query.shape ((model.recordsOf query entries).map
        (hasMany.withFound source .hasMany label')),
      fun shaped hmem label => under_of_mem_shape_recordsOf hmem label, ?_, ?_,
      query.records_shape_map _ _, query.records_shape_map _ _, query.records_shape_map _ _⟩
    · rw [outcome_find_of_ne_nil hrecords₁ hfound₁ hentries]
      exact congrArg (Except.map query.shape) hone
    · rw [outcome_find_of_ne_nil hrecords₂ hfound₂ hentries]
      exact congrArg (Except.map query.shape) hother

/-- **What a query with two relations keeps of each.** Where it succeeds, it does so with either
    relation alone, and the answers have the same records in the same places. Everything that the
    second relation alone attaches to a record is there. What the first one alone attaches is
    there exactly when the labels of the bases differ, or the second relation attaches nothing, or
    it attaches all of that itself. -/
theorem find_both_relations (hrecords : query.ForRecords)
    (hfirst : query.belongsTo = some belongsTo) (hsecond : query.hasMany = some hasMany)
    (hlabel : Dn.leafLabel belongsTo.base = .ok label)
    (hlabel' : Dn.leafLabel hasMany.base = .ok label') {both : FindResult}
    (h : outcome (model.find query) source = .ok both) :
    ∃ first second : FindResult,
      outcome (model.find query.belongsToAlone) source = .ok first ∧
      outcome (model.find query.hasManyAlone) source = .ok second ∧
      first.records.length = both.records.length ∧
      second.records.length = both.records.length ∧
      ∀ (i : Nat) (shaped : ShapedRecord), both.records[i]? = some shaped →
        ∃ one other : ShapedRecord,
          first.records[i]? = some one ∧ second.records[i]? = some other ∧
          one.record = shaped.record ∧ other.record = shaped.record ∧
          other.under label' ⊆ shaped.under label' ∧
          (one.under label ⊆ shaped.under label
            ↔ label ≠ label' ∨ other.under label' = [] ∨ one.under label ⊆ other.under label') := by
  obtain ⟨records, first, second, hfresh, hone, hother, hrecords₁, hrecords₂, hboth⟩ :=
    exists_records_of_find hrecords hfirst hsecond hlabel hlabel' h
  refine ⟨first, second, hone, hother, ?_, ?_, fun i shaped hshaped => ?_⟩
  · rw [hrecords₁, hboth, List.length_map, List.length_map]
  · rw [hrecords₂, hboth, List.length_map, List.length_map]
  · rw [hboth, List.getElem?_map] at hshaped
    obtain ⟨plain, hplain, rfl⟩ := Option.map_eq_some_iff.mp hshaped
    have hnothing := hfresh plain (List.mem_of_getElem? hplain)
    rw [Function.comp_apply]
    refine ⟨belongsTo.withFound source .belongsTo label plain,
      hasMany.withFound source .hasMany label' plain, ?_, ?_, ?_, ?_, ?_⟩
    · rw [hrecords₁, List.getElem?_map, hplain]
      rfl
    · rw [hrecords₂, List.getElem?_map, hplain]
      rfl
    · rw [Relation.record_withFound hasMany]
    · rw [Relation.record_withFound, Relation.record_withFound, Relation.record_withFound]
    · -- The second relation is followed from the record that the first one left as it was.
      have hsame : hasMany.withFound source .hasMany label'
          (belongsTo.withFound source .belongsTo label plain)
          = (belongsTo.withFound source .belongsTo label plain).attachAny label'
              (hasMany.foundFor source .hasMany plain.record) :=
        congrArg (fun record => (belongsTo.withFound source .belongsTo label plain).attachAny label'
            (hasMany.foundFor source .hasMany record))
          (belongsTo.record_withFound source .belongsTo label plain)
      rw [hsame]
      exact ShapedRecord.kept_of_both (hnothing label) (hnothing label')
        (belongsTo.foundFor source .belongsTo plain.record)
        (hasMany.foundFor source .hasMany plain.record)

/-- A person with a group and a device: the bases have different labels, and both are kept. -/
theorem find_both_relations_group_and_device :
    let model := Model.ofName "person" "ou=People,dc=x"
    let belongsTo : Relation := ⟨"memberof", "dn", "ou=Group,dc=x", []⟩
    let hasMany : Relation := ⟨"uid", "owner", "ou=Device,dc=x", []⟩
    let query := { Query.ofType .first with
      belongsTo := some belongsTo, hasMany := some hasMany }
    let ann : Entry := ⟨"uid=ann,ou=People,dc=x",
      [⟨"uid", ["ann"]⟩, ⟨"memberof", ["cn=staff,ou=Group,dc=x"]⟩]⟩
    let staff : Entry := ⟨"cn=staff,ou=Group,dc=x", [⟨"cn", ["staff"]⟩]⟩
    let laptop : Entry := ⟨"cn=laptop,ou=Device,dc=x", [⟨"owner", ["ann"]⟩]⟩
    let source := { ofIdentity "memory://people" with entries := [ann, staff, laptop] }
    let person := ((ShapedRecord.ofRecord "Person" ann.normalize).attach "Group"
      [staff.normalize]).attach "Device" [laptop.normalize]
    query.ForRecords ∧ Dn.leafLabel belongsTo.base = .ok "Group" ∧
      Dn.leafLabel hasMany.base = .ok "Device" ∧
      outcome (model.find query) source = .ok (.first person) ∧
      ∃ (first second : FindResult) (one other : ShapedRecord),
        outcome (model.find query.belongsToAlone) source = .ok first ∧
        outcome (model.find query.hasManyAlone) source = .ok second ∧
        first.records[0]? = some one ∧ second.records[0]? = some other ∧
        one.under "Group" ⊆ person.under "Group" ∧
        other.under "Device" ⊆ person.under "Device" := by
  intro model belongsTo hasMany query ann staff laptop source person
  have hboth : outcome (model.find query) source = .ok (.first person) := rfl
  refine ⟨.inl rfl, rfl, rfl, hboth, ?_⟩
  obtain ⟨first, second, hfirst, hsecond, _, _, hall⟩ :=
    find_both_relations (.inl rfl) rfl rfl (show Dn.leafLabel belongsTo.base = .ok "Group" from rfl)
      (show Dn.leafLabel hasMany.base = .ok "Device" from rfl) hboth
  obtain ⟨one, other, hone, hother, _, _, hkept, hiff⟩ := hall 0 person rfl
  exact ⟨first, second, one, other, hfirst, hsecond, hone, hother,
    hiff.mpr (.inl (by decide)), hkept⟩

/-- A person with a group and a group of which they are the owner: the relations have one base,
    and the group that the person belongs to is lost. -/
theorem find_both_relations_one_base :
    let model := Model.ofName "person" "ou=People,dc=x"
    let query := { Query.ofType .first with
      belongsTo := some ⟨"memberof", "dn", "ou=Group,dc=x", []⟩
      hasMany := some ⟨"uid", "owner", "ou=Group,dc=x", []⟩ }
    let ann : Entry := ⟨"uid=ann,ou=People,dc=x",
      [⟨"uid", ["ann"]⟩, ⟨"memberof", ["cn=staff,ou=Group,dc=x"]⟩]⟩
    let staff : Entry := ⟨"cn=staff,ou=Group,dc=x", [⟨"cn", ["staff"]⟩]⟩
    let admins : Entry := ⟨"cn=admins,ou=Group,dc=x", [⟨"owner", ["ann"]⟩]⟩
    let source := { ofIdentity "memory://people" with entries := [ann, staff, admins] }
    ∃ one both : ShapedRecord,
      outcome (model.find query.belongsToAlone) source = .ok (.first one) ∧
      outcome (model.find query) source = .ok (.first both) ∧
      staff.normalize ∈ one.under "Group" ∧ staff.normalize ∉ both.under "Group" := by
  intro model query ann staff admins source
  refine ⟨(ShapedRecord.ofRecord "Person" ann.normalize).attach "Group" [staff.normalize],
    (ShapedRecord.ofRecord "Person" ann.normalize).attach "Group" [admins.normalize], rfl, rfl,
    ?_, ?_⟩
  · exact List.mem_singleton_self staff.normalize
  · exact fun hmem => absurd (List.mem_singleton.mp hmem) (by decide)

end Model

end DirectoryRecords
