import DirectoryRecords.Proofs.RelationProjection

/-!
# Default fields — what a model's own attributes add to a projection

    The attributes that a model always includes follow the wanted ones in the
    projection. A projection with names in it shows what these names stand
    for, so more names show more (`shows_of_subset`), also after the attribute
    of the order has joined them (`covers_ensure`). A record under the wider
    projection has every value that it has under the narrower one
    (`Covers.get?`), unless attributes of an entry differ in the case of their
    names beyond ASCII: a projection tells them apart and a record does not.

    Where nothing is wanted this is not so. The empty projection shows
    everything, and the model's own attributes make an explicit one of it that
    shows these alone. `find_default_fields` says both of all queries for
    records.
-/

namespace DirectoryRecords

open Text Directory

/-- Only a star agrees with a star. -/
theorem Text.eq_star_of_agrees {text : Text} (h : agrees text "*" = true) : text = "*".toList :=
  (by decide : Caseless '*').asciiLower_eq_singleton_iff.mp ((agrees_iff text "*").mp h)

/-! ## Explicit lists -/

namespace FieldList

variable {name : Text} {names : List Text}

theorem subset_ensure (name : Text) (names : List Text) : names ⊆ ensure name names := by
  rw [ensure]
  split
  · exact List.Subset.refl names
  · exact List.subset_append_left names [name]

theorem mem_of_mem_ensure {other : Text} (h : other ∈ ensure name names) :
    other ∈ names ∨ other = name := by
  rw [ensure] at h
  split at h
  · exact .inl h
  · exact (List.mem_append.mp h).imp_right List.mem_singleton.mp

/-- An explicit list has the name that was to be ensured, in some letter case. -/
theorem exists_mem_ensure (name : Text) (h : names ≠ []) :
    ∃ other ∈ ensure name names, agrees other name = true := by
  rw [ensure]
  split
  · next hensured =>
      rcases Bool.or_eq_true_iff.mp hensured with hempty | hany
      · exact absurd (List.isEmpty_iff.mp hempty) h
      · exact List.any_eq_true.mp hany
  · exact ⟨name, List.mem_append_right names List.mem_cons_self, agrees_refl name⟩

end FieldList

namespace Entry

variable {entry : Entry} {names wider narrower : List Text} {name key : Text} {value : Value}

/-- An explicit list shows what one of its names stands for: a star for everything. -/
theorem shows_iff (h : names ≠ []) :
    shows names name = true ↔ ∃ other ∈ names, other = "*".toList ∨ agrees other name = true := by
  have hempty : names.isEmpty = false := Bool.eq_false_iff.mpr (List.isEmpty_iff.not.mpr h)
  rw [shows, hempty, Bool.false_or, Bool.or_eq_true_iff, List.contains_iff_mem, List.any_eq_true]
  constructor
  · rintro (hstar | ⟨other, hmem, hagrees⟩)
    · exact ⟨"*".toList, hstar, .inl rfl⟩
    · exact ⟨other, hmem, .inr hagrees⟩
  · rintro ⟨other, hmem, rfl | hagrees⟩
    · exact .inl hmem
    · exact .inr ⟨other, hmem, hagrees⟩

/-- More names show more, if there are names to begin with. -/
theorem shows_of_subset (h : narrower ≠ []) (hsubset : narrower ⊆ wider)
    (hshows : shows narrower name = true) : shows wider name = true := by
  obtain ⟨other, hmem, hname⟩ := (shows_iff h).mp hshows
  have hwider : other ∈ wider := hsubset hmem
  exact (shows_iff (List.ne_nil_of_mem hwider)).mpr ⟨other, hwider, hname⟩

/-- A request covers another one if it shows whatever that one shows. -/
def Covers (wider narrower : List Text) : Prop :=
  ∀ name, shows narrower name = true → shows wider name = true

/-- One more name in both lists leaves the longer one the wider one. -/
theorem covers_ensure (order : Text) (names always : List Text) (h : names ≠ []) :
    Covers (FieldList.ensure order (names ++ always)) (FieldList.ensure order names) := by
  intro name hshows
  have hne : FieldList.ensure order names ≠ [] := by
    obtain ⟨other, hmem, _⟩ := FieldList.exists_mem_ensure order h
    exact List.ne_nil_of_mem hmem
  have hlonger : names ++ always ≠ [] := List.append_ne_nil_of_left_ne_nil h always
  obtain ⟨other, hmem, hname⟩ := (shows_iff hne).mp hshows
  rcases FieldList.mem_of_mem_ensure hmem with hmem | rfl
  · have hwider : other ∈ FieldList.ensure order (names ++ always) :=
      FieldList.subset_ensure order _ (List.mem_append_left always hmem)
    exact (shows_iff (List.ne_nil_of_mem hwider)).mpr ⟨other, hwider, hname⟩
  · -- The attribute of the order may stand in the longer list in other letter case.
    obtain ⟨same, hsame, hagrees⟩ := FieldList.exists_mem_ensure other hlonger
    refine (shows_iff (List.ne_nil_of_mem hsame)).mpr ⟨same, hsame, hname.imp ?_ ?_⟩
    · rintro rfl
      exact eq_star_of_agrees hagrees
    · intro hother
      rw [agrees_iff] at hagrees hother ⊢
      exact hagrees.trans hother

/-- Of an entry, the attributes whose names have one lower-case form have names that agree. -/
def NamedAlike (entry : Entry) (key : Text) : Prop :=
  ∀ a ∈ entry.attributes, ∀ b ∈ entry.attributes, lower a.name = key → lower b.name = key →
    agrees a.name b.name = true

instance (entry : Entry) (key : Text) : Decidable (entry.NamedAlike key) :=
  inferInstanceAs (Decidable (∀ a ∈ entry.attributes, ∀ b ∈ entry.attributes, _ → _ → _))

/-- Attributes of one name are shown together. -/
theorem NamedAlike.shows_eq (h : entry.NamedAlike key) (requested : List Text) {a b : Attribute}
    (ha : a ∈ entry.attributes) (hb : b ∈ entry.attributes) (hakey : lower a.name = key)
    (hbkey : lower b.name = key) : shows requested a.name = shows requested b.name :=
  shows_congr (h a ha b hb hakey hbkey) requested

/-- A value is in a record under every projection that shows one of the attributes of its name. -/
theorem NamedAlike.get?_of_shows (h : entry.NamedAlike key) {a : Attribute}
    (ha : a ∈ entry.attributes) (hakey : lower a.name = key)
    (hnarrower : shows narrower a.name = true) (hwider : shows wider a.name = true) :
    (entry.project wider).normalize.attributes.get? key
      = (entry.project narrower).normalize.attributes.get? key := by
  refine attributes_get?_project fun b hb hbkey => ?_
  rw [h.shows_eq wider hb ha hbkey hakey, h.shows_eq narrower hb ha hbkey hakey, hwider, hnarrower]

/-- A value in a record comes from an attribute that is shown. -/
theorem exists_shown_of_get? {requested : List Text}
    (h : (entry.project requested).normalize.attributes.get? key = some value) :
    ∃ a ∈ entry.attributes, lower a.name = key ∧ shows requested a.name = true := by
  refine Decidable.byContradiction fun hnone => ?_
  rw [attributes_get?_project_of_hidden fun a ha hakey => Bool.eq_false_iff.mpr fun hshows =>
    hnone ⟨a, ha, hakey, hshows⟩] at h
  exact nomatch h

/-- **A wider projection keeps values.** What a record has under a projection, it has under one
    that covers it. -/
theorem Covers.get? (h : Covers wider narrower) (hnames : entry.NamedAlike key)
    (hvalue : (entry.project narrower).normalize.attributes.get? key = some value) :
    (entry.project wider).normalize.attributes.get? key = some value := by
  obtain ⟨a, ha, hakey, hshows⟩ := exists_shown_of_get? hvalue
  rw [hnames.get?_of_shows ha hakey hshows (h a.name hshows)]
  exact hvalue

/-- A projection takes from the whole record the values of what it shows. -/
theorem get?_project_iff {requested : List Text} (hnames : entry.NamedAlike key) :
    (entry.project requested).normalize.attributes.get? key = some value
      ↔ (entry.project []).normalize.attributes.get? key = some value ∧
        ∃ a ∈ entry.attributes, lower a.name = key ∧ shows requested a.name = true := by
  constructor
  · intro hvalue
    exact ⟨Covers.get? (fun _ _ => rfl) hnames hvalue, exists_shown_of_get? hvalue⟩
  · rintro ⟨hvalue, a, ha, hakey, hshows⟩
    have hall : shows [] a.name = true := rfl
    rw [hnames.get?_of_shows ha hakey hall hshows]
    exact hvalue

end Entry

/-! ## Queries -/

namespace Model

variable {model : Model} {query : Query} {source : Directory}

/-- A model with other attributes that are always included. -/
def including (model : Model) (always : List Text) : Model := { model with defaultFields := always }

/-- The projection of a query for records: the names, and the attribute of the order. -/
theorem projection_including (h : query.ForRecords) (model : Model) (always : List Text) :
    (model.including always).projection query
      = match query.order with
        | some order => FieldList.ensure order (query.fields.names ++ always)
        | none => query.fields.names ++ always := by
  obtain ⟨_, hlist⟩ := Query.forRecords_iff.mp h
  rw [projection, if_neg hlist]
  rfl

/-- Where nothing is wanted and nothing included, everything is asked for. -/
theorem projection_including_nil (h : query.ForRecords) (hnothing : query.fields.names = [])
    (model : Model) : (model.including []).projection query = [] := by
  rw [projection_including h, hnothing]
  cases query.order with
  | some order => rfl
  | none => rfl

/-- The attributes that a model includes widen a projection, unless they make an explicit one of
    the empty one. -/
theorem covers_projection (h : query.ForRecords) (model : Model) {always : List Text}
    (hexplicit : query.fields.names ≠ [] ∨ always = [] ∨ "*".toList ∈ always) :
    Entry.Covers ((model.including always).projection query)
      ((model.including []).projection query) := by
  rw [projection_including h, projection_including h, List.append_nil]
  rcases hexplicit with hnames | rfl | hstar
  · cases query.order with
    | some order => exact Entry.covers_ensure order query.fields.names always hnames
    | none => exact fun _ => Entry.shows_of_subset hnames (List.subset_append_left _ always)
  · rw [List.append_nil]
    exact fun _ => id
  · intro name _
    have hmem : "*".toList ∈ query.fields.names ++ always := List.mem_append_right _ hstar
    have hstar : "*".toList ∈ (match query.order with
        | some order => FieldList.ensure order (query.fields.names ++ always)
        | none => query.fields.names ++ always) := by
      cases query.order with
      | some order => exact FieldList.subset_ensure order _ hmem
      | none => exact hmem
    exact (Entry.shows_iff (List.ne_nil_of_mem hstar)).mpr ⟨_, hstar, .inl rfl⟩

/-- The entries whose records a query answers with: all that match, in order, or the first. -/
def answering (query : Query) (matched : List Entry) : List Entry :=
  if query.queryType = .first then (Entry.sort query.order matched).take 1
  else Entry.sort query.order matched

theorem answering_nil (query : Query) : answering query [] = [] := by
  rw [answering, Entry.sort_nil, List.take_nil, ite_self]

theorem mem_of_mem_answering {entry : Entry} {matched : List Entry}
    (h : entry ∈ answering query matched) : entry ∈ matched := by
  refine (Entry.sort_perm query.order matched).mem_iff.mp ?_
  rw [answering] at h
  split at h
  · exact List.mem_of_mem_take h
  · exact h

/-- The records of an answer are those of the matching entries under the projection. -/
theorem records_of_find (h : query.ForRecords) {result : FindResult}
    (hresult : outcome (model.find query) source = .ok result) :
    ∃ matched, model.matched query source = .ok matched ∧
      result.records.map (·.record) = (answering query matched).map fun entry =>
        (entry.project (model.projection query)).normalize := by
  rw [outcome_find, found_eq_matched] at hresult
  obtain ⟨found, hfound, hanswer⟩ := exists_ok_of_bind hresult
  obtain ⟨matched, hmatched, rfl⟩ := exists_ok_of_map hfound
  refine ⟨matched, hmatched, ?_⟩
  rw [outcome_answer h, List.isEmpty_map] at hanswer
  by_cases hempty : matched = []
  · rw [hempty] at hanswer ⊢
    obtain rfl : FindResult.empty = result := Except.ok.inj hanswer
    rw [answering_nil]
    rfl
  · rw [if_neg (List.isEmpty_iff.not.mpr hempty)] at hanswer
    obtain ⟨related, hrelated, rfl⟩ := exists_ok_of_map hanswer
    rw [Query.records_shape, apply_ite (List.map _), List.map_take,
      Query.records_of_relate hrelated, recordsOf_project, List.map_map, answering,
      apply_ite (List.map _), List.map_take]
    rfl

/-- **What default fields do to a query for records.** Where a query succeeds with and without the
    attributes that a model always includes, the two answers have the records of the same entries
    in the same order, each under its own projection. Seen from one of them, with attributes whose
    names agree if they have one lower-case form: if something is wanted, or nothing included, or
    everything, the record keeps every value that it has without them; and if nothing is wanted, it
    has those values of the whole record whose attributes the projection shows, and no others. -/
theorem find_default_fields (h : query.ForRecords) (model : Model) (always : List Text)
    {full plain : FindResult}
    (hfull : outcome ((model.including always).find query) source = .ok full)
    (hplain : outcome ((model.including []).find query) source = .ok plain) :
    List.Forall₂ (fun wide bare : Record => ∃ entry ∈ source.entries,
        wide = (entry.project ((model.including always).projection query)).normalize ∧
        bare = (entry.project ((model.including []).projection query)).normalize ∧
        ∀ key, entry.NamedAlike key →
          ((query.fields.names ≠ [] ∨ always = [] ∨ "*".toList ∈ always) → ∀ value,
            bare.attributes.get? key = some value → wide.attributes.get? key = some value) ∧
          (query.fields.names = [] → ∀ value,
            wide.attributes.get? key = some value ↔
              bare.attributes.get? key = some value ∧
                ∃ a ∈ entry.attributes, lower a.name = key ∧
                  Entry.shows ((model.including always).projection query) a.name = true))
      (full.records.map (·.record)) (plain.records.map (·.record)) := by
  obtain ⟨matched, hmatched, hwide⟩ := records_of_find h hfull
  obtain ⟨matched', hmatched', hbare⟩ := records_of_find h hplain
  -- What is included has no part in what matches.
  obtain rfl : matched = matched' := Except.ok.inj (hmatched.symm.trans hmatched')
  rw [hwide, hbare, List.forall₂_map_left_iff, List.forall₂_map_right_iff, List.forall₂_same]
  intro entry hanswering
  have hentry : entry ∈ source.entries :=
    mem_of_searchAnswer hmatched entry (mem_of_mem_answering hanswering)
  refine ⟨entry, hentry, rfl, rfl, fun key hnames =>
    ⟨fun hexplicit value => ?_, fun hnothing value => ?_⟩⟩
  · exact (covers_projection h model hexplicit).get? hnames
  · rw [projection_including_nil h hnothing]
    exact Entry.get?_project_iff hnames

/-- With the mail address always included, a person whose `uid` is wanted keeps it. -/
theorem find_default_fields_mail :
    let ann : Entry := ⟨"uid=ann,ou=People,dc=x",
      [⟨"uid", ["ann"]⟩, ⟨"mail", ["ann@x"]⟩, ⟨"sn", ["Lee"]⟩]⟩
    let source := { ofIdentity "memory://people" with entries := [ann] }
    let model := Model.ofName "person" "ou=People,dc=x"
    let query := { Query.ofType .all with fields := .list ["UID"], order := some "sn" }
    let bare := ((Record.ofDn ann.dn).set "uid" (.single "ann")).set "sn" (.single "Lee")
    let wide := bare.set "mail" (.single "ann@x")
    query.ForRecords ∧
      outcome ((model.including ["mail"]).find query) source
        = .ok (.all [.ofRecord "Person" wide]) ∧
      outcome ((model.including []).find query) source = .ok (.all [.ofRecord "Person" bare]) ∧
      wide.attributes.get? "uid" = some (.single "ann") := by
  intro ann source model query bare wide
  have hrecords : query.ForRecords := .inr rfl
  have hfull : outcome ((model.including ["mail"]).find query) source
      = .ok (.all [.ofRecord "Person" wide]) := by decide +kernel
  have hplain : outcome ((model.including []).find query) source
      = .ok (.all [.ofRecord "Person" bare]) := by decide +kernel
  refine ⟨hrecords, hfull, hplain, ?_⟩
  obtain ⟨⟨entry, hentry, _, _, hkeys⟩, _⟩ :=
    List.forall₂_cons.mp (find_default_fields hrecords model ["mail"] hfull hplain)
  obtain rfl : entry = ann := List.mem_singleton.mp hentry
  obtain ⟨hkept, _⟩ := hkeys "uid" (by decide)
  exact hkept (.inl (by decide)) (.single "ann") (by decide)

/-- Default fields take attributes away. Where nothing is wanted, the mail address that is always
    included is the only attribute that is left. And where `k` is wanted, a default field that is
    the Kelvin sign shows an attribute of that name, which then stands under `k` in its place. -/
theorem find_default_fields_not_added :
    let ann : Entry := ⟨"uid=ann,ou=People,dc=x", [⟨"uid", ["ann"]⟩, ⟨"mail", ["ann@x"]⟩]⟩
    let lab : Entry := ⟨"cn=lab,ou=People,dc=x", [⟨"k", ["kilo"]⟩, ⟨"\u212a", ["kelvin"]⟩]⟩
    let model := Model.ofName "person" "ou=People,dc=x"
    let query := Query.ofType .all
    let answer (entry : Entry) (wanted always : List Text) :=
      outcome ((model.including always).find { query with fields := .list wanted })
        { ofIdentity "memory://people" with entries := [entry] }
    let mail := (Record.ofDn ann.dn).set "mail" (.single "ann@x")
    answer ann [] [] = .ok (.all [.ofRecord "Person" (mail.set "uid" (.single "ann"))]) ∧
      answer ann [] ["mail"] = .ok (.all [.ofRecord "Person" mail]) ∧
      mail.attributes.get? "uid" = none ∧
      answer lab ["k"] []
        = .ok (.all [.ofRecord "Person" ((Record.ofDn lab.dn).set "k" (.single "kilo"))]) ∧
      answer lab ["k"] ["\u212a"]
        = .ok (.all [.ofRecord "Person" ((Record.ofDn lab.dn).set "k" (.single "kelvin"))]) := by
  decide +kernel

end Model

end DirectoryRecords
