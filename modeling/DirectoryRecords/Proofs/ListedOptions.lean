import DirectoryRecords.Proofs.DefaultFields
import DirectoryRecords.Proofs.FindCreated

/-!
# Listed options — what a query for an option list answers

    An option list is made of records that have passed through a search, an
    order and a projection, and yet it can be read off the entries as they are
    stored. Two things make it so:

    * inserting pairs in order leaves each key where it came first
      (`keys_ofPairs`) with what came last for it (`get?_ofPairs`);
    * the key of the list and the attribute to display are always asked for
      (`shows_listKey`, `shows_display`), and where names are ASCII texts a
      record has under a name what is stored under it as soon as the name is
      asked for (`get?_project_of_shows`).

    Beyond ASCII the second one fails: names with one lower-case form are one
    name to a record and several to a projection.
-/

namespace DirectoryRecords

open Text Directory

/-! ## Inserting in order -/

namespace OptionList

/-- The last pair is inserted last. -/
theorem ofPairs_concat (pairs : List (Text × Text)) (key display : Text) :
    ofPairs (pairs ++ [(key, display)]) = (ofPairs pairs).insert key display := by
  rw [ofPairs, List.foldl_append]
  rfl

/-- A key stands where it came first. -/
theorem keys_ofPairs (pairs : List (Text × Text)) :
    (ofPairs pairs).keys = (pairs.map Prod.fst).eraseDups := by
  induction pairs using List.reverseRecOn with
  | nil => rfl
  | append_singleton pairs last ih =>
      obtain ⟨key, display⟩ := last
      rw [ofPairs_concat, keys_insert, ih, List.map_append, List.map_singleton, eraseDups_concat]
      simp only [List.mem_eraseDups]

/-- No key stands there twice. -/
theorem nodup_keys_ofPairs (pairs : List (Text × Text)) : (ofPairs pairs).keys.Nodup := by
  induction pairs using List.reverseRecOn with
  | nil => exact List.nodup_nil
  | append_singleton pairs last ih =>
      obtain ⟨key, display⟩ := last
      rw [ofPairs_concat, keys_insert]
      split
      · exact ih
      · next hnew =>
        rw [← List.concat_eq_append]
        exact ih.concat hnew

/-- What came last for a key is displayed. -/
theorem get?_ofPairs (pairs : List (Text × Text)) (key : Text) :
    (ofPairs pairs).get? key = pairs.reverse.lookup key := by
  induction pairs using List.reverseRecOn with
  | nil => rfl
  | append_singleton pairs last ih =>
      obtain ⟨name, display⟩ := last
      rw [ofPairs_concat, get?_insert, ih, List.reverse_append]
      show _ = List.lookup key ((name, display) :: pairs.reverse)
      rw [List.lookup_cons]
      by_cases hkey : key = name
      · rw [if_pos hkey, beq_iff_eq.mpr hkey]
      · rw [if_neg hkey, beq_false_of_ne hkey]

/-- What an option list shows of some records: the key of each one that has a key, once and in the
    order in which they first come, with what is displayed for the last record that has it. -/
structure Lists (options : OptionList) (key display : Text) (records : List Record) : Prop where
  nodup : options.keys.Nodup
  keys : options.keys = (records.filterMap (·.firstValue? key)).eraseDups
  displays : ∀ earlier record later text, records = earlier ++ record :: later →
    record.firstValue? key = some text → (∀ other ∈ later, other.firstValue? key ≠ some text) →
    options.get? text = some ((record.firstValue? display).getD [])

/-- What a record adds to an option list. -/
def pair? (key display : Text) (record : Record) : Option (Text × Text) :=
  (record.firstValue? key).map (·, (record.firstValue? display).getD [])

/-- The option list of records shows what it should of them. -/
theorem lists_filterMap (key display : Text) (records : List Record) :
    (ofPairs (records.filterMap (pair? key display))).Lists key display records := by
  refine ⟨nodup_keys_ofPairs _, ?_, ?_⟩
  · have hfst (record : Record) :
        (pair? key display record).map Prod.fst = record.firstValue? key := by
      rw [pair?, Option.map_map]
      exact Option.map_id' ..
    rw [keys_ofPairs, List.map_filterMap]
    simp only [hfst]
  · rintro earlier record later text rfl htext hlater
    have hpair : pair? key display record = some (text, (record.firstValue? display).getD []) := by
      rw [pair?, htext]
      rfl
    have hnone : (later.filterMap (pair? key display)).reverse.lookup text = none := by
      rw [List.lookup_eq_none_iff]
      intro pair hmem
      obtain ⟨other, hother, hsome⟩ := List.mem_filterMap.mp (List.mem_reverse.mp hmem)
      obtain ⟨found, hfound, rfl⟩ := Option.map_eq_some_iff.mp hsome
      refine bne_iff_ne.mpr ?_
      rintro rfl
      exact hlater other hother hfound
    rw [get?_ofPairs, List.filterMap_append, List.filterMap_cons_some hpair, List.reverse_append,
      List.reverse_cons, List.append_assoc, List.lookup_append, hnone, Option.none_or]
    exact List.lookup_cons_self

end OptionList

/-! ## What is asked for -/

namespace Text

/-- A text of ASCII characters. -/
def IsAscii (text : Text) : Prop := ∀ c ∈ text, c.toNat < 0x80

instance (text : Text) : Decidable text.IsAscii :=
  List.decidableBAll _ text

/-- ASCII texts with one lower-case form agree. -/
theorem agrees_of_ascii {left right : Text} (hleft : left.IsAscii) (hright : right.IsAscii)
    (h : lower left = lower right) : agrees left right = true := by
  rw [agrees_iff, ← lower_of_ascii hleft, ← lower_of_ascii hright, h]

end Text

namespace Entry

variable {entry : Entry} {names : List Text} {name : Text}

theorem shows_of_mem (h : name ∈ names) : shows names name = true :=
  (shows_iff (List.ne_nil_of_mem h)).mpr ⟨name, h, .inr (agrees_refl name)⟩

/-- What a list shows it shows with one more name as well. -/
theorem shows_ensure_of_shows (other : Text) (h : shows names name = true) :
    shows (FieldList.ensure other names) name = true := by
  by_cases hempty : names = []
  · rw [hempty]
    rfl
  · exact shows_of_subset hempty (FieldList.subset_ensure other names) h

/-- Where names are ASCII texts, a record has under a name what is stored under it, if the name is
    asked for. -/
theorem get?_project_of_shows (hattributes : ∀ a ∈ entry.attributes, a.name.IsAscii)
    (hname : name.IsAscii) (h : shows names name = true) :
    (entry.project names).normalize.get? name = entry.normalize.get? name := by
  have halike : ShowAlike names [] name entry := by
    refine .inr fun a ha hlower => ?_
    rw [shows_congr (agrees_of_ascii (hattributes a ha) hname hlower), h]
    rfl
  exact get?_project halike

end Entry

namespace Model

variable {query : Query}

theorem isAscii_listKey (model : Model) : model.listKey.IsAscii := by
  rw [listKey]
  cases model.kind <;> decide

/-- What is asked for without the order is asked for with it. -/
theorem shows_projection (hlist : query.queryType = .list) (model : Model) {name : Text}
    (h : Entry.shows (FieldList.ensure model.listKey (query.fields.select model.defaultFields)) name
      = true) : Entry.shows (model.projection query) name = true := by
  rw [projection, if_pos hlist]
  cases query.order with
  | some order => exact Entry.shows_ensure_of_shows order h
  | none => exact h

/-- The key of the list is asked for. -/
theorem shows_listKey (hlist : query.queryType = .list) (model : Model) :
    Entry.shows (model.projection query) model.listKey = true :=
  model.shows_projection hlist (Entry.shows_ensure model.listKey _)

/-- What is displayed is asked for: the first wanted attribute is one of the wanted ones. -/
theorem shows_display (hlist : query.queryType = .list) (model : Model) :
    Entry.shows (model.projection query) (model.display query) = true := by
  rw [display]
  cases hfirst : query.fields.names.head? with
  | none => exact model.shows_listKey hlist
  | some name =>
      refine model.shows_projection hlist (Entry.shows_ensure_of_shows model.listKey ?_)
      exact Entry.shows_of_mem (List.mem_append_left _ (List.mem_of_head? hfirst))

/-! ## What is answered -/

theorem isAscii_display (hfields : ∀ name ∈ query.fields.names, name.IsAscii) (model : Model) :
    (model.display query).IsAscii := by
  rw [display]
  cases hfirst : query.fields.names.head? with
  | none => exact model.isAscii_listKey
  | some name => exact hfields name (List.mem_of_head? hfirst)

/-- The option list of the records that are left of some entries is that of the whole entries. -/
theorem ofRecords_recordsOf (hlist : query.queryType = .list)
    (hfields : ∀ name ∈ query.fields.names, name.IsAscii) (model : Model) {entries : List Entry}
    (hattributes : ∀ entry ∈ entries, ∀ a ∈ entry.attributes, a.name.IsAscii) :
    OptionList.ofRecords model.listKey (model.display query)
        (model.recordsOf query (entries.map (Entry.project (model.projection query))))
      = .ofPairs (((Entry.sort query.order entries).map Entry.normalize).filterMap
          (OptionList.pair? model.listKey (model.display query))) := by
  rw [recordsOf_project, OptionList.ofRecords, List.filterMap_map, List.filterMap_map]
  refine congrArg OptionList.ofPairs (List.filterMap_congr fun entry hentry => ?_)
  have hnames := hattributes entry ((Entry.sort_perm query.order entries).mem_iff.mp hentry)
  have hkey := Entry.get?_project_of_shows hnames model.isAscii_listKey
    (model.shows_listKey hlist)
  have hdisplay := Entry.get?_project_of_shows hnames (model.isAscii_display hfields)
    (model.shows_display hlist)
  show OptionList.pair? model.listKey (model.display query)
    (entry.project (model.projection query)).normalize = _
  rw [Function.comp_apply, OptionList.pair?, OptionList.pair?, Record.firstValue?,
    Record.firstValue?, hkey, hdisplay]
  rfl

/-- A query for an option list answers with that of the whole entries, if any match. -/
theorem outcome_find_list (hlist : query.queryType = .list)
    (hfields : ∀ name ∈ query.fields.names, name.IsAscii) (model : Model) {source : Directory}
    (hattributes : ∀ entry ∈ source.entries, ∀ a ∈ entry.attributes, a.name.IsAscii) :
    outcome (model.find query) source
      = (model.matched query source).map fun matching =>
          if matching.isEmpty then .empty
          else .list (.ofPairs (((Entry.sort query.order matching).map Entry.normalize).filterMap
            (OptionList.pair? model.listKey (model.display query)))) := by
  rw [outcome_find, found_eq_matched]
  cases hmatched : model.matched query source with
  | error e => rfl
  | ok matching =>
      have hnames : ∀ entry ∈ matching, ∀ a ∈ entry.attributes, a.name.IsAscii :=
        fun entry hentry => hattributes entry (mem_of_searchAnswer hmatched entry hentry)
      show outcome (model.answer query (matching.map _)) source = .ok _
      rw [answer_of_list hlist, List.isEmpty_map, model.ofRecords_recordsOf hlist hfields hnames]
      rfl

/-- **An option list is that of the stored entries.** With ASCII names, stored and wanted, a query
    for an option list fails where its search does and answers that there is nothing where nothing
    matches. Any other answer shows of the matching entries, as many as the limit allows and in
    the order of the query, what they have stored: each first value of the key once and where it
    comes first, with the first value under the first wanted attribute, or under the key if nothing
    is wanted, of the last entry that has this key. Whatever else is wanted or always included has
    no part in it. -/
theorem find_options (hlist : query.queryType = .list)
    (hfields : ∀ name ∈ query.fields.names, name.IsAscii) (model : Model) {source : Directory}
    (hattributes : ∀ entry ∈ source.entries, ∀ a ∈ entry.attributes, a.name.IsAscii) :
    (outcome (model.find query) source).map FindResult.isEmpty
        = (model.matched query source).map List.isEmpty ∧
      ∀ result, outcome (model.find query) source = .ok result → result ≠ .empty →
        ∃ matching options, model.matched query source = .ok matching ∧ result = .list options ∧
          options.Lists model.listKey (model.display query)
            ((Entry.sort query.order matching).map Entry.normalize) := by
  rw [outcome_find_list hlist hfields model hattributes]
  constructor
  · cases model.matched query source with
    | error e => rfl
    | ok matching =>
        cases matching with
        | nil => rfl
        | cons first rest => rfl
  · intro result hresult hnonempty
    obtain ⟨matching, hmatching, rfl⟩ := exists_ok_of_map hresult
    cases hempty : matching.isEmpty with
    | true =>
        rw [hempty] at hnonempty
        exact absurd rfl hnonempty
    | false => exact ⟨matching, _, hmatching, rfl, OptionList.lists_filterMap _ _ _⟩

/-- Four of five people are let through and put in order. The first one of them has no key, the
    second one nothing to display, and the last one takes the place of another with its key. -/
theorem find_options_of_people :
    let model := { Model.ofName "person" "ou=People,dc=x" with defaultFields := ["mail"] }
    let query := { Query.ofType .list with
      fields := .list ["CN", "mail"], limit := some 4, order := some "sn" }
    let person (number : String) (attributes : List Attribute) : Entry :=
      ⟨"employeeNumber=".toList ++ number.toList ++ ",ou=People,dc=x".toList, attributes⟩
    let ann := person "1" [⟨"uid", ["ann"]⟩, ⟨"sn", ["Lee"]⟩, ⟨"cn", ["Ann Lee"]⟩]
    let guest := person "2" [⟨"sn", ["Abe"]⟩, ⟨"cn", ["Guest"]⟩]
    let other := person "3"
      [⟨"UID", ["ann"]⟩, ⟨"sn", ["Roe"]⟩, ⟨"cn", []⟩, ⟨"Cn", ["Ann Roe", "Ann"]⟩]
    let bob := person "4" [⟨"uid", ["bob", "rob"]⟩, ⟨"sn", ["Kay"]⟩]
    let dan := person "5" [⟨"uid", ["dan"]⟩]
    let source := { ofIdentity "memory://people" with entries := [ann, guest, other, bob, dan] }
    query.queryType = .list ∧ (∀ name ∈ query.fields.names, name.IsAscii) ∧
      (∀ entry ∈ source.entries, ∀ a ∈ entry.attributes, a.name.IsAscii) ∧
      ∃ options, outcome (model.find query) source = .ok (.list options) ∧
        options.keys = ["bob".toList, "ann".toList] ∧
        options.get? "bob" = some [] ∧ options.get? "ann" = some "Ann Roe".toList := by
  intro model query person ann guest other bob dan source
  have hfields : ∀ name ∈ query.fields.names, name.IsAscii := by decide
  have hattributes : ∀ entry ∈ source.entries, ∀ a ∈ entry.attributes, a.name.IsAscii := by decide
  obtain ⟨hempty, hlists⟩ := find_options rfl hfields model hattributes
  have hmatched : model.matched query source = .ok [ann, guest, other, bob] := rfl
  rw [hmatched] at hempty
  obtain ⟨result, hresult, hsome⟩ := exists_ok_of_map hempty
  have hnonempty : result ≠ .empty := by
    rintro rfl
    exact Bool.false_ne_true hsome.symm
  obtain ⟨matching, options, hmatching, rfl, -, hkeys, hdisplays⟩ :=
    hlists result hresult hnonempty
  obtain rfl : [ann, guest, other, bob] = matching :=
    Except.ok.inj (hmatched.symm.trans hmatching)
  have hsorted : Entry.sort query.order [ann, guest, other, bob] = [guest, bob, ann, other] := by
    rw [Entry.sort_cons, Entry.sort_cons, Entry.sort_cons, Entry.sort_singleton]
    decide
  rw [hsorted] at hkeys hdisplays
  refine ⟨rfl, hfields, hattributes, options, hresult, hkeys.trans (by decide), ?_, ?_⟩
  · exact hdisplays [guest.normalize] bob.normalize [ann.normalize, other.normalize] "bob" rfl
      (by decide) (by decide)
  · exact hdisplays [guest.normalize, bob.normalize, ann.normalize] other.normalize [] "ann" rfl
      (by decide) (by decide)

end Model

end DirectoryRecords
