import DirectoryRecords.Proofs.Creation
import DirectoryRecords.Proofs.DistinctNames
import DirectoryRecords.Proofs.OrderedLimit
import DirectoryRecords.Proofs.Projection
import Mathlib.Data.List.Nodup

/-!
# Finding what was created — by the value that names it

    A record without a name of its own is created under a name that is built
    from a value and the base, and may be looked for by this value afterwards.
    On the way there, the name is escaped and goes into lower case for the test
    of the subtree, and the value becomes part of a filter. The two never meet:

    * a name built below a base lies in the subtree of the base
      (`inSubtree_below`);
    * the value is written as the only attribute of its name, so the test for
      it looks at this attribute, and the record shows it
      (`exists_split_creationAttributes`, from which both lookups follow);
    * a test for a value with neither stars nor backslashes asks for the value
      itself.

    The new entry stands behind all others, so it is the last one found.
-/

namespace DirectoryRecords

open Text Directory

/-! ## The name -/

namespace Entry

/-- **What is named below a base lies in its subtree**, whatever the letters of either are. -/
theorem inSubtree_below (base relative : Text) (attributes : List Attribute) :
    (⟨Dn.below base relative, attributes⟩ : Entry).inSubtree base = true := by
  by_cases hrelative : relative.isEmpty = true
  · simp [inSubtree, Dn.below, hrelative]
  · by_cases hbase : base.isEmpty = true
    · simp [inSubtree, hbase]
    · rw [Dn.below, if_neg hrelative, if_neg hbase]
      exact inSubtree_comma relative base attributes

end Entry

namespace Text

/-- ASCII letters go into lower case one by one. -/
theorem lower_of_ascii {text : Text} (h : ∀ c ∈ text, c.toNat < 0x80) :
    lower text = asciiLower text := by
  suffices hfrom : ∀ inWord, lowerFrom inWord text = asciiLower text from hfrom false
  induction text with
  | nil => exact fun _ => rfl
  | cons c rest ih =>
      intro inWord
      have hc : c.toNat < 0x80 := h c List.mem_cons_self
      have hsigma : c ≠ 'Σ' := by
        rintro rfl
        exact absurd hc (by decide)
      rw [lowerFrom, if_neg hsigma, lowerChar, if_pos hc,
        ih fun d hd => h d (List.mem_cons_of_mem c hd)]
      rfl

end Text

/-- A plain name goes into lower case letter by letter. -/
theorem PlainAttribute.lower_eq {name : Text} (h : PlainAttribute name) :
    lower name = asciiLower name := by
  refine lower_of_ascii fun c hc => ?_
  rcases h c hc with ⟨_, hlast⟩ | ⟨_, hlast⟩ | ⟨_, hlast⟩ | rfl
  · exact Nat.lt_of_le_of_lt (UInt32.le_iff_toNat_le.mp hlast) (by decide)
  · exact Nat.lt_of_le_of_lt (UInt32.le_iff_toNat_le.mp hlast) (by decide)
  · exact Nat.lt_of_le_of_lt (UInt32.le_iff_toNat_le.mp hlast) (by decide)
  · decide

/-! ## The attribute -/

/-- A name that is bound stands in one place of the list of a map. -/
theorem TextMap.exists_split {α : Type} {map : TextMap α} {key : Text} {value : α}
    (h : map.get? key = some value) :
    ∃ before after, map.toList = before ++ (key, value) :: after ∧
      ∀ binding ∈ before ++ after, binding.1 ≠ key := by
  obtain ⟨before, after, hsplit, -⟩ := List.lookup_eq_some_iff.mp h
  have hnodup := map.nodup_keys
  rw [keys, hsplit, List.map_append, List.map_cons, List.nodup_middle, ← List.map_append] at hnodup
  refine ⟨before, after, hsplit, fun binding hbinding => ?_⟩
  rintro rfl
  exact (List.nodup_cons.mp hnodup).1 (List.mem_map.mpr ⟨binding, hbinding, rfl⟩)

/-- What a record in lower case holds under a name is one of its attributes, and no other one has
    this name in any letter case. -/
theorem Record.exists_split_entryAttributes {record : Record} (h : record.Lowered) {key : Text}
    {value : Value} (hget : record.attributes.get? key = some value) :
    ∃ front back, record.entryAttributes = front ++ ⟨key, value.toList⟩ :: back ∧
      ∀ a ∈ front ++ back, lower a.name ≠ key := by
  obtain ⟨before, after, hsplit, hfresh⟩ := TextMap.exists_split hget
  let write (binding : Text × Value) : Attribute := ⟨binding.1, binding.2.toList⟩
  refine ⟨before.map write, after.map write, ?_, ?_⟩
  · rw [entryAttributes, hsplit, List.map_append, List.map_cons]
  · rw [← List.map_append]
    intro a ha
    obtain ⟨binding, hbinding, rfl⟩ := List.mem_map.mp ha
    have hmem : binding ∈ record.attributes.toList := by
      rw [hsplit]
      rcases List.mem_append.mp hbinding with hmem | hmem
      · exact List.mem_append_left _ hmem
      · exact List.mem_append_right _ (List.mem_cons_of_mem _ hmem)
    show lower binding.1 ≠ key
    rw [h binding.1 (List.mem_map_of_mem hmem)]
    exact hfresh binding hbinding

/-- **A value is written as the only attribute of its name**: the model adds its object classes
    only where the record holds none. -/
theorem Model.exists_split_creationAttributes (model : Model) {record : Record}
    (h : record.Lowered) {key : Text} {value : Value}
    (hget : record.attributes.get? key = some value) :
    ∃ front back, model.creationAttributes record = front ++ ⟨key, value.toList⟩ :: back ∧
      ∀ a ∈ front ++ back, lower a.name ≠ key := by
  obtain ⟨front, back, hsplit, hothers⟩ := record.exists_split_entryAttributes h hget
  by_cases hhas : record.has "objectclass" = true
  · refine ⟨front, back, ?_, hothers⟩
    rw [creationAttributes, if_pos hhas, hsplit, List.nil_append]
  · refine ⟨⟨"objectClass", model.creationClasses⟩ :: front, back, ?_, ?_⟩
    · rw [creationAttributes, if_neg hhas, hsplit]
      rfl
    · rw [List.cons_append, List.forall_mem_cons]
      refine ⟨fun hclass => hhas ?_, hothers⟩
      have hsame : lower "objectclass" = lower "objectClass" := by decide
      have hkey : lower "objectclass" = key := hsame.trans hclass
      rw [Record.has, TextMap.contains, hkey, hget]
      rfl

namespace Entry

/-- The first attribute of a name holds its values, if it is the only one. -/
theorem values?_of_split {dn name : Text} {front back : List Attribute} {a : Attribute}
    (ha : agrees a.name name = true) (h : ∀ other ∈ front, agrees other.name name = false) :
    (⟨dn, front ++ a :: back⟩ : Entry).values? name = some a.values := by
  have hfront : front.find? (agrees ·.name name) = none := by
    refine List.find?_eq_none.mpr fun other hother => ?_
    rw [h other hother]
    exact Bool.false_ne_true
  rw [values?, List.find?_append, hfront, Option.none_or,
    List.find?_cons_of_pos (p := fun other : Attribute => agrees other.name name) ha]
  rfl

/-- What the last attribute contributes under a key is what the record has there. -/
theorem get?_normalize_of_last {dn key : Text} {value : Value} {front back : List Attribute}
    {a : Attribute} (ha : a.binding? = some (key, value))
    (h : ∀ other ∈ back, ∀ later, other.binding? = some later → later.1 ≠ key) :
    (⟨dn, front ++ a :: back⟩ : Entry).normalize.attributes.get? key = some value := by
  have hlast : ∃ binding ∈ [(key, value)], binding.1 = key := ⟨_, List.mem_cons_self, rfl⟩
  rw [normalize, List.filterMap_append, List.filterMap_cons_some ha]
  refine TextMap.get?_ofList_of_last hlast (List.forall_mem_singleton.mpr rfl) ?_
  intro binding hbinding
  obtain ⟨other, hother, hsome⟩ := List.mem_filterMap.mp hbinding
  exact h other hother binding hsome

/-- The last attribute of a name gives the record its value, if it has any. -/
theorem get?_normalize_of_split {dn key : Text} {value : Value} {front back : List Attribute}
    {a : Attribute} (ha : a.binding? = some (key, value))
    (h : ∀ other ∈ back, lower other.name ≠ key) :
    (⟨dn, front ++ a :: back⟩ : Entry).normalize.attributes.get? key = some value := by
  refine get?_normalize_of_last ha fun other hother later hsome => ?_
  rw [Attribute.name_of_binding? hsome]
  exact h other hother

end Entry

/-! ## The created entry -/

theorem Record.get?_of_not_dn {name : Text} (h : lower name ≠ "dn".toList) (record : Record) :
    record.get? name = record.attributes.get? (lower name) :=
  if_neg h

/-- A name other than that of the distinguished name. -/
theorem PlainAttribute.lower_ne_dn {name : Text} (h : PlainAttribute name)
    (hdn : agrees name "dn" = false) : lower name ≠ "dn".toList := by
  intro heq
  rw [h.lower_eq] at heq
  have hagrees : agrees name "dn" = true := (agrees_iff name "dn").mpr (heq.trans (by decide))
  rw [hdn] at hagrees
  exact Bool.false_ne_true hagrees

/-- A name that a record in lower case holds is in lower case. -/
theorem Record.Lowered.lower_eq {record : Record} (h : record.Lowered) {key : Text} {value : Value}
    (hget : record.attributes.get? key = some value) : lower key = key := by
  refine h key (TextMap.mem_keys_iff.mpr ?_)
  rw [TextMap.contains, hget]
  rfl

namespace Model

variable {model : Model} {record : Record} {name value : Text}

/-- The attribute that is written for the first value under a name. -/
theorem exists_named_attribute (model : Model) (h : record.Lowered)
    (hname : lower name ≠ "dn".toList) (hvalue : record.firstValue? name = some value) :
    lower (lower name) = lower name ∧
      ∃ held front back, held.head? = some value ∧
        model.creationAttributes record = front ++ ⟨lower name, held⟩ :: back ∧
        ∀ a ∈ front ++ back, lower a.name ≠ lower name := by
  rw [Record.firstValue?, Record.get?_of_not_dn hname] at hvalue
  obtain ⟨found, hfound, hfirst⟩ := Option.bind_eq_some_iff.mp hvalue
  obtain ⟨front, back, hsplit, hothers⟩ := model.exists_split_creationAttributes h hfound
  exact ⟨h.lower_eq hfound, found.toList, front, back, hfirst, hsplit, hothers⟩

/-- The entry of a created record has the record's first value under a plain name. -/
theorem exists_values?_created (model : Model) (h : record.Lowered) (hplain : PlainAttribute name)
    (hname : lower name ≠ "dn".toList) (hvalue : record.firstValue? name = some value)
    (dn : Text) :
    ∃ held, (⟨dn, model.creationAttributes record⟩ : Entry).values? name = some held ∧
      value ∈ held := by
  obtain ⟨hlower, held, front, back, hfirst, hsplit, hothers⟩ :=
    model.exists_named_attribute h hname hvalue
  refine ⟨held, ?_, List.mem_of_head? hfirst⟩
  rw [hsplit]
  refine Entry.values?_of_split ?_ fun other hother => ?_
  · rw [agrees_iff, ← hplain.lower_eq]
    exact asciiLower_of_lower_eq hlower
  · refine Bool.eq_false_iff.mpr fun hagrees => ?_
    exact hothers other (List.mem_append_left _ hother) (lower_eq_of_agrees hagrees)

/-- The record that the created entry reads as has the record's first value under a name. -/
theorem firstValue?_created (model : Model) (h : record.Lowered)
    (hname : lower name ≠ "dn".toList) (hvalue : record.firstValue? name = some value)
    (dn : Text) :
    (⟨dn, model.creationAttributes record⟩ : Entry).normalize.firstValue? name = some value := by
  obtain ⟨hlower, held, front, back, hfirst, hsplit, hothers⟩ :=
    model.exists_named_attribute h hname hvalue
  have hheld : held ≠ [] := List.ne_nil_of_mem (List.mem_of_head? hfirst)
  have hbinding : Attribute.binding? ⟨lower name, held⟩ = some (lower name, .ofList held) := by
    have hnamed := Attribute.binding?_of_ne (hlower.symm ▸ hname) hheld
    rwa [hlower] at hnamed
  rw [Record.firstValue?, Record.get?_of_not_dn hname, hsplit,
    Entry.get?_normalize_of_split hbinding fun other hother =>
      hothers other (List.mem_append_right _ hother)]
  show (Value.ofList held).toList.head? = some value
  rw [Value.toList_ofList]
  exact hfirst

/-! ## Looking for a value -/

/-- A query for the records with a value under a plain name answers with those of all entries below
    the base that pass the test for it, as they are stored. -/
theorem outcome_findAllBy (hfields : model.defaultFields = []) (hplain : PlainAttribute name)
    (value : Text) {source : Directory} (hopen : source.searchesFail = false) :
    outcome (model.findAllBy name value) source
      = .ok ((source.entries.filter fun entry => entry.inSubtree model.baseDn &&
          Filter.holds entry (Filter.test name value)).map fun entry =>
            .ofRecord (titleCase model.name) entry.normalize) := by
  let query := { Query.ofType .all with conditions := .equals name value }
  have hprojection : model.projection query = [] := by
    show [] ++ model.defaultFields = []
    rw [hfields, List.append_nil]
  have hall (entries : List Entry) : entries.map (Entry.project []) = entries := List.map_id entries
  have hfound : model.found query source = .ok (source.entries.filter fun entry =>
      entry.inSubtree model.baseDn && Filter.holds entry (Filter.test name value)) := by
    have hsearch := congrArg Prod.fst (search_of_spells
      (Conditions.spells_term hplain.plainName value) model.baseDn [] none hopen)
    rw [found, hprojection, ← hall (List.filter _ _)]
    exact hsearch
  have halone : query.Unrelated := ⟨rfl, rfl⟩
  have hevery := outcome_find_every halone model source
  have hfind : outcome (model.findAllBy name value) source
      = (outcome (model.find query.every) source).map FindResult.records :=
    model.outcome_findAllBy_eq_map name value source
  rw [hfind, hevery, show query.every = query from rfl, hfound]
  exact congrArg Except.ok (FindResult.records_ofAll _)

/-! ## Creating and finding -/

/-- A record is created under the name that was chosen for it. -/
theorem creationDn_of_create {session after : Session} {dn : Text}
    (h : model.create record session = (.ok dn, after)) : model.creationDn record = .ok dn := by
  obtain ⟨name, start, hname, h⟩ := eq_ok_of_bind h
  obtain ⟨_, checked, _, h⟩ := eq_ok_of_bind h
  obtain ⟨_, last, _, h⟩ := eq_ok_of_bind h
  obtain rfl : name = dn := Except.ok.inj (congrArg Prod.fst h)
  exact congrArg Prod.fst hname

/-- A name that is made for a record is one below the base. -/
theorem exists_below_of_creationDn (hblank : Text.isAllBlank record.dn = true) {dn : Text}
    (h : model.creationDn record = .ok dn) : ∃ relative, dn = Dn.below model.baseDn relative := by
  rw [creationDn, if_pos hblank, deriveDn] at h
  split at h
  · exact ⟨_, (Except.ok.inj h).symm⟩
  · exact nomatch h

/-- **What is created is found by the value that names it.** Where a record in lower case is
    created under a name made from the value of a plain attribute, with neither stars nor
    backslashes in it, looking for this value succeeds, and the last record found has the name
    and the value. The attribute is not `dn`, which in any letter case stands for the name of the
    record itself. -/
theorem find_created (hfields : model.defaultFields = [])
    (hplain : PlainAttribute model.namingAttribute)
    (hdn : agrees model.namingAttribute "dn" = false) (hrecord : record.Lowered)
    (hblank : Text.isAllBlank record.dn = true)
    (hvalue : record.firstValue? model.namingAttribute = some value) (hstar : '*' ∉ value)
    (hcode : '\\' ∉ value) {session : Session}
    (hopen : session.directory.searchesFail = false) {dn : Text}
    (h : (model.create record session).1 = .ok dn) :
    let after := (model.create record session).2
    ∃ (earlier : List ShapedRecord) (shaped : ShapedRecord),
      outcome (model.findAllBy model.namingAttribute value) after.directory
        = .ok (earlier ++ [shaped]) ∧
      shaped.record.dn = dn ∧
      shaped.record.firstValue? model.namingAttribute = some value := by
  intro after
  have hrun : model.create record session = (.ok dn, after) := Prod.ext h rfl
  obtain ⟨relative, hbelow⟩ := exists_below_of_creationDn hblank (creationDn_of_create hrun)
  obtain ⟨-, hentries⟩ := eq_append_of_create hrun
  have hname := hplain.lower_ne_dn hdn
  let entry : Entry := ⟨dn, model.creationAttributes record⟩
  have hopen' : after.directory.searchesFail = false :=
    (Operation.commits_create model record session).frame.searchesFail.trans hopen
  have hsubtree : entry.inSubtree model.baseDn = true := by
    show (⟨dn, _⟩ : Entry).inSubtree model.baseDn = true
    rw [hbelow]
    exact Entry.inSubtree_below model.baseDn relative _
  have hholds : Filter.holds entry (Filter.test model.namingAttribute value) = true := by
    obtain ⟨held, hheld, hmem⟩ := model.exists_values?_created hrecord hplain hname hvalue dn
    refine (Conditions.holds_test_iff hcode model.namingAttribute entry).mpr ?_
    refine .inr (.inr ⟨hstar, value, ?_, agrees_refl value⟩)
    rw [Conditions.heldValues, hplain.trim_eq, hheld]
    exact hmem
  -- The entry stands behind all others, so it is found after them.
  have hlast : ([entry].filter fun entry => entry.inSubtree model.baseDn &&
      Filter.holds entry (Filter.test model.namingAttribute value)) = [entry] := by
    rw [List.filter_singleton, hsubtree, hholds]
    rfl
  have hfound := outcome_findAllBy hfields hplain value hopen'
  rw [hentries, List.filter_append, hlast, List.map_append] at hfound
  exact ⟨_, _, hfound, rfl, model.firstValue?_created hrecord hname hvalue dn⟩

/-- A person whose name has a comma and parentheses in it is created below a base in other letter
    case than that of an earlier entry, under an attribute that is written in capitals. -/
theorem find_created_escaped_name :
    let model := { Model.ofName "person" "OU=People,dc=x" with namingAttribute? := some "CN" }
    let record := ((Record.ofDn " ").set "cn" (.multi ["Lee, Ann (x)", "ann"])).set "mail"
      (.single "ann@x")
    let earlier : Entry := ⟨"uid=lee,ou=people,dc=x", [⟨"cn", ["lee, ann (X)"]⟩]⟩
    let session : Session :=
      ⟨{ Directory.ofIdentity "memory://people" with entries := [earlier] }, ∅⟩
    let after := (model.create record session).2
    let dn : Text := "CN=Lee\\, Ann (x),OU=People,dc=x"
    PlainAttribute model.namingAttribute ∧ agrees model.namingAttribute "dn" = false ∧
      record.Lowered ∧ Text.isAllBlank record.dn = true ∧
      record.firstValue? model.namingAttribute = some "Lee, Ann (x)" ∧
      (model.create record session).1 = .ok dn ∧
      ∃ (front : List ShapedRecord) (shaped : ShapedRecord),
        outcome (model.findAllBy model.namingAttribute "Lee, Ann (x)") after.directory
          = .ok (front ++ [shaped]) ∧
        shaped.record.dn = dn ∧
        shaped.record.firstValue? model.namingAttribute = some "Lee, Ann (x)" := by
  intro model record earlier session after dn
  have hplain : PlainAttribute model.namingAttribute := by decide
  have hdn : agrees model.namingAttribute "dn" = false := by decide
  have hrecord : record.Lowered := by decide
  have hvalue : record.firstValue? model.namingAttribute = some "Lee, Ann (x)" := by decide
  have hcreate : (model.create record session).1 = .ok dn := rfl
  exact ⟨hplain, hdn, hrecord, rfl, hvalue, hcreate,
    find_created rfl hplain hdn hrecord rfl hvalue (by decide) (by decide) rfl hcreate⟩

end Model

end DirectoryRecords
