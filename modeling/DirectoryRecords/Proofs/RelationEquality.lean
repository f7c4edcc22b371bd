import DirectoryRecords.Proofs.RelationLookup

/-!
# Relation equality — which values of a local key are looked up exactly

    A relation should attach the entries that have a value of the local key
    as a value of the remote attribute. The value goes into a filter where a
    star asks for a pattern and a backslash may start a code, so the lookup
    is exact for some values only. Which ones is decided here, over every
    directory: those that are `Literal`, with no star and no code in them.

    * A literal value is tested for as it stands (`found_of_literal`).
    * A list of values that are not all literal has a *stray*: a text that is
      found for more of the values than it is equal to (`exists_stray`). A
      star lets texts in that are longer than every value. Without stars, a
      value with a code lets in what its codes stand for; this is shorter
      than the value, so the descent from a value to a shorter one ends.
    * A directory with the stray as its only value is looked up wrongly.
-/

namespace DirectoryRecords

open Text Directory Conditions

/-! ## What should be attached -/

/-- No star asks for a pattern, and no backslash starts a code. -/
def Literal (value : Text) : Prop :=
  '*' ∉ value ∧ Filter.NoCode value

namespace Relation

/-- The records of the entries below the base that have a value as a value of the first attribute
    with the remote name, whatever the case of its ASCII letters. -/
def equalRecords (relation : Relation) (entries : List Entry) (value : Text) : List Record :=
  (entries.filter fun entry => entry.inSubtree relation.base &&
      ((entry.values? relation.remoteAttribute).getD []).any (agrees · value)).map
    fun entry => (entry.project relation.fields).normalize

/-- A shaped record with the records that are equal in each value of its local key in turn, if
    there are any. -/
def attachEqual (relation : Relation) (label : Text) (entries : List Entry)
    (shaped : ShapedRecord) : ShapedRecord :=
  shaped.attachAny label
    ((relation.localValues shaped.record).flatMap (relation.equalRecords entries))

variable {relation : Relation}

/-! ## Literal values -/

/-- The entries that a literal value finds are those that have it. -/
theorem found_of_literal (hname : PlainAttribute relation.remoteAttribute) (source : Directory)
    {value : Text} (h : Literal value) :
    relation.found source value = relation.equalRecords source.entries value := by
  obtain ⟨hstar, hcode⟩ := h
  rw [found, Filter.test_equals _ hstar, hname.trim_eq, Filter.unescape_of_noCode hcode]
  exact List.map_map

/-- Literal values attach what they should. -/
theorem attachFound_of_literal (hname : PlainAttribute relation.remoteAttribute) (label : Text)
    (source : Directory) {shaped : ShapedRecord}
    (h : ∀ value ∈ relation.localValues shaped.record, Literal value) :
    relation.attachFound .belongsTo label (relation.found source) shaped
      = relation.attachEqual label source.entries shaped := by
  have hfound : (relation.localValues shaped.record).map (relation.found source)
      = (relation.localValues shaped.record).map (relation.equalRecords source.entries) :=
    List.map_congr_left fun value hmem => found_of_literal hname source (h value hmem)
  rw [attachFound, hfound]
  rfl

end Relation

/-! ## Strays -/

/-- A literal value finds what it is equal to. -/
theorem finds_of_literal {value : Text} (h : Literal value) (held : Text) :
    finds value held = agrees held value := by
  rw [finds_of_no_star h.1, Filter.unescape_of_noCode h.2]

/-- Texts that agree are equally long. -/
theorem length_eq_of_agrees {left right : Text} (h : agrees left right = true) :
    left.length = right.length := by
  have := congrArg List.length ((agrees_iff left right).mp h)
  rwa [asciiLower, asciiLower, List.length_map, List.length_map] at this

/-- A value with a star finds texts of any length. -/
theorem exists_finds_long {value : Text} (h : '*' ∈ value) (length : Nat) :
    ∃ held, length < held.length ∧ finds value held = true := by
  obtain ⟨part, next, parts, hparts⟩ := exists_pieces h
  obtain ⟨held, hlong, hfits⟩ :=
    Filter.exists_valueFits (Filter.unescape part) (Filter.unescape next)
      (parts.map Filter.unescape) length
  refine ⟨held, hlong, ?_⟩
  rw [finds_of_star h, hparts]
  exact hfits

/-- A text that every value equal to it finds, and that some other value finds as well. -/
def Stray (values : List Text) (held : Text) : Prop :=
  (∀ value ∈ values, agrees held value = true → finds value held = true) ∧
    ∃ value ∈ values, finds value held = true ∧ agrees held value = false

/-- With a star among the values, a text longer than all of them is found. -/
theorem exists_stray_of_star {values : List Text} {value : Text} (hmem : value ∈ values)
    (hstar : '*' ∈ value) : ∃ held, Stray values held := by
  obtain ⟨held, hlong, hfinds⟩ := exists_finds_long hstar values.flatten.length
  have hno : ∀ other ∈ values, agrees held other = false := by
    intro other hother
    rw [Bool.eq_false_iff]
    intro hagrees
    have hle : other.length ≤ values.flatten.length :=
      (List.sublist_flatten_of_mem hother).length_le
    rw [length_eq_of_agrees hagrees] at hlong
    omega
  refine ⟨held, ?_, value, hmem, hfinds, hno value hmem⟩
  intro other hother hagrees
  rw [hno other hother] at hagrees
  exact nomatch hagrees

/-- Without a star among the values, what the codes of some value stand for is found. -/
theorem exists_stray_of_code {values : List Text} (hstar : ∀ value ∈ values, '*' ∉ value)
    {value : Text} (hmem : value ∈ values) (hcode : ¬ Filter.NoCode value) :
    ∃ held, Stray values held := by
  -- Where what a value stands for is missed by a value equal to it, that one has codes as well
  -- and is shorter than the first: the induction is on the length.
  induction hn : value.length using Nat.strong_induction_on generalizing value with
  | _ n ih =>
      have hshort := Filter.length_unescape_lt hcode
      by_cases hmiss : ∃ other ∈ values, agrees (Filter.unescape value) other = true ∧
          finds other (Filter.unescape value) = false
      · obtain ⟨other, hother, hagrees, hfinds⟩ := hmiss
        have hlength := length_eq_of_agrees hagrees
        refine ih other.length (by omega) hother ?_ rfl
        intro hno
        rw [finds_of_literal ⟨hstar other hother, hno⟩, hagrees] at hfinds
        exact nomatch hfinds
      · refine ⟨Filter.unescape value, ?_, value, hmem, ?_, ?_⟩
        · intro other hother hagrees
          rw [← Bool.not_eq_false]
          intro hfinds
          exact hmiss ⟨other, hother, hagrees, hfinds⟩
        · rw [finds_of_no_star (hstar value hmem)]
          exact agrees_refl _
        · rw [Bool.eq_false_iff]
          intro hagrees
          have := length_eq_of_agrees hagrees
          omega

/-- **Values that are not all literal have a stray.** -/
theorem exists_stray {values : List Text} {value : Text} (hmem : value ∈ values)
    (h : ¬ Literal value) : ∃ held, Stray values held := by
  by_cases hstar : ∃ other ∈ values, '*' ∈ other
  · obtain ⟨other, hother, hin⟩ := hstar
    exact exists_stray_of_star hother hin
  · have hfree : ∀ other ∈ values, '*' ∉ other := fun other hother hin =>
      hstar ⟨other, hother, hin⟩
    refine exists_stray_of_code hfree hmem ?_
    intro hcode
    exact h ⟨hfree value hmem, hcode⟩

/-- A stray is found more often than it is equal. -/
theorem Stray.countP_lt {values : List Text} {held : Text} (h : Stray values held) :
    values.countP (agrees held) < values.countP (finds · held) := by
  obtain ⟨himp, value, hmem, hfinds, hagrees⟩ := h
  -- Both counts are taken around one value that finds the text without being equal to it.
  obtain ⟨front, back, rfl⟩ := List.append_of_mem hmem
  have hfront : front.countP (agrees held) ≤ front.countP (finds · held) :=
    List.countP_mono_left fun v hv => himp v (List.mem_append_left _ hv)
  have hback : back.countP (agrees held) ≤ back.countP (finds · held) :=
    List.countP_mono_left fun v hv =>
      himp v (List.mem_append_right _ (List.mem_cons_of_mem _ hv))
  have hone : (value :: back).countP (finds · held) = back.countP (finds · held) + 1 :=
    List.countP_cons_of_pos hfinds
  have hnone : (value :: back).countP (agrees held) = back.countP (agrees held) :=
    List.countP_cons_of_neg (by rw [hagrees]; exact Bool.false_ne_true)
  rw [List.countP_append, List.countP_append, hone, hnone]
  omega

namespace Relation

variable {relation : Relation}

/-! ## A directory with one value -/

/-- An entry below the base of a relation with a text as its only value. -/
def lone (relation : Relation) (name held : Text) : Entry :=
  ⟨name ++ ',' :: relation.base, [⟨relation.remoteAttribute, [held]⟩]⟩

/-- A directory with such an entry only. -/
def loneDirectory (relation : Relation) (name held : Text) : Directory :=
  { ofIdentity defaultIdentity with entries := [relation.lone name held] }

/-- The record of such an entry. -/
def loneRecord (relation : Relation) (name held : Text) : Record :=
  ((relation.lone name held).project relation.fields).normalize

theorem dn_loneRecord (relation : Relation) (name held : Text) :
    (relation.loneRecord name held).dn = name ++ ',' :: relation.base := by
  show ((relation.lone name held).project relation.fields).dn = _
  rw [Entry.project]
  split
  · rfl
  · rfl

theorem inSubtree_lone (relation : Relation) (name held : Text) :
    (relation.lone name held).inSubtree relation.base = true :=
  Entry.inSubtree_comma name relation.base [⟨relation.remoteAttribute, [held]⟩]

theorem values?_lone (relation : Relation) (name held : Text) :
    (relation.lone name held).values? relation.remoteAttribute = some [held] := by
  have hfirst : (relation.lone name held).attributes.find?
      (agrees ·.name relation.remoteAttribute) = some ⟨relation.remoteAttribute, [held]⟩ :=
    List.find?_cons_of_pos (agrees_refl relation.remoteAttribute)
  rw [Entry.values?, hfirst]
  rfl

/-- The test for a value decides whether it finds the only value there is. -/
theorem holds_lone (hname : PlainAttribute relation.remoteAttribute) (name value held : Text) :
    Filter.holds (relation.lone name held) (Filter.test relation.remoteAttribute value)
      = finds value held := by
  have hvalues : heldValues (relation.lone name held) relation.remoteAttribute
      = [held] := by
    rw [heldValues, hname.trim_eq, values?_lone]
    rfl
  rw [holds_test, hvalues, List.any_cons, List.any_nil, Bool.or_false]
  by_cases hlone : value = ['*']
  · rw [hlone, finds_lone_star]
    exact Bool.or_true _
  · rw [decide_eq_false hlone]
    rfl

/-- What is found for a value is the record of the entry, or nothing. -/
theorem found_lone (hname : PlainAttribute relation.remoteAttribute) (name held value : Text) :
    relation.found (relation.loneDirectory name held) value
      = if finds value held then [relation.loneRecord name held] else [] := by
  have hpass : ((relation.lone name held).inSubtree relation.base &&
      Filter.holds (relation.lone name held)
        (Filter.test relation.remoteAttribute value)) = finds value held := by
    rw [inSubtree_lone, holds_lone hname, Bool.true_and]
  show (([relation.lone name held].filter fun entry => entry.inSubtree relation.base &&
    Filter.holds entry (Filter.test relation.remoteAttribute value)).map
      (Entry.project relation.fields)).map Entry.normalize = _
  rw [List.filter_singleton, hpass]
  cases finds value held with
  | true => rfl
  | false => rfl

/-- What is equal to a value is the record of the entry, or nothing. -/
theorem equalRecords_lone (relation : Relation) (name held value : Text) :
    relation.equalRecords (relation.loneDirectory name held).entries value
      = if agrees held value then [relation.loneRecord name held] else [] := by
  have hpass : ((relation.lone name held).inSubtree relation.base &&
      (((relation.lone name held).values? relation.remoteAttribute).getD []).any (agrees · value))
        = agrees held value := by
    rw [inSubtree_lone, values?_lone]
    exact Bool.or_false _
  rw [equalRecords]
  show ([relation.lone name held].filter _).map _ = _
  rw [List.filter_singleton, hpass]
  cases agrees held value with
  | true => rfl
  | false => rfl

end Relation

/-- One element for each that passes a test. -/
theorem flatMap_ite_singleton {α β : Type} (elements : List α) (test : α → Bool) (one : β) :
    (elements.flatMap fun element => if test element then [one] else [])
      = List.replicate (elements.countP test) one := by
  induction elements with
  | nil => rfl
  | cons element rest ih =>
      rw [List.flatMap_cons, ih]
      by_cases h : test element = true
      · rw [if_pos h, List.countP_cons_of_pos h]
        rfl
      · rw [if_neg h, List.countP_cons_of_neg h]
        rfl

namespace Relation

variable {relation : Relation}

/-- Among the values of a record every one that finds the text attaches the entry once more. -/
theorem attachFound_lone (hname : PlainAttribute relation.remoteAttribute)
    (label name held : Text) (shaped : ShapedRecord) :
    relation.attachFound .belongsTo label (relation.found (relation.loneDirectory name held)) shaped
      = shaped.attachAny label (List.replicate
          ((relation.localValues shaped.record).countP (finds · held))
          (relation.loneRecord name held)) := by
  have hcollect : RelationKind.belongsTo.collect ((relation.localValues shaped.record).map
      (relation.found (relation.loneDirectory name held)))
        = (relation.localValues shaped.record).flatMap fun value =>
            if finds value held then [relation.loneRecord name held] else [] := by
    rw [List.map_congr_left fun value _ => found_lone hname name held value]
    rfl
  rw [attachFound, hcollect, flatMap_ite_singleton]

/-- Every value that is equal to the text should attach the entry once more. -/
theorem attachEqual_lone (relation : Relation) (label name held : Text) (shaped : ShapedRecord) :
    relation.attachEqual label (relation.loneDirectory name held).entries shaped
      = shaped.attachAny label (List.replicate
          ((relation.localValues shaped.record).countP (agrees held))
          (relation.loneRecord name held)) := by
  have hequal : (relation.localValues shaped.record).flatMap
      (relation.equalRecords (relation.loneDirectory name held).entries)
        = (relation.localValues shaped.record).flatMap fun value =>
            if agrees held value then [relation.loneRecord name held] else [] :=
    congrArg (List.flatMap · _) (funext fun value => equalRecords_lone relation name held value)
  rw [attachEqual, hequal, flatMap_ite_singleton]

/-- A record whose values have a stray is not resolved as it should be by some directory that
    holds the stray. -/
theorem not_stray_of_exact (hname : PlainAttribute relation.remoteAttribute) (label : Text)
    {shaped : ShapedRecord}
    (h : ∀ name held : Text,
      relation.attachFound .belongsTo label (relation.found (relation.loneDirectory name held))
          shaped
        = relation.attachEqual label (relation.loneDirectory name held).entries shaped)
    (held : Text) : ¬ Stray (relation.localValues shaped.record) held := by
  intro hstray
  have hlt := hstray.countP_lt
  have hpos : 0 < (relation.localValues shaped.record).countP (finds · held) := by omega
  have hcopies : ∀ name : Text, shaped.attach label (List.replicate
      ((relation.localValues shaped.record).countP (finds · held)) (relation.loneRecord name held))
        = shaped.attachAny label (List.replicate
            ((relation.localValues shaped.record).countP (agrees held))
            (relation.loneRecord name held)) := by
    intro name
    rw [← attachEqual_lone, ← h name held, attachFound_lone hname, ShapedRecord.attachAny_of_ne]
    intro hnil
    have := (List.replicate_eq_nil_iff _).mp hnil
    omega
  by_cases hzero : (relation.localValues shaped.record).countP (agrees held) = 0
  · -- Nothing should be attached, so every such directory would leave the record as it is. One of
    -- them could do so, since the record may show already what it attaches, but not two.
    simp only [hzero, List.replicate_zero, ShapedRecord.attachAny_nil] at hcopies
    have hboth := (hcopies "cn=a").trans (hcopies "cn=b").symm
    obtain ⟨-, hsame⟩ := List.replicate_inj.mp (ShapedRecord.attach_inj hboth)
    have hdn := congrArg Record.dn (hsame.resolve_left (by omega))
    rw [dn_loneRecord, dn_loneRecord] at hdn
    exact absurd (List.append_cancel_right hdn) (by decide)
  · -- The same record is attached, but more often than it should be.
    have hone := hcopies "cn=a"
    rw [ShapedRecord.attachAny_of_ne] at hone
    · obtain ⟨hcount, -⟩ := List.replicate_inj.mp (ShapedRecord.attach_inj hone)
      omega
    · intro hnil
      exact hzero ((List.replicate_eq_nil_iff _).mp hnil)

/-! ## Exactness -/

/-- **Exactly the literal values are looked up exactly.** A relation by attribute whose base has
    a label attaches to every record the entries that are equal in its values, on every directory
    that answers searches, just if all these values are literal. -/
theorem resolve_belongsTo_exact_iff (hdn : relation.byDn = false)
    (hname : PlainAttribute relation.remoteAttribute) {label : Text}
    (hbase : Dn.leafLabel relation.base = .ok label) (records : List ShapedRecord) :
    (∀ directory : Directory, directory.searchesFail = false →
      (relation.resolve .belongsTo records directory).1
        = .ok (records.map (relation.attachEqual label directory.entries))) ↔
      ∀ shaped ∈ records, ∀ value ∈ relation.localValues shaped.record, Literal value := by
  have hrun : ∀ directory : Directory, directory.searchesFail = false →
      (relation.resolve .belongsTo records directory).1
        = .ok (records.map (relation.attachFound .belongsTo label (relation.found directory))) := by
    intro directory hopen
    rw [(answers_resolve hopen hdn hname .belongsTo hbase records).run]
  constructor
  · intro hexact shaped hmem value hvalue
    by_contra hliteral
    -- One stray among the values of one record is enough.
    obtain ⟨held, hstray⟩ := exists_stray hvalue hliteral
    refine not_stray_of_exact hname label ?_ held hstray
    intro name other
    have hopen : (relation.loneDirectory name other).searchesFail = false := rfl
    have hmap := Except.ok.inj ((hrun _ hopen).symm.trans (hexact _ hopen))
    exact List.map_inj_left.mp hmap shaped hmem
  · intro hliteral directory hopen
    rw [hrun directory hopen]
    exact congrArg Except.ok (List.map_congr_left fun shaped hmem =>
      attachFound_of_literal hname label directory (hliteral shaped hmem))

/-- Of two people one has a manager whose name holds a code, so the group of this manager is
    missed, and one has a star in the name, so a group of somebody else is attached. -/
theorem resolve_belongsTo_not_exact :
    let relation : Relation := ⟨"manager", "owner", "ou=Group,dc=x", []⟩
    let staff : Entry :=
      ⟨"cn=staff,ou=Group,dc=x", [⟨"owner", ["cn=Lee\\2c Ann,ou=People,dc=x"]⟩]⟩
    let admins : Entry := ⟨"cn=admins,ou=Group,dc=x", [⟨"owner", ["ann"]⟩]⟩
    let directory : Directory :=
      { ofIdentity "memory://groups" with entries := [staff, admins] }
    let person (manager : Text) : ShapedRecord :=
      .ofRecord "Person" ((Record.ofDn "uid=jdoe,ou=People,dc=x").set "manager" (.single manager))
    let records := [person "cn=Lee\\2c Ann,ou=People,dc=x", person "a*"]
    relation.byDn = false ∧ PlainAttribute relation.remoteAttribute ∧
      Dn.leafLabel relation.base = .ok "Group" ∧ directory.searchesFail = false ∧
      (relation.resolve .belongsTo records directory).1
        ≠ .ok (records.map (relation.attachEqual "Group" directory.entries)) := by
  intro relation staff admins directory person records
  refine ⟨by decide, by decide, rfl, rfl, ?_⟩
  have hcode : (relation.resolve .belongsTo records directory).1
      = .ok [person "cn=Lee\\2c Ann,ou=People,dc=x",
          (person "a*").attach "Group" [admins.normalize]] := rfl
  have hclaim : records.map (relation.attachEqual "Group" directory.entries)
      = [(person "cn=Lee\\2c Ann,ou=People,dc=x").attach "Group" [staff.normalize],
          person "a*"] := rfl
  rw [hcode, hclaim]
  intro h
  exact absurd (congrArg (List.map fun shaped => shaped.related.toList.length)
    (Except.ok.inj h)) (by decide)

/-- The condition holds of a manager without such signs, and fails where there is a star. -/
theorem resolve_belongsTo_exact_iff_manager :
    let relation : Relation := ⟨"manager", "owner", "ou=Group,dc=x", []⟩
    let person (manager : Text) : ShapedRecord :=
      .ofRecord "Person" ((Record.ofDn "uid=jdoe").set "manager" (.single manager))
    relation.byDn = false ∧ PlainAttribute relation.remoteAttribute ∧
      Dn.leafLabel relation.base = .ok "Group" ∧
      (∀ directory : Directory, directory.searchesFail = false →
        (relation.resolve .belongsTo [person "uid=ann (sales)"] directory).1
          = .ok ([person "uid=ann (sales)"].map
              (relation.attachEqual "Group" directory.entries))) ∧
      ¬ ∀ directory : Directory, directory.searchesFail = false →
        (relation.resolve .belongsTo [person "a*"] directory).1
          = .ok ([person "a*"].map (relation.attachEqual "Group" directory.entries)) := by
  intro relation person
  have hdn : relation.byDn = false := by decide
  have hname : PlainAttribute relation.remoteAttribute := by decide
  have hbase : Dn.leafLabel relation.base = .ok "Group".toList := rfl
  refine ⟨hdn, hname, hbase, ?_, ?_⟩
  · refine (resolve_belongsTo_exact_iff hdn hname hbase _).mpr ?_
    intro shaped hmem value hvalue
    rw [List.mem_singleton.mp hmem] at hvalue
    have hvalue : value = "uid=ann (sales)".toList := List.mem_singleton.mp hvalue
    rw [hvalue]
    exact ⟨by decide, Filter.noCode_of_free (by decide)⟩
  · intro h
    have hliteral := (resolve_belongsTo_exact_iff hdn hname hbase _).mp h _ List.mem_cons_self
      "a*" List.mem_cons_self
    exact absurd hliteral.1 (by decide)

end Relation

end DirectoryRecords
