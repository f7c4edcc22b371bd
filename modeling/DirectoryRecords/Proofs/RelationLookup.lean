import DirectoryRecords.Proofs.Answers
import DirectoryRecords.Proofs.PairMeaning
import DirectoryRecords.Relation.Lookup

/-!
# Relation lookups — what is found for the values of a local key

    A relation by attribute asks the directory once for each value of the
    local key, and each time the value is the value of a pair. So what is
    found for it is what the test for this pair selects (`answers_lookup`),
    and the runs of the other actions follow their definitions: all values of
    a record (`answers_resolveOne`), then all records (`answers_resolve`).

    Nothing is assumed of the values. What they are tested for, which is not
    always what they are, is the subject of the module on equality.
-/

namespace DirectoryRecords

open Text Directory

/-! ## Names of attributes -/

/-- Letters, digits and the hyphen. -/
def IsPlain (c : Char) : Prop :=
  ('a' ≤ c ∧ c ≤ 'z') ∨ ('A' ≤ c ∧ c ≤ 'Z') ∨ ('0' ≤ c ∧ c ≤ '9') ∨ c = '-'

instance (c : Char) : Decidable (IsPlain c) :=
  inferInstanceAs (Decidable (_ ∨ _ ∨ _ ∨ _))

/-- A plain attribute name consists of letters, digits and hyphens. -/
def PlainAttribute (name : Text) : Prop :=
  ∀ c ∈ name, IsPlain c

instance (name : Text) : Decidable (PlainAttribute name) :=
  List.decidableBAll IsPlain name

theorem isBlank_of_plain {c : Char} (h : IsPlain c) : isBlank c = false := by
  have hrange : (97 ≤ c.toNat ∧ c.toNat ≤ 122) ∨ (65 ≤ c.toNat ∧ c.toNat ≤ 90) ∨
      (48 ≤ c.toNat ∧ c.toNat ≤ 57) ∨ c.toNat = 45 := by
    rcases h with h | h | h | rfl
    · exact Or.inl h
    · exact Or.inr (Or.inl h)
    · exact Or.inr (Or.inr (Or.inl h))
    · exact Or.inr (Or.inr (Or.inr rfl))
  simp only [isBlank, inRanges, blankRanges, List.any_cons, List.any_nil, Bool.or_false]
  simp
  omega

/-- A plain name keeps out of the way of a filter. -/
theorem PlainAttribute.plainName {name : Text} (h : PlainAttribute name) :
    Conditions.PlainName name := by
  have hsign : ∀ c ∈ ['(', ')', '=', '&', '|', '!'], c ∉ name := by
    intro c hc hmem
    have hplain := h c hmem
    simp only [List.mem_cons, List.not_mem_nil, or_false] at hc
    rcases hc with rfl | rfl | rfl | rfl | rfl | rfl <;> exact absurd hplain (by decide)
  refine ⟨hsign '(' (by decide), hsign ')' (by decide), hsign '=' (by decide), ?_⟩
  intro c hc hmem
  refine hsign c ?_ (List.mem_of_head? hc)
  simp only [List.mem_cons, List.not_mem_nil, or_false] at hmem ⊢
  rcases hmem with rfl | rfl | rfl <;> simp

theorem PlainAttribute.trim_eq {name : Text} (h : PlainAttribute name) : trim name = name := by
  refine trim_of_unpadded ⟨?_, ?_⟩
  · intro c hc
    exact isBlank_of_plain (h c (List.mem_of_head? hc))
  · intro c hc
    exact isBlank_of_plain (h c (List.mem_of_getLast? hc))

/-! ## Names of entries -/

/-- An entry whose name ends in a comma and a base lies in the subtree of the base, whatever the
    letters of the name are: a comma parts words, so both sides go into lower case on their own. -/
theorem Entry.inSubtree_comma (name base : Text) (attributes : List Attribute) :
    (⟨name ++ ',' :: base, attributes⟩ : Entry).inSubtree base = true := by
  have hlower : lower (name ++ ',' :: base) = lower name ++ ',' :: lower base :=
    lower_append (by decide) name base
  have hsuffix : (',' :: lower base).isSuffixOf (lower (name ++ ',' :: base)) = true := by
    rw [hlower, List.isSuffixOf_iff_suffix]
    exact List.suffix_append _ _
  rw [inSubtree, hsuffix, Bool.or_true]

/-! ## Attaching -/

namespace ShapedRecord

/-- The shaped record with records under a label, if there are any. -/
def attachAny (shaped : ShapedRecord) (label : Text) (records : List Record) : ShapedRecord :=
  if records.isEmpty then shaped else shaped.attach label records

@[simp] theorem attachAny_nil (shaped : ShapedRecord) (label : Text) :
    shaped.attachAny label [] = shaped := rfl

theorem attachAny_of_ne {shaped : ShapedRecord} {label : Text} {records : List Record}
    (h : records ≠ []) : shaped.attachAny label records = shaped.attach label records := by
  rw [attachAny, if_neg (by rw [List.isEmpty_iff]; exact h)]

@[simp] theorem label_attachAny (shaped : ShapedRecord) (label : Text) (records : List Record) :
    (shaped.attachAny label records).label = shaped.label := by
  rw [attachAny]
  split <;> rfl

@[simp] theorem record_attachAny (shaped : ShapedRecord) (label : Text) (records : List Record) :
    (shaped.attachAny label records).record = shaped.record := by
  rw [attachAny]
  split <;> rfl

theorem get?_attachAny_of_ne (shaped : ShapedRecord) {label other : Text} (h : other ≠ label)
    (records : List Record) :
    (shaped.attachAny label records).related.get? other = shaped.related.get? other := by
  rw [attachAny]
  split
  · rfl
  · rw [attach, TextMap.get?_insert, if_neg h]

/-- What is attached under a label can be told from the result. -/
theorem attach_inj {shaped : ShapedRecord} {label : Text} {left right : List Record}
    (h : shaped.attach label left = shaped.attach label right) : left = right := by
  have hget := congrArg (fun result => result.related.get? label) h
  simp only [attach, TextMap.get?_insert, if_true] at hget
  exact Option.some.inj hget

end ShapedRecord

namespace Relation

variable {source : Directory} {relation : Relation}

/-! ## Runs -/

/-- The filter that is asked for a value. -/
def filterFor (relation : Relation) (value : Text) : Text :=
  (Conditions.equals relation.remoteAttribute value).compile

/-- The call that is made for a value. -/
def callFor (relation : Relation) (value : Text) : Call :=
  .search relation.base (relation.filterFor value) relation.fields none

/-- The records of the entries that the test for a value selects. -/
def found (relation : Relation) (source : Directory) (value : Text) : List Record :=
  (source.select relation.base (Filter.test relation.remoteAttribute value)
    relation.fields none).map Entry.normalize

/-- A shaped record with what is found for the values of its local key, if that is anything. -/
def attachFound (relation : Relation) (kind : RelationKind) (label : Text)
    (answer : Text → List Record) (shaped : ShapedRecord) : ShapedRecord :=
  shaped.attachAny label (kind.collect ((relation.localValues shaped.record).map answer))

theorem spells_filterFor (h : PlainAttribute relation.remoteAttribute) (value : Text) :
    Filter.Spells (relation.filterFor value)
      (Filter.test relation.remoteAttribute value) :=
  Conditions.spells_term h.plainName value

/-- For a value the test for it is asked, in one call. -/
theorem answers_lookup (hopen : source.searchesFail = false) (hdn : relation.byDn = false)
    (hname : PlainAttribute relation.remoteAttribute) (value : Text) :
    Answers source (relation.lookup value) (relation.found source value)
      [relation.callFor value] := by
  have hsearch : Answers source
      (search relation.base (relation.filterFor value) relation.fields none)
      (source.select relation.base (Filter.test relation.remoteAttribute value)
        relation.fields none) [relation.callFor value] := by
    intro earlier
    have hopen' : ({ source with calls := earlier } : Directory).searchesFail = false := hopen
    exact search_of_spells (spells_filterFor hname value) relation.base relation.fields none
      hopen'
  rw [lookup, if_neg (by rw [hdn]; exact Bool.false_ne_true)]
  exact hsearch.map (List.map Entry.normalize)

/-- A record is resolved by one call for each value of its local key, in order. -/
theorem answers_resolveOne (hopen : source.searchesFail = false) (hdn : relation.byDn = false)
    (hname : PlainAttribute relation.remoteAttribute) (kind : RelationKind) (label : Text)
    (shaped : ShapedRecord) :
    Answers source (relation.resolveOne kind label shaped)
      (relation.attachFound kind label (relation.found source) shaped)
      ((relation.localValues shaped.record).map relation.callFor) := by
  have hall : Answers source ((relation.localValues shaped.record).mapM relation.lookup)
      ((relation.localValues shaped.record).map (relation.found source))
      ((relation.localValues shaped.record).flatMap fun value => [relation.callFor value]) :=
    Answers.mapM fun value _ => answers_lookup hopen hdn hname value
  rw [← List.map_eq_flatMap] at hall
  exact hall.map fun found => shaped.attachAny label (kind.collect found)

/-- **Records are resolved one by one.** With a label for its base, a relation by attribute
    resolves every record on its own, and the calls follow the records and their values. -/
theorem answers_resolve (hopen : source.searchesFail = false) (hdn : relation.byDn = false)
    (hname : PlainAttribute relation.remoteAttribute) (kind : RelationKind) {label : Text}
    (hbase : Dn.leafLabel relation.base = .ok label) (records : List ShapedRecord) :
    Answers source (relation.resolve kind records)
      (records.map (relation.attachFound kind label (relation.found source)))
      (records.flatMap fun shaped =>
        (relation.localValues shaped.record).map relation.callFor) := by
  -- No record's lookups depend on those before it: they only read, and the log decides nothing.
  have hall := Answers.mapM fun (shaped : ShapedRecord) (_ : shaped ∈ records) =>
    answers_resolveOne hopen hdn hname kind label shaped
  intro earlier
  rw [resolve, hbase]
  exact hall earlier

end Relation

end DirectoryRecords
