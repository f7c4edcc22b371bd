import DirectoryRecords.Proofs.GivenNames

/-!
# Normalized values — what a record shows of an entry

    An entry may have several attributes of one name, in any letter case, and
    attributes without values. An attribute contributes to the record if it
    has a value and is not named like the distinguished name, and of those
    that contribute under one key the last one counts. So an attribute without
    values is no attribute: it takes nothing away from an earlier one.

    Names are compared in two ways here. Whether an attribute is named `dn` is
    asked of the ASCII letters, while its key is the full lower-case form.
    Both are about one attribute at a time (`binding?_eq_some_iff`), so
    they never have to agree.
-/

namespace DirectoryRecords

open Text

namespace Attribute

/-- An attribute that has a value and does not hide the distinguished name. -/
def Contributes (a : Attribute) : Prop :=
  agrees a.name "dn" = false ∧ a.values ≠ []

/-- What contributes does so with all of its values, under its name in lower case. -/
theorem binding?_eq_some_iff {a : Attribute} {binding : Text × Value} :
    a.binding? = some binding ↔ a.Contributes ∧ binding = (lower a.name, .ofList a.values) := by
  rw [Contributes, binding?]
  cases hdn : agrees a.name "dn" with
  | true =>
      rw [if_pos rfl]
      constructor
      · intro h
        cases h
      · rintro ⟨⟨hfalse, -⟩, -⟩
        cases hfalse
  | false =>
      rw [if_neg Bool.false_ne_true, and_iff_right rfl]
      by_cases hvalues : a.values = []
      · have hnone : a.value? = none := by rw [value?, hvalues]
        rw [hnone]
        constructor
        · intro h
          cases h
        · rintro ⟨hne, -⟩
          exact absurd hvalues hne
      · rw [value?_of_ne hvalues, and_iff_right hvalues]
        exact ⟨fun h => (Option.some.inj h).symm, fun h => congrArg some h.symm⟩

end Attribute

namespace Value

/-- How a record holds the values of an attribute: one as it is, several as their sequence. -/
inductive Holds : Value → List Text → Prop where
  | single (text : Text) : Holds (.single text) [text]
  | multi {texts : List Text} (several : 2 ≤ texts.length) : Holds (.multi texts) texts

theorem holds_ofList {texts : List Text} (h : texts ≠ []) : (ofList texts).Holds texts := by
  match texts, h with
  | [text], _ => exact .single text
  | first :: second :: rest, _ => exact .multi (Nat.le_add_left 2 rest.length)

end Value

namespace Record

/-- A record reflects an entry: it has the name of the entry, keys for the attributes that
    contribute and no others, and under each key the values of the last attribute that contributes
    there. -/
structure Reflects (record : Record) (entry : Entry) : Prop where
  dn : record.dn = entry.dn
  keys : ∀ key, key ∈ record.attributes.keys ↔
    ∃ a ∈ entry.attributes, a.Contributes ∧ lower a.name = key
  values : ∀ front a back, entry.attributes = front ++ a :: back → a.Contributes →
    (∀ later ∈ back, later.Contributes → lower later.name ≠ lower a.name) →
    ∃ value, record.attributes.get? (lower a.name) = some value ∧ value.Holds a.values

end Record

namespace Entry

/-- The keys of a record are those of the attributes that contribute. -/
theorem mem_keys_normalize {entry : Entry} {key : Text} :
    key ∈ entry.normalize.attributes.keys
      ↔ ∃ a ∈ entry.attributes, a.Contributes ∧ lower a.name = key := by
  rw [normalize, TextMap.mem_keys_ofList]
  constructor
  · rintro ⟨binding, hbinding, rfl⟩
    obtain ⟨a, ha, hsome⟩ := List.mem_filterMap.mp hbinding
    obtain ⟨hcontributes, rfl⟩ := Attribute.binding?_eq_some_iff.mp hsome
    exact ⟨a, ha, hcontributes, rfl⟩
  · rintro ⟨a, ha, hcontributes, rfl⟩
    have hsome := Attribute.binding?_eq_some_iff.mpr ⟨hcontributes, rfl⟩
    exact ⟨_, List.mem_filterMap.mpr ⟨a, ha, hsome⟩, rfl⟩

theorem reflects_normalize (entry : Entry) : entry.normalize.Reflects entry := by
  refine ⟨rfl, fun key => mem_keys_normalize, ?_⟩
  intro front a back hsplit hcontributes hlast
  refine ⟨.ofList a.values, ?_, Value.holds_ofList hcontributes.2⟩
  obtain ⟨dn, attributes⟩ := entry
  obtain rfl : attributes = front ++ a :: back := hsplit
  refine get?_normalize_of_last (Attribute.binding?_eq_some_iff.mpr ⟨hcontributes, rfl⟩) ?_
  intro later hlater binding hsome
  obtain ⟨hcounts, rfl⟩ := Attribute.binding?_eq_some_iff.mp hsome
  exact hlast later hlater hcounts

/-- **Normalization.** The record of an entry reflects it, whatever names repeat in whatever letter
    case and however many values they have. The records of the entries of a search that found
    some are theirs one by one, in the same order. -/
theorem normalize_reflects :
    (∀ entry : Entry, entry.normalize.Reflects entry) ∧
      ∀ (kind : Text) (first : Entry) (rest : List Entry),
        ∃ shaped, normalizeAll kind (first :: rest) = .ok shaped ∧
          shaped.map ShapedRecord.record = (first :: rest).map normalize := by
  refine ⟨reflects_normalize, fun kind first rest => ⟨_, rfl, ?_⟩⟩
  rw [List.map_map]
  rfl

/-- An attribute without values takes nothing away, and one with values takes all. -/
example :
    (⟨"uid=ann", [⟨"Mail", ["a@x"]⟩, ⟨"DN", ["x"]⟩, ⟨"CN", ["Ann"]⟩, ⟨"cn", ["A", "B"]⟩,
      ⟨"mail", []⟩]⟩ : Entry).normalize.attributes.toList
      = [("cn".toList, .multi ["A", "B"]), ("mail".toList, .single "a@x")] := by
  decide

end Entry

end DirectoryRecords
