import DirectoryRecords.Proofs.ConditionSpellings
import DirectoryRecords.Proofs.GivenNames
import DirectoryRecords.Proofs.Projection

/-!
# Records as JSON — read back unless an attribute hides the distinguished name

    The object of a record has the attributes as members next to that of the
    distinguished name, so names are shared between them: an attribute `dn`
    would make two members of one name, and reading refuses them. This is the
    only thing that can go wrong:

    * values are told apart by their shape alone, and what is read as a value
      is what was written for it (`Value.ofJson?_eq_some_iff`), so a sequence
      stays one however few texts it has;
    * names are read as they stand, and those of a map are distinct.

    An entry is normalized without its attributes `dn`. They are found by
    their ASCII case and the others kept in full lower case, but no letter
    beyond ASCII becomes a `d` or an `n`, so none of them slips through
    (`Entry.dn_not_mem_keys_normalize`).
-/

namespace DirectoryRecords

open Text

/-! ## Values -/

/-- The texts of an array are those that it was written of. -/
theorem Json.strings?_eq_some_iff {json : Json} {texts : List Text} :
    json.strings? = some texts ↔ json = .strings texts := by
  have hstring (item : Json) (text : Text) : item.string? = some text ↔ item = .string text := by
    cases item with
    | string held => exact ⟨fun h => congrArg Json.string (Option.some.inj h),
        fun h => congrArg some (Json.string.inj h)⟩
    | _ => exact ⟨nofun, nofun⟩
  cases json with
  | array items =>
      rw [strings?, mapM_eq_some_iff_eq_map hstring, strings, Json.array.injEq]
  | _ =>
      constructor
      · intro h
        cases h
      · intro h
        cases h

/-- **What is read as a value is what was written for it.** -/
theorem Value.ofJson?_eq_some_iff {json : Json} {value : Value} :
    ofJson? json = some value ↔ json = value.toJson := by
  rw [ofJson?.eq_def]
  split
  · next text =>
    cases value with
    | single held => exact ⟨fun h => congrArg Json.string (Value.single.inj (Option.some.inj h)),
        fun h => congrArg (some ∘ Value.single) (Json.string.inj h)⟩
    | multi texts => exact ⟨nofun, nofun⟩
  · next hstring =>
    cases value with
    | single held =>
        refine ⟨fun h => ?_, fun h => absurd h (hstring held)⟩
        obtain ⟨texts, -, hvalue⟩ := Option.map_eq_some_iff.mp h
        exact nomatch hvalue
    | multi texts =>
        rw [toJson, ← Json.strings?_eq_some_iff, Option.map_eq_some_iff]
        simp only [Value.multi.injEq, exists_eq_right]

namespace Record

/-! ## Members -/

/-- The member of an attribute. -/
def memberOf (binding : Text × Value) : Text × Json :=
  (binding.1, binding.2.toJson)

/-- The members of a record: the distinguished name, and the attributes in order. -/
def members (record : Record) : List (Text × Json) :=
  ("dn".toList, .string record.dn) :: record.attributes.toList.map memberOf

theorem toJson_eq (record : Record) : record.toJson = .object record.members := rfl

theorem map_fst_members (record : Record) :
    record.members.map Prod.fst = "dn".toList :: record.attributes.keys := by
  rw [members, List.map_cons, List.map_map]
  rfl

/-- An attribute is read from its member alone. -/
theorem attributeOfMember?_eq_some_iff (member : Text × Json) (binding : Text × Value) :
    attributeOfMember? member = some binding ↔ member = memberOf binding := by
  obtain ⟨name, json⟩ := member
  obtain ⟨key, value⟩ := binding
  rw [attributeOfMember?, memberOf, Option.map_eq_some_iff]
  simp only [Value.ofJson?_eq_some_iff, Prod.mk.injEq]
  constructor
  · rintro ⟨held, rfl, rfl, rfl⟩
    exact ⟨rfl, rfl⟩
  · rintro ⟨rfl, rfl⟩
    exact ⟨value, rfl, rfl, rfl⟩

/-! ## Reading back -/

/-- The JSON of the record is an object without a name in two places, and is read as the record. -/
structure ReadsBack (record : Record) : Prop where
  distinct : ∃ members, record.toJson = .object members ∧ (members.map Prod.fst).Nodup
  back : ofJson? record.toJson = some record

/-- The members of the distinguished name are its own and those of attributes of this name. -/
theorem filter_isDnMember (record : Record) :
    record.members.filter isDnMember
      = ("dn".toList, .string record.dn) ::
          (record.attributes.toList.map memberOf).filter isDnMember :=
  List.filter_cons_of_pos rfl

theorem filter_isDnMember_eq_nil_iff (record : Record) :
    (record.attributes.toList.map memberOf).filter isDnMember = [] ↔
      "dn".toList ∉ record.attributes.keys := by
  rw [List.filter_eq_nil_iff, List.forall_mem_map, TextMap.keys, List.mem_map, not_exists]
  refine forall_congr' fun binding => ?_
  rw [not_and, isDnMember, memberOf, beq_iff_eq]

/-- Without an attribute `dn` the record is read from its members. -/
theorem ofJson?_of_notDn {record : Record} (h : "dn".toList ∉ record.attributes.keys) :
    ofJson? record.toJson = some record := by
  have hdn := record.filter_isDnMember
  rw [record.filter_isDnMember_eq_nil_iff.mpr h] at hdn
  have hothers : record.members.filter (fun member => !isDnMember member)
      = record.attributes.toList.map memberOf := by
    rw [members, List.filter_cons_of_neg Bool.false_ne_true, List.filter_eq_self]
    intro member hmember
    have hnone := List.filter_eq_nil_iff.mp (record.filter_isDnMember_eq_nil_iff.mpr h) member
      hmember
    rw [Bool.not_eq_true] at hnone
    rw [hnone]
    rfl
  have hattributes : (record.attributes.toList.map memberOf).mapM attributeOfMember?
      = some record.attributes.toList :=
    (mapM_eq_some_iff_eq_map attributeOfMember?_eq_some_iff).mpr rfl
  rw [toJson_eq, ofJson?, hdn, hothers, hattributes]
  show some (⟨record.dn, .ofList record.attributes.toList⟩ : Record) = some record
  rw [TextMap.ofList_toList]

/-- With an attribute `dn` there are two members of the distinguished name. -/
theorem notDn_of_ofJson? {record found : Record} (h : ofJson? record.toJson = some found) :
    "dn".toList ∉ record.attributes.keys := by
  rw [toJson_eq, ofJson?] at h
  split at h
  · next hone _ =>
    rw [filter_isDnMember] at hone
    exact record.filter_isDnMember_eq_nil_iff.mp (List.cons.inj hone).2
  · cases h

theorem readsBack_iff (record : Record) :
    record.ReadsBack ↔ "dn".toList ∉ record.attributes.keys := by
  refine ⟨fun h => notDn_of_ofJson? h.back, fun h => ?_⟩
  refine ⟨⟨record.members, rfl, ?_⟩, ofJson?_of_notDn h⟩
  rw [map_fst_members]
  exact List.nodup_cons.mpr ⟨h, record.attributes.nodup_keys⟩

end Record

/-! ## Normalized entries -/

theorem Attribute.not_agrees_of_binding? {a : Attribute} {binding : Text × Value}
    (h : a.binding? = some binding) : agrees a.name "dn" = false := by
  rw [binding?] at h
  split at h
  · cases h
  · next hagrees => exact Bool.eq_false_iff.mpr hagrees

/-- **No attribute hides the distinguished name of a normalized entry.** -/
theorem Entry.dn_not_mem_keys_normalize (entry : Entry) :
    "dn".toList ∉ entry.normalize.attributes.keys := by
  intro hmem
  obtain ⟨binding, hbinding, hname⟩ := TextMap.mem_keys_ofList.mp hmem
  obtain ⟨a, -, ha⟩ := List.mem_filterMap.mp hbinding
  have hlower : lower a.name = "dn".toList := (Attribute.name_of_binding? ha).symm.trans hname
  have hascii : ∀ c ∈ "dn".toList, FromAscii c := by
    show ∀ c ∈ ['d', 'n'], FromAscii c
    rw [List.forall_mem_cons, List.forall_mem_singleton]
    exact ⟨by decide, by decide⟩
  have hagrees := agrees_of_lower_eq hlower hascii
  rw [Attribute.not_agrees_of_binding? ha] at hagrees
  exact Bool.false_ne_true hagrees

/-- **A record is read back from its JSON if and only if no attribute hides its distinguished
    name**, and in the record of an entry none does. -/
theorem Record.json_reads_back :
    (∀ record : Record, record.ReadsBack ↔ "dn".toList ∉ record.attributes.keys) ∧
      ∀ entry : Entry,
        "dn".toList ∉ entry.normalize.attributes.keys ∧ entry.normalize.ReadsBack :=
  ⟨readsBack_iff, fun entry =>
    ⟨entry.dn_not_mem_keys_normalize, (readsBack_iff _).mpr entry.dn_not_mem_keys_normalize⟩⟩

end DirectoryRecords
