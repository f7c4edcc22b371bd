import DirectoryRecords.Proofs.Creation
import DirectoryRecords.Proofs.DistinctNames
import DirectoryRecords.Proofs.FindCreated
import DirectoryRecords.Proofs.LowerCase

/-!
# Given names — where a record has the values it was given

    A record comes about in three ways: by setting one value after another,
    from an entry, and from JSON. All three give values under names, of which
    the last one of a name counts. Lookups go by the lower-case form of a
    name, so the question is under which key each way keeps a value.

    * Setting and normalizing keep it under the lower-case form of its name.
      As this form has no other lower-case form (`lower_lower`), the record is
      in lower case, and a value is found under its name in any letter case
      (`lowered_of_lowers`).
    * Decoding keeps it under the name as it stands. What was given last is
      then found only if it was also given last under the lower-case form.

    Object classes are the place where this reaches the directory: the model
    adds its own unless the record has some under `objectclass`, so a record
    in lower case never has them twice.
-/

namespace DirectoryRecords

open Text

/-! ## Maps and lists -/

namespace TextMap

variable {α : Type}

/-- The names of a map are those of the bindings it was made of. -/
theorem mem_keys_ofList {bindings : List (Text × α)} {key : Text} :
    key ∈ (ofList bindings).keys ↔ ∃ binding ∈ bindings, binding.1 = key := by
  rw [mem_keys_iff, contains, get?_ofList, List.lookup_isSome_iff]
  refine exists_congr fun binding => and_congr List.mem_reverse ?_
  rw [beq_iff_eq, eq_comm]

end TextMap

/-- A list without repetitions that has an element has at most one, if all are this one. -/
theorem length_le_one_iff_of_mem {α : Type} {list : List α} (hnodup : list.Nodup) {a : α}
    (ha : a ∈ list) : list.length ≤ 1 ↔ ∀ b ∈ list, b = a := by
  constructor
  · intro hlength b hb
    match list, hlength with
    | [c], _ => rw [List.mem_singleton.mp hb, List.mem_singleton.mp ha]
  · intro hsame
    rw [List.eq_replicate_of_mem hsame, List.nodup_replicate] at hnodup
    exact hnodup

/-- What reading all elements gives, reading those that can be read gives. -/
theorem filterMap_of_mapM {α β : Type} {read : α → Option β} {list : List α} {found : List β}
    (h : list.mapM read = some found) : list.filterMap read = found := by
  induction list generalizing found with
  | nil => exact Option.some.inj h
  | cons a rest ih =>
      rw [List.mapM_cons] at h
      obtain ⟨b, hb, h⟩ := Option.bind_eq_some_iff.mp h
      obtain ⟨tail, htail, h⟩ := Option.bind_eq_some_iff.mp h
      rw [List.filterMap_cons_some hb, ih htail]
      exact Option.some.inj h

namespace Record

/-! ## The ways to come by a record -/

/-- How a record comes about: values are set one after the other, or an entry is normalized, or
    JSON is decoded. -/
inductive Origin where
  | ofValues (dn : Text) (given : List (Text × Value))
  | ofEntry (entry : Entry)
  | ofJson (json : Json)

namespace Origin

/-- The record, if there is one. -/
def record? : Origin → Option Record
  | ofValues dn given =>
    some (given.foldl (fun record (name, value) => record.set name value) (.ofDn dn))
  | ofEntry entry => some entry.normalize
  | ofJson json => Record.ofJson? json

/-- The names as they were given, each with its value. The distinguished name is given apart from
    them, and an attribute of an entry without values gives none. -/
def given : Origin → List (Text × Value)
  | ofValues _ given => given
  | ofEntry entry =>
    (entry.attributes.filter fun a => !agrees a.name "dn").filterMap fun a =>
      a.value?.map (a.name, ·)
  | ofJson (.object members) =>
    (members.filter fun member => !isDnMember member).filterMap attributeOfMember?
  | ofJson _ => []

/-- Whether names go into lower case on the way. -/
def Lowers : Origin → Prop
  | ofValues .. | ofEntry _ => True
  | ofJson _ => False

/-- The given names in lower case. -/
def lowered (origin : Origin) : List (Text × Value) :=
  origin.given.map fun (name, value) => (lower name, value)

/-- The value that was last given under a name in any letter case. -/
def last? (origin : Origin) (name : Text) : Option Value :=
  origin.lowered.reverse.lookup (lower name)

/-- The names under which the values are kept. -/
def bindings : Origin → List (Text × Value)
  | ofJson json => given (.ofJson json)
  | origin => origin.lowered

theorem bindings_of_lowers {origin : Origin} (h : origin.Lowers) :
    origin.bindings = origin.lowered := by
  cases origin with
  | ofValues | ofEntry => rfl
  | ofJson => cases h

theorem bindings_of_not_lowers {origin : Origin} (h : ¬ origin.Lowers) :
    origin.bindings = origin.given := by
  cases origin with
  | ofValues | ofEntry => exact absurd trivial h
  | ofJson => rfl

/-! ## What is kept -/

theorem attributes_foldl_set (given : List (Text × Value)) (record : Record) :
    (given.foldl (fun record (name, value) => record.set name value) record).attributes
      = (given.map fun (name, value) => (lower name, value)).foldl
          (fun map (name, value) => map.insert name value) record.attributes := by
  induction given generalizing record with
  | nil => rfl
  | cons binding rest ih => exact ih (record.set binding.1 binding.2)

theorem bindings_ofEntry (entry : Entry) :
    (ofEntry entry).bindings = entry.attributes.filterMap Attribute.binding? := by
  show List.map _ ((entry.attributes.filter _).filterMap _) = _
  rw [List.filterMap_filter, List.map_filterMap]
  refine congrArg (List.filterMap · entry.attributes) (funext fun a => ?_)
  rw [Attribute.binding?]
  cases agrees a.name "dn" with
  | true => rfl
  | false => exact Option.map_map ..

theorem attributes_eq {origin : Origin} {record : Record} (h : origin.record? = some record) :
    record.attributes = .ofList origin.bindings := by
  cases origin with
  | ofValues dn given =>
      rw [← Option.some.inj h]
      exact attributes_foldl_set given (.ofDn dn)
  | ofEntry entry =>
      rw [← Option.some.inj h, bindings_ofEntry]
      rfl
  | ofJson json =>
      rw [record?] at h
      cases json with
      | object members =>
          rw [ofJson?] at h
          split at h
          · next attributes _ hread =>
            rw [← Option.some.inj h]
            exact congrArg TextMap.ofList (filterMap_of_mapM hread).symm
          · cases h
      | _ => cases h

/-- What is set or normalized is in lower case. -/
theorem lowered_of_lowers {origin : Origin} {record : Record} (h : origin.record? = some record)
    (hlowers : origin.Lowers) : record.Lowered := by
  intro key hkey
  rw [attributes_eq h, TextMap.mem_keys_ofList, bindings_of_lowers hlowers] at hkey
  obtain ⟨binding, hbinding, rfl⟩ := hkey
  obtain ⟨given, -, rfl⟩ := List.mem_map.mp hbinding
  exact lower_lower given.1

/-- The value last given under a name is found under the name in any letter case, if and only if
    names go into lower case or it was also given last under the lower-case form. -/
theorem found_iff {origin : Origin} {record : Record} (h : origin.record? = some record)
    {name : Text} {value : Value} (hname : lower name ≠ "dn".toList)
    (hlast : origin.last? name = some value) :
    (∀ other, lower other = lower name →
        record.get? other = some value ∧ record.has other = true) ↔
      origin.Lowers ∨ origin.given.reverse.lookup (lower name) = some value := by
  have hget (other : Text) (hother : lower other = lower name) :
      record.get? other = origin.bindings.reverse.lookup (lower name) := by
    rw [get?_of_not_dn (hother ▸ hname), attributes_eq h, TextMap.get?_ofList, hother]
  have hkept : (∀ other, lower other = lower name →
        record.get? other = some value ∧ record.has other = true) ↔
      origin.bindings.reverse.lookup (lower name) = some value := by
    constructor
    · intro hall
      rw [← hget name rfl]
      exact (hall name rfl).1
    · intro hlookup other hother
      have hfound := (hget other hother).trans hlookup
      refine ⟨hfound, ?_⟩
      rw [get?_of_not_dn (hother ▸ hname)] at hfound
      rw [has, TextMap.contains, hfound]
      rfl
  rw [hkept]
  by_cases hlowers : origin.Lowers
  · rw [bindings_of_lowers hlowers]
    exact ⟨fun _ => .inl hlowers, fun _ => hlast⟩
  · rw [bindings_of_not_lowers hlowers]
    exact ⟨.inr, fun hor => hor.resolve_left hlowers⟩

end Origin

end Record

/-! ## Object classes -/

/-- At most one of the attributes that are written has the name of the object classes, if and only
    if the record has no such name but the one in lower case. -/
theorem Model.length_objectClasses_le_one_iff (model : Model) (record : Record) :
    ((model.creationAttributes record).filter (agrees ·.name "objectClass")).length ≤ 1 ↔
      ∀ key ∈ record.attributes.keys, agrees key "objectClass" = true →
        key = "objectclass".toList := by
  have hwritten : ((model.creationAttributes record).filter (agrees ·.name "objectClass")).length
      = (((model.creationAttributes record).map Attribute.name).filter
          (agrees · "objectClass")).length := by
    rw [List.filter_map, List.length_map]
    rfl
  rw [hwritten, map_name_creationAttributes]
  have hown : record.has "objectclass" = true ↔ "objectclass".toList ∈ record.attributes.keys :=
    TextMap.mem_keys_iff.symm
  by_cases hhas : record.has "objectclass" = true
  · rw [if_pos hhas]
    have hmem : "objectclass".toList ∈ record.attributes.keys.filter (agrees · "objectClass") :=
      List.mem_filter.mpr ⟨hown.mp hhas, by decide⟩
    rw [length_le_one_iff_of_mem (record.attributes.nodup_keys.filter _) hmem]
    simp
  · have hfirst : ("objectClass".toList :: record.attributes.keys).filter (agrees · "objectClass")
        = "objectClass".toList :: record.attributes.keys.filter (agrees · "objectClass") :=
      List.filter_cons_of_pos (p := (agrees · "objectClass")) (agrees_refl _)
    have hnone : (∀ key ∈ record.attributes.keys, agrees key "objectClass" = true →
          key = "objectclass".toList) ↔
        record.attributes.keys.filter (agrees · "objectClass") = [] := by
      rw [List.filter_eq_nil_iff]
      refine forall₂_congr fun key hkey => ?_
      constructor
      · rintro hsame hagrees
        rw [hsame hagrees] at hkey
        exact hhas (hown.mpr hkey)
      · exact fun hdiffers hagrees => absurd hagrees hdiffers
    rw [if_neg hhas, hnone, hfirst, List.length_cons, ← List.length_eq_zero_iff, ← Nat.le_zero]
    exact Nat.succ_le_succ_iff

namespace Record.Origin

/-- **Where given names are found.** What was last given under a name, other than that of the
    distinguished name, is found under it in any letter case if and only if names go into lower
    case on the way, as they do unless the record is decoded, or it was also given last under the
    lower-case form. And the entry that is created of the record has at most one attribute of
    object classes if and only if names go into lower case, or none but the lower-case one of this
    attribute was given. -/
theorem given_names_found {origin : Origin} {record : Record}
    (h : origin.record? = some record) :
    (∀ name value, lower name ≠ "dn".toList → origin.last? name = some value →
      ((∀ other, lower other = lower name →
          record.get? other = some value ∧ record.has other = true) ↔
        origin.Lowers ∨ origin.given.reverse.lookup (lower name) = some value)) ∧
    ∀ (model : Model) (session : Session) (dn : Text),
      (model.create record session).1 = .ok dn →
        ∃ attributes, (model.create record session).2.directory.entries
            = session.directory.entries ++ [⟨dn, attributes⟩] ∧
          ((attributes.filter (agrees ·.name "objectClass")).length ≤ 1 ↔
            origin.Lowers ∨ ∀ binding ∈ origin.given, agrees binding.1 "objectClass" = true →
              binding.1 = "objectclass".toList) := by
  refine ⟨fun name value hname hlast => found_iff h hname hlast, ?_⟩
  intro model session dn hcreate
  obtain ⟨-, hentries⟩ := Model.eq_append_of_create (Prod.ext hcreate rfl)
  refine ⟨model.creationAttributes record, hentries, ?_⟩
  rw [model.length_objectClasses_le_one_iff]
  by_cases hlowers : origin.Lowers
  · refine ⟨fun _ => .inl hlowers, fun _ key hkey hagrees => ?_⟩
    have hkept := asciiLower_of_lower_eq (lowered_of_lowers h hlowers key hkey)
    rw [← hkept, (agrees_iff key "objectClass").mp hagrees]
    rfl
  · rw [or_iff_right hlowers, attributes_eq h, bindings_of_not_lowers hlowers]
    simp only [TextMap.mem_keys_ofList, forall_exists_index, and_imp]
    exact ⟨fun hall binding hbinding => hall binding.1 binding hbinding rfl,
      fun hall key binding hbinding heq => heq ▸ hall binding hbinding⟩

/-- Object classes and two addresses are set under names in mixed letter case. The later address is
    found, and the created entry has the object classes of the record only. -/
theorem given_names_found_set :
    let origin : Origin := .ofValues "uid=ann,ou=People,dc=x"
      [("Mail", .single "a@x"), ("ObjectClass", .multi ["top", "account"]), ("MAIL", .single "b@x")]
    let record := (((Record.ofDn "uid=ann,ou=People,dc=x").set "Mail" (.single "a@x")).set
      "ObjectClass" (.multi ["top", "account"])).set "MAIL" (.single "b@x")
    let session : Session := ⟨Directory.ofIdentity "memory://people", ∅⟩
    let created := (Model.ofName "person" "ou=People,dc=x").create record session
    origin.record? = some record ∧ origin.last? "mAIL" = some (.single "b@x") ∧
      (∀ other, lower other = "mail".toList →
        record.get? other = some (.single "b@x") ∧ record.has other = true) ∧
      created.1 = .ok "uid=ann,ou=People,dc=x" ∧
      ∃ attributes, created.2.directory.entries = [⟨"uid=ann,ou=People,dc=x", attributes⟩] ∧
        (attributes.filter (agrees ·.name "objectClass")).length ≤ 1 := by
  intro origin record session created
  have hrecord : origin.record? = some record := rfl
  have hlast : origin.last? "mAIL" = some (.single "b@x") := by decide
  have hcreate : created.1 = .ok "uid=ann,ou=People,dc=x" := rfl
  obtain ⟨hfound, hclasses⟩ := given_names_found hrecord
  obtain ⟨attributes, hentries, hone⟩ := hclasses _ _ _ hcreate
  exact ⟨hrecord, hlast, (hfound "mAIL" _ (by decide) hlast).mpr (.inl trivial), hcreate,
    attributes, hentries, hone.mpr (.inl trivial)⟩

/-- An address and object classes are decoded under names with capitals. The address is found under
    no name, and the created entry has object classes twice. -/
theorem given_names_lost_decoded :
    let json : Json := .object [("dn", .string "uid=ann,ou=People,dc=x"),
      ("Mail", .string "ann@x"), ("objectClass", .string "account")]
    let record : Record := ⟨"uid=ann,ou=People,dc=x",
      .ofList [("Mail", .single "ann@x"), ("objectClass", .single "account")]⟩
    let session : Session := ⟨Directory.ofIdentity "memory://people", ∅⟩
    let created := (Model.ofName "person" "ou=People,dc=x").create record session
    (Origin.ofJson json).record? = some record ∧
      (Origin.ofJson json).last? "Mail" = some (.single "ann@x") ∧
      record.get? "Mail" = none ∧ record.get? "mail" = none ∧ record.has "Mail" = false ∧
      created.1 = .ok "uid=ann,ou=People,dc=x" ∧
      created.2.directory.entries = [⟨"uid=ann,ou=People,dc=x",
        [⟨"objectClass", ["top", "person"]⟩, ⟨"Mail", ["ann@x"]⟩,
          ⟨"objectClass", ["account"]⟩]⟩] := by
  intro json record session created
  exact ⟨by decide, by decide, by decide, by decide, by decide, rfl, rfl⟩

end Record.Origin

end DirectoryRecords
