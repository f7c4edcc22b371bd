import DirectoryRecords.Model.Write
import DirectoryRecords.Normalize
import DirectoryRecords.Proofs.LetterCase
import Mathlib.Data.List.Basic

/-!
# Reading back — the record of an entry that was written from a record

    Writing lists the attributes of a record with all of their values, and
    reading gathers them under their lower-case names. Neither is the inverse
    of the other in general: reading changes names that are not in lower
    case, hides an attribute `dn`, drops an attribute without values and
    makes a sequence of one a single value. For a record in which none of
    this can happen, a `Readable` one, reading what was written gives the
    record again, with the object classes of the model in addition where the
    record had none of its own (`normalize_created`).
-/

namespace DirectoryRecords

open Text

/-! ## Names in order -/

/-- A name that comes at the end of a list comes there first, unless it came before. -/
theorem eraseDups_concat (names : List Text) (name : Text) :
    (names ++ [name]).eraseDups
      = if name ∈ names then names.eraseDups else names.eraseDups ++ [name] := by
  rw [List.eraseDups_append]
  by_cases h : name ∈ names
  · simp [List.removeAll, h]
  · simp [List.removeAll, h, List.eraseDups_cons]

/-! ## Bindings of a map -/

namespace TextMap

variable {α : Type}

/-- In a sorted list the first binding of a name is the last one. -/
theorem lookup_reverse {list : List (Text × α)} (h : list.Pairwise fun a b => a.1 < b.1)
    (key : Text) : list.reverse.lookup key = list.lookup key := by
  induction list with
  | nil => rfl
  | cons binding rest ih =>
      obtain ⟨name, value⟩ := binding
      obtain ⟨above, sorted⟩ := List.pairwise_cons.mp h
      rw [List.reverse_cons, List.lookup_append, ih sorted]
      by_cases hkey : key = name
      · rw [hkey, lookup_eq_none_of_lt rest above, List.lookup_cons_self,
          List.lookup_cons_self]
        rfl
      · rw [List.lookup_cons, List.lookup_cons, beq_false_of_ne hkey]
        exact Option.or_none

/-- The bindings of a map make up the map. -/
theorem ofList_toList (map : TextMap α) : ofList map.toList = map := by
  refine eq_of_get?_eq fun key => ?_
  rw [get?_ofList, lookup_reverse map.sorted]
  rfl

/-- A binding in front of those of a map counts if the map has no other of its name. -/
theorem ofList_cons_toList {map : TextMap α} {name : Text} (h : map.contains name = false)
    (value : α) : ofList ((name, value) :: map.toList) = map.insert name value := by
  have habsent : map.get? name = none := Option.not_isSome_iff_eq_none.mp (by
    rw [← contains, h]
    exact Bool.false_ne_true)
  refine eq_of_get?_eq fun key => ?_
  rw [get?_ofList, List.reverse_cons, List.lookup_append, lookup_reverse map.sorted, get?_insert]
  show (map.get? key).or _ = _
  by_cases hkey : key = name
  · rw [hkey, habsent, if_pos rfl]
    exact List.lookup_cons_self
  · rw [if_neg hkey, List.lookup_cons, beq_false_of_ne hkey]
    exact Option.or_none

end TextMap

/-! ## Values -/

namespace Value

/-- A value as reading makes it: a single text, or a sequence of at least two. -/
def Canonical : Value → Prop
  | single _ => True
  | multi texts => 2 ≤ texts.length

instance (value : Value) : Decidable value.Canonical :=
  match value with
  | single _ => inferInstanceAs (Decidable True)
  | multi texts => inferInstanceAs (Decidable (2 ≤ texts.length))

theorem ofList_toList {value : Value} (h : value.Canonical) : ofList value.toList = value := by
  cases value with
  | single text => rfl
  | multi texts =>
      match texts, h with
      | _ :: _ :: _, _ => rfl

end Value

namespace Attribute

theorem value?_of_ne {name : Text} {values : List Text} (h : values ≠ []) :
    (⟨name, values⟩ : Attribute).value? = some (.ofList values) := by
  cases values with
  | nil => exact absurd rfl h
  | cons first rest => rfl

/-- An attribute contributes its values under its name in lower case. -/
theorem binding?_of_ne {name : Text} {values : List Text} (hdn : lower name ≠ "dn".toList)
    (h : values ≠ []) :
    binding? ⟨name, values⟩ = some (lower name, .ofList values) := by
  have hagrees : ¬ agrees name "dn" = true := fun hagrees => hdn (lower_eq_of_agrees hagrees)
  rw [binding?, if_neg hagrees, value?_of_ne h]
  rfl

end Attribute

/-! ## Records -/

namespace Record

/-- A record as reading makes it: names in lower case, none of them hiding the distinguished
    name, and values in the form that reading gives them. -/
structure Readable (record : Record) : Prop where
  lowered : ∀ name ∈ record.attributes.keys, lower name = name
  notDn : "dn".toList ∉ record.attributes.keys
  canonical : ∀ binding ∈ record.attributes.toList, binding.2.Canonical

/-- What is written for a readable record is read as its bindings. -/
theorem filterMap_entryAttributes {record : Record} (h : record.Readable) :
    record.entryAttributes.filterMap Attribute.binding? = record.attributes.toList := by
  have hone : ∀ binding ∈ record.attributes.toList,
      Attribute.binding? ⟨binding.1, binding.2.toList⟩ = some binding := by
    intro binding hmem
    have hkey : binding.1 ∈ record.attributes.keys := List.mem_map_of_mem hmem
    have hlower := h.lowered binding.1 hkey
    have hvalue := Value.ofList_toList (h.canonical binding hmem)
    have hdn : lower binding.1 ≠ "dn".toList := by
      rw [hlower]
      intro heq
      exact h.notDn (heq ▸ hkey)
    have hne : binding.2.toList ≠ [] := by
      intro hnil
      have hcanonical := h.canonical binding hmem
      rw [← hvalue, hnil] at hcanonical
      exact absurd hcanonical (by decide)
    rw [Attribute.binding?_of_ne hdn hne, hlower, hvalue]
  rw [entryAttributes, List.filterMap_map]
  exact (List.filterMap_congr hone).trans (List.filterMap_some)

end Record

namespace Model

/-- The attributes that a record is expected to have once it is created: its own, and the object
    classes of the model if it has none. -/
def createdAttributes (model : Model) (record : Record) : TextMap Value :=
  if record.has "objectclass" then record.attributes
  else record.attributes.insert "objectclass" (.ofList model.creationClasses)

theorem creationClasses_ne_nil (model : Model) : model.creationClasses ≠ [] := by
  rw [creationClasses]
  split
  · exact List.cons_ne_nil _ _
  · next h =>
    intro hnil
    exact h (by rw [hnil]; rfl)

/-- **What is created reads as the record.** The entry of a readable record has the record's
    attributes, with the object classes of the model where the record had none. -/
theorem normalize_created (model : Model) {record : Record} (h : record.Readable) (dn : Text) :
    (⟨dn, model.creationAttributes record⟩ : Entry).normalize
      = ⟨dn, model.createdAttributes record⟩ := by
  have hlower : lower "objectclass" = "objectclass".toList := by decide
  rw [Entry.normalize, creationAttributes, createdAttributes]
  show (⟨dn, .ofList _⟩ : Record) = _
  rw [List.filterMap_append, Record.filterMap_entryAttributes h]
  by_cases hhas : record.has "objectclass" = true
  · rw [if_pos hhas, if_pos hhas, List.filterMap_nil, List.nil_append, TextMap.ofList_toList]
  · have habsent : record.attributes.contains "objectclass" = false := by
      rw [← hlower]
      exact Bool.eq_false_iff.mpr hhas
    have hbinding : Attribute.binding? ⟨"objectClass", model.creationClasses⟩
        = some ("objectclass".toList, .ofList model.creationClasses) :=
      Attribute.binding?_of_ne (by decide) model.creationClasses_ne_nil
    rw [if_neg hhas, if_neg hhas, List.filterMap_cons_some hbinding, List.filterMap_nil]
    exact congrArg (Record.mk dn) (TextMap.ofList_cons_toList habsent _)

end Model

end DirectoryRecords
