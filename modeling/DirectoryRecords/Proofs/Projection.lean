import DirectoryRecords.FieldList
import DirectoryRecords.Normalize
import DirectoryRecords.Proofs.EntryOrder
import DirectoryRecords.Proofs.LetterCase
import DirectoryRecords.Proofs.Reading
import Mathlib.Data.List.Basic

/-!
# Projections — what a request for attributes shows of an entry

    A request shows the attributes of some names and hides the others
    (`shows`). What is done with an entry afterwards looks at the attributes
    of one name at a time: the order at those that agree with its name, a
    record at those whose lower-case form is that of the name. So two things
    follow:

    * an order whose attribute is shown is the order of the entries
      themselves (`sort_map_project`);
    * records under two projections have the same value under a name if both
      projections show the same attributes of that name (`get?_project`).
-/

namespace DirectoryRecords

open Text

namespace TextMap

/-- A lookup sees the bindings of its name only. -/
theorem lookup_filter_eq {α : Type} (key : Text) (list : List (Text × α)) :
    (list.filter (·.1 == key)).lookup key = list.lookup key := by
  induction list with
  | nil => rfl
  | cons binding rest ih =>
      obtain ⟨name, value⟩ := binding
      rw [List.filter_cons]
      by_cases hkey : key = name
      · simp [hkey]
      · simp [List.lookup_cons, beq_false_of_ne hkey, beq_false_of_ne (Ne.symm hkey), ih]

end TextMap

theorem Attribute.name_of_binding? {a : Attribute} {binding : Text × Value}
    (h : a.binding? = some binding) : binding.1 = lower a.name := by
  rw [Attribute.binding?] at h
  split at h
  · exact nomatch h
  · obtain ⟨value, _, hvalue⟩ := Option.map_eq_some_iff.mp h
    rw [← hvalue]

namespace Entry

/-- Whether a request for attributes shows those of a name. -/
def shows (requested : List Text) (name : Text) : Bool :=
  requested.isEmpty || requested.contains "*".toList || requested.any (agrees · name)

theorem project_eq (requested : List Text) (entry : Entry) :
    entry.project requested
      = ⟨entry.dn, entry.attributes.filter fun a => shows requested a.name⟩ := by
  by_cases h : (requested.isEmpty || requested.contains "*".toList) = true
  · have hall : ∀ a ∈ entry.attributes, shows requested a.name = true := by
      intro a _
      rw [shows, h]
      rfl
    rw [project, if_pos h, List.filter_eq_self.mpr hall]
  · have hshows : ∀ name, shows requested name = requested.any (agrees · name) := by
      intro name
      rw [shows, Bool.eq_false_iff.mpr h]
      rfl
    rw [project, if_neg h]
    simp only [hshows]

/-! ## The order -/

theorem shows_congr {left right : Text} (h : agrees left right = true) (requested : List Text) :
    shows requested left = shows requested right := by
  simp only [shows, agrees_congr h]

/-- A request with a name in it, or for everything, shows the name. -/
theorem shows_ensure (name : Text) (names : List Text) :
    shows (FieldList.ensure name names) name = true := by
  rw [FieldList.ensure]
  by_cases h : (names.isEmpty || names.any (agrees · name)) = true
  · rw [if_pos h, shows]
    rcases Bool.or_eq_true_iff.mp h with h | h
    · rw [h]
      rfl
    · rw [h, Bool.or_true]
  · rw [if_neg h, shows, List.any_append]
    simp

/-- The first attribute that agrees with a shown name is shown. -/
theorem values?_project {requested : List Text} {name : Text} (h : shows requested name = true)
    (entry : Entry) : (entry.project requested).values? name = entry.values? name := by
  have hfirst : ∀ a : Attribute,
      (shows requested a.name && agrees a.name name) = agrees a.name name := by
    intro a
    cases ha : agrees a.name name with
    | false => exact Bool.and_false _
    | true => rw [shows_congr ha, h, Bool.and_self]
  rw [project_eq, values?, values?, List.find?_filter]
  simp only [Bool.decide_and, Bool.decide_eq_true, hfirst]

theorem sortKey_project {requested : List Text} {name : Text} (h : shows requested name = true)
    (entry : Entry) : (entry.project requested).sortKey name = entry.sortKey name := by
  rw [sortKey, values?_project h, sortKey]

/-- **A shown order is that of the entries themselves.** -/
theorem sort_map_project {order : Option Text} {requested : List Text}
    (h : ∀ name ∈ order, shows requested name = true) (entries : List Entry) :
    sort order (entries.map (project requested)) = (sort order entries).map (project requested) :=
  sort_map fun name hname entry _ => sortKey_project (h name hname) entry

/-! ## The records -/

/-- Two requests show the same attributes of a name in lower case among those of an entry. The
    distinguished name is not an attribute, and always shown. -/
def ShowAlike (requested requested' : List Text) (key : Text) (entry : Entry) : Prop :=
  lower key = "dn".toList ∨ ∀ a ∈ entry.attributes, lower a.name = lower key →
    shows requested a.name = shows requested' a.name

instance (requested requested' : List Text) (key : Text) (entry : Entry) :
    Decidable (ShowAlike requested requested' key entry) :=
  inferInstanceAs (Decidable (_ ∨ ∀ a ∈ entry.attributes, _ → _))

/-- The value under a name comes from the attributes that are shown and contribute to it. -/
theorem get?_normalize_filter (p : Attribute → Bool) (attributes : List Attribute) (key : Text) :
    (TextMap.ofList ((attributes.filter p).filterMap Attribute.binding?)).get? key
      = (attributes.filterMap fun a =>
          if p a then a.binding?.filter (·.1 == key) else none).reverse.lookup key := by
  rw [TextMap.get?_ofList, ← TextMap.lookup_filter_eq, List.filter_reverse, List.filter_filterMap,
    List.filterMap_filter]

/-- What is kept under a name in lower case comes from the attributes of that name alone. -/
theorem attributes_get?_project {requested requested' : List Text} {key : Text} {entry : Entry}
    (h : ∀ a ∈ entry.attributes, lower a.name = key →
      shows requested a.name = shows requested' a.name) :
    (entry.project requested).normalize.attributes.get? key
      = (entry.project requested').normalize.attributes.get? key := by
  rw [project_eq, project_eq, normalize, normalize, get?_normalize_filter, get?_normalize_filter]
  -- An attribute that counts for the name has it, and is shown by both or by none.
  have hcount : ∀ a ∈ entry.attributes,
      (if shows requested a.name then a.binding?.filter (·.1 == key) else none)
        = if shows requested' a.name then a.binding?.filter (·.1 == key) else none := by
    intro a ha
    cases hbinding : a.binding?.filter (·.1 == key) with
    | none => rw [ite_self, ite_self]
    | some binding =>
        obtain ⟨hbinding, hname⟩ := Option.filter_eq_some_iff.mp hbinding
        have hlower : lower a.name = key :=
          (Attribute.name_of_binding? hbinding).symm.trans (eq_of_beq hname)
        rw [h a ha hlower]
  rw [List.filterMap_congr hcount]

/-- **A value is under its name in a record whatever else is shown.** -/
theorem get?_project {requested requested' : List Text} {key : Text} {entry : Entry}
    (h : ShowAlike requested requested' key entry) :
    (entry.project requested).normalize.get? key
      = (entry.project requested').normalize.get? key := by
  rw [Record.get?, Record.get?]
  by_cases hdn : lower key = "dn".toList
  · rw [if_pos hdn, if_pos hdn, project_eq, project_eq]
    rfl
  · rw [if_neg hdn, if_neg hdn]
    exact attributes_get?_project (h.resolve_left hdn)

/-- A request shows no attribute of a name in lower case among those of an entry. -/
def Hides (requested : List Text) (key : Text) (entry : Entry) : Prop :=
  lower key ≠ "dn".toList ∧ ∀ a ∈ entry.attributes, lower a.name = lower key →
    shows requested a.name = false

instance (requested : List Text) (key : Text) (entry : Entry) :
    Decidable (Hides requested key entry) :=
  inferInstanceAs (Decidable (_ ∧ ∀ a ∈ entry.attributes, _ → _))

/-- Nothing is kept under a name in lower case of which no attribute is shown. -/
theorem attributes_get?_project_of_hidden {requested : List Text} {key : Text} {entry : Entry}
    (h : ∀ a ∈ entry.attributes, lower a.name = key → shows requested a.name = false) :
    (entry.project requested).normalize.attributes.get? key = none := by
  rw [project_eq, normalize, TextMap.get?_ofList, List.lookup_eq_none_iff]
  intro binding hmem
  obtain ⟨a, ha, hbinding⟩ := List.mem_filterMap.mp (List.mem_reverse.mp hmem)
  obtain ⟨ha, hshown⟩ := List.mem_filter.mp ha
  rw [Attribute.name_of_binding? hbinding]
  refine bne_iff_ne.mpr fun hname => ?_
  rw [h a ha hname.symm] at hshown
  exact absurd hshown Bool.false_ne_true

/-- What is hidden has no value in the record. -/
theorem get?_project_of_hides {requested : List Text} {key : Text} {entry : Entry}
    (h : Hides requested key entry) : (entry.project requested).normalize.get? key = none := by
  obtain ⟨hdn, h⟩ := h
  rw [Record.get?, if_neg hdn]
  exact attributes_get?_project_of_hidden h

end Entry

/-! ## What is found -/

namespace Directory

/-- A search sends the entries that it selects under the projection that it was asked for. -/
theorem searchAnswer_project (source : Directory) (base filter : Text) (attributes : List Text)
    (limit : Option Nat) :
    source.searchAnswer base filter attributes limit
      = (source.searchAnswer base filter [] limit).map (List.map (Entry.project attributes)) := by
  refine searchAnswer_eq_map fun filter => ?_
  simp only [select, List.map_map]
  rfl

/-- A search finds entries of the directory. -/
theorem mem_of_searchAnswer {source : Directory} {base filter : Text} {limit : Option Nat}
    {entries : List Entry} (h : source.searchAnswer base filter [] limit = .ok entries) :
    ∀ entry ∈ entries, entry ∈ source.entries := by
  obtain ⟨-, parsed, -, rfl⟩ := searchAnswer_eq_ok_iff.mp h
  intro entry hmem
  obtain ⟨found, hfound, rfl⟩ := List.mem_map.mp hmem
  show found ∈ source.entries
  cases limit with
  | none => exact List.mem_of_mem_filter hfound
  | some n => exact List.mem_of_mem_filter (List.mem_of_mem_take hfound)

end Directory

end DirectoryRecords
