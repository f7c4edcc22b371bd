import DirectoryRecords.Text.Basic

/-!
# Text maps — values under distinct names, in the order of the names

    A map keeps its bindings in a list whose keys strictly increase by code
    point, so each name occurs once and two maps with the same bindings are
    equal. `get?` is the view: it determines the map, and a lemma for each
    operation says what that does to it.
-/

namespace DirectoryRecords

/-! ## The order of texts -/

theorem Text.lt_of_not_lt {left right : Text} (h : ¬ left < right) (hne : left ≠ right) :
    right < left :=
  ((List.le_iff_lt_or_eq).1 (List.not_lt.1 h)).resolve_right (Ne.symm hne)

/-! ## Maps -/

/-- Values under distinct names, listed with strictly increasing names. -/
structure TextMap (α : Type) where
  toList : List (Text × α)
  sorted : toList.Pairwise fun a b => a.1 < b.1
  deriving DecidableEq

namespace TextMap

variable {α : Type}

/-- The map without bindings. -/
def empty : TextMap α := ⟨[], .nil⟩

instance : EmptyCollection (TextMap α) := ⟨empty⟩
instance : Inhabited (TextMap α) := ⟨empty⟩

/-- A sorted list of bindings with one more, which replaces a binding of the same name. -/
def insertSorted (name : Text) (value : α) : List (Text × α) → List (Text × α)
  | [] => [(name, value)]
  | (other, old) :: rest =>
    if name < other then (name, value) :: (other, old) :: rest
    else if name = other then (name, value) :: rest
    else (other, old) :: insertSorted name value rest

theorem mem_insertSorted {name : Text} {value : α} {binding : Text × α} :
    {list : List (Text × α)} → binding ∈ insertSorted name value list →
      binding = (name, value) ∨ binding ∈ list
  | [], h => by simpa [insertSorted] using h
  | (other, old) :: rest, h => by
    rw [insertSorted] at h
    split at h
    · simpa using h
    · split at h
      · rcases List.mem_cons.1 h with h | h
        · exact .inl h
        · exact .inr (List.mem_cons_of_mem _ h)
      · rcases List.mem_cons.1 h with h | h
        · exact .inr (h ▸ List.mem_cons_self)
        · exact (mem_insertSorted h).imp id (List.mem_cons_of_mem _)

theorem insertSorted_sorted (name : Text) (value : α) :
    {list : List (Text × α)} → list.Pairwise (fun a b => a.1 < b.1) →
      (insertSorted name value list).Pairwise fun a b => a.1 < b.1
  | [], _ => by simp [insertSorted]
  | (other, old) :: rest, h => by
    obtain ⟨first, below⟩ := List.pairwise_cons.1 h
    rw [insertSorted]
    split
    · next lt =>
      refine List.pairwise_cons.2 ⟨fun b hb => ?_, h⟩
      rcases List.mem_cons.1 hb with rfl | hb
      · exact lt
      · exact List.lt_trans lt (first b hb)
    · next notLt =>
      split
      · next eq =>
        subst eq
        exact List.pairwise_cons.2 ⟨first, below⟩
      · next ne =>
        refine List.pairwise_cons.2 ⟨fun b hb => ?_, insertSorted_sorted name value below⟩
        rcases mem_insertSorted hb with rfl | hb
        · exact Text.lt_of_not_lt notLt ne
        · exact first b hb

/-- The map with a name bound to a value, whatever it was bound to before. -/
def insert (map : TextMap α) (name : Text) (value : α) : TextMap α :=
  ⟨insertSorted name value map.toList, insertSorted_sorted name value map.sorted⟩

/-- The value under a name. -/
def get? (map : TextMap α) (name : Text) : Option α :=
  map.toList.lookup name

/-- Whether a name is bound. -/
def contains (map : TextMap α) (name : Text) : Bool :=
  (map.get? name).isSome

/-- The names in increasing order. -/
def keys (map : TextMap α) : List Text :=
  map.toList.map Prod.fst

/-- The number of bindings. -/
def size (map : TextMap α) : Nat :=
  map.toList.length

/-- Whether no name is bound. -/
def isEmpty (map : TextMap α) : Bool :=
  map.toList.isEmpty

/-- The map without a name. -/
def erase (map : TextMap α) (name : Text) : TextMap α :=
  ⟨map.toList.filter (·.1 != name), map.sorted.filter _⟩

/-- The map of a list of bindings, of which the last one of a name counts. -/
def ofList (bindings : List (Text × α)) : TextMap α :=
  bindings.foldl (fun map (name, value) => map.insert name value) ∅

/-! ## Lookup after each operation -/

theorem lookup_insertSorted (name key : Text) (value : α) :
    (list : List (Text × α)) →
      (insertSorted name value list).lookup key =
        if key = name then some value else list.lookup key
  | [] => by
    by_cases h : key = name
    · simp [insertSorted, h]
    · simp [insertSorted, List.lookup_cons, h, beq_false_of_ne h]
  | (other, old) :: rest => by
    have ih := lookup_insertSorted name key value rest
    rw [insertSorted]
    by_cases h : key = name
    · subst h
      split
      · simp
      · split
        · simp
        · next ne => simp [List.lookup_cons, beq_false_of_ne ne, ih]
    · split
      · simp [List.lookup_cons, beq_false_of_ne h]
      · split
        · next eq => simp [List.lookup_cons, ← eq, beq_false_of_ne h]
        · simp [List.lookup_cons, h, ih]

@[simp] theorem get?_empty (key : Text) : (∅ : TextMap α).get? key = none := rfl

@[simp] theorem get?_insert (map : TextMap α) (name key : Text) (value : α) :
    (map.insert name value).get? key = if key = name then some value else map.get? key :=
  lookup_insertSorted name key value map.toList

theorem lookup_filter_ne (name key : Text) :
    (list : List (Text × α)) →
      (list.filter (·.1 != name)).lookup key = if key = name then none else list.lookup key
  | [] => by simp
  | (other, held) :: rest => by
    have ih := lookup_filter_ne name key rest
    by_cases h : other = name
    · subst h
      by_cases hk : key = other
      · simpa [hk] using ih
      · simp [List.lookup_cons, hk, beq_false_of_ne hk, ih]
    · by_cases hk : key = other
      · simp [h, hk]
      · simp [List.lookup_cons, h, beq_false_of_ne hk, ih]

@[simp] theorem get?_erase (map : TextMap α) (name key : Text) :
    (map.erase name).get? key = if key = name then none else map.get? key :=
  lookup_filter_ne name key map.toList

theorem get?_foldl_insert (key : Text) :
    (bindings : List (Text × α)) → (map : TextMap α) →
      (bindings.foldl (fun map (name, value) => map.insert name value) map).get? key =
        (bindings.reverse.lookup key).or (map.get? key)
  | [], map => by simp
  | (name, value) :: rest, map => by
    rw [List.foldl_cons, get?_foldl_insert key rest, get?_insert, List.reverse_cons,
      List.lookup_append]
    by_cases h : key = name
    · cases rest.reverse.lookup key <;> simp [h]
    · simp [List.lookup_cons, h, beq_false_of_ne h]

/-- The last binding of a name counts. -/
@[simp] theorem get?_ofList (bindings : List (Text × α)) (key : Text) :
    (ofList bindings).get? key = bindings.reverse.lookup key := by
  simp [ofList, get?_foldl_insert]

/-- Where all bindings have one value, a name that is bound has it. -/
theorem lookup_of_forall {list : List (Text × α)} {key : Text} {value : α}
    (hkey : ∃ binding ∈ list, binding.1 = key) (hvalue : ∀ binding ∈ list, binding.2 = value) :
    list.lookup key = some value := by
  obtain ⟨binding, hmem, rfl⟩ := hkey
  obtain ⟨found, hfound⟩ := Option.isSome_iff_exists.mp
    (List.lookup_isSome_iff.mpr ⟨binding, hmem, beq_self_eq_true binding.1⟩)
  obtain ⟨front, back, hsplit, -⟩ := List.lookup_eq_some_iff.mp hfound
  rw [hfound, ← hvalue (binding.1, found) (hsplit ▸ List.mem_append_right _ List.mem_cons_self)]

/-- A name has the value that it is bound to last, be it once or several times. -/
theorem get?_ofList_of_last {front last back : List (Text × α)} {key : Text} {value : α}
    (hkey : ∃ binding ∈ last, binding.1 = key) (hvalue : ∀ binding ∈ last, binding.2 = value)
    (hback : ∀ binding ∈ back, binding.1 ≠ key) :
    (ofList (front ++ (last ++ back))).get? key = some value := by
  have hlater : back.reverse.lookup key = none := by
    rw [List.lookup_eq_none_iff]
    intro binding hbinding
    exact bne_iff_ne.mpr (hback binding (List.mem_reverse.mp hbinding)).symm
  have hlast : last.reverse.lookup key = some value := by
    refine lookup_of_forall ?_ fun binding hbinding => hvalue binding (List.mem_reverse.mp hbinding)
    obtain ⟨binding, hmem, hname⟩ := hkey
    exact ⟨binding, List.mem_reverse.mpr hmem, hname⟩
  rw [get?_ofList, List.reverse_append, List.reverse_append, List.append_assoc,
    List.lookup_append, hlater, Option.none_or, List.lookup_append, hlast, Option.some_or]

/-! ## Maps with the same bindings -/

theorem lookup_eq_none_of_lt {name : Text} (list : List (Text × α))
    (above : ∀ b ∈ list, name < b.1) : list.lookup name = none := by
  rw [List.lookup_eq_none_iff]
  intro b hb
  simpa using fun eq : name = b.1 => List.lt_irrefl b.1 (eq ▸ above b hb)

theorem eq_of_lookup_eq :
    {left right : List (Text × α)} → left.Pairwise (fun a b => a.1 < b.1) →
      right.Pairwise (fun a b => a.1 < b.1) → (∀ key, left.lookup key = right.lookup key) →
        left = right
  | [], [], _, _, _ => rfl
  | [], (name, _) :: _, _, _, same => by simpa using same name
  | (name, _) :: _, [], _, _, same => by simpa using same name
  | (name, value) :: rest, (other, held) :: rest', hl, hr, same => by
    obtain ⟨above, sorted⟩ := List.pairwise_cons.1 hl
    obtain ⟨above', sorted'⟩ := List.pairwise_cons.1 hr
    have names : name = other := by
      refine Decidable.byContradiction fun ne => ?_
      have h := same name
      have h' := same other
      rcases Decidable.em (name < other) with lt | notLt
      · rw [lookup_eq_none_of_lt ((other, held) :: rest')] at h
        · simp at h
        · intro b hb
          rcases List.mem_cons.1 hb with rfl | hb
          · exact lt
          · exact List.lt_trans lt (above' b hb)
      · have gt := Text.lt_of_not_lt notLt ne
        rw [lookup_eq_none_of_lt ((name, value) :: rest)] at h'
        · simp at h'
        · intro b hb
          rcases List.mem_cons.1 hb with rfl | hb
          · exact gt
          · exact List.lt_trans gt (above b hb)
    subst names
    have values : value = held := by simpa using same name
    subst values
    congr 1
    refine eq_of_lookup_eq sorted sorted' fun key => ?_
    by_cases h : key = name
    · rw [h, lookup_eq_none_of_lt rest above, lookup_eq_none_of_lt rest' above']
    · simpa [List.lookup_cons, beq_false_of_ne h] using same key

/-- Two maps that answer every lookup alike are equal. -/
theorem eq_of_get?_eq {left right : TextMap α} (same : ∀ key, left.get? key = right.get? key) :
    left = right := by
  obtain ⟨left, hl⟩ := left
  obtain ⟨right, hr⟩ := right
  cases eq_of_lookup_eq hl hr same
  rfl

end TextMap

end DirectoryRecords
