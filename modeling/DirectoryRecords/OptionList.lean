import DirectoryRecords.Json.Basic

/-!
# Option lists — keys with what to display for them

    An option list keeps its keys in the order in which they first came. A
    key that comes again takes the later display text but keeps its place.
-/

namespace DirectoryRecords

/-- Keys and their display texts in order. -/
structure OptionList where
  toList : List (Text × Text)
  deriving DecidableEq

namespace OptionList

/-- The list without entries. -/
def empty : OptionList := ⟨[]⟩

instance : EmptyCollection OptionList := ⟨empty⟩

/-- A list of entries with a display text for a key. -/
def insertInto (key display : Text) : List (Text × Text) → List (Text × Text)
  | [] => [(key, display)]
  | (other, shown) :: rest =>
    if other = key then (other, display) :: rest
    else (other, shown) :: insertInto key display rest

/-- The list with a display text for a key. -/
def insert (list : OptionList) (key display : Text) : OptionList :=
  ⟨insertInto key display list.toList⟩

/-- The list that arises from inserting entries in order. -/
def ofPairs (pairs : List (Text × Text)) : OptionList :=
  pairs.foldl (fun list (key, display) => list.insert key display) ∅

/-- The display text of a key. -/
def get? (list : OptionList) (key : Text) : Option Text :=
  list.toList.lookup key

/-- The complaint about a key that is not in the list. -/
def missingKeyMessage (key : Text) : Text :=
  "no option list entry for key '" ++ key ++ "'"

/-- The display text of a key that has to be there, or the complaint that it is not. -/
def get (list : OptionList) (key : Text) : Except Text Text :=
  match list.get? key with
  | some display => .ok display
  | none => .error (missingKeyMessage key)

/-- The keys in order. -/
def keys (list : OptionList) : List Text :=
  list.toList.map Prod.fst

/-- The number of keys. -/
def size (list : OptionList) : Nat :=
  list.toList.length

/-- Whether there are no keys. -/
def isEmpty (list : OptionList) : Bool :=
  list.toList.isEmpty

/-! ## After an insertion -/

theorem lookup_insertInto (key display other : Text) :
    (list : List (Text × Text)) →
      (insertInto key display list).lookup other =
        if other = key then some display else list.lookup other
  | [] => by by_cases h : other = key <;> simp [insertInto, List.lookup_cons, h, beq_false_of_ne]
  | (name, shown) :: rest => by
    have ih := lookup_insertInto key display other rest
    rw [insertInto]
    split
    · next eq =>
      by_cases h : other = key
      · simp [h, eq]
      · simp [List.lookup_cons, eq, h, beq_false_of_ne h]
    · next ne =>
      by_cases h : other = name
      · simp [h, ne]
      · simp [List.lookup_cons, beq_false_of_ne h, ih]

@[simp] theorem get?_insert (list : OptionList) (key display other : Text) :
    (list.insert key display).get? other = if other = key then some display else list.get? other :=
  lookup_insertInto key display other list.toList

theorem keys_insertInto (key display : Text) :
    (list : List (Text × Text)) →
      (insertInto key display list).map Prod.fst =
        if key ∈ list.map Prod.fst then list.map Prod.fst else list.map Prod.fst ++ [key]
  | [] => by simp [insertInto]
  | (name, shown) :: rest => by
    have ih := keys_insertInto key display rest
    rw [insertInto]
    split
    · next eq => simp [eq]
    · next ne =>
      have ne : key ≠ name := Ne.symm ne
      simp only [List.map_cons, ih, List.mem_cons, ne, false_or]
      split <;> rfl

/-- A key that is in the list keeps its place, another one goes to the end. -/
theorem keys_insert (list : OptionList) (key display : Text) :
    (list.insert key display).keys = if key ∈ list.keys then list.keys else list.keys ++ [key] :=
  keys_insertInto key display list.toList

/-- An option list is an object from keys to display texts. -/
def toJson (list : OptionList) : Json :=
  .object (list.toList.map fun (key, display) => (key, .string display))

end OptionList

end DirectoryRecords
