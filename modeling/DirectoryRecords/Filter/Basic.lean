import DirectoryRecords.Entry

/-!
# Filters — which entries a search matches

    A filter is a tree of tests. Each test asks about the values of the first
    attribute with a name: whether there are any, whether one equals a text
    but for ASCII letter case, or whether one fits a pattern. A pattern is the
    list of its literal parts, with a gap of any length between each two; it
    is compared in full lower case, the parts being found from left to right,
    the last one at the end.

    Every entry has an object class, so the test for its presence holds even
    of an entry that does not show it.
-/

namespace DirectoryRecords

/-- A tree of tests on an entry. -/
inductive Filter where
  | and (filters : List Filter)
  | or (filters : List Filter)
  | not (filter : Filter)
  | present (name : Text)
  | equals (name value : Text)
  | pattern (name : Text) (parts : List Text)

namespace Filter

/-! ## Patterns -/

/-- Whether a text consists of a gap and the first part, a gap and the second part and so on,
    ending with the last part. -/
def fitsAfterGap : List Text → Text → Bool
  | [], _ => true
  | [part], text => part.isSuffixOf text
  | part :: parts, text =>
    match Text.cutAt part text with
    | some (_, after) => fitsAfterGap parts after
    | none => false

/-- Whether a text starts with the first part and the other parts follow after gaps. -/
def fits : List Text → Text → Bool
  | [], _ => true
  | part :: parts, text =>
    match part.isPrefixOf? text with
    | some after => fitsAfterGap parts after
    | none => false

/-- Whether a value fits a pattern, whatever the letter case. -/
def valueFits (parts : List Text) (value : Text) : Bool :=
  fits (parts.map Text.lower) (Text.lower value)

/-! ## Tests on an entry -/

/-- Whether a value of the first attribute with a name passes a test. -/
def someValue (entry : Entry) (name : Text) (test : Text → Bool) : Bool :=
  ((entry.values? name).getD []).any test

mutual

/-- Whether an entry passes a filter. -/
def holds (entry : Entry) : Filter → Bool
  | .and filters => allHold entry filters
  | .or filters => anyHolds entry filters
  | .not filter => !holds entry filter
  | .present name => Text.agrees name "objectClass" || someValue entry name fun _ => true
  | .equals name value => someValue entry name (Text.agrees · value)
  | .pattern name parts => someValue entry name (valueFits parts)

/-- Whether an entry passes every filter of a list. -/
def allHold (entry : Entry) : List Filter → Bool
  | [] => true
  | filter :: rest => holds entry filter && allHold entry rest

/-- Whether an entry passes some filter of a list. -/
def anyHolds (entry : Entry) : List Filter → Bool
  | [] => false
  | filter :: rest => holds entry filter || anyHolds entry rest

end

theorem allHold_eq_all (entry : Entry) (filters : List Filter) :
    allHold entry filters = filters.all (holds entry) := by
  induction filters with
  | nil => rfl
  | cons filter rest ih => simp [allHold, ih]

theorem anyHolds_eq_any (entry : Entry) (filters : List Filter) :
    anyHolds entry filters = filters.any (holds entry) := by
  induction filters with
  | nil => rfl
  | cons filter rest ih => simp [anyHolds, ih]

end Filter

end DirectoryRecords
