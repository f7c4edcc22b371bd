import DirectoryRecords.FieldList
import DirectoryRecords.Proofs.Cuts

/-!
# Field spellings — the same names as a list and as one text

    A caller names the attributes he wants in a list, or in one text with
    commas between them. The names of a list are trimmed as they come; those of
    a text are cut out of it first.

    What either should give is said name by name and without a function that
    trims (`Wanted`): a blank name gives nothing, and any other one what stands
    in it between white space. A list gives just that (`wanted_iff`, one
    equation for each kind of name and an induction on the list). Splitting at
    commas undoes joining with them, but for the empty list, which is joined to
    the text of one empty name (`clean_splitOn_joinWith`).
-/

namespace DirectoryRecords.FieldList

open Text

/-- The names that some given ones ask for, in their order and as often as they come: nothing for
    a blank one, and otherwise what is left of it without the white space around it. -/
inductive Wanted : (given wanted : List Text) → Prop
  | nil : Wanted [] []
  | blank {name : Text} {given wanted : List Text} (hname : isAllBlank name = true)
      (hrest : Wanted given wanted) : Wanted (name :: given) wanted
  | core {front core back : Text} {given wanted : List Text} (hfront : isAllBlank front = true)
      (hback : isAllBlank back = true) (hne : core ≠ []) (hcore : Unpadded core)
      (hrest : Wanted given wanted) :
      Wanted ((front ++ (core ++ back)) :: given) (core :: wanted)

/-! ## Lists -/

theorem clean_cons_of_blank {name : Text} (h : isAllBlank name = true) (names : List Text) :
    clean (name :: names) = clean names := by
  rw [clean, List.map_cons, isAllBlank_iff_trim_eq_nil.mp h]
  rfl

theorem clean_cons_of_ne_nil {name : Text} (h : trim name ≠ []) (names : List Text) :
    clean (name :: names) = trim name :: clean names := by
  have hkept : (!(trim name).isEmpty) = true := by
    rw [Bool.not_eq_true', List.isEmpty_eq_false_iff]
    exact h
  rw [clean, List.map_cons, List.filter_cons, if_pos hkept]
  rfl

/-- Cleaning gives the names that a list asks for. -/
theorem wanted_clean (names : List Text) : Wanted names (clean names) := by
  induction names with
  | nil => exact .nil
  | cons name names ih =>
      by_cases hblank : isAllBlank name = true
      · rw [clean_cons_of_blank hblank]
        exact .blank hblank ih
      · have hne : trim name ≠ [] := fun hnil => hblank (isAllBlank_iff_trim_eq_nil.mpr hnil)
        obtain ⟨front, back, hfront, hback, hname⟩ := exists_padding name
        rw [clean_cons_of_ne_nil hne]
        have hwanted := Wanted.core hfront hback hne (unpadded_trim name) ih
        rw [← hname] at hwanted
        exact hwanted

/-- **A list asks for the names that cleaning gives**, and for no others. -/
theorem wanted_iff {given wanted : List Text} : Wanted given wanted ↔ wanted = clean given := by
  constructor
  · intro h
    induction h with
    | nil => rfl
    | blank hname _ ih => rw [clean_cons_of_blank hname, ih]
    | @core front core back given wanted hfront hback hne hcore _ ih =>
        have htrim : trim (front ++ (core ++ back)) = core := by
          rw [trim_padded hfront hback, trim_of_unpadded hcore]
        have hkept : trim (front ++ (core ++ back)) ≠ [] := by
          rw [htrim]
          exact hne
        rw [clean_cons_of_ne_nil hkept, htrim, ih]
  · rintro rfl
    exact wanted_clean given

/-! ## Texts -/

/-- The names in a text ask for what they ask for in a list. The text of no names is that of one
    empty name, which asks for nothing. -/
theorem clean_splitOn_joinWith {names : List Text} (h : ∀ name ∈ names, ',' ∉ name) :
    clean ((joinWith ',' names).splitOn ',') = clean names := by
  cases names with
  | nil => rfl
  | cons name names => rw [joinWith, List.splitOn_intercalate ',' h (List.cons_ne_nil name names)]

/-- **The spelling makes no difference.** Names without commas ask for one list of names, and that
    list followed by the names that are always included is selected, whether they are given as a
    list or in one text with commas between them. -/
theorem select_spellings {names : List Text} (h : ∀ name ∈ names, ',' ∉ name)
    (always : List Text) :
    (∃! wanted, Wanted names wanted) ∧
      ∀ wanted, Wanted names wanted →
        (list names).select always = wanted ++ always ∧
        (commaSeparated (joinWith ',' names)).select always = wanted ++ always := by
  constructor
  · exact ⟨clean names, wanted_clean names, fun wanted hwanted => wanted_iff.mp hwanted⟩
  · intro wanted hwanted
    obtain rfl := wanted_iff.mp hwanted
    refine ⟨rfl, ?_⟩
    rw [select, FieldList.names, clean_splitOn_joinWith h]

/-- Padded, repeated, empty and blank names, in either spelling. What is always included stays as
    it is. -/
theorem select_spellings_padded :
    let names : List Text := ["  cn ", "mail", "", "\t", "cn"]
    let always : List Text := ["uid", " mail"]
    let wanted : List Text := ["cn", "mail", "cn"]
    (∀ name ∈ names, ',' ∉ name) ∧ Wanted names wanted ∧
      joinWith ',' names = "  cn ,mail,,\t,cn".toList ∧
      (list names).select always = wanted ++ always ∧
      (commaSeparated (joinWith ',' names)).select always = wanted ++ always := by
  intro names always wanted
  have hnames : ∀ name ∈ names, ',' ∉ name := by decide
  have hwanted : Wanted names wanted := wanted_iff.mpr (by decide)
  obtain ⟨_, hselect⟩ := select_spellings hnames always
  exact ⟨hnames, hwanted, by decide, hselect wanted hwanted⟩

end DirectoryRecords.FieldList
