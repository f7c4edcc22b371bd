import DirectoryRecords.Filter.Basic
import DirectoryRecords.Proofs.Cuts

/-!
# Gaps — searching from the left decides whether a text fits a pattern

    A text has the form of a pattern when it is the parts in order with an
    arbitrary text between each two. The test looks for each part as far to
    the left as possible and never goes back. That it misses nothing is the
    usual exchange: wherever the next part stands, its leftmost occurrence
    leaves a longer rest, and a longer rest only makes the next gap longer.

    The test is made in lower case, where a letter may depend on its word. A
    gap of spaces parts words, so parts that are joined by spaces go into
    lower case one by one, and fit however wide the gaps are.
-/

namespace DirectoryRecords

namespace Text

/-- The texts that are the given parts in order, with an arbitrary gap between each two. -/
inductive Gapped : List Text → Text → Prop where
  | last (part : Text) : Gapped [part] part
  | next {parts : List Text} {rest : Text} (part gap : Text) (h : Gapped parts rest) :
      Gapped (part :: parts) (part ++ (gap ++ rest))

theorem not_gapped_nil (text : Text) : ¬ Gapped [] text := by
  intro h
  exact nomatch h

theorem gapped_singleton (part text : Text) : Gapped [part] text ↔ part = text := by
  constructor
  · intro h
    cases h with
    | last => rfl
    | next _ gap hrest => exact absurd hrest (not_gapped_nil _)
  · rintro rfl
    exact Gapped.last part

theorem gapped_cons_cons (part next : Text) (parts : List Text) (text : Text) :
    Gapped (part :: next :: parts) text ↔
      ∃ gap rest, text = part ++ (gap ++ rest) ∧ Gapped (next :: parts) rest := by
  constructor
  · intro h
    cases h with
    | next _ gap hrest => exact ⟨gap, _, rfl, hrest⟩
  · rintro ⟨gap, rest, rfl, hrest⟩
    exact Gapped.next part gap hrest

end Text

namespace Filter

open Text

/-- **The leftmost search misses nothing.** The parts are found after a gap exactly when some
    end of the text has their form. The induction is on the parts; what carries it is that a
    leftmost occurrence leaves a rest that ends with any other. -/
theorem fitsAfterGap_iff (part : Text) (parts : List Text) : ∀ text : Text,
    fitsAfterGap (part :: parts) text = true ↔
      ∃ gap rest, text = gap ++ rest ∧ Gapped (part :: parts) rest := by
  induction parts generalizing part with
  | nil =>
      intro text
      show part.isSuffixOf text = true ↔ _
      rw [List.isSuffixOf_iff_suffix]
      constructor
      · rintro ⟨gap, rfl⟩
        exact ⟨gap, part, rfl, Gapped.last part⟩
      · rintro ⟨gap, rest, rfl, hrest⟩
        rw [← (gapped_singleton part rest).mp hrest]
        exact List.suffix_append gap part
  | cons next parts ih =>
      intro text
      rw [fitsAfterGap]
      constructor
      · intro h
        cases hcut : cutAt part text with
        | none =>
            rw [hcut] at h
            exact absurd h Bool.false_ne_true
        | some sides =>
            obtain ⟨before, after⟩ := sides
            rw [hcut] at h
            obtain ⟨gap, rest, rfl, hrest⟩ := (ih next after).mp h
            exact ⟨before, part ++ (gap ++ rest), eq_of_cutAt hcut,
              Gapped.next part gap hrest⟩
      · rintro ⟨gap, rest, rfl, hrest⟩
        obtain ⟨gap', rest', rfl, hnext⟩ := (gapped_cons_cons part next parts rest).mp hrest
        -- The cut leaves `more` and what any other occurrence leaves: the next gap takes it up.
        obtain ⟨before, more, hcut⟩ := cutAt_append part gap (gap' ++ rest')
        rw [hcut]
        exact (ih next (more ++ (gap' ++ rest'))).mpr
          ⟨more ++ gap', rest', by rw [List.append_assoc], hnext⟩
      · simp

/-- A text fits a pattern with a gap exactly when it has the pattern's form. -/
theorem fits_iff_gapped (part next : Text) (parts : List Text) (text : Text) :
    fits (part :: next :: parts) text = true ↔ Gapped (part :: next :: parts) text := by
  rw [fits, gapped_cons_cons]
  constructor
  · intro h
    cases hp : part.isPrefixOf? text with
    | none =>
        rw [hp] at h
        exact absurd h Bool.false_ne_true
    | some after =>
        rw [hp] at h
        obtain ⟨gap, rest, rfl, hrest⟩ := (fitsAfterGap_iff next parts after).mp h
        exact ⟨gap, rest, (List.append_eq_of_isPrefixOf?_eq_some hp).symm, hrest⟩
  · rintro ⟨gap, rest, rfl, hrest⟩
    have hp : part.isPrefixOf? (part ++ (gap ++ rest)) = some (gap ++ rest) :=
      List.isPrefixOf?_eq_some_iff_append_eq.mpr rfl
    rw [hp]
    exact (fitsAfterGap_iff next parts (gap ++ rest)).mpr ⟨gap, rest, rfl, hrest⟩

end Filter

/-- The form of a pattern is decided by the search. -/
instance Text.decidableGapped : (parts : List Text) → (text : Text) →
    Decidable (Text.Gapped parts text)
  | [], text => isFalse (Text.not_gapped_nil text)
  | [part], text => decidable_of_iff (part = text) (Text.gapped_singleton part text).symm
  | part :: next :: parts, text =>
    decidable_of_iff (Filter.fits (part :: next :: parts) text = true)
      (Filter.fits_iff_gapped part next parts text)

example : Text.Gapped ["ab", "b", "a"] "abba".toList := by decide

namespace Text

/-! ## Lower case on both sides of a mark -/

/-- A character that has no case and that parts words. -/
def Separates (mark : Char) : Prop :=
  lowerChar mark = [mark] ∧ mark ≠ 'Σ' ∧ isCaseIgnorable mark = false ∧ isCased mark = false

instance (mark : Char) : Decidable (Separates mark) :=
  inferInstanceAs (Decidable (_ ∧ _))

/-- What a sigma looks for behind it does not lie behind the mark. -/
theorem startsCased_append {mark : Char} (h : Separates mark) (front back : Text) :
    startsCased (front ++ mark :: back) = startsCased front := by
  obtain ⟨-, -, hignore, hcased⟩ := h
  induction front with
  | nil =>
      rw [List.nil_append, startsCased, List.dropWhile_cons, hignore]
      exact hcased
  | cons c front ih =>
      by_cases hc : isCaseIgnorable c = true
      · rw [startsCased, startsCased] at ih
        rw [List.cons_append, startsCased, startsCased, List.dropWhile_cons, List.dropWhile_cons,
          if_pos hc, if_pos hc]
        exact ih
      · rw [List.cons_append, startsCased, startsCased, List.dropWhile_cons, List.dropWhile_cons,
          if_neg hc, if_neg hc]

theorem lowerFrom_append {mark : Char} (h : Separates mark) (front back : Text) (inWord : Bool) :
    lowerFrom inWord (front ++ mark :: back) = lowerFrom inWord front ++ mark :: lower back := by
  induction front generalizing inWord with
  | nil =>
      obtain ⟨hlower, hsigma, hignore, hcased⟩ := h
      show (if mark = 'Σ' then _ else lowerChar mark) ++
        lowerFrom (if isCaseIgnorable mark then inWord else isCased mark) back = mark :: lower back
      rw [if_neg hsigma, hlower, hignore, hcased]
      rfl
  | cons c front ih =>
      rw [List.cons_append, lowerFrom, lowerFrom, startsCased_append h, ih, List.append_assoc]

/-- Both sides of a mark go into lower case on their own. -/
theorem lower_append {mark : Char} (h : Separates mark) (front back : Text) :
    lower (front ++ mark :: back) = lower front ++ mark :: lower back :=
  lowerFrom_append h front back false

/-! ## Wide gaps -/

/-- A gap of one space or more. -/
def spaces (more : Nat) : Text := ' ' :: List.replicate more ' '

theorem lower_spaces_append (more : Nat) (front back : Text) :
    lower (front ++ (spaces more ++ back)) = lower front ++ (spaces more ++ lower back) := by
  have hspace : Separates ' ' := by decide
  induction more generalizing front with
  | zero => exact lower_append hspace front back
  | succ more ih =>
      have hnil := ih []
      rw [List.nil_append] at hnil
      show lower (front ++ ' ' :: (spaces more ++ back)) = lower front ++ ' ' :: _
      rw [lower_append hspace, hnil]
      rfl

/-- Parts that are joined by spaces go into lower case one by one. -/
theorem lower_intercalate (more : Nat) (parts : List Text) :
    lower ((spaces more).intercalate parts) = (spaces more).intercalate (parts.map lower) := by
  induction parts with
  | nil => rfl
  | cons part rest ih =>
      by_cases hrest : rest = []
      · rw [hrest, List.map_singleton, List.intercalate_singleton, List.intercalate_singleton]
      · have hmap : rest.map lower ≠ [] := fun h => hrest (List.map_eq_nil_iff.mp h)
        rw [List.map_cons, List.intercalate_cons_of_ne_nil hrest,
          List.intercalate_cons_of_ne_nil hmap, List.append_assoc, List.append_assoc,
          lower_spaces_append, ih]

/-- Joined parts have the form of the parts. -/
theorem gapped_intercalate (gap : Text) {parts : List Text} (hne : parts ≠ []) :
    Gapped parts (gap.intercalate parts) := by
  induction parts with
  | nil => exact absurd rfl hne
  | cons part rest ih =>
      by_cases hrest : rest = []
      · rw [hrest, List.intercalate_singleton]
        exact Gapped.last part
      · rw [List.intercalate_cons_of_ne_nil hrest, List.append_assoc]
        exact Gapped.next part gap (ih hrest)

end Text

namespace Filter

open Text

/-- **No length is safe from a pattern.** With two parts or more, a pattern fits a text that is
    longer than any given length. -/
theorem exists_valueFits (part next : Text) (parts : List Text) (length : Nat) :
    ∃ value, length < value.length ∧ valueFits (part :: next :: parts) value = true := by
  refine ⟨(spaces length).intercalate (part :: next :: parts), ?_, ?_⟩
  · rw [List.intercalate_cons_of_ne_nil (List.cons_ne_nil next parts)]
    simp only [List.length_append, spaces, List.length_cons, List.length_replicate]
    omega
  · show fits (lower part :: lower next :: parts.map lower) _ = true
    rw [fits_iff_gapped, lower_intercalate]
    exact gapped_intercalate _ (List.cons_ne_nil _ _)

end Filter

end DirectoryRecords
