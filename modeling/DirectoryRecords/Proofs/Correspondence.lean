import DirectoryRecords.Error
import Mathlib.Data.List.Forall2

/-!
# Correspondence — two outcomes that are alike in what matters

    Two runs that differ in something that does not matter fail in the same
    way, or succeed with answers that are alike. Which answers are alike is a
    relation; correspondence goes from it to outcomes, and from the pieces of
    a computation to the whole: to what follows an outcome, and to the
    outcomes for the elements of two lists that are alike in every place.
-/

namespace DirectoryRecords

variable {α α' β β' γ : Type} {R : α → α' → Prop} {S : β → β' → Prop}

/-- Two outcomes have answers that are alike, or the same error. -/
inductive Corresponds (R : α → α' → Prop) : Except Error α → Except Error α' → Prop where
  | ok {answer : α} {answer' : α'} (h : R answer answer') : Corresponds R (.ok answer) (.ok answer')
  | error (e : Error) : Corresponds R (.error e) (.error e)

namespace Corresponds

theorem bind {outcome : Except Error α} {outcome' : Except Error α'} {next : α → Except Error β}
    {next' : α' → Except Error β'} (h : Corresponds R outcome outcome')
    (hnext : ∀ answer answer', R answer answer' → Corresponds S (next answer) (next' answer')) :
    Corresponds S (outcome >>= next) (outcome' >>= next') := by
  cases h with
  | ok h => exact hnext _ _ h
  | error e => exact .error e

theorem map {outcome : Except Error α} {outcome' : Except Error α'} {f : α → β} {f' : α' → β'}
    (h : Corresponds R outcome outcome')
    (hmap : ∀ answer answer', R answer answer' → S (f answer) (f' answer')) :
    Corresponds S (outcome.map f) (outcome'.map f') := by
  cases h with
  | ok h => exact .ok (hmap _ _ h)
  | error e => exact .error e

/-- What alike answers have in common, outcomes that correspond have in common. -/
theorem map_eq {outcome : Except Error α} {outcome' : Except Error α'} {f : α → γ} {f' : α' → γ}
    (h : Corresponds R outcome outcome')
    (heq : ∀ answer answer', R answer answer' → f answer = f' answer') :
    outcome.map f = outcome'.map f' := by
  cases h with
  | ok h => exact congrArg Except.ok (heq _ _ h)
  | error e => rfl

/-- Lists that are alike in every place have outcomes that correspond, if the outcomes of alike
    elements do. -/
theorem mapM {elements : List α} {elements' : List α'} {next : α → Except Error β}
    {next' : α' → Except Error β'} (h : List.Forall₂ R elements elements')
    (hnext : ∀ element element', R element element' →
      Corresponds S (next element) (next' element')) :
    Corresponds (List.Forall₂ S) (elements.mapM next) (elements'.mapM next') := by
  induction h with
  | nil => exact .ok .nil
  | cons hfirst _ ih =>
      rw [List.mapM_cons, List.mapM_cons]
      refine (hnext _ _ hfirst).bind fun answer answer' hanswer => ?_
      refine ih.bind fun answers answers' hanswers => ?_
      exact .ok (.cons hanswer hanswers)

end Corresponds

end DirectoryRecords
