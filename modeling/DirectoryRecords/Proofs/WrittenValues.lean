import DirectoryRecords.Proofs.RelationLookup

/-!
# Written values — which tests for equality come back as they were meant

    A value is written into a filter and read from there by the directory.
    What is read is the value with its own codes replaced, so the value comes
    back exactly when it has none (`unescape_escape_eq_iff`), whatever
    parentheses, NUL and other backslashes it contains.

    The condition that an attribute has a value goes the same way. It spells
    the test for what is read of the value (`read?_compile_equals`), and that
    is the test for the value itself exactly when there is no code in it.
-/

namespace DirectoryRecords

open Text

namespace Filter

/-- **A value comes back exactly when it has no code of its own.** -/
theorem unescape_escape_eq_iff (value : Text) :
    unescape (escape value) = value ↔ NoCode value := by
  rw [unescape_escape]
  constructor
  · intro hback
    by_contra hcode
    have hshorter := length_unescape_lt hcode
    rw [hback] at hshorter
    exact Nat.lt_irrefl _ hshorter
  · exact unescape_of_noCode

/-- The condition on a value without stars spells the test for what is read of the value. -/
theorem read?_compile_equals {name value : Text} (hname : PlainAttribute name)
    (hstar : '*' ∉ value) :
    read? (Conditions.equals name value).compile = some (.equals name (unescape value)) := by
  have hspells := Conditions.spells_term hname.plainName value
  rw [test_equals name hstar, hname.trim_eq] at hspells
  exact read?_of_spells hspells

/-- **Which conditions on a value are read as they are meant.** What is read of a written value
    is what is read of the value, and a condition on a plain name and a value without stars is
    read as the test for that. Both are the value itself exactly when no backslash in it has a
    code behind it. -/
theorem equality_read_back_iff (name value : Text) :
    unescape (escape value) = unescape value ∧
      (unescape (escape value) = value ↔ NoCode value) ∧
      (PlainAttribute name → '*' ∉ value →
        read? (Conditions.equals name value).compile = some (.equals name (unescape value)) ∧
        (read? (Conditions.equals name value).compile = some (.equals name value) ↔
          NoCode value)) := by
  refine ⟨unescape_escape value, unescape_escape_eq_iff value, ?_⟩
  intro hname hstar
  have hread := read?_compile_equals hname hstar
  refine ⟨hread, ?_⟩
  rw [hread, Option.some.injEq, Filter.equals.injEq, ← unescape_escape]
  exact (and_iff_right rfl).trans (unescape_escape_eq_iff value)

/-- A value with both parentheses, NUL and a backslash comes back, since no code is in it. -/
theorem equality_read_back_parentheses :
    let name : Text := "cn"
    let value : Text := "Acme (\\EMEA)\x00"
    PlainAttribute name ∧ '*' ∉ value ∧ unescape (escape value) = value ∧
      read? (Conditions.equals name value).compile = some (.equals name value) := by
  intro name value
  obtain ⟨-, hvalue, htest⟩ := equality_read_back_iff name value
  have hname : PlainAttribute name := by decide
  have hstar : '*' ∉ value := by decide
  have hback : unescape (escape value) = value := rfl
  exact ⟨hname, hstar, hback, (htest hname hstar).2.mpr (hvalue.mp hback)⟩

/-- A backslash and two digits are written as the parenthesis is that they are the code of, so
    they come back as the parenthesis and so does the test for them. -/
theorem equality_not_read_back :
    let name : Text := "cn"
    let value : Text := "\\28"
    PlainAttribute name ∧ '*' ∉ value ∧ escape value = escape "(" ∧
      unescape (escape value) ≠ value ∧
      read? (Conditions.equals name value).compile ≠ some (.equals name value) := by
  intro name value
  refine ⟨by decide, by decide, rfl, by decide, ?_⟩
  have hread : read? (Conditions.equals name value).compile = some (.equals name "(") := rfl
  rw [hread]
  intro h
  obtain ⟨-, hvalue⟩ := Filter.equals.inj (Option.some.inj h)
  exact absurd hvalue (by decide)

end Filter

end DirectoryRecords
