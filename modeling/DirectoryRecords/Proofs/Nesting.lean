import DirectoryRecords.Conditions.Basic
import DirectoryRecords.Proofs.Codes

/-!
# Nesting — compiled filters are one parenthesised group

    Whatever a caller asks for, the filter it compiles to opens with a
    parenthesis that only its last character closes. The route:

    * a text is *paired* when no prefix of it closes more parentheses than it
      opens and the whole closes all of them; pairing survives concatenation,
      and putting a paired text in parentheses makes one group of it;
    * the check that decides whether a clause keeps its parentheses is exactly
      pairing, and an escaped text has none left;
    * so every term and every clause is one group, and so is the group that
      an operator makes of several.

    Everything is said with counts of characters over prefixes, never through
    the check itself.
-/

namespace DirectoryRecords

namespace Text

/-! ## Paired texts and groups -/

/-- No prefix closes more parentheses than it opens, `depth` of them being open before the
    text, and the text closes them all. -/
def PairedFrom (depth : Nat) (text : Text) : Prop :=
  text.count ')' = text.count '(' + depth ∧
    ∀ front, front <+: text → front.count ')' ≤ front.count '(' + depth

/-- The parentheses of a text pair up. -/
def Paired (text : Text) : Prop := PairedFrom 0 text

/-- A text is one group: it opens with a parenthesis, closes as many as it opens, and before
    its end some parenthesis is always open. -/
def OneGroup (text : Text) : Prop :=
  text.head? = some '(' ∧ text.count ')' = text.count '(' ∧
    ∀ front, front <+: text → front ≠ [] → front ≠ text →
      front.count ')' < front.count '('

/-- A prefix of a concatenation that is no prefix of the first text goes on into the second. -/
theorem prefix_append_into {front left right : Text} (h : front <+: left ++ right)
    (hnot : ¬ front <+: left) : ∃ more, more <+: right ∧ front = left ++ more := by
  have hleft : left <+: front :=
    (List.prefix_or_prefix_of_prefix h (List.prefix_append left right)).resolve_left hnot
  obtain ⟨more, rfl⟩ := hleft
  exact ⟨more, (List.prefix_append_right_inj left).mp h, rfl⟩

theorem paired_nil : Paired [] := by
  refine ⟨rfl, ?_⟩
  intro front hf
  rw [List.prefix_nil.mp hf]
  exact Nat.le_refl _

/-- Pairing survives concatenation. -/
theorem Paired.append {left right : Text} (hl : Paired left) (hr : Paired right) :
    Paired (left ++ right) := by
  obtain ⟨hlc, hlp⟩ := hl
  obtain ⟨hrc, hrp⟩ := hr
  constructor
  · rw [List.count_append, List.count_append]
    omega
  · intro front hf
    by_cases hfl : front <+: left
    · exact hlp front hfl
    · -- A prefix that reaches into the second text has closed all of the first.
      obtain ⟨more, hm, rfl⟩ := prefix_append_into hf hfl
      have := hrp more hm
      rw [List.count_append, List.count_append]
      omega

/-- A text without parentheses is paired. -/
theorem paired_of_free {text : Text} (ho : '(' ∉ text) (hc : ')' ∉ text) : Paired text := by
  have hzero : ∀ front, front <+: text → front.count ')' = 0 := by
    intro front hf
    exact List.count_eq_zero.mpr fun hmem => hc (hf.subset hmem)
  constructor
  · rw [hzero text (List.prefix_refl text), List.count_eq_zero.mpr ho]
  · intro front hf
    rw [hzero front hf]
    exact Nat.zero_le _

theorem OneGroup.paired {text : Text} (h : OneGroup text) : Paired text := by
  obtain ⟨-, hcount, hfront⟩ := h
  refine ⟨hcount, ?_⟩
  intro front hf
  by_cases hnil : front = []
  · rw [hnil]
    exact Nat.zero_le _
  · by_cases hall : front = text
    · rw [hall]
      exact Nat.le_of_eq hcount
    · exact Nat.le_of_lt (hfront front hf hnil hall)

theorem paired_flatten {texts : List Text} (h : ∀ text ∈ texts, Paired text) :
    Paired texts.flatten := by
  induction texts with
  | nil => exact paired_nil
  | cons text rest ih =>
      rw [List.flatten_cons]
      have hrest : Paired rest.flatten := ih fun t ht => h t (List.mem_cons_of_mem _ ht)
      exact (h text List.mem_cons_self).append hrest

/-- A paired text in parentheses is one group. -/
theorem Paired.oneGroup {inner : Text} (h : Paired inner) :
    OneGroup ('(' :: inner ++ [')']) := by
  obtain ⟨hcount, hfront⟩ := h
  refine ⟨rfl, ?_, ?_⟩
  · simp only [List.count_append, List.count_cons, List.count_nil]
    simp
    omega
  · intro front hf hnil hall
    -- Before the last character the first parenthesis is still open.
    rcases List.prefix_concat_iff.mp hf with heq | hshort
    · exact absurd heq hall
    · rcases List.prefix_cons_iff.mp hshort with heq | ⟨more, rfl, hm⟩
      · exact absurd heq hnil
      · have := hfront more hm
        simp only [List.count_cons]
        simp
        omega

/-- A character that is no parenthesis in front changes nothing. -/
theorem pairedFrom_cons_of_ne {depth : Nat} {c : Char} {rest : Text} (ho : c ≠ '(')
    (hc : c ≠ ')') : PairedFrom depth (c :: rest) ↔ PairedFrom depth rest := by
  have hopen : ∀ t : Text, (c :: t).count '(' = t.count '(' := fun t =>
    List.count_cons_of_ne ho
  have hclose : ∀ t : Text, (c :: t).count ')' = t.count ')' := fun t =>
    List.count_cons_of_ne hc
  constructor
  · rintro ⟨hcount, hfront⟩
    refine ⟨by rwa [hopen, hclose] at hcount, ?_⟩
    intro front hf
    have := hfront (c :: front) ((List.prefix_cons_inj c).mpr hf)
    rwa [hopen, hclose] at this
  · rintro ⟨hcount, hfront⟩
    refine ⟨by rwa [hopen, hclose], ?_⟩
    intro front hf
    rcases List.prefix_cons_iff.mp hf with rfl | ⟨more, rfl, hm⟩
    · exact Nat.zero_le _
    · rw [hopen, hclose]
      exact hfront more hm

/-- An opening parenthesis in front is one more to close. -/
theorem pairedFrom_cons_open {depth : Nat} {rest : Text} :
    PairedFrom depth ('(' :: rest) ↔ PairedFrom (depth + 1) rest := by
  have hopen : ∀ t : Text, ('(' :: t).count '(' = t.count '(' + 1 := fun t =>
    List.count_cons_self
  have hclose : ∀ t : Text, ('(' :: t).count ')' = t.count ')' := fun t =>
    List.count_cons_of_ne (by decide)
  constructor
  · rintro ⟨hcount, hfront⟩
    rw [hopen, hclose] at hcount
    refine ⟨by omega, ?_⟩
    intro front hf
    have := hfront ('(' :: front) ((List.prefix_cons_inj _).mpr hf)
    rw [hopen, hclose] at this
    omega
  · rintro ⟨hcount, hfront⟩
    refine ⟨by rw [hopen, hclose]; omega, ?_⟩
    intro front hf
    rcases List.prefix_cons_iff.mp hf with rfl | ⟨more, rfl, hm⟩
    · exact Nat.zero_le _
    · have := hfront more hm
      rw [hopen, hclose]
      omega

/-- A closing parenthesis in front closes one of those that are open. -/
theorem pairedFrom_cons_close {depth : Nat} {rest : Text} :
    PairedFrom (depth + 1) (')' :: rest) ↔ PairedFrom depth rest := by
  have hopen : ∀ t : Text, (')' :: t).count '(' = t.count '(' := fun t =>
    List.count_cons_of_ne (by decide)
  have hclose : ∀ t : Text, (')' :: t).count ')' = t.count ')' + 1 := fun t =>
    List.count_cons_self
  constructor
  · rintro ⟨hcount, hfront⟩
    rw [hopen, hclose] at hcount
    refine ⟨by omega, ?_⟩
    intro front hf
    have := hfront (')' :: front) ((List.prefix_cons_inj _).mpr hf)
    rw [hopen, hclose] at this
    omega
  · rintro ⟨hcount, hfront⟩
    refine ⟨by rw [hopen, hclose]; omega, ?_⟩
    intro front hf
    rcases List.prefix_cons_iff.mp hf with rfl | ⟨more, rfl, hm⟩
    · exact Nat.zero_le _
    · have := hfront more hm
      rw [hopen, hclose]
      omega

/-- A closing parenthesis where none is open is paired with nothing. -/
theorem not_pairedFrom_zero_close {rest : Text} : ¬ PairedFrom 0 (')' :: rest) := by
  rintro ⟨-, hfront⟩
  exact absurd (hfront [')'] ⟨rest, rfl⟩) (by decide)

end Text

namespace Conditions

open Text

/-! ## The check for pairs -/

/-- The check walks a text with the number of parentheses that are open; what it accepts is
    exactly what pairs up from there. -/
theorem balancedFrom_iff (text : Text) : ∀ depth : Nat,
    balancedFrom depth text = true ↔ PairedFrom depth text := by
  -- The depth is what changes along the text, so it stays free in the induction.
  induction text with
  | nil =>
      intro depth
      cases depth with
      | zero => exact ⟨fun _ => paired_nil, fun _ => rfl⟩
      | succ depth =>
          constructor
          · intro h
            exact absurd h (by simp [balancedFrom])
          · rintro ⟨hcount, -⟩
            exact absurd hcount (by simp)
  | cons c rest ih =>
      intro depth
      by_cases ho : c = '('
      · subst ho
        rw [show balancedFrom depth ('(' :: rest) = balancedFrom (depth + 1) rest from rfl,
          ih, pairedFrom_cons_open]
      · by_cases hc : c = ')'
        · subst hc
          cases depth with
          | zero =>
              constructor
              · intro h
                exact absurd h (by simp [balancedFrom])
              · intro h
                exact absurd h not_pairedFrom_zero_close
          | succ depth =>
              rw [show balancedFrom (depth + 1) (')' :: rest) = balancedFrom depth rest
                from rfl, ih, pairedFrom_cons_close]
        · rw [pairedFrom_cons_of_ne ho hc, ← ih]
          simp [balancedFrom, hc]

/-- A clause keeps its parentheses exactly when they pair up. -/
theorem balanced_iff_paired (text : Text) : balanced text = true ↔ Paired text :=
  balancedFrom_iff text 0

/-! ## Escaped texts -/

/-- No parenthesis is left of a character that is written by its code where needed. -/
theorem free_escapeParenthesis (c : Char) :
    '(' ∉ Filter.escapeParenthesis c ∧ ')' ∉ Filter.escapeParenthesis c := by
  by_cases ho : c = '('
  · subst ho
    decide
  · by_cases hc : c = ')'
    · subst hc
      decide
    · rw [Filter.escapeParenthesis_of_ne ho hc, List.mem_singleton, List.mem_singleton]
      exact ⟨Ne.symm ho, Ne.symm hc⟩

theorem free_escapeChar (c : Char) :
    '(' ∉ Filter.escapeChar c ∧ ')' ∉ Filter.escapeChar c := by
  by_cases hz : c = '\x00'
  · subst hz
    decide
  · rw [Filter.escapeChar_of_ne hz]
    exact free_escapeParenthesis c

theorem paired_escapeParentheses (text : Text) :
    Paired (Filter.escapeParentheses text) := by
  refine paired_of_free ?_ ?_
  · intro h
    obtain ⟨c, -, hc⟩ := List.mem_flatMap.mp h
    exact (free_escapeParenthesis c).1 hc
  · intro h
    obtain ⟨c, -, hc⟩ := List.mem_flatMap.mp h
    exact (free_escapeParenthesis c).2 hc

/-- No parenthesis is left of a written value. -/
theorem free_escape (value : Text) :
    '(' ∉ Filter.escape value ∧ ')' ∉ Filter.escape value := by
  constructor
  · intro h
    obtain ⟨c, -, hc⟩ := List.mem_flatMap.mp h
    exact (free_escapeChar c).1 hc
  · intro h
    obtain ⟨c, -, hc⟩ := List.mem_flatMap.mp h
    exact (free_escapeChar c).2 hc

theorem paired_escape (value : Text) : Paired (Filter.escape value) :=
  paired_of_free (free_escape value).1 (free_escape value).2

/-! ## Terms, clauses and groups -/

/-- The test for a pair is one group, whatever the name and the value are. -/
theorem term_oneGroup (name value : Text) : OneGroup (term name value) := by
  have hsign : Paired ['='] := paired_of_free (by decide) (by decide)
  have hinner : Paired (Filter.escapeParentheses name ++ (['='] ++ Filter.escape value)) :=
    (paired_escapeParentheses name).append (hsign.append (paired_escape value))
  have hgroup := hinner.oneGroup
  rw [show '(' :: (Filter.escapeParentheses name ++ (['='] ++ Filter.escape value)) ++ [')']
    = term name value by simp [term]] at hgroup
  exact hgroup

theorem clause_eq (text : Text) :
    clause text = '(' :: (if balanced (trim text) then trim text
      else Filter.escapeParentheses (trim text)) ++ [')'] := rfl

/-- A clause in parentheses is one group, whether it keeps its own or not. -/
theorem clause_oneGroup (text : Text) : OneGroup (clause text) := by
  rw [clause_eq]
  by_cases hb : balanced (trim text) = true
  · rw [if_pos hb]
    exact ((balanced_iff_paired _).mp hb).oneGroup
  · rw [if_neg hb]
    exact (paired_escapeParentheses (trim text)).oneGroup

/-- Groups under an operator are one group. -/
theorem group_oneGroup (combine : Combine) {filters : List Text}
    (h : ∀ filter ∈ filters, OneGroup filter) : OneGroup (group combine filters) := by
  have hsign : Paired [combine.sign] := by
    cases combine with
    | and => exact paired_of_free (by decide) (by decide)
    | or => exact paired_of_free (by decide) (by decide)
  have hall : Paired filters.flatten := paired_flatten fun filter hf => (h filter hf).paired
  exact (hsign.append hall).oneGroup

theorem matchAll_oneGroup : OneGroup matchAll := by
  have hinner : Paired "objectClass=*".toList := paired_of_free (by decide) (by decide)
  exact hinner.oneGroup

/-- Pairs compile to one group. -/
theorem compilePairs_oneGroup (combine : Combine) (entries : List (Text × Text)) :
    OneGroup (compilePairs combine entries) := by
  match entries with
  | [] => exact matchAll_oneGroup
  | [(name, value)] => exact term_oneGroup name value
  | first :: second :: rest =>
      refine group_oneGroup combine ?_
      intro filter hf
      obtain ⟨pair, -, rfl⟩ := List.mem_map.mp hf
      exact term_oneGroup pair.1 pair.2

theorem compileText_of_none {text : Text} (h : joint? (trim text) = none) :
    compileText text = clause (trim text) := by
  simp only [compileText, h]

theorem compileText_of_some {text : Text} {combine : Combine}
    (h : joint? (trim text) = some combine) :
    compileText text
      = group combine ((splitAtWord combine.separator (trim text)).map clause) := by
  simp only [compileText, h]

/-- A free text compiles to one group. -/
theorem compileText_oneGroup (text : Text) : OneGroup (compileText text) := by
  -- However the text is split, what becomes of each piece is one group.
  cases hj : joint? (trim text) with
  | none =>
      rw [compileText_of_none hj]
      exact clause_oneGroup (trim text)
  | some combine =>
      rw [compileText_of_some hj]
      refine group_oneGroup combine ?_
      intro filter hf
      obtain ⟨piece, -, rfl⟩ := List.mem_map.mp hf
      exact clause_oneGroup piece

theorem compile_pairs (combine : Combine) (entries : List (Text × Text)) :
    compile (.pairs entries combine) = compilePairs combine entries := by
  cases entries with
  | nil => rfl
  | cons entry rest => rfl

theorem compile_text (expression : Text) :
    compile (.text expression)
      = if isAllBlank expression then matchAll else compileText expression := rfl

/-- **Filters are balanced.** Whatever the conditions are, the filter they compile to is one
    group: it opens with a parenthesis, closes as many as it opens, and before its end some
    parenthesis is always open. -/
theorem compile_oneGroup (conditions : Conditions) : OneGroup conditions.compile := by
  cases conditions with
  | pairs entries combine =>
      rw [compile_pairs]
      exact compilePairs_oneGroup combine entries
  | text expression =>
      rw [compile_text]
      by_cases hblank : isAllBlank expression = true
      · rw [if_pos hblank]
        exact matchAll_oneGroup
      · rw [if_neg hblank]
        exact compileText_oneGroup expression

end Conditions

end DirectoryRecords
