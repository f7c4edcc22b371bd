import DirectoryRecords.Proofs.Grammar
import DirectoryRecords.Proofs.Nesting

/-!
# Free text — clauses that are joined are read under one operator

    A free text of clauses is split where it was joined, and every clause is
    put in one more pair of parentheses, also one that is a filter already.
    The reader gives back what the clauses say on their own:

    * a clause, bare or a filter, compiles to a text that spells its own
      filter (`spells_clause`); the second pair of parentheses of a filter
      says nothing;
    * the operator of a joined text is the one that it was joined with
      (`joint?_joined`), since no clause holds either word;
    * so the group of the compiled clauses spells the operator over the
      filters of the clauses, and the reader takes what is spelled.
-/

namespace DirectoryRecords

open Text

/-! ## Operators -/

namespace Combine

/-- The word of an operator, without the spaces around it. -/
def word : Combine → Text
  | and => "AND"
  | or => "OR"

theorem separator_eq (combine : Combine) : combine.separator = ' ' :: combine.word ++ [' '] := by
  cases combine with
  | and => rfl
  | or => rfl

theorem space_not_mem_word (combine : Combine) : ' ' ∉ combine.word := by
  cases combine with
  | and => decide
  | or => decide

/-- Neither word occurs in the other one. -/
theorem eq_of_word_infix {combine other : Combine} (h : other.word <:+: combine.word) :
    other = combine := by
  have hoccurs := (occurs_iff _ _).mpr h
  cases combine with
  | and =>
      cases other with
      | and => rfl
      | or => exact absurd hoccurs (by decide)
  | or =>
      cases other with
      | and => exact absurd hoccurs (by decide)
      | or => rfl

end Combine

namespace Conditions

/-! ## Clauses -/

/-- A clause without parentheses: a test, as it stands between them. -/
structure BareClause (text : Text) : Prop where
  noOpen : '(' ∉ text
  noClose : ')' ∉ text
  sign : '=' ∈ text
  unpadded : Unpadded text
  start : ∀ c ∈ text.head?, c ∉ ['&', '|', '!']

/-- A clause that is a filter already, in parentheses of its own that pair up. -/
structure FilterClause (text : Text) : Prop where
  opens : text.head? = some '('
  closes : text.getLast? = some ')'
  paired : Paired text
  accepted : (Filter.read? text).isSome

/-- A clause of a free text: bare or a filter, with neither of the words that join clauses. -/
def IsClause (text : Text) : Prop :=
  (BareClause text ∨ FilterClause text) ∧ ∀ combine : Combine, ¬ combine.word <:+: text

/-- The filter that a clause says on its own: a bare one is read in parentheses. -/
def clauseFilter? (text : Text) : Option Filter :=
  if text.head? = some '(' then Filter.read? text else Filter.read? ('(' :: text ++ [')'])

theorem BareClause.paired {text : Text} (h : BareClause text) : Paired text :=
  paired_of_free h.noOpen h.noClose

/-- A bare clause in parentheses spells the test at its first equals sign. -/
theorem BareClause.spells {text : Text} (h : BareClause text) :
    ∃ filter, Filter.Spells ('(' :: text ++ [')']) filter := by
  have hstart : Filter.StartsPlain text := by
    intro c hc hmem
    rcases List.mem_cons.mp hmem with rfl | hmem
    · exact h.noOpen (List.mem_of_head? hc)
    · exact h.start c hc hmem
  have hclose := h.noClose
  obtain ⟨name, value, rfl, hname⟩ := List.eq_append_cons_of_mem h.sign
  exact ⟨_, Filter.Spells.test hname hclose hstart⟩

theorem FilterClause.unpadded {text : Text} (h : FilterClause text) : Unpadded text :=
  unpadded_of_ends h.opens h.closes (by decide) (by decide)

theorem IsClause.unpadded {text : Text} (h : IsClause text) : Unpadded text := by
  rcases h.1 with hbare | hfilter
  · exact hbare.unpadded
  · exact hfilter.unpadded

theorem IsClause.paired {text : Text} (h : IsClause text) : Paired text := by
  rcases h.1 with hbare | hfilter
  · exact hbare.paired
  · exact hfilter.paired

theorem IsClause.ne_nil {text : Text} (h : IsClause text) : text ≠ [] := by
  rintro rfl
  rcases h.1 with hbare | hfilter
  · exact absurd hbare.sign List.not_mem_nil
  · exact nomatch hfilter.opens

/-- A clause whose parentheses pair up keeps them, within one more pair. -/
theorem clause_of_paired {text : Text} (hpad : Unpadded text) (h : Paired text) :
    clause text = '(' :: text ++ [')'] := by
  rw [clause_eq, trim_of_unpadded hpad, if_pos ((balanced_iff_paired text).mpr h)]

/-- **A clause keeps its meaning.** What a clause compiles to spells the filter that the clause
    says on its own. -/
theorem spells_clause {text : Text} (h : IsClause text) :
    ∃ filter, clauseFilter? text = some filter ∧ Filter.Spells (clause text) filter := by
  rw [clause_of_paired h.unpadded h.paired]
  rcases h.1 with hbare | hfilter
  · obtain ⟨filter, hspells⟩ := hbare.spells
    refine ⟨filter, ?_, hspells⟩
    have hhead : text.head? ≠ some '(' := fun hc => hbare.noOpen (List.mem_of_head? hc)
    rw [clauseFilter?, if_neg hhead]
    exact Filter.read?_of_spells hspells
  · obtain ⟨filter, hread⟩ := Option.isSome_iff_exists.mp hfilter.accepted
    refine ⟨filter, ?_, ?_⟩
    · rw [clauseFilter?, if_pos hfilter.opens]
      exact hread
    · -- The parentheses of the filter itself are kept within the second pair.
      exact Filter.Spells.wrapped (Filter.spells_of_read? hfilter.unpadded hread)

/-- The compiled clauses spell the filters that the clauses say, one by one. -/
theorem spelled_of_clauses {clauses : List Text} (h : ∀ text ∈ clauses, IsClause text) :
    ∃ spelled : List (Text × Filter), spelled.map Prod.fst = clauses.map clause ∧
      clauses.mapM clauseFilter? = some (spelled.map Prod.snd) ∧
      ∀ one ∈ spelled, Filter.Spells one.1 one.2 := by
  induction clauses with
  | nil => exact ⟨[], rfl, rfl, fun one hone => absurd hone List.not_mem_nil⟩
  | cons text rest ih =>
      obtain ⟨filter, hfilter, hspells⟩ := spells_clause (h text List.mem_cons_self)
      obtain ⟨spelled, htexts, hfilters, hall⟩ := ih fun t ht => h t (List.mem_cons_of_mem _ ht)
      refine ⟨(clause text, filter) :: spelled, ?_, ?_, ?_⟩
      · rw [List.map_cons, List.map_cons, htexts]
      · rw [List.mapM_cons, hfilter, hfilters]
        rfl
      · intro one hone
        rcases List.mem_cons.mp hone with rfl | hmem
        · exact hspells
        · exact hall one hmem

/-! ## Joined clauses -/

/-- Joined clauses are no empty text, and no blank stands at their ends. -/
theorem joined_unpadded (separator : Text) {clauses : List Text} (hne : clauses ≠ [])
    (h : ∀ text ∈ clauses, IsClause text) :
    Unpadded (separator.intercalate clauses) ∧ separator.intercalate clauses ≠ [] := by
  induction clauses with
  | nil => exact absurd rfl hne
  | cons text rest ih =>
      have htext : IsClause text := h text List.mem_cons_self
      by_cases hrest : rest = []
      · rw [hrest, List.intercalate_singleton]
        exact ⟨htext.unpadded, htext.ne_nil⟩
      · obtain ⟨hpad, hnil⟩ := ih hrest fun t ht => h t (List.mem_cons_of_mem _ ht)
        rw [List.intercalate_cons_of_ne_nil hrest, List.append_assoc]
        refine ⟨htext.unpadded.append hpad htext.ne_nil hnil separator, ?_⟩
        exact List.append_ne_nil_of_left_ne_nil htext.ne_nil _

/-- No other operator's word occurs in clauses that are joined by an operator. -/
theorem word_not_infix_joined {combine other : Combine} (hother : other ≠ combine)
    {clauses : List Text} (h : ∀ text ∈ clauses, IsClause text) :
    ¬ other.word <:+: combine.separator.intercalate clauses := by
  intro hin
  rw [combine.separator_eq] at hin
  rcases infix_of_infix_intercalate other.space_not_mem_word hin with hword | ⟨text, hmem, hin⟩
  · exact hother (Combine.eq_of_word_infix hword)
  · exact (h text hmem).2 other hin

theorem word_infix_separator (combine : Combine) : combine.word <:+: combine.separator := by
  rw [combine.separator_eq]
  exact List.infix_append [' '] combine.word [' ']

/-- A text without the word of an operator is not joined by it. -/
theorem not_occurs_separator {combine : Combine} {text : Text}
    (h : ¬ combine.word <:+: text) : occurs combine.separator text = false := by
  rw [Bool.eq_false_iff]
  intro hoccurs
  exact h ((word_infix_separator combine).trans ((occurs_iff _ _).mp hoccurs))

theorem joint?_clause {text : Text} (h : IsClause text) : joint? text = none := by
  rw [joint?, not_occurs_separator (h.2 .or), not_occurs_separator (h.2 .and)]
  rfl

/-- Several clauses are joined by the operator that joins them. -/
theorem joint?_joined (combine : Combine) {first second : Text} {rest : List Text}
    (h : ∀ text ∈ first :: second :: rest, IsClause text) :
    joint? (combine.separator.intercalate (first :: second :: rest)) = some combine := by
  have hoccurs : occurs combine.separator
      (combine.separator.intercalate (first :: second :: rest)) = true := by
    rw [occurs_iff, List.intercalate_cons_of_ne_nil (List.cons_ne_nil second rest)]
    exact List.infix_append first combine.separator _
  rw [joint?]
  cases combine with
  | or => rw [if_pos hoccurs]
  | and =>
      -- The other word is looked for first.
      have hor : ¬ Combine.or.word <:+: _ :=
        word_not_infix_joined (show Combine.or ≠ Combine.and by decide) h
      rw [not_occurs_separator hor, if_neg Bool.false_ne_true, if_pos hoccurs]

/-- A free text that is not blank compiles to its clauses. -/
theorem compile_text_of_unpadded {text : Text} (hpad : Unpadded text) (hne : text ≠ []) :
    compile (.text text) = compileText text := by
  have hblank : isAllBlank text = false := not_isAllBlank hne hpad.1
  rw [compile_text, if_neg (by rw [hblank]; exact Bool.false_ne_true)]

theorem compile_clause {text : Text} (h : IsClause text) : compile (.text text) = clause text := by
  have hjoint : joint? (trim text) = none := by
    rw [trim_of_unpadded h.unpadded]
    exact joint?_clause h
  rw [compile_text_of_unpadded h.unpadded h.ne_nil, compileText_of_none hjoint,
    trim_of_unpadded h.unpadded]

/-- Several joined clauses compile to the group of the compiled clauses. -/
theorem compile_joined (combine : Combine) {first second : Text} {rest : List Text}
    (h : ∀ text ∈ first :: second :: rest, IsClause text) :
    compile (.text (combine.separator.intercalate (first :: second :: rest)))
      = group combine ((first :: second :: rest).map clause) := by
  have hne : first :: second :: rest ≠ [] := List.cons_ne_nil _ _
  obtain ⟨hpad, hnil⟩ := joined_unpadded combine.separator hne h
  have hjoint : joint? (trim (combine.separator.intercalate (first :: second :: rest)))
      = some combine := by
    rw [trim_of_unpadded hpad]
    exact joint?_joined combine h
  have hsplit : splitAtWord combine.separator
      (combine.separator.intercalate (first :: second :: rest)) = first :: second :: rest := by
    rw [combine.separator_eq]
    exact splitAtWord_intercalate combine.space_not_mem_word hne
      fun text hmem => (h text hmem).2 combine
  rw [compile_text_of_unpadded hpad hnil, compileText_of_some hjoint, trim_of_unpadded hpad,
    hsplit]

/-- **Free text means what its clauses mean.** One or more clauses are joined by an operator:
    what the text compiles to is read as the operator over the filters that the clauses say on
    their own, in order, and a single clause as its own filter. -/
theorem read?_compile_joined (combine : Combine) {clauses : List Text} (hne : clauses ≠ [])
    (h : ∀ text ∈ clauses, IsClause text) :
    ∃ filters, clauses.mapM clauseFilter? = some filters ∧
      Filter.read? (compile (.text (combine.separator.intercalate clauses)))
        = some (combine.joined filters) := by
  obtain ⟨spelled, htexts, hfilters, hall⟩ := spelled_of_clauses h
  refine ⟨spelled.map Prod.snd, hfilters, ?_⟩
  apply Filter.read?_of_spells
  cases clauses with
  | nil => exact absurd rfl hne
  | cons first rest =>
      cases rest with
      | nil =>
          obtain ⟨one, hspelled, hone⟩ := List.map_eq_singleton_iff.mp htexts
          rw [List.intercalate_singleton, compile_clause (h first List.mem_cons_self), ← hone]
          rw [hspelled] at hall ⊢
          exact hall one List.mem_cons_self
      | cons second rest =>
          obtain ⟨one, others, rfl, -, htail⟩ := List.map_eq_cons_iff.mp htexts
          obtain ⟨other, others, rfl, -, -⟩ := List.map_eq_cons_iff.mp htail
          rw [compile_joined combine h, ← htexts]
          exact Filter.Spells.group combine hall

/-- A bare clause and a filter are both read under the operator. -/
theorem read?_compile_joined_bare_and_filter :
    ∃ filters, ["cn=ann".toList, "(|(sn=lee)(sn=ray))".toList].mapM clauseFilter?
        = some filters ∧
      Filter.read? (compile (.text "cn=ann AND (|(sn=lee)(sn=ray))")) =
        some (Combine.and.joined filters) := by
  have hwords : ∀ text : Text, occurs Combine.and.word text = false →
      occurs Combine.or.word text = false → ∀ combine : Combine, ¬ combine.word <:+: text := by
    intro text hand hor combine hin
    cases combine with
    | and => exact absurd ((occurs_iff _ _).mpr hin) (by rw [hand]; decide)
    | or => exact absurd ((occurs_iff _ _).mpr hin) (by rw [hor]; decide)
  refine read?_compile_joined .and (List.cons_ne_nil _ _) ?_
  intro text hmem
  simp only [List.mem_cons, List.not_mem_nil, or_false] at hmem
  rcases hmem with rfl | rfl
  · have hpad : Unpadded "cn=ann".toList := unpadded_of_ends rfl rfl (by decide) (by decide)
    refine ⟨Or.inl ⟨by decide, by decide, by decide, hpad, ?_⟩, hwords _ (by decide) (by decide)⟩
    exact forall_head_cons (by decide) _
  · refine ⟨Or.inr ⟨rfl, rfl, ?_, ?_⟩, hwords _ (by decide) (by decide)⟩
    · exact (balanced_iff_paired _).mp (by decide)
    · decide

end Conditions

end DirectoryRecords
