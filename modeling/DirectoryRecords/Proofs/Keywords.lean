import DirectoryRecords.Proofs.Cuts

/-!
# Keywords — words between spaces, and what stands behind them

    A keyword is found in a text wherever it stands between two spaces. In a
    list of words with a space in front of each this is the first word that is
    the keyword, as long as no word has a space (`behind?_spaced`). A word in
    quotation marks may have spaces. Since the keyword has no quotation mark,
    it is then found within the marks or behind them, but never across one
    (`behind?_append_cons`).
-/

namespace DirectoryRecords.Text

/-- What stands behind the first place of a keyword between two spaces. -/
def behind? (keyword text : Text) : Option Text :=
  (cutAt (' ' :: keyword ++ [' ']) text).map Prod.snd

/-- Words with a space in front of each. -/
def spaced (words : List Text) : Text :=
  words.flatMap (' ' :: ·)

/-- Words with a space between each two, if there are any. -/
def joined? : List Text → Option Text
  | [] => none
  | word :: rest => some (word ++ spaced rest)

/-- The words behind the first one that is the keyword. -/
def following (keyword : Text) : List Text → List Text
  | [] => []
  | word :: rest => if word = keyword then rest else following keyword rest

/-- A text between single quotation marks. -/
def inQuotes (text : Text) : Text :=
  '\'' :: text ++ ['\'']

variable {keyword : Text}

/-! ## Words -/

theorem spaced_cons (word : Text) (rest : List Text) :
    spaced (word :: rest) = ' ' :: (word ++ spaced rest) := rfl

theorem spaced_append (front back : List Text) :
    spaced (front ++ back) = spaced front ++ spaced back :=
  List.flatMap_append

/-- What is joined is the first text and then the others with the mark in front. -/
theorem joinWith_cons (mark : Char) (text : Text) (rest : List Text) :
    joinWith mark (text :: rest) = text ++ rest.flatMap (mark :: ·) := by
  induction rest generalizing text with
  | nil => exact (List.intercalate_singleton ..).trans (List.append_nil text).symm
  | cons next rest ih =>
      have hnext := ih next
      rw [joinWith] at hnext ⊢
      rw [List.intercalate_cons_cons, hnext, List.flatMap_cons]
      simp

theorem mem_spaced {words : List Text} {c : Char} (h : c ∈ spaced words) :
    c = ' ' ∨ ∃ word ∈ words, c ∈ word := by
  obtain ⟨word, hword, hc⟩ := List.mem_flatMap.mp h
  rcases List.mem_cons.mp hc with rfl | hc
  · exact .inl rfl
  · exact .inr ⟨word, hword, hc⟩

theorem following_append {front : List Text} (h : keyword ∉ front) (back : List Text) :
    following keyword (front ++ back) = following keyword back := by
  induction front with
  | nil => rfl
  | cons word front ih =>
      rw [List.mem_cons, not_or] at h
      rw [List.cons_append, following, if_neg (Ne.symm h.1), ih h.2]

/-! ## One step of the search -/

theorem behind?_nil (keyword : Text) : behind? keyword [] = none := rfl

/-- Where the keyword does not stand, the search goes on. -/
theorem behind?_cons {c : Char} {text : Text}
    (h : ¬ ' ' :: keyword ++ [' '] <+: c :: text) :
    behind? keyword (c :: text) = behind? keyword text := by
  have hnone : (' ' :: keyword ++ [' ']).isPrefixOf? (c :: text) = none := by
    rw [Option.eq_none_iff_forall_ne_some]
    intro after hafter
    exact h ⟨after, List.append_eq_of_isPrefixOf?_eq_some hafter⟩
  rw [behind?, cutAt, hnone, Option.map_map]
  rfl

/-- Where it stands, the search ends. -/
theorem behind?_keyword (keyword rest : Text) :
    behind? keyword (' ' :: (keyword ++ ' ' :: rest)) = some rest := by
  have hsome : (' ' :: keyword ++ [' ']).isPrefixOf? (' ' :: (keyword ++ ' ' :: rest))
      = some rest :=
    List.isPrefixOf?_eq_some_iff_append_eq.mpr (by simp)
  rw [behind?, cutAt, hsome]
  rfl

/-- A keyword that is nowhere in a text has nothing behind it. -/
theorem behind?_eq_none_iff {text : Text} :
    behind? keyword text = none ↔ ¬ ' ' :: keyword ++ [' '] <:+: text := by
  rw [behind?, Option.map_eq_none_iff]
  constructor
  · rintro h ⟨front, back, rfl⟩
    obtain ⟨before, more, hcut⟩ := cutAt_append (' ' :: keyword ++ [' ']) front back
    rw [List.append_assoc, hcut] at h
    exact nomatch h
  · intro h
    cases hcut : cutAt (' ' :: keyword ++ [' ']) text with
    | none => rfl
    | some sides =>
        refine absurd ⟨sides.1, sides.2, ?_⟩ h
        rw [List.append_assoc]
        exact (eq_of_cutAt hcut).symm

/-- What stands behind a keyword ends the text. -/
theorem suffix_of_behind? {text after : Text} (h : behind? keyword text = some after) :
    after <:+ text := by
  obtain ⟨⟨before, after⟩, hcut, rfl⟩ := Option.map_eq_some_iff.mp h
  rw [eq_of_cutAt hcut, ← List.append_assoc]
  exact List.suffix_append _ after

/-! ## The search in words -/

/-- The search passes over characters that are no spaces. -/
theorem behind?_append {front : Text} (h : ' ' ∉ front) (rest : Text) :
    behind? keyword (front ++ rest) = behind? keyword rest := by
  induction front with
  | nil => rfl
  | cons c front ih =>
      rw [List.mem_cons, not_or] at h
      rw [List.cons_append, behind?_cons, ih h.2]
      exact fun hprefix => h.1 (List.cons_prefix_cons.mp hprefix).1

/-- It passes over a word that is not the keyword. -/
theorem behind?_spaced_cons {word : Text} (hkeyword : ' ' ∉ keyword) (hspace : ' ' ∉ word)
    (hne : word ≠ keyword) (rest : List Text) :
    behind? keyword (spaced (word :: rest)) = behind? keyword (spaced rest) := by
  rw [spaced_cons, behind?_cons, behind?_append hspace]
  intro hprefix
  obtain ⟨after, hafter⟩ : keyword ++ [' '] <+: word ++ spaced rest :=
    (List.cons_prefix_cons.mp hprefix).2
  rw [List.append_assoc, List.singleton_append] at hafter
  cases rest with
  | nil =>
      have hmem : ' ' ∈ word ++ spaced [] := by
        rw [← hafter]
        exact List.mem_append_right keyword List.mem_cons_self
      exact hspace ((List.append_nil word).subst hmem)
  | cons next rest =>
      rw [spaced_cons] at hafter
      exact hne (eq_of_append_mark_eq hafter hkeyword hspace).1.symm

theorem behind?_spaced_append {front : List Text} (hkeyword : ' ' ∉ keyword)
    (hspace : ∀ word ∈ front, ' ' ∉ word) (hne : keyword ∉ front) (rest : List Text) :
    behind? keyword (spaced (front ++ rest)) = behind? keyword (spaced rest) := by
  induction front with
  | nil => rfl
  | cons word front ih =>
      obtain ⟨hword, hfront⟩ := List.forall_mem_cons.mp hspace
      rw [List.mem_cons, not_or] at hne
      rw [List.cons_append, behind?_spaced_cons hkeyword hword (Ne.symm hne.1), ih hfront hne.2]

/-- It ends at the keyword, unless this is the last word: then the space behind it is missing. -/
theorem behind?_spaced_self (hspace : ' ' ∉ keyword) (words : List Text) :
    behind? keyword (spaced (keyword :: words)) = joined? words := by
  cases words with
  | nil =>
      show behind? keyword (' ' :: (keyword ++ [])) = none
      rw [behind?_cons, behind?_append hspace, behind?_nil]
      rintro ⟨after, hafter⟩
      have hlength := congrArg List.length hafter
      simp only [List.length_append, List.length_cons, List.length_nil] at hlength
      omega
  | cons next rest => exact behind?_keyword keyword (next ++ spaced rest)

/-- **Among words without spaces the first one that is the keyword is found**, if it is not the
    last word. -/
theorem behind?_spaced (hkeyword : ' ' ∉ keyword) {words : List Text}
    (h : ∀ word ∈ words, ' ' ∉ word) :
    behind? keyword (spaced words) = joined? (following keyword words) := by
  induction words with
  | nil => rfl
  | cons word words ih =>
      obtain ⟨hword, hwords⟩ := List.forall_mem_cons.mp h
      rw [following]
      by_cases hfound : word = keyword
      · subst hfound
        rw [if_pos rfl, behind?_spaced_self hkeyword]
      · rw [if_neg hfound, behind?_spaced_cons hkeyword hword hfound, ih hwords]

/-! ## The search across a character -/

/-- A word without a character stands in front of a text with the character if it stands in front
    of what comes before the character. -/
theorem prefix_append_cons_iff {word : Text} {c : Char} (hc : c ∉ word) {left right : Text} :
    word <+: left ++ c :: right ↔ word <+: left := by
  constructor
  · intro h
    rcases List.prefix_or_prefix_of_prefix h (List.prefix_append left (c :: right)) with
      hshort | ⟨more, rfl⟩
    · exact hshort
    · cases more with
      | nil => rw [List.append_nil]
      | cons d more =>
          rw [List.prefix_append_right_inj, List.cons_prefix_cons] at h
          rw [h.1] at hc
          exact absurd (List.mem_append_right left List.mem_cons_self) hc
  · exact fun h => h.trans (List.prefix_append left _)

/-- **A keyword is found in front of a character that it does not have, or behind it.** -/
theorem behind?_append_cons {c : Char} (hc : c ∉ keyword) (hspace : c ≠ ' ') (left right : Text) :
    behind? keyword (left ++ c :: right)
      = ((behind? keyword left).map (· ++ c :: right)).or (behind? keyword right) := by
  have hpattern : c ∉ ' ' :: keyword ++ [' '] := by
    simp [hc, hspace]
  induction left with
  | nil =>
      rw [List.nil_append, behind?_cons, behind?_nil, Option.map_none, Option.none_or]
      exact fun hprefix => hspace (List.cons_prefix_cons.mp hprefix).1.symm
  | cons d left ih =>
      by_cases hprefix : ' ' :: keyword ++ [' '] <+: d :: left
      · obtain ⟨after, hafter⟩ := hprefix
        rw [← hafter, List.append_assoc, List.append_assoc, List.append_assoc]
        show behind? keyword (' ' :: (keyword ++ ' ' :: (after ++ c :: right)))
          = ((behind? keyword (' ' :: (keyword ++ ' ' :: after))).map (· ++ c :: right)).or _
        rw [behind?_keyword, behind?_keyword]
        rfl
      · have hlong : ¬ ' ' :: keyword ++ [' '] <+: d :: left ++ c :: right :=
          fun h => hprefix ((prefix_append_cons_iff hpattern).mp h)
        rw [behind?_cons hprefix, ← ih]
        exact behind?_cons hlong

/-- A keyword is found in a word in quotation marks, or behind it. -/
theorem behind?_spaced_inQuotes (hquote : '\'' ∉ keyword) (text : Text) (rest : List Text) :
    behind? keyword (spaced (inQuotes text :: rest))
      = ((behind? keyword text).map (· ++ '\'' :: spaced rest)).or
          (behind? keyword (spaced rest)) := by
  have hsplit : spaced (inQuotes text :: rest)
      = [' '] ++ '\'' :: (text ++ '\'' :: spaced rest) := by
    rw [spaced_cons, inQuotes]
    simp
  have hspace : behind? keyword [' '] = none := by
    rw [behind?_cons, behind?_nil]
    rintro ⟨after, hafter⟩
    have hlength := congrArg List.length hafter
    simp only [List.length_append, List.length_cons, List.length_nil] at hlength
    omega
  rw [hsplit, behind?_append_cons hquote (by decide), hspace, Option.map_none, Option.none_or]
  exact behind?_append_cons hquote (by decide) text (spaced rest)

end DirectoryRecords.Text
