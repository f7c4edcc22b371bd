import DirectoryRecords.Text.Blank
import Mathlib.Data.List.Infix
import Mathlib.Data.List.TakeWhile

/-!
# Cuts — what trimming, cutting and splitting give back

    The readers of this library cut a text at a character, at a word, or at
    every occurrence of a word. Each cut is described here from the other
    side, by the concatenation that it undoes:

    * trimming leaves a text alone that neither starts nor ends with a blank;
    * a cut at a character undoes putting the character after a text without
      it, a cut at a word finds the leftmost occurrence;
    * a split at a word undoes joining with it, as long as no piece makes an
      occurrence of its own. For a word between two spaces it is enough that
      the word itself is in no piece.
-/

namespace DirectoryRecords.Text

/-! ## Trimming -/

/-- A text neither starts nor ends with a blank. -/
def Unpadded (text : Text) : Prop :=
  (∀ c ∈ text.head?, isBlank c = false) ∧ ∀ c ∈ text.getLast?, isBlank c = false

/-- What holds of the first character of a text holds of its head. -/
theorem forall_head_cons {p : Char → Prop} {c : Char} (h : p c) (rest : Text) :
    ∀ d ∈ (c :: rest).head?, p d := by
  intro d hd
  rw [← Option.some.inj hd]
  exact h

/-- A text is not padded when its first and its last character are known and no blanks. -/
theorem unpadded_of_ends {text : Text} {first last : Char} (hfirst : text.head? = some first)
    (hlast : text.getLast? = some last) (hf : isBlank first = false)
    (hl : isBlank last = false) : Unpadded text := by
  constructor
  · intro c hc
    rw [hfirst] at hc
    rw [← Option.some.inj hc]
    exact hf
  · intro c hc
    rw [hlast] at hc
    rw [← Option.some.inj hc]
    exact hl

theorem trimStart_of_head {text : Text} (h : ∀ c ∈ text.head?, isBlank c = false) :
    trimStart text = text := by
  cases text with
  | nil => rfl
  | cons c rest =>
      have hc : isBlank c = false := h c rfl
      show List.dropWhile isBlank (c :: rest) = c :: rest
      rw [List.dropWhile_cons, hc]
      rfl

/-- Trimming stops at a character that is no blank. -/
theorem trimStart_append_cons {c : Char} (h : isBlank c = false) (front back : Text) :
    trimStart (front ++ c :: back) = trimStart front ++ c :: back := by
  induction front with
  | nil => exact trimStart_of_head (forall_head_cons h back)
  | cons d front ih =>
      show List.dropWhile isBlank (d :: (front ++ c :: back))
        = List.dropWhile isBlank (d :: front) ++ c :: back
      rw [List.dropWhile_cons, List.dropWhile_cons]
      split
      · exact ih
      · rfl

/-- Trimming leaves a text alone that has no blank at either end. -/
theorem trim_of_unpadded {text : Text} (h : Unpadded text) : trim text = text := by
  have hback : trimStart text.reverse = text.reverse := by
    refine trimStart_of_head ?_
    rw [List.head?_reverse]
    exact h.2
  rw [trim, trimStart_of_head h.1, trimEnd, hback, List.reverse_reverse]

theorem head_trimStart (text : Text) : ∀ c ∈ (trimStart text).head?, isBlank c = false := by
  intro c hc
  have hfirst := List.head?_dropWhile_not isBlank text
  rw [show (text.dropWhile isBlank).head? = some c from hc] at hfirst
  exact hfirst

/-- Trimming leaves no blank at either end. -/
theorem unpadded_trim (text : Text) : Unpadded (trim text) := by
  constructor
  · -- What the end loses does not change the beginning.
    intro c hc
    have hsuffix := List.reverse_prefix.mpr
      (List.dropWhile_suffix isBlank (l := (trimStart text).reverse))
    rw [List.reverse_reverse] at hsuffix
    obtain ⟨lost, hlost⟩ := hsuffix
    refine head_trimStart text c ?_
    rw [← hlost]
    show c ∈ (trim text ++ lost).head?
    rw [List.head?_append, Option.mem_def.mp hc]
    rfl
  · intro c hc
    rw [trim, trimEnd, List.getLast?_reverse] at hc
    exact head_trimStart _ c hc

theorem trim_trim (text : Text) : trim (trim text) = trim text :=
  trim_of_unpadded (unpadded_trim text)

/-- The characters of a trimmed text are characters of the text. -/
theorem mem_of_mem_trim {text : Text} {c : Char} (h : c ∈ trim text) : c ∈ text := by
  have hfront : c ∈ trimStart text := by
    rw [trim, trimEnd, List.mem_reverse] at h
    exact List.mem_reverse.mp ((List.dropWhile_sublist isBlank).mem h)
  exact (List.dropWhile_sublist isBlank).mem hfront

/-- White space in front of a text and behind it is trimmed away. -/
theorem trim_padded {front back : Text} (hfront : isAllBlank front = true)
    (hback : isAllBlank back = true) (text : Text) :
    trim (front ++ (text ++ back)) = trim text := by
  have hstart (rest : Text) : trimStart (front ++ rest) = trimStart rest :=
    List.dropWhile_append_of_pos (List.all_eq_true.mp hfront)
  have hend (rest : Text) : trimEnd (rest ++ back) = trimEnd rest := by
    rw [trimEnd, trimEnd, List.reverse_append]
    refine congrArg List.reverse (List.dropWhile_append_of_pos ?_)
    exact fun c hc => List.all_eq_true.mp hback c (List.mem_reverse.mp hc)
  rw [trim, hstart, trim]
  by_cases hblank : (trimStart text).isEmpty = true
  · have hnil := List.isEmpty_iff.mp hblank
    have hall : trimStart (text ++ back) = [] := by
      show (text ++ back).dropWhile isBlank = []
      rw [List.dropWhile_append, show text.dropWhile isBlank = [] from hnil]
      exact List.dropWhile_eq_nil_iff.mpr (List.all_eq_true.mp hback)
    rw [hnil, hall]
  · have hkept : trimStart (text ++ back) = trimStart text ++ back := by
      show (text ++ back).dropWhile isBlank = _
      rw [List.dropWhile_append]
      exact if_neg hblank
    rw [hkept, hend]

/-- A text is what trimming leaves, with white space around it. -/
theorem exists_padding (text : Text) :
    ∃ front back, isAllBlank front = true ∧ isAllBlank back = true ∧
      text = front ++ (trim text ++ back) := by
  have hback := List.takeWhile_append_dropWhile (p := isBlank) (l := (trimStart text).reverse)
  refine ⟨text.takeWhile isBlank, ((trimStart text).reverse.takeWhile isBlank).reverse,
    List.all_takeWhile, ?_, ?_⟩
  · show List.all _ isBlank = true
    rw [List.all_reverse]
    exact List.all_takeWhile
  · have hkept := congrArg List.reverse hback
    rw [List.reverse_append, List.reverse_reverse] at hkept
    rw [show trim text = ((trimStart text).reverse.dropWhile isBlank).reverse from rfl, hkept]
    exact (List.takeWhile_append_dropWhile (p := isBlank) (l := text)).symm

theorem isAllBlank_iff_trim_eq_nil {text : Text} : isAllBlank text = true ↔ trim text = [] := by
  constructor
  · intro h
    have hpadded := trim_padded h (show isAllBlank [] = true from rfl) []
    rw [List.nil_append, List.append_nil] at hpadded
    exact hpadded
  · intro h
    obtain ⟨front, back, hfront, hback, htext⟩ := exists_padding text
    rw [h, List.nil_append] at htext
    rw [htext, isAllBlank, List.all_append]
    exact Bool.and_eq_true_iff.mpr ⟨hfront, hback⟩

theorem not_mem_of_isAllBlank {text : Text} {mark : Char} (h : isAllBlank text = true)
    (hmark : isBlank mark = false) : mark ∉ text := by
  intro hmem
  rw [List.all_eq_true.mp h mark hmem] at hmark
  exact nomatch hmark

theorem not_isAllBlank {text : Text} (hne : text ≠ [])
    (h : ∀ c ∈ text.head?, isBlank c = false) : isAllBlank text = false := by
  cases text with
  | nil => exact absurd rfl hne
  | cons c rest =>
      have hc : isBlank c = false := h c rfl
      show (isBlank c && List.all rest isBlank) = false
      rw [hc]
      rfl

/-- The ends of a concatenation are those of its two sides. -/
theorem Unpadded.append {left right : Text} (hl : Unpadded left) (hr : Unpadded right)
    (hlne : left ≠ []) (hrne : right ≠ []) (between : Text) :
    Unpadded (left ++ (between ++ right)) := by
  constructor
  · intro c hc
    rw [List.head?_append_of_ne_nil left hlne] at hc
    exact hl.1 c hc
  · intro c hc
    rw [← List.append_assoc, List.getLast?_append_of_ne_nil _ hrne] at hc
    exact hr.2 c hc

/-! ## Cutting at a character -/

/-- A cut at a character undoes putting it after a text without it. -/
theorem cut_append {mark : Char} {before : Text} (h : mark ∉ before) (after : Text) :
    cut mark (before ++ mark :: after) = some (before, after) := by
  induction before with
  | nil => simp [cut]
  | cons c rest ih =>
      have hc : mark ≠ c := List.ne_of_not_mem_cons h
      have hrest : mark ∉ rest := List.not_mem_of_not_mem_cons h
      rw [List.cons_append, cut, if_neg (Ne.symm hc), ih hrest]
      rfl

/-- What a cut gives is the first way to part the text at the character. -/
theorem eq_of_cut {mark : Char} {text before after : Text}
    (h : cut mark text = some (before, after)) :
    text = before ++ mark :: after ∧ mark ∉ before := by
  induction text generalizing before with
  | nil => exact absurd h (by simp [cut])
  | cons c rest ih =>
      rw [cut] at h
      by_cases hc : c = mark
      · rw [if_pos hc] at h
        obtain ⟨rfl, rfl⟩ := Prod.mk.inj (Option.some.inj h)
        exact ⟨by rw [hc]; rfl, List.not_mem_nil⟩
      · rw [if_neg hc] at h
        obtain ⟨⟨front, back⟩, hcut, heq⟩ := Option.map_eq_some_iff.mp h
        obtain ⟨rfl, rfl⟩ := Prod.mk.inj heq
        obtain ⟨hrest, hfree⟩ := ih hcut
        refine ⟨by rw [hrest]; rfl, ?_⟩
        exact List.not_mem_cons_of_ne_of_not_mem (Ne.symm hc) hfree

/-- There is no cut in a text without the mark. -/
theorem cut_eq_none_iff {mark : Char} {text : Text} : cut mark text = none ↔ mark ∉ text := by
  constructor
  · intro h hmem
    obtain ⟨front, back, rfl, hfront⟩ := List.eq_append_cons_of_mem hmem
    rw [cut_append hfront] at h
    exact nomatch h
  · intro h
    cases hcut : cut mark text with
    | none => rfl
    | some sides =>
        obtain ⟨rfl, -⟩ := eq_of_cut hcut
        exact absurd (List.mem_append_right _ List.mem_cons_self) h

/-- A text is parted in one way only at the first mark. -/
theorem eq_of_append_mark_eq {mark : Char} {front front' back back' : Text}
    (h : front ++ mark :: back = front' ++ mark :: back') (hfront : mark ∉ front)
    (hfront' : mark ∉ front') : front = front' ∧ back = back' := by
  have hcut := cut_append hfront back
  rw [h, cut_append hfront' back'] at hcut
  obtain ⟨rfl, rfl⟩ := Prod.mk.inj (Option.some.inj hcut)
  exact ⟨rfl, rfl⟩

/-! ## Cutting at a word -/

/-- What a cut at a word gives is a way to part the text at the word. -/
theorem eq_of_cutAt {word text before after : Text}
    (h : cutAt word text = some (before, after)) : text = before ++ (word ++ after) := by
  induction text generalizing before with
  | nil =>
      rw [cutAt] at h
      by_cases hw : word.isEmpty = true
      · rw [if_pos hw] at h
        obtain ⟨rfl, rfl⟩ := Prod.mk.inj (Option.some.inj h)
        rw [List.isEmpty_iff.mp hw]
        rfl
      · rw [if_neg hw] at h
        exact absurd h (by simp)
  | cons c rest ih =>
      rw [cutAt] at h
      cases hp : word.isPrefixOf? (c :: rest) with
      | some found =>
          rw [hp] at h
          obtain ⟨rfl, rfl⟩ := Prod.mk.inj (Option.some.inj h)
          exact (List.append_eq_of_isPrefixOf?_eq_some hp).symm
      | none =>
          rw [hp] at h
          obtain ⟨⟨front, back⟩, hcut, heq⟩ := Option.map_eq_some_iff.mp h
          obtain ⟨rfl, rfl⟩ := Prod.mk.inj heq
          rw [ih hcut]
          rfl

/-- A cut at the empty word is made at once. -/
theorem cutAt_nil (text : Text) : cutAt [] text = some ([], text) := by
  cases text with
  | nil => rfl
  | cons c rest => rfl

/-- The cut is the leftmost one: where the word stands, it is found there or before, and
    nothing of what follows it there is lost. -/
theorem cutAt_append (word gap rest : Text) :
    ∃ before more, cutAt word (gap ++ (word ++ rest)) = some (before, more ++ rest) := by
  induction gap with
  | nil =>
      rw [List.nil_append]
      cases hw : word ++ rest with
      | nil =>
          obtain ⟨rfl, rfl⟩ := List.append_eq_nil_iff.mp hw
          exact ⟨[], [], rfl⟩
      | cons c tail =>
          have hp : word.isPrefixOf? (c :: tail) = some rest :=
            List.isPrefixOf?_eq_some_iff_append_eq.mpr hw
          refine ⟨[], [], ?_⟩
          rw [cutAt, hp]
          rfl
  | cons c gap ih =>
      rw [List.cons_append, cutAt]
      cases hp : word.isPrefixOf? (c :: (gap ++ (word ++ rest))) with
      | some found =>
          -- An earlier occurrence: what follows it is at least as long as `rest`.
          have heq := List.append_eq_of_isPrefixOf?_eq_some hp
          have hfound : found <:+ c :: (gap ++ (word ++ rest)) := ⟨word, heq⟩
          have hrest : rest <:+ c :: (gap ++ (word ++ rest)) :=
            ⟨c :: (gap ++ word), by simp⟩
          have hlen : rest.length ≤ found.length := by
            have := congrArg List.length heq
            simp only [List.length_append, List.length_cons] at this
            omega
          obtain ⟨more, rfl⟩ := List.suffix_of_suffix_length_le hrest hfound hlen
          exact ⟨[], more, rfl⟩
      | none =>
          obtain ⟨before, more, hcut⟩ := ih
          exact ⟨c :: before, more, by simp [hcut]⟩

/-- A word occurs in a text when it is an infix of it. -/
theorem occurs_iff (word text : Text) : occurs word text = true ↔ word <:+: text := by
  induction text with
  | nil => rw [occurs, List.isEmpty_iff, List.infix_nil]
  | cons c rest ih =>
      rw [occurs, Bool.or_eq_true, List.isPrefixOf_iff_prefix, ih, List.infix_cons_iff]

/-- A word without a character lies on one side of the character. -/
theorem infix_of_infix_append_cons {word left right : Text} {c : Char} (hc : c ∉ word)
    (h : word <:+: left ++ c :: right) : word <:+: left ∨ word <:+: right := by
  rcases List.infix_append_iff.mp h with hl | hr | ⟨front, back, rfl, hf, hb⟩
  -- A word across the border would go on with the character, so its right part is empty.
  · exact Or.inl hl
  · rcases List.infix_cons_iff.mp hr with hp | hr
    · rcases List.prefix_cons_iff.mp hp with rfl | ⟨more, rfl, -⟩
      · exact Or.inr (List.nil_infix)
      · exact absurd List.mem_cons_self hc
    · exact Or.inr hr
  · rcases List.prefix_cons_iff.mp hb with rfl | ⟨more, rfl, -⟩
    · rw [List.append_nil]
      exact Or.inl hf.isInfix
    · exact absurd (List.mem_append_right front List.mem_cons_self) hc

/-! ## Splitting at a character -/

/-- Where a split does not cut, the characters go to the first piece. -/
theorem splitOn_append_of_not_mem {mark : Char} {front : Text} (h : mark ∉ front)
    (rest : Text) :
    (front ++ rest).splitOn mark = (rest.splitOn mark).modifyHead (front ++ ·) := by
  induction front with
  | nil =>
      rw [List.nil_append]
      cases hpieces : rest.splitOn mark with
      | nil => rfl
      | cons piece pieces => rfl
  | cons c front ih =>
      have hc : ¬ (c == mark) = true := by
        rw [beq_iff_eq]
        exact Ne.symm (List.ne_of_not_mem_cons h)
      rw [List.cons_append, List.splitOn_cons_eq_if_modifyHead, if_neg hc,
        ih (List.not_mem_of_not_mem_cons h), List.modifyHead_modifyHead]
      rfl

theorem splitOn_of_not_mem {mark : Char} {text : Text} (h : mark ∉ text) :
    text.splitOn mark = [text] := by
  have hsplit := splitOn_append_of_not_mem h []
  rw [List.append_nil] at hsplit
  rw [hsplit]
  exact congrArg (fun piece => [piece]) (List.append_nil text)

/-- A split cuts first at the first mark. -/
theorem splitOn_append_cons {mark : Char} {front : Text} (h : mark ∉ front) (back : Text) :
    (front ++ mark :: back).splitOn mark = front :: back.splitOn mark := by
  rw [splitOn_append_of_not_mem h, List.splitOn_cons_eq_if_modifyHead,
    if_pos (beq_self_eq_true mark)]
  show [front ++ []] ++ _ = _
  rw [List.append_nil]
  rfl

/-- A text with the mark has more than one piece. -/
theorem exists_pieces {mark : Char} {text : Text} (h : mark ∈ text) :
    ∃ piece next pieces, text.splitOn mark = piece :: next :: pieces := by
  obtain ⟨front, back, rfl, hfront⟩ := List.eq_append_cons_of_mem h
  rw [splitOn_append_cons hfront]
  cases hback : back.splitOn mark with
  | nil => exact absurd hback (List.splitOn_ne_nil mark back)
  | cons next pieces => exact ⟨front, next, pieces, rfl⟩

/-- The characters of a piece are characters of the text. -/
theorem mem_of_mem_splitOn {mark : Char} {text piece : Text} (h : piece ∈ text.splitOn mark) :
    ∀ c ∈ piece, c ∈ text := by
  induction text generalizing piece with
  | nil =>
      intro c hc
      rw [List.mem_singleton.mp h] at hc
      exact hc
  | cons d rest ih =>
      intro c hc
      rw [List.splitOn_cons_eq_if_modifyHead] at h
      by_cases hd : (d == mark) = true
      · rw [if_pos hd] at h
        rcases List.mem_cons.mp h with rfl | hmem
        · exact absurd hc List.not_mem_nil
        · exact List.mem_cons_of_mem d (ih hmem c hc)
      · rw [if_neg hd] at h
        cases hrest : rest.splitOn mark with
        | nil => exact absurd hrest (List.splitOn_ne_nil mark rest)
        | cons first pieces =>
            rw [hrest] at h ih
            rcases List.mem_cons.mp h with rfl | hmem
            · rcases List.mem_cons.mp hc with rfl | hc
              · exact List.mem_cons_self
              · exact List.mem_cons_of_mem d (ih List.mem_cons_self c hc)
            · exact List.mem_cons_of_mem d (ih (List.mem_cons_of_mem first hmem) c hc)

/-- No piece has the mark. -/
theorem not_mem_of_mem_splitOn {mark : Char} {text piece : Text}
    (h : piece ∈ text.splitOn mark) : mark ∉ piece := by
  induction text generalizing piece with
  | nil =>
      rw [List.mem_singleton.mp h]
      exact List.not_mem_nil
  | cons c rest ih =>
      rw [List.splitOn_cons_eq_if_modifyHead] at h
      by_cases hc : (c == mark) = true
      · rw [if_pos hc] at h
        rcases List.mem_cons.mp h with rfl | hmem
        · exact List.not_mem_nil
        · exact ih hmem
      · rw [if_neg hc] at h
        cases hrest : rest.splitOn mark with
        | nil => exact absurd hrest (List.splitOn_ne_nil mark rest)
        | cons first pieces =>
            rw [hrest] at h ih
            rcases List.mem_cons.mp h with rfl | hmem
            · rw [beq_iff_eq] at hc
              exact List.not_mem_cons_of_ne_of_not_mem (Ne.symm hc) (ih List.mem_cons_self)
            · exact ih (List.mem_cons_of_mem first hmem)

/-- What follows a text without the mark goes to the last piece. -/
theorem exists_splitOn_append {mark : Char} {back : Text} (h : mark ∉ back) (text : Text) :
    ∃ pieces last, text.splitOn mark = pieces ++ [last] ∧
      (text ++ back).splitOn mark = pieces ++ [last ++ back] := by
  induction text with
  | nil => exact ⟨[], [], rfl, splitOn_of_not_mem h⟩
  | cons c rest ih =>
      obtain ⟨pieces, last, hrest, hboth⟩ := ih
      rw [List.cons_append, List.splitOn_cons_eq_if_modifyHead,
        List.splitOn_cons_eq_if_modifyHead, hrest, hboth]
      by_cases hc : (c == mark) = true
      · rw [if_pos hc, if_pos hc]
        exact ⟨[] :: pieces, last, rfl, rfl⟩
      · rw [if_neg hc, if_neg hc]
        cases pieces with
        | nil => exact ⟨[], c :: last, rfl, rfl⟩
        | cons piece pieces => exact ⟨(c :: piece) :: pieces, last, rfl, rfl⟩

theorem eq_of_splitOn_eq {mark : Char} {left right : Text}
    (h : left.splitOn mark = right.splitOn mark) : left = right :=
  calc left = [mark].intercalate (left.splitOn mark) := (List.intercalate_splitOn mark).symm
    _ = [mark].intercalate (right.splitOn mark) := by rw [h]
    _ = right := List.intercalate_splitOn mark

/-- **The pieces of a text are the last ones of another** if and only if it is the other text or
    its end behind a mark. -/
theorem splitOn_suffix_iff {mark : Char} {text whole : Text} :
    text.splitOn mark <:+ whole.splitOn mark ↔ whole = text ∨ mark :: text <:+ whole := by
  constructor
  · rintro ⟨front, hfront⟩
    by_cases hnil : front = []
    · rw [hnil, List.nil_append] at hfront
      exact .inl (eq_of_splitOn_eq hfront.symm)
    · have hpieces : ∀ piece ∈ front, mark ∉ piece := by
        intro piece hpiece
        have hmem : piece ∈ whole.splitOn mark := hfront ▸ List.mem_append_left _ hpiece
        exact not_mem_of_mem_splitOn hmem
      have hjoined : (joinWith mark front ++ mark :: text).splitOn mark = whole.splitOn mark := by
        rw [List.splitOn_append_cons_self, joinWith, List.splitOn_intercalate mark hpieces hnil,
          hfront]
      rw [← eq_of_splitOn_eq hjoined]
      exact .inr (List.suffix_append _ _)
  · rintro (rfl | ⟨front, rfl⟩)
    · exact List.suffix_refl _
    · rw [List.splitOn_append_cons_self]
      exact List.suffix_append _ _

/-! ## Splitting at a word -/

theorem splitFrom_skip (word front rest : Text) :
    splitFrom word front.length (front ++ rest) = splitFrom word 0 rest := by
  induction front with
  | nil => rfl
  | cons c front ih => exact ih

/-- A split begins a new piece after the word. -/
theorem splitFrom_word {word : Text} (hne : word ≠ []) (rest : Text) :
    splitFrom word 0 (word ++ rest) = [] :: splitFrom word 0 rest := by
  obtain ⟨c, tail, rfl⟩ := List.exists_cons_of_ne_nil hne
  have hp : (c :: tail).isPrefixOf (c :: (tail ++ rest)) = true :=
    List.isPrefixOf_iff_prefix.mpr ⟨rest, rfl⟩
  rw [List.cons_append, splitFrom, if_pos hp]
  -- The rest of the occurrence is passed over.
  exact congrArg ([] :: ·) (splitFrom_skip (c :: tail) tail rest)

/-- No occurrence of the word starts within the piece. -/
def NoStart (word piece rest : Text) : Prop :=
  ∀ front back, piece = front ++ back → back ≠ [] → ¬ word <+: back ++ rest

/-- A piece in which no occurrence starts stays whole. -/
theorem splitFrom_piece {word piece rest first : Text} {others : List Text}
    (h : NoStart word piece rest) (hrest : splitFrom word 0 rest = first :: others) :
    splitFrom word 0 (piece ++ rest) = (piece ++ first) :: others := by
  induction piece with
  | nil => exact hrest
  | cons c piece ih =>
      have hp : word.isPrefixOf (c :: (piece ++ rest)) = false := by
        rw [Bool.eq_false_iff]
        intro hp
        exact h [] (c :: piece) rfl (List.cons_ne_nil c piece)
          (List.isPrefixOf_iff_prefix.mp hp)
      have htail : NoStart word piece rest := by
        intro front back heq hne
        exact h (c :: front) back (by rw [heq]; rfl) hne
      rw [List.cons_append, splitFrom, if_neg (by rw [hp]; exact Bool.false_ne_true),
        ih htail]
      rfl

/-- A word between two spaces does not start within a piece that lacks the word, when a space
    or nothing comes next: it would reach over the end of the piece, where it has no space. -/
theorem noStart_spaced {core piece : Text} (hspace : ' ' ∉ core) (hpiece : ¬ core <:+: piece)
    (rest : Text) (hrest : ∀ c ∈ rest.head?, c = ' ') :
    NoStart (' ' :: core ++ [' ']) piece rest := by
  intro front back heq hne hp
  obtain ⟨c, tail, rfl⟩ := List.exists_cons_of_ne_nil hne
  have hin : ∀ {t : Text}, t <:+: tail → t <:+: piece := by
    intro t ht
    rw [heq]
    exact ht.trans ⟨front ++ [c], [], by simp⟩
  have hcore : core ++ [' '] <+: tail ++ rest := (List.cons_prefix_cons.mp hp).2
  rcases List.prefix_or_prefix_of_prefix hcore (List.prefix_append tail rest) with hshort | hlong
  · -- The word lies in the piece.
    have : core <:+: tail := ((List.prefix_append core [' ']).trans hshort).isInfix
    exact hpiece (hin this)
  · rcases List.prefix_concat_iff.mp hlong with hall | hpart
    · have : core <:+: tail := by
        rw [hall]
        exact (List.prefix_append core [' ']).isInfix
      exact hpiece (hin this)
    · -- The word goes on after the piece, at a character of it that is no space.
      obtain ⟨more, rfl⟩ := hpart
      cases more with
      | nil =>
          refine hpiece (hin ?_)
          rw [List.append_nil]
      | cons d more =>
          rw [List.append_assoc, List.prefix_append_right_inj] at hcore
          obtain ⟨after, rfl⟩ := hcore
          have hd : d = ' ' := hrest d rfl
          rw [hd] at hspace
          exact hspace (List.mem_append_right tail List.mem_cons_self)

/-- **Splitting undoes joining.** Pieces that are joined by a word between two spaces and that
    lack the word are what the split gives. -/
theorem splitAtWord_intercalate {core : Text} (hspace : ' ' ∉ core) :
    ∀ {pieces : List Text}, pieces ≠ [] → (∀ piece ∈ pieces, ¬ core <:+: piece) →
      splitAtWord (' ' :: core ++ [' ']) ((' ' :: core ++ [' ']).intercalate pieces)
        = pieces := by
  intro pieces hne hfree
  induction pieces with
  | nil => exact absurd rfl hne
  | cons piece rest ih =>
      have hpiece : ¬ core <:+: piece := hfree piece List.mem_cons_self
      by_cases hrest : rest = []
      · rw [hrest, List.intercalate_singleton]
        have hstart := noStart_spaced hspace hpiece [] (fun c hc => nomatch hc)
        have := splitFrom_piece hstart (show splitFrom _ 0 [] = [] :: [] from rfl)
        rwa [List.append_nil] at this
      · -- The word that is put in is the first one that is found, and splitting goes on behind it.
        rw [List.intercalate_cons_of_ne_nil hrest, List.append_assoc]
        have hstart := noStart_spaced hspace hpiece
          ((' ' :: core ++ [' ']) ++ (' ' :: core ++ [' ']).intercalate rest)
          (fun c hc => (Option.some.inj hc).symm)
        have hsplit := ih hrest fun p hp => hfree p (List.mem_cons_of_mem _ hp)
        have hword : splitFrom (' ' :: core ++ [' ']) 0
            ((' ' :: core ++ [' ']) ++ (' ' :: core ++ [' ']).intercalate rest)
              = [] :: rest := by
          rw [splitFrom_word (by simp)]
          exact congrArg _ hsplit
        have := splitFrom_piece hstart hword
        rwa [List.append_nil] at this

/-- A word without a space that occurs in joined pieces occurs in one of them, or between the
    spaces of what joins them. -/
theorem infix_of_infix_intercalate {word core : Text} (hword : ' ' ∉ word) {pieces : List Text}
    (h : word <:+: (' ' :: core ++ [' ']).intercalate pieces) :
    word <:+: core ∨ ∃ piece ∈ pieces, word <:+: piece := by
  induction pieces with
  | nil =>
      have hnil : word = [] := List.infix_nil.mp h
      rw [hnil]
      exact Or.inl List.nil_infix
  | cons piece rest ih =>
      by_cases hrest : rest = []
      · rw [hrest, List.intercalate_singleton] at h
        exact Or.inr ⟨piece, List.mem_cons_self, h⟩
      · rw [List.intercalate_cons_of_ne_nil hrest, List.append_assoc] at h
        simp only [List.cons_append, List.append_assoc, List.nil_append] at h
        rcases infix_of_infix_append_cons hword h with hpiece | h
        · exact Or.inr ⟨piece, List.mem_cons_self, hpiece⟩
        · rcases infix_of_infix_append_cons hword h with hcore | h
          · exact Or.inl hcore
          · rcases ih h with hcore | ⟨other, hmem, hother⟩
            · exact Or.inl hcore
            · exact Or.inr ⟨other, List.mem_cons_of_mem _ hmem, hother⟩

end DirectoryRecords.Text
