import DirectoryRecords.Proofs.Cuts
import DirectoryRecords.Text.AsciiCase
import DirectoryRecords.Text.Case

/-!
# Letter case — the full lower case of a text does not see ASCII case

    Names are compared in two ways: by agreement, where only the ASCII
    letters lose their case, and by full lower case, where every letter does.
    The second way is the coarser one: names that agree have the same
    lower-case form (`lower_eq_of_agrees`).

    A letter may depend on its word, but what counts there, whether a
    character is cased and whether it is passed over, is the same for both
    cases of an ASCII letter. So lower-casing goes through a text whose ASCII
    letters have lost their case step by step as it does through the text.

    In the other direction, a text that is its own lower-case form has no
    ASCII capitals (`asciiLower_of_lower_eq`).

    The marks at which texts are cut are no letters (`Caseless`), and neither
    is white space. So a text whose ASCII letters change their case is cut at
    the same places: trimming and splitting go through the change.
-/

namespace DirectoryRecords.Text

/-! ## One character -/

/-- The characters that ASCII lower-casing changes are the letters from `A` to `Z`. -/
theorem capital_of_toLower_ne {c : Char} (h : c.toLower ≠ c) :
    ∃ n : Fin 26, c = Char.ofNat (65 + n) := by
  have hrange : c.val ≥ 'A'.val ∧ c.val ≤ 'Z'.val := by
    refine Decidable.byContradiction fun hnot => h ?_
    exact dif_neg hnot
  have hfirst : 65 ≤ c.toNat := UInt32.le_iff_toNat_le.mp hrange.1
  have hlast : c.toNat ≤ 90 := UInt32.le_iff_toNat_le.mp hrange.2
  refine ⟨⟨c.toNat - 65, by omega⟩, ?_⟩
  show c = Char.ofNat (65 + (c.toNat - 65))
  rw [Nat.add_sub_cancel' hfirst, Char.ofNat_toNat]

/-- What the capital ASCII letters have in common with the small ones, a character has in common
    with its ASCII lower-case form. -/
theorem same_toLower {α : Type} {f : Char → α}
    (h : ∀ n : Fin 26, f (Char.ofNat (65 + n)).toLower = f (Char.ofNat (65 + n))) (c : Char) :
    f c.toLower = f c := by
  by_cases hc : c.toLower = c
  · rw [hc]
  · obtain ⟨n, rfl⟩ := capital_of_toLower_ne hc
    exact h n

theorem isCaseIgnorable_toLower (c : Char) : isCaseIgnorable c.toLower = isCaseIgnorable c :=
  same_toLower (by decide) c

theorem isCased_toLower (c : Char) : isCased c.toLower = isCased c :=
  same_toLower (by decide) c

theorem lowerChar_toLower (c : Char) : lowerChar c.toLower = lowerChar c :=
  same_toLower (by decide) c

theorem eq_sigma_toLower (c : Char) : (c.toLower = 'Σ') = (c = 'Σ') :=
  same_toLower (f := (· = 'Σ')) (by decide) c

/-! ## Texts -/

theorem startsCased_cons (c : Char) (rest : Text) :
    startsCased (c :: rest) = if isCaseIgnorable c then startsCased rest else isCased c := by
  rw [startsCased, List.dropWhile_cons]
  by_cases h : isCaseIgnorable c = true
  · rw [if_pos h, if_pos h]
    rfl
  · rw [if_neg h, if_neg h]

/-- The first character that counts stays where it is. -/
theorem startsCased_asciiLower (text : Text) :
    startsCased (asciiLower text) = startsCased text := by
  induction text with
  | nil => rfl
  | cons c rest ih =>
      show startsCased (c.toLower :: asciiLower rest) = startsCased (c :: rest)
      rw [startsCased_cons, startsCased_cons, isCaseIgnorable_toLower, isCased_toLower, ih]

/-- Lower-casing is the same for a text without its ASCII case, inside a word and outside. -/
theorem lowerFrom_asciiLower (inWord : Bool) (text : Text) :
    lowerFrom inWord (asciiLower text) = lowerFrom inWord text := by
  induction text generalizing inWord with
  | nil => rfl
  | cons c rest ih =>
      show lowerFrom inWord (c.toLower :: asciiLower rest) = lowerFrom inWord (c :: rest)
      rw [lowerFrom, lowerFrom, ih, startsCased_asciiLower, isCaseIgnorable_toLower,
        isCased_toLower, lowerChar_toLower]
      simp only [eq_sigma_toLower]

theorem asciiLower_asciiLower (text : Text) : asciiLower (asciiLower text) = asciiLower text := by
  rw [asciiLower, asciiLower, List.map_map]
  exact List.map_congr_left fun c _ => same_toLower (by decide) c

theorem lower_asciiLower (text : Text) : lower (asciiLower text) = lower text :=
  lowerFrom_asciiLower false text

theorem agrees_asciiLower (text : Text) : agrees (asciiLower text) text = true := by
  rw [agrees_iff, asciiLower_asciiLower]

/-- Names that agree do so with the same names. -/
theorem agrees_congr {left right : Text} (h : agrees left right = true) (name : Text) :
    agrees name left = agrees name right := by
  rw [agrees, agrees, (agrees_iff left right).mp h]

/-- **Names that agree have the same lower-case form.** -/
theorem lower_eq_of_agrees {left right : Text} (h : agrees left right = true) :
    lower left = lower right := by
  rw [← lower_asciiLower left, (agrees_iff left right).mp h, lower_asciiLower]

/-! ## Texts in lower case -/

/-- Where the lower-case form of a character starts with the character, it is nothing else, and
    the character is no ASCII capital. -/
theorem toLower_eq_of_lowerChar_append {c : Char} {before after : Text}
    (h : lowerChar c ++ before = c :: after) : c.toLower = c ∧ before = after := by
  rw [lowerChar] at h
  by_cases hascii : c.toNat < 0x80
  · rw [if_pos hascii] at h
    exact List.cons.inj h
  · rw [if_neg hascii] at h
    by_cases hdotted : c = 'İ'
    · rw [hdotted] at h
      exact absurd (List.cons.inj h).1 (by decide)
    · rw [if_neg hdotted] at h
      refine ⟨Decidable.byContradiction fun hcapital => hascii ?_, (List.cons.inj h).2⟩
      obtain ⟨n, rfl⟩ := capital_of_toLower_ne hcapital
      exact (by decide : ∀ n : Fin 26, (Char.ofNat (65 + n)).toNat < 0x80) n

theorem asciiLower_of_lowerFrom {inWord : Bool} {text : Text}
    (h : lowerFrom inWord text = text) : asciiLower text = text := by
  induction text generalizing inWord with
  | nil => rfl
  | cons c rest ih =>
      rw [lowerFrom] at h
      by_cases hsigma : c = 'Σ'
      · rw [if_pos hsigma, hsigma] at h
        have hhead := (List.cons.inj h).1
        split at hhead <;> exact absurd hhead (by decide)
      · rw [if_neg hsigma] at h
        obtain ⟨hc, hrest⟩ := toLower_eq_of_lowerChar_append h
        show c.toLower :: asciiLower rest = c :: rest
        rw [hc, ih hrest]

/-- A text that is its own lower-case form has no ASCII capitals. -/
theorem asciiLower_of_lower_eq {text : Text} (h : lower text = text) : asciiLower text = text :=
  asciiLower_of_lowerFrom h

/-! ## Marks -/

/-- A character that is no ASCII letter, so that no change of letter case makes it or takes it
    away. -/
def Caseless (mark : Char) : Prop := mark.isAlpha = false

instance (mark : Char) : Decidable (Caseless mark) :=
  inferInstanceAs (Decidable (_ = _))

section

variable {mark : Char} {text other : Text}

theorem Caseless.toLower_eq_iff (h : Caseless mark) (c : Char) : c.toLower = mark ↔ c = mark := by
  refine iff_of_eq (same_toLower (f := (· = mark)) (fun n => ?_) c)
  have hletters : ∀ n : Fin 26, (Char.ofNat (65 + n)).isAlpha = true ∧
      (Char.ofNat (65 + n)).toLower.isAlpha = true := by decide
  have hne : ∀ letter : Char, letter.isAlpha = true → letter ≠ mark := by
    rintro letter hletter rfl
    exact Bool.false_ne_true (h.symm.trans hletter)
  exact propext (iff_of_false (hne _ (hletters n).2) (hne _ (hletters n).1))

theorem Caseless.mem_asciiLower_iff (h : Caseless mark) : mark ∈ asciiLower text ↔ mark ∈ text := by
  rw [asciiLower, List.mem_map]
  constructor
  · rintro ⟨c, hmem, hc⟩
    rwa [← (h.toLower_eq_iff c).mp hc]
  · intro hmem
    exact ⟨mark, hmem, (h.toLower_eq_iff mark).mpr rfl⟩

/-- Only a mark has the form of the mark. -/
theorem Caseless.asciiLower_eq_singleton_iff (h : Caseless mark) :
    asciiLower text = [mark] ↔ text = [mark] := by
  rw [asciiLower, List.map_eq_singleton_iff]
  simp only [h.toLower_eq_iff, exists_eq_right]

theorem Caseless.asciiLower_cons (h : Caseless mark) (rest : Text) :
    asciiLower (mark :: rest) = mark :: asciiLower rest := by
  show mark.toLower :: asciiLower rest = _
  rw [(h.toLower_eq_iff mark).mpr rfl]

/-- Texts that agree have the same marks. -/
theorem Caseless.mem_iff_of_agrees (h : Caseless mark) (heq : agrees text other = true) :
    mark ∈ text ↔ mark ∈ other := by
  rw [← h.mem_asciiLower_iff, (agrees_iff text other).mp heq, h.mem_asciiLower_iff]

theorem Caseless.eq_singleton_iff_of_agrees (h : Caseless mark) (heq : agrees text other = true) :
    text = [mark] ↔ other = [mark] := by
  rw [← h.asciiLower_eq_singleton_iff, (agrees_iff text other).mp heq,
    h.asciiLower_eq_singleton_iff]

/-- What agrees with a text that starts with a mark starts with the mark. -/
theorem Caseless.exists_cons_of_agrees (h : Caseless mark)
    (heq : agrees (mark :: text) other = true) :
    ∃ rest, other = mark :: rest ∧ agrees text rest = true := by
  rw [agrees_iff, h.asciiLower_cons] at heq
  obtain ⟨c, rest, rfl, hc, hrest⟩ := List.map_eq_cons_iff.mp heq.symm
  exact ⟨rest, by rw [(h.toLower_eq_iff c).mp hc], (agrees_iff text rest).mpr hrest.symm⟩

/-- What agrees with a concatenation is one. -/
theorem exists_append_of_agrees {left right : Text} (heq : agrees (left ++ right) other = true) :
    ∃ front back, other = front ++ back ∧ agrees left front = true ∧
      agrees right back = true := by
  rw [agrees_iff, show asciiLower (left ++ right) = asciiLower left ++ asciiLower right from
    List.map_append] at heq
  obtain ⟨front, back, rfl, hfront, hback⟩ := List.map_eq_append_iff.mp heq.symm
  exact ⟨front, back, rfl, (agrees_iff left front).mpr hfront.symm,
    (agrees_iff right back).mpr hback.symm⟩

/-! ## Trimming and splitting -/

theorem isBlank_toLower (c : Char) : isBlank c.toLower = isBlank c :=
  same_toLower (by decide) c

theorem isAllBlank_asciiLower (text : Text) :
    isAllBlank (asciiLower text) = isAllBlank text := by
  rw [isAllBlank, asciiLower, List.all_map]
  exact congrArg (List.all text) (funext isBlank_toLower)

theorem trimStart_asciiLower (text : Text) :
    trimStart (asciiLower text) = asciiLower (trimStart text) := by
  show (text.map Char.toLower).dropWhile isBlank = _
  rw [List.dropWhile_map]
  simp only [Function.comp_def, isBlank_toLower]
  rfl

theorem trim_asciiLower (text : Text) : trim (asciiLower text) = asciiLower (trim text) := by
  have hreverse : ∀ t : Text, (asciiLower t).reverse = asciiLower t.reverse := fun t =>
    List.map_reverse.symm
  rw [trim, trim, trimStart_asciiLower, trimEnd, trimEnd, hreverse, trimStart_asciiLower, hreverse]

/-- Texts that agree do so once they are trimmed. -/
theorem agrees_trim (h : agrees text other = true) : agrees (trim text) (trim other) = true := by
  rw [agrees_iff] at h ⊢
  rw [← trim_asciiLower, h, trim_asciiLower]

theorem cut_asciiLower (h : Caseless mark) (text : Text) :
    cut mark (asciiLower text)
      = (cut mark text).map fun (before, after) => (asciiLower before, asciiLower after) := by
  cases hcut : cut mark text with
  | none =>
      rw [cut_eq_none_iff] at hcut
      exact cut_eq_none_iff.mpr (mt h.mem_asciiLower_iff.mp hcut)
  | some sides =>
      obtain ⟨before, after⟩ := sides
      obtain ⟨rfl, hbefore⟩ := eq_of_cut hcut
      have happend : asciiLower (before ++ mark :: after)
          = asciiLower before ++ mark :: asciiLower after := by
        rw [← h.asciiLower_cons]
        exact List.map_append
      rw [happend]
      exact cut_append (mt h.mem_asciiLower_iff.mp hbefore) _

theorem splitOn_asciiLower (h : Caseless mark) (text : Text) :
    (asciiLower text).splitOn mark = (text.splitOn mark).map asciiLower := by
  induction text with
  | nil => rfl
  | cons c rest ih =>
      show (c.toLower :: asciiLower rest).splitOn mark = _
      rw [List.splitOn_cons_eq_if_modifyHead, List.splitOn_cons_eq_if_modifyHead, ih]
      by_cases hc : c = mark
      · rw [if_pos (beq_iff_eq.mpr hc), if_pos (beq_iff_eq.mpr ((h.toLower_eq_iff c).mpr hc))]
        rfl
      · have hlower : c.toLower ≠ mark := fun heq => hc ((h.toLower_eq_iff c).mp heq)
        rw [if_neg (by rw [beq_iff_eq]; exact hlower), if_neg (by rw [beq_iff_eq]; exact hc)]
        cases rest.splitOn mark with
        | nil => rfl
        | cons piece pieces => rfl

end

end DirectoryRecords.Text
