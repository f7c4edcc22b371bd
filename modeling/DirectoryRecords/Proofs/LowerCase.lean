import DirectoryRecords.Proofs.LetterCase
import Mathlib.Data.List.Chain

/-!
# Lower case — reached in one step

    What has been put into lower case stays as it is when it is put into
    lower case again. So a name can be lower-cased when it is written and once
    more when it is read, without being lost in between.

    For one character this is a fact about the table of letters: no
    counterpart in any run is a letter that has a counterpart itself. The runs
    stand in the order of their code points, so the ones to compare with a
    counterpart are those around it (`CaseRun.misses`), and where two runs do
    overlap, as with letters in pairs, one of them has the even code points
    and the other the odd ones.

    For a text the position of a sigma no longer matters, as neither of its
    small forms has a lower-case form other than itself.

    The table also says which small ASCII letters have capitals beyond ASCII:
    `k` and, with a dot of its own, `i`. A name without the two that is the
    lower-case form of a text differs from it in ASCII case only
    (`agrees_of_lower_eq`), so the two ways to compare names are one there.
-/

namespace DirectoryRecords.Text

/-! ## The table of letters -/

namespace CaseRun

/-- Whether none of the runs, which stand in order, holds a code point that is reached from
    `first` in steps of `stride` and is at most `last`. -/
def misses (first last stride : Nat) : List CaseRun → Bool
  | [] => true
  | other :: rest =>
    bif other.last.blt first then misses first last stride rest
    else bif last.blt other.first then true
    else other.stride == 2 && (stride == 2 || first == last) && first % 2 != other.first % 2 &&
      misses first last stride rest

theorem holds_iff (run : CaseRun) (n : Nat) :
    run.holds n = true ↔
      run.first ≤ n ∧ n ≤ run.last ∧ (n - run.first) % run.stride = 0 := by
  simp [holds, and_assoc]

/-- A run that is missed holds none of the code points. -/
theorem not_holds_of_misses {first last stride : Nat} {runs : List CaseRun}
    (hsorted : runs.Pairwise fun a b => a.first ≤ b.first)
    (h : misses first last stride runs = true) {n : Nat} (hfirst : first ≤ n) (hlast : n ≤ last)
    (hstep : (n - first) % stride = 0) {other : CaseRun} (hother : other ∈ runs) :
    ¬ other.holds n = true := by
  induction runs with
  | nil => cases hother
  | cons head rest ih =>
      obtain ⟨hhead, hrest⟩ := List.pairwise_cons.mp hsorted
      simp only [misses, cond_eq_ite, Nat.blt_eq] at h
      split at h
      · -- The first run ends before the code points start.
        rcases List.mem_cons.mp hother with rfl | hother
        · rw [holds_iff]
          omega
        · exact ih hrest h hother
      · split at h
        · -- The first run starts behind them, and so do all others.
          have hle : head.first ≤ other.first := by
            rcases List.mem_cons.mp hother with rfl | hother
            · exact Nat.le_refl _
            · exact hhead other hother
          rw [holds_iff]
          omega
        · -- They overlap, and are told apart by being even and odd.
          simp only [Bool.and_eq_true, Bool.or_eq_true, beq_iff_eq, bne_iff_ne] at h
          obtain ⟨⟨⟨hpairs, hsteps⟩, hodd⟩, hmisses⟩ := h
          rcases List.mem_cons.mp hother with rfl | hother
          · rw [holds_iff, hpairs]
            rcases hsteps with rfl | rfl <;> omega
          · exact ih hrest hmisses hother

/-- The counterparts of a run lie outside the given runs. -/
def LeadsOutOf (runs : List CaseRun) (run : CaseRun) : Prop :=
  0 ≤ (run.first : Int) + run.shift ∧
    misses ((run.first : Int) + run.shift).toNat ((run.last : Int) + run.shift).toNat run.stride
      runs = true

instance (runs : List CaseRun) (run : CaseRun) : Decidable (run.LeadsOutOf runs) :=
  inferInstanceAs (Decidable (_ ∧ _))

theorem LeadsOutOf.not_holds {runs : List CaseRun} {run : CaseRun} (h : run.LeadsOutOf runs)
    (hsorted : runs.Pairwise fun a b => a.first ≤ b.first) {n : Nat} (hn : run.holds n = true)
    {other : CaseRun} (hother : other ∈ runs) :
    ¬ other.holds ((n : Int) + run.shift).toNat = true := by
  obtain ⟨hstart, hmisses⟩ := h
  obtain ⟨hfirst, hlast, hstep⟩ := (run.holds_iff n).mp hn
  refine not_holds_of_misses hsorted hmisses (by omega) (by omega) ?_ hother
  have hshift : ((n : Int) + run.shift).toNat - ((run.first : Int) + run.shift).toNat
      = n - run.first := by
    omega
  rw [hshift, hstep]

end CaseRun

/-- The letters with a lower-case form that is not in the table: the ASCII capitals and `İ`. -/
def furtherCapitals : List CaseRun :=
  [⟨0x41, 0x5A, 1, 32⟩, ⟨0x130, 0x130, 1, 0⟩]

theorem sorted_lowerRuns : lowerRuns.Pairwise fun a b => a.first ≤ b.first := by
  let Before (a b : CaseRun) : Prop := a.first ≤ b.first
  have htrans : Trans Before Before Before := ⟨Nat.le_trans⟩
  have hchain : lowerRuns.IsChain Before := by decide +kernel
  exact List.isChain_iff_pairwise.mp hchain

/-- **No lower-case form has one of its own.** -/
theorem leadsOutOf_lowerRuns : ∀ run ∈ lowerRuns,
    run.LeadsOutOf lowerRuns ∧ run.LeadsOutOf furtherCapitals := by
  decide +kernel

/-! ## One character -/

/-- A number that is no code point stands for the character NUL. -/
theorem toNat_ofNat_or (n : Nat) : (Char.ofNat n).toNat = n ∨ Char.ofNat n = '\x00' := by
  by_cases h : n.isValidChar
  · rw [Char.ofNat, dif_pos h]
    exact .inl rfl
  · rw [Char.ofNat, dif_neg h]
    exact .inr rfl

/-- The character is its own lower-case form wherever it stands. -/
def Stable (c : Char) : Prop :=
  lowerChar c = [c] ∧ c ≠ 'Σ'

/-- A character that the tables do not change is stable. -/
theorem stable_of_not_holds {c : Char}
    (h : ∀ run ∈ lowerRuns, ¬ run.holds c.toNat = true)
    (hfurther : ∀ run ∈ furtherCapitals, ¬ run.holds c.toNat = true) : Stable c := by
  constructor
  · rw [lowerChar]
    split
    · have hc : c.toLower = c := by
        refine Decidable.byContradiction fun hcapital => ?_
        obtain ⟨n, rfl⟩ := capital_of_toLower_ne hcapital
        have hheld : ∀ n : Fin 26,
            (⟨0x41, 0x5A, 1, 32⟩ : CaseRun).holds (Char.ofNat (65 + n)).toNat = true := by decide
        exact hfurther _ List.mem_cons_self (hheld n)
      rw [hc]
    · split
      · next hdotted =>
        rw [hdotted] at hfurther
        exact absurd hfurther (by decide)
      · have hnone : lowerRuns.find? (CaseRun.holds · c.toNat) = none :=
          List.find?_eq_none.mpr h
        rw [CaseRun.apply, hnone, Char.ofNat_toNat]
  · rintro rfl
    exact absurd h (by decide +kernel)

/-- The counterpart of a code point in the table is stable. -/
theorem stable_of_counterpart {run : CaseRun} (hrun : run ∈ lowerRuns) {n : Nat}
    (hn : run.holds n = true) : Stable (Char.ofNat ((n : Int) + run.shift).toNat) := by
  obtain ⟨hlower, hfurther⟩ := leadsOutOf_lowerRuns run hrun
  rcases toNat_ofNat_or ((n : Int) + run.shift).toNat with hform | hnul
  · refine stable_of_not_holds (fun other hother => ?_) fun other hother => ?_
    · rw [hform]
      exact hlower.not_holds sorted_lowerRuns hn hother
    · rw [hform]
      exact hfurther.not_holds (by decide) hn hother
  · rw [hnul]
    exact ⟨by decide, by decide⟩

/-- The small letters that do not come from the table are stable. -/
theorem stable_of_small : ∀ c ∈ ['i', '\u0307', 'ς', 'σ'], Stable c := by
  -- A statement about all characters of the list would be decided by trying all there are.
  have hmisses : (['i', '\u0307', 'ς', 'σ'].all fun c =>
      CaseRun.misses c.toNat c.toNat 1 lowerRuns &&
        CaseRun.misses c.toNat c.toNat 1 furtherCapitals) = true := by
    decide +kernel
  intro c hc
  obtain ⟨hlower, hfurther⟩ := (Bool.and_eq_true _ _).mp (List.all_eq_true.mp hmisses c hc)
  refine stable_of_not_holds (fun run hrun => ?_) fun run hrun => ?_
  · exact CaseRun.not_holds_of_misses sorted_lowerRuns hlower (Nat.le_refl _) (Nat.le_refl _)
      (Nat.mod_one _) hrun
  · exact CaseRun.not_holds_of_misses (by decide) hfurther (Nat.le_refl _) (Nat.le_refl _)
      (Nat.mod_one _) hrun

/-- The lower-case form of a character is stable. -/
theorem stable_of_mem_lowerChar {c d : Char} (hc : c ≠ 'Σ') (h : d ∈ lowerChar c) : Stable d := by
  rw [lowerChar] at h
  split at h
  · next hascii =>
    rw [List.mem_singleton.mp h]
    constructor
    · rw [lowerChar_toLower, lowerChar, if_pos hascii]
    · rwa [Ne, eq_sigma_toLower]
  · next hbeyond =>
    split at h
    · exact stable_of_small d (List.mem_append_left ['ς', 'σ'] h)
    · next hdotted =>
      have hd := List.mem_singleton.mp h
      rw [CaseRun.apply] at hd
      cases hfind : lowerRuns.find? (CaseRun.holds · c.toNat) with
      | none =>
          rw [hfind] at hd
          obtain rfl : d = c := hd.trans (Char.ofNat_toNat c)
          refine ⟨?_, hc⟩
          rw [lowerChar, if_neg hbeyond, if_neg hdotted, CaseRun.apply, hfind, Char.ofNat_toNat]
      | some run =>
          rw [hfind] at hd
          rw [hd]
          exact stable_of_counterpart (List.mem_of_find?_eq_some hfind)
            (List.find?_some (p := fun run : CaseRun => run.holds c.toNat) hfind)

/-! ## Texts -/

theorem stable_of_mem_lowerFrom {text : Text} {inWord : Bool} {d : Char}
    (h : d ∈ lowerFrom inWord text) : Stable d := by
  induction text generalizing inWord with
  | nil => cases h
  | cons c rest ih =>
      rw [lowerFrom] at h
      rcases List.mem_append.mp h with h | h
      · split at h
        · refine stable_of_small d ?_
          rw [List.mem_singleton.mp h]
          split <;> simp
        · next hsigma => exact stable_of_mem_lowerChar hsigma h
      · exact ih h

theorem lowerFrom_of_stable {text : Text} (h : ∀ c ∈ text, Stable c) (inWord : Bool) :
    lowerFrom inWord text = text := by
  induction text generalizing inWord with
  | nil => rfl
  | cons c rest ih =>
      obtain ⟨⟨hform, hsigma⟩, hrest⟩ := List.forall_mem_cons.mp h
      rw [lowerFrom, if_neg hsigma, hform, ih hrest]
      rfl

/-- **A text in lower case stays as it is.** -/
theorem lower_lower (text : Text) : lower (lower text) = lower text :=
  lowerFrom_of_stable (fun _ => stable_of_mem_lowerFrom) false

/-! ## Texts that only ASCII texts lead to -/

/-- An ASCII character that is no lower-case form of another character than ASCII ones: the small
    `i` comes from `İ` as well, and the small `k` from the Kelvin sign. -/
def FromAscii (c : Char) : Prop :=
  c.toNat < 0x80 ∧ c ≠ 'i' ∧ c ≠ 'k' ∧ c ≠ '\x00'

instance (c : Char) : Decidable (FromAscii c) :=
  inferInstanceAs (Decidable (_ ∧ _))

/-- All counterparts lie beyond ASCII but that of the Kelvin sign. -/
theorem beyond_ascii_or_kelvin : ∀ run ∈ lowerRuns,
    0x80 ≤ (run.first : Int) + run.shift ∨
      run.first = run.last ∧ (run.first : Int) + run.shift = 0x6B := by
  decide +kernel

theorem not_fromAscii_of_counterpart {run : CaseRun} (hrun : run ∈ lowerRuns) {n : Nat}
    (hn : run.holds n = true) : ¬ FromAscii (Char.ofNat ((n : Int) + run.shift).toNat) := by
  obtain ⟨hfirst, hlast, -⟩ := (run.holds_iff n).mp hn
  rintro ⟨hascii, -, hkelvin, hnul⟩
  rcases toNat_ofNat_or ((n : Int) + run.shift).toNat with hform | hform
  · rcases beyond_ascii_or_kelvin run hrun with hbeyond | ⟨halone, hk⟩
    · omega
    · have hn : ((n : Int) + run.shift).toNat = 0x6B := by omega
      rw [hn] at hkelvin
      exact hkelvin rfl
  · exact hnul hform

/-- The lower-case form of a character beyond ASCII has no character that only ASCII leads to. -/
theorem not_fromAscii_of_mem_lowerChar {c d : Char} (hc : ¬ c.toNat < 0x80)
    (hd : d ∈ lowerChar c) : ¬ FromAscii d := by
  rw [lowerChar, if_neg hc] at hd
  split at hd
  · rcases List.mem_cons.mp hd with rfl | hd
    · decide
    · rw [List.mem_singleton.mp hd]
      decide
  · rw [List.mem_singleton.mp hd, CaseRun.apply]
    cases hfind : lowerRuns.find? (CaseRun.holds · c.toNat) with
    | none =>
        show ¬ FromAscii (Char.ofNat c.toNat)
        rw [Char.ofNat_toNat]
        exact fun h => hc h.1
    | some run =>
        exact not_fromAscii_of_counterpart (List.mem_of_find?_eq_some hfind)
          (List.find?_some (p := fun run : CaseRun => run.holds c.toNat) hfind)

theorem lowerChar_ne_nil (c : Char) : lowerChar c ≠ [] := by
  rw [lowerChar]
  split
  · exact List.cons_ne_nil _ _
  · split <;> exact List.cons_ne_nil _ _

/-- A text with such a lower-case form is an ASCII text, so only its ASCII letters have changed. -/
theorem lowerFrom_eq_asciiLower {inWord : Bool} {text : Text}
    (h : ∀ d ∈ lowerFrom inWord text, FromAscii d) :
    lowerFrom inWord text = asciiLower text := by
  induction text generalizing inWord with
  | nil => rfl
  | cons c rest ih =>
      rw [lowerFrom, List.forall_mem_append] at h
      obtain ⟨hfirst, hrest⟩ := h
      have hsigma : c ≠ 'Σ' := by
        intro hc
        rw [if_pos hc] at hfirst
        have hform := hfirst _ List.mem_cons_self
        split at hform <;> exact absurd hform (by decide)
      rw [if_neg hsigma] at hfirst
      have hascii : c.toNat < 0x80 := by
        refine Decidable.byContradiction fun hbeyond => ?_
        obtain ⟨d, hd⟩ := List.exists_mem_of_ne_nil _ (lowerChar_ne_nil c)
        exact not_fromAscii_of_mem_lowerChar hbeyond hd (hfirst d hd)
      rw [lowerFrom, if_neg hsigma, lowerChar, if_pos hascii, ih hrest]
      rfl

/-- **Where only ASCII texts lead to a lower-case form, the text agrees with it.** -/
theorem agrees_of_lower_eq {text word : Text} (h : lower text = word)
    (hword : ∀ d ∈ word, FromAscii d) : agrees text word = true := by
  have hsame : lower word = word := by
    rw [← h, lower_lower]
  subst h
  rw [agrees_iff, asciiLower_of_lower_eq hsame]
  exact (lowerFrom_eq_asciiLower hword).symm

end DirectoryRecords.Text
