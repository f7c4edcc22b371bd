import DirectoryRecords.Filter.Escape
import DirectoryRecords.Proofs.Cuts

/-!
# Codes — what is read back of a value in a filter

    Writing a value puts parentheses and NUL into codes and leaves stars and
    backslashes as they stand; reading replaces every code. So the two do not
    undo each other: what is read back of a written value is what is read of
    the value itself (`unescape_escape`), and that is the value exactly when
    it contains no code of its own (`unescape_of_noCode`,
    `length_unescape_lt`).

    `code?` says what a backslash finds behind it. With it reading has one
    equation for a backslash and one for every other character, and the
    proofs below follow these two.
-/

namespace DirectoryRecords.Filter

open Text

/-! ## Reading, character by character -/

/-- The character that the first two of a text are the code of, and the text behind them. -/
def code? : Text → Option (Char × Text)
  | high :: low :: rest => (codedChar? high low).map (·, rest)
  | _ => none

theorem code?_cons_cons (high low : Char) (rest : Text) :
    code? (high :: low :: rest) = (codedChar? high low).map (·, rest) := rfl

/-- A code is two characters long. -/
theorem length_of_code? {text back : Text} {coded : Char}
    (h : code? text = some (coded, back)) : text.length = back.length + 2 := by
  match text, h with
  | high :: low :: rest, h =>
      obtain ⟨found, -, heq⟩ := Option.map_eq_some_iff.mp h
      obtain ⟨-, rfl⟩ := Prod.mk.inj heq
      rfl

/-- Reading keeps a character that is no backslash. -/
theorem unescape_cons_of_ne {c : Char} (h : c ≠ '\\') (rest : Text) :
    unescape (c :: rest) = c :: unescape rest := by
  match rest with
  | [] => rfl
  | [_] => rfl
  | high :: low :: rest =>
      rw [unescape, if_neg h]

/-- Reading keeps what stands in front of the first backslash. -/
theorem unescape_append_of_not_mem {front : Text} (h : '\\' ∉ front) (rest : Text) :
    unescape (front ++ rest) = front ++ unescape rest := by
  induction front with
  | nil => rfl
  | cons c front ih =>
      rw [List.cons_append, unescape_cons_of_ne (Ne.symm (List.ne_of_not_mem_cons h)),
        ih (List.not_mem_of_not_mem_cons h)]
      rfl

/-- Reading a backslash with a code behind it gives the character of the code. -/
theorem unescape_of_code? {rest back : Text} {coded : Char}
    (h : code? rest = some (coded, back)) :
    unescape ('\\' :: rest) = coded :: unescape back := by
  match rest, h with
  | high :: low :: rest, h =>
      obtain ⟨found, hfound, heq⟩ := Option.map_eq_some_iff.mp h
      obtain ⟨rfl, rfl⟩ := Prod.mk.inj heq
      rw [unescape, if_pos rfl, hfound]

/-- Reading keeps a backslash without a code behind it. -/
theorem unescape_of_code?_none {rest : Text} (h : code? rest = none) :
    unescape ('\\' :: rest) = '\\' :: unescape rest := by
  match rest, h with
  | [], _ => rfl
  | [_], _ => rfl
  | high :: low :: rest, h =>
      have hnone : codedChar? high low = none := Option.map_eq_none_iff.mp h
      rw [unescape, if_pos rfl, hnone]

/-! ## Values without a code -/

/-- No backslash of a value has a code behind it. -/
def NoCode (value : Text) : Prop :=
  ∀ front back, value = front ++ '\\' :: back → code? back = none

theorem NoCode.tail {c : Char} {rest : Text} (h : NoCode (c :: rest)) : NoCode rest := by
  intro front back heq
  exact h (c :: front) back (by rw [heq]; rfl)

/-- A value without a backslash has no code. -/
theorem noCode_of_free {value : Text} (h : '\\' ∉ value) : NoCode value := by
  rintro front back rfl
  exact absurd (List.mem_append_right front List.mem_cons_self) h

/-- A value without a code is read as it stands. -/
theorem unescape_of_noCode {value : Text} (h : NoCode value) : unescape value = value := by
  induction value with
  | nil => rfl
  | cons c rest ih =>
      by_cases hc : c = '\\'
      · subst hc
        rw [unescape_of_code?_none (h [] rest rfl), ih h.tail]
      · rw [unescape_cons_of_ne hc, ih h.tail]

/-- Reading never makes a value longer. -/
theorem length_unescape_le (value : Text) : (unescape value).length ≤ value.length := by
  -- Reading goes on two characters behind a code, so the induction is on the length.
  induction hn : value.length using Nat.strong_induction_on generalizing value with
  | _ n ih =>
      cases value with
      | nil => exact Nat.zero_le _
      | cons c rest =>
          rw [List.length_cons] at hn
          by_cases hc : c = '\\'
          · subst hc
            cases hcode : code? rest with
            | none =>
                have := ih rest.length (by omega) rest rfl
                rw [unescape_of_code?_none hcode, List.length_cons]
                omega
            | some found =>
                obtain ⟨coded, back⟩ := found
                have hlen := length_of_code? hcode
                have := ih back.length (by omega) back rfl
                rw [unescape_of_code? hcode, List.length_cons]
                omega
          · have := ih rest.length (by omega) rest rfl
            rw [unescape_cons_of_ne hc, List.length_cons]
            omega

/-- Reading makes a value with a code shorter. -/
theorem length_unescape_lt {value : Text} (h : ¬ NoCode value) :
    (unescape value).length < value.length := by
  induction value with
  | nil =>
      refine absurd ?_ h
      intro front back heq
      exact absurd heq (by simp)
  | cons c rest ih =>
      by_cases hc : c = '\\'
      · subst hc
        cases hcode : code? rest with
        | none =>
            have hrest : ¬ NoCode rest := by
              intro hno
              refine h ?_
              intro front back heq
              -- The first backslash has no code behind it, so a code lies in the rest.
              cases front with
              | nil =>
                  obtain ⟨-, rfl⟩ := List.cons.inj heq
                  exact hcode
              | cons d front => exact hno front back (List.cons.inj heq).2
            have := ih hrest
            rw [unescape_of_code?_none hcode, List.length_cons, List.length_cons]
            omega
        | some found =>
            obtain ⟨coded, back⟩ := found
            have hlen := length_of_code? hcode
            have := length_unescape_le back
            rw [unescape_of_code? hcode, List.length_cons, List.length_cons]
            omega
      · have hrest : ¬ NoCode rest := by
          intro hno
          refine h ?_
          intro front back heq
          cases front with
          | nil => exact absurd (List.cons.inj heq).1 hc
          | cons d front => exact hno front back (List.cons.inj heq).2
        have := ih hrest
        rw [unescape_cons_of_ne hc, List.length_cons, List.length_cons]
        omega

/-! ## Reading what was written -/

theorem escape_cons (c : Char) (rest : Text) :
    escape (c :: rest) = escapeChar c ++ escape rest := rfl

theorem escapeParenthesis_of_ne {c : Char} (ho : c ≠ '(') (hc : c ≠ ')') :
    escapeParenthesis c = [c] := by
  rw [escapeParenthesis.eq_def]
  split
  · exact absurd rfl ho
  · exact absurd rfl hc
  · rfl

theorem escapeChar_of_ne {c : Char} (h : c ≠ '\x00') : escapeChar c = escapeParenthesis c := by
  rw [escapeChar.eq_def]
  split
  · exact absurd rfl h
  · rfl

/-- A character is written as it stands, or as a code of it; in the latter case it is no
    hexadecimal digit and no plus sign, so it is part of no code itself. -/
theorem escapeChar_cases (c : Char) :
    escapeChar c = [c] ∨
      ∃ high low, escapeChar c = ['\\', high, low] ∧ codedChar? high low = some c
        ∧ c ≠ '+' ∧ hexDigit? c = none := by
  by_cases hz : c = '\x00'
  · subst hz
    exact Or.inr ⟨'0', '0', rfl, by decide⟩
  · rw [escapeChar_of_ne hz]
    by_cases ho : c = '('
    · subst ho
      exact Or.inr ⟨'2', '8', rfl, by decide⟩
    · by_cases hp : c = ')'
      · subst hp
        exact Or.inr ⟨'2', '9', rfl, by decide⟩
      · exact Or.inl (escapeParenthesis_of_ne ho hp)

/-- A character that is no digit is the first of no code unless it is the plus sign, and the
    last of none. -/
theorem codedChar?_of_no_digit {c : Char} (hp : c ≠ '+') (hd : hexDigit? c = none) (d : Char) :
    codedChar? c d = none ∧ codedChar? d c = none := by
  constructor
  · rw [codedChar?, if_neg hp, hd]
  · rw [codedChar?, hd]
    cases (if d = '+' then some 0 else hexDigit? d) with
    | none => rfl
    | some value => rfl

theorem codedChar?_backslash (c : Char) :
    codedChar? '\\' c = none ∧ codedChar? c '\\' = none :=
  codedChar?_of_no_digit (by decide) (by decide) c

/-- Behind a backslash a written text shows the code that the text itself shows. -/
theorem code?_escape (text : Text) :
    code? (escape text) = (code? text).map fun (coded, back) => (coded, escape back) := by
  cases text with
  | nil => rfl
  | cons high rest =>
      rcases escapeChar_cases high with hplain | ⟨a, b, hesc, -, hplus, hdigit⟩
      · cases rest with
        | nil =>
            rw [escape_cons, hplain]
            rfl
        | cons low back =>
            rcases escapeChar_cases low with hlow | ⟨a, b, hesc, -, hplus, hdigit⟩
            · rw [escape_cons, escape_cons, hplain, hlow, List.singleton_append,
                List.singleton_append, code?_cons_cons, code?_cons_cons, Option.map_map]
              rfl
            · -- A second character with a code is no digit, and a backslash is none either.
              rw [escape_cons, escape_cons, hplain, hesc, List.singleton_append,
                List.cons_append, code?_cons_cons, code?_cons_cons,
                (codedChar?_backslash high).2, (codedChar?_of_no_digit hplus hdigit high).2]
              rfl
      · -- What is written for the first character begins with a backslash, which ends any code.
        have hleft : code? (escape (high :: rest)) = none := by
          rw [escape_cons, hesc, List.cons_append, List.cons_append, code?_cons_cons,
            (codedChar?_backslash a).1]
          rfl
        rw [hleft]
        cases rest with
        | nil => rfl
        | cons low back =>
            rw [code?_cons_cons, (codedChar?_of_no_digit hplus hdigit low).1]
            rfl

/-- **What is read back.** Reading a written value gives what reading the value gives: the
    codes that writing put in are undone, and those that stood in it are replaced as well. -/
theorem unescape_escape (value : Text) : unescape (escape value) = unescape value := by
  induction hn : value.length using Nat.strong_induction_on generalizing value with
  | _ n ih =>
      cases value with
      | nil => rfl
      | cons c rest =>
          rw [List.length_cons] at hn
          by_cases hc : c = '\\'
          · subst hc
            rw [show escape ('\\' :: rest) = '\\' :: escape rest from rfl]
            -- A backslash of the value finds the same code behind it once the rest is written.
            have hcode := code?_escape rest
            cases hrest : code? rest with
            | none =>
                rw [hrest] at hcode
                rw [unescape_of_code?_none hcode, unescape_of_code?_none hrest,
                  ih rest.length (by omega) rest rfl]
            | some found =>
                obtain ⟨coded, back⟩ := found
                rw [hrest] at hcode
                have hlen := length_of_code? hrest
                rw [unescape_of_code? hcode, unescape_of_code? hrest,
                  ih back.length (by omega) back rfl]
          · rw [unescape_cons_of_ne hc, escape_cons]
            rcases escapeChar_cases c with hplain | ⟨high, low, hesc, hcoded, -, -⟩
            · rw [hplain, List.singleton_append, unescape_cons_of_ne hc,
                ih rest.length (by omega) rest rfl]
            · have hcode : code? (high :: low :: escape rest) = some (c, escape rest) := by
                rw [code?_cons_cons, hcoded]
                rfl
              rw [hesc]
              show unescape ('\\' :: high :: low :: escape rest) = _
              rw [unescape_of_code? hcode, ih rest.length (by omega) rest rfl]

/-! ## Stars in what was written -/

/-- No character but the star is written with a star. -/
theorem star_not_mem_escapeChar {c : Char} (h : c ≠ '*') : '*' ∉ escapeChar c := by
  rcases escapeChar_cases c with hplain | ⟨high, low, hesc, hcoded, -, -⟩
  · rw [hplain, List.mem_singleton]
    exact Ne.symm h
  · rw [hesc]
    intro hmem
    have hstar : ∀ d : Char, codedChar? '*' d = none ∧ codedChar? d '*' = none :=
      codedChar?_of_no_digit (by decide) (by decide)
    rcases List.mem_cons.mp hmem with heq | hmem
    · exact absurd heq (by decide)
    · rcases List.mem_cons.mp hmem with rfl | hmem
      · rw [(hstar low).1] at hcoded
        exact nomatch hcoded
      · rw [← List.mem_singleton.mp hmem, (hstar high).2] at hcoded
        exact nomatch hcoded

/-- The stars of a value are the stars of the written value. -/
theorem star_mem_escape (value : Text) : '*' ∈ escape value ↔ '*' ∈ value := by
  constructor
  · intro h
    obtain ⟨c, hmem, hc⟩ := List.mem_flatMap.mp h
    by_cases hstar : c = '*'
    · rw [← hstar]
      exact hmem
    · exact absurd hc (star_not_mem_escapeChar hstar)
  · intro h
    exact List.mem_flatMap.mpr ⟨'*', h, List.mem_singleton.mpr rfl⟩

/-- The parts of a written value between its stars are the parts of the value, written. -/
theorem splitOn_escape (value : Text) :
    (escape value).splitOn '*' = (value.splitOn '*').map escape := by
  induction value with
  | nil => rfl
  | cons c rest ih =>
      rw [escape_cons, List.splitOn_cons_eq_if_modifyHead]
      by_cases hc : c = '*'
      · subst hc
        rw [show escapeChar '*' ++ escape rest = '*' :: escape rest from rfl,
          List.splitOn_cons_eq_if_modifyHead, ih]
        rfl
      · rw [if_neg (by rw [beq_iff_eq]; exact hc),
          splitOn_append_of_not_mem (star_not_mem_escapeChar hc), ih]
        cases rest.splitOn '*' with
        | nil => rfl
        | cons piece pieces => rfl

/-- Only the lone star is written as a lone star. -/
theorem escape_eq_star (value : Text) : escape value = ['*'] ↔ value = ['*'] := by
  constructor
  · intro h
    match value with
    | [] => exact nomatch h
    | [c] =>
        have hmem : '*' ∈ [c] := (star_mem_escape [c]).mp (by rw [h]; exact List.mem_cons_self)
        rw [List.mem_singleton.mp hmem]
    | c :: d :: rest =>
        have hlen : ∀ x : Char, 1 ≤ (escapeChar x).length := by
          intro x
          rcases escapeChar_cases x with hx | ⟨high, low, hx, -⟩
          · rw [hx]; exact Nat.le_refl 1
          · rw [hx]; exact Nat.le_add_left 1 2
        have := congrArg List.length h
        rw [escape_cons, escape_cons, List.length_append, List.length_append] at this
        have hc := hlen c
        have hd := hlen d
        simp only [List.length_singleton] at this
        omega
  · rintro rfl
    rfl

end DirectoryRecords.Filter
