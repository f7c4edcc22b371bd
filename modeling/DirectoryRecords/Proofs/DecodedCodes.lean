import DirectoryRecords.Proofs.Codes

/-!
# Decoded codes — what reading puts in the place of a code

    Decoding goes over a value from left to right. Where a backslash has a code
    behind it, the two characters of the code go with it and the character that
    they are the number of comes in their place; every other character is kept
    (`Decoded`, for any notion of a code). Digits are given by their places in
    two rows, so this says nothing of how digits are computed.

    What reading takes for a code are two hexadecimal digits, and also a plus
    sign with one digit (`codedChar?_eq_some_iff`). So reading is decoding for
    that notion of a code (`decoded_iff`), and it is decoding of hexadecimal
    pairs exactly for values without a plus sign in that place: one step of
    each kind shows that the two notions part at the first such code, where one
    gives a control character and the other keeps the backslash
    (`unsigned_of_decoded`).
-/

namespace DirectoryRecords.Filter

open Text

/-! ## Digits -/

/-- The hexadecimal digits in the order of their values, in either letter case. -/
def digitRows : List Text := ["0123456789abcdef", "0123456789ABCDEF"]

/-- A character is a digit of a value. -/
def HexDigit (c : Char) (value : Nat) : Prop :=
  ∃ row ∈ digitRows, row[value]? = some c

/-- A row that goes up with the characters of a range has each of them in its place. -/
theorem getElem?_of_range {first last c : Char} {row : Text} (start : Nat)
    (hrow : ∀ n : Fin (last.toNat - first.toNat + 1),
      row[n.val + start]? = some (Char.ofNat (first.toNat + n)))
    (h : first ≤ c ∧ c ≤ last) : row[c.toNat - first.toNat + start]? = some c := by
  have hfirst : first.toNat ≤ c.toNat := UInt32.le_iff_toNat_le.mp h.1
  have hlast : c.toNat ≤ last.toNat := UInt32.le_iff_toNat_le.mp h.2
  have hplace := hrow ⟨c.toNat - first.toNat, by omega⟩
  rw [Nat.add_sub_cancel' hfirst, Char.ofNat_toNat] at hplace
  exact hplace

theorem length_of_mem_digitRows {row : Text} (h : row ∈ digitRows) : row.length = 16 :=
  (by decide : ∀ row ∈ digitRows, row.length = 16) row h

/-- The digits that are read are those of the rows. -/
theorem hexDigit?_eq_some_iff {c : Char} {value : Nat} :
    hexDigit? c = some value ↔ HexDigit c value := by
  constructor
  · intro h
    rw [hexDigit?] at h
    by_cases hnumeral : '0' ≤ c ∧ c ≤ '9'
    · rw [if_pos hnumeral] at h
      obtain rfl := Option.some.inj h
      exact ⟨_, List.mem_cons_self, getElem?_of_range 0 (by decide) hnumeral⟩
    · rw [if_neg hnumeral] at h
      by_cases hsmall : 'a' ≤ c ∧ c ≤ 'f'
      · rw [if_pos hsmall] at h
        obtain rfl := Option.some.inj h
        exact ⟨_, List.mem_cons_self, getElem?_of_range 10 (by decide) hsmall⟩
      · rw [if_neg hsmall] at h
        by_cases hcapital : 'A' ≤ c ∧ c ≤ 'F'
        · rw [if_pos hcapital] at h
          obtain rfl := Option.some.inj h
          exact ⟨_, List.mem_cons_of_mem _ List.mem_cons_self,
            getElem?_of_range 10 (by decide) hcapital⟩
        · rw [if_neg hcapital] at h
          exact nomatch h
  · rintro ⟨row, hrow, hc⟩
    obtain ⟨hvalue, -⟩ := List.getElem?_eq_some_iff.mp hc
    have hread : ∀ row ∈ digitRows, ∀ n : Fin 16,
        row[n.val]?.map hexDigit? = some (some n.val) := by decide
    have hdigit := hread row hrow ⟨value, length_of_mem_digitRows hrow ▸ hvalue⟩
    rw [hc] at hdigit
    exact Option.some.inj hdigit

/-- A digit has a value below sixteen and takes one byte. -/
theorem HexDigit.bounds {c : Char} {value : Nat} (h : HexDigit c value) :
    value < 16 ∧ c.utf8Size = 1 := by
  obtain ⟨row, hrow, hc⟩ := h
  obtain ⟨hvalue, -⟩ := List.getElem?_eq_some_iff.mp hc
  have hsize : ∀ row ∈ digitRows, row.all (·.utf8Size = 1) := by decide
  exact ⟨length_of_mem_digitRows hrow ▸ hvalue,
    of_decide_eq_true (List.all_eq_true.mp (hsize row hrow) c (List.mem_of_getElem? hc))⟩

theorem HexDigit.ne {c d : Char} {value : Nat} (h : HexDigit c value)
    (hd : hexDigit? d = none) : c ≠ d := by
  rintro rfl
  rw [hexDigit?_eq_some_iff.mpr h] at hd
  exact nomatch hd

/-! ## Codes -/

/-- Two hexadecimal digits are the number of a code. -/
def HexPair (high low : Char) (code : Nat) : Prop :=
  ∃ h l, HexDigit high h ∧ HexDigit low l ∧ code = 16 * h + l

/-- A plus sign and a hexadecimal digit. -/
def SignedDigit (high low : Char) (code : Nat) : Prop :=
  high = '+' ∧ HexDigit low code

/-- What is read as a code. -/
def IsCode (high low : Char) (code : Nat) : Prop :=
  HexPair high low code ∨ SignedDigit high low code

/-- Both digits have to be read, the first one with a plus sign as a zero. -/
theorem codedChar?_eq_bind (high low : Char) :
    codedChar? high low = (if high = '+' then some 0 else hexDigit? high).bind fun h =>
      (hexDigit? low).map fun l => Char.ofNat (16 * h + l) := by
  rw [codedChar?]
  cases (if high = '+' then some 0 else hexDigit? high) <;> cases hexDigit? low <;> rfl

/-- What two characters behind a backslash stand for. -/
theorem codedChar?_eq_some_iff {high low coded : Char} :
    codedChar? high low = some coded ↔
      ∃ code, IsCode high low code ∧ coded = Char.ofNat code := by
  rw [codedChar?_eq_bind, Option.bind_eq_some_iff]
  constructor
  · rintro ⟨h, hhigh, hcoded⟩
    obtain ⟨l, hlow, rfl⟩ := Option.map_eq_some_iff.mp hcoded
    have hdigit := hexDigit?_eq_some_iff.mp hlow
    by_cases hplus : high = '+'
    · rw [if_pos hplus] at hhigh
      obtain rfl := Option.some.inj hhigh
      exact ⟨l, .inr ⟨hplus, hdigit⟩, by rw [Nat.mul_zero, Nat.zero_add]⟩
    · rw [if_neg hplus] at hhigh
      exact ⟨16 * h + l, .inl ⟨h, l, hexDigit?_eq_some_iff.mp hhigh, hdigit, rfl⟩, rfl⟩
  · rintro ⟨code, ⟨h, l, hhigh, hlow, rfl⟩ | ⟨rfl, hlow⟩, rfl⟩
    · rw [if_neg (hhigh.ne (by decide)), hexDigit?_eq_some_iff.mpr hhigh,
        hexDigit?_eq_some_iff.mpr hlow]
      exact ⟨h, rfl, rfl⟩
    · refine ⟨0, if_pos rfl, ?_⟩
      rw [hexDigit?_eq_some_iff.mpr hlow, Option.map_some, Nat.mul_zero, Nat.zero_add]

/-- What a backslash finds behind it. -/
theorem code?_eq_some_iff {rest back : Text} {coded : Char} :
    code? rest = some (coded, back) ↔
      ∃ high low code, rest = high :: low :: back ∧ IsCode high low code ∧
        coded = Char.ofNat code := by
  constructor
  · intro h
    match rest, h with
    | high :: low :: _, h =>
        obtain ⟨_, hfound, heq⟩ := Option.map_eq_some_iff.mp h
        obtain ⟨rfl, rfl⟩ := Prod.mk.inj heq
        obtain ⟨code, hcode, hcoded⟩ := codedChar?_eq_some_iff.mp hfound
        exact ⟨high, low, code, rfl, hcode, hcoded⟩
  · rintro ⟨high, low, code, rfl, hcode, rfl⟩
    rw [code?_cons_cons, codedChar?_eq_some_iff.mpr ⟨code, hcode, rfl⟩]
    rfl

/-! ## Decoding -/

/-- A value with its codes decoded from left to right, for a notion of a code: a backslash and the
    code behind it give the character of the code, and decoding goes on behind them; every other
    backslash and every other character is kept. -/
inductive Decoded (Code : Char → Char → Nat → Prop) : (value text : Text) → Prop
  | nil : Decoded Code [] []
  | code {high low : Char} {code : Nat} {value text : Text} (hcode : Code high low code)
      (hrest : Decoded Code value text) :
      Decoded Code ('\\' :: high :: low :: value) (Char.ofNat code :: text)
  | kept {c : Char} {value text : Text}
      (hkept : ∀ high low back code, c :: value = '\\' :: high :: low :: back →
        ¬ Code high low code)
      (hrest : Decoded Code value text) : Decoded Code (c :: value) (c :: text)

/-- Reading decodes what it takes for codes. -/
theorem decoded_unescape (value : Text) : Decoded IsCode value (unescape value) := by
  -- Decoding goes on two characters behind a code, so the induction is on the length.
  induction hn : value.length using Nat.strong_induction_on generalizing value with
  | _ n ih =>
      cases value with
      | nil => exact .nil
      | cons c rest =>
          rw [List.length_cons] at hn
          by_cases hc : c = '\\'
          · subst hc
            cases hcode : code? rest with
            | none =>
                rw [unescape_of_code?_none hcode]
                refine .kept (fun high low back code heq his => ?_)
                  (ih rest.length (by omega) rest rfl)
                obtain ⟨-, hrest⟩ := List.cons.inj heq
                rw [code?_eq_some_iff.mpr ⟨high, low, code, hrest, his, rfl⟩] at hcode
                exact nomatch hcode
            | some found =>
                obtain ⟨coded, back⟩ := found
                have hlength := length_of_code? hcode
                rw [unescape_of_code? hcode]
                obtain ⟨high, low, code, rfl, his, rfl⟩ := code?_eq_some_iff.mp hcode
                exact .code his (ih back.length (by omega) back rfl)
          · rw [unescape_cons_of_ne hc]
            refine .kept (fun high low back code heq => ?_) (ih rest.length (by omega) rest rfl)
            exact absurd (List.cons.inj heq).1 hc

/-- **Reading is decoding** of hexadecimal pairs and of digits with a plus sign. -/
theorem decoded_iff {value text : Text} :
    Decoded IsCode value text ↔ text = unescape value := by
  constructor
  · intro h
    induction h with
    | nil => rfl
    | code his _ ih =>
        rw [unescape_of_code? (code?_eq_some_iff.mpr ⟨_, _, _, rfl, his, rfl⟩), ih]
    | @kept c value text hkept _ ih =>
        by_cases hc : c = '\\'
        · subst hc
          have hnone : code? value = none := by
            cases hcode : code? value with
            | none => rfl
            | some found =>
                obtain ⟨coded, back⟩ := found
                obtain ⟨high, low, code, rfl, his, -⟩ := code?_eq_some_iff.mp hcode
                exact absurd his (hkept high low back code rfl)
          rw [unescape_of_code?_none hnone, ih]
        · rw [unescape_cons_of_ne hc, ih]
  · rintro rfl
    exact decoded_unescape value

/-! ## Values without a signed code -/

/-- No backslash of a value has a plus sign and a hexadecimal digit behind it. -/
def Unsigned (value : Text) : Prop :=
  ∀ front digit back code, value = front ++ '\\' :: '+' :: digit :: back → ¬ HexDigit digit code

theorem unsigned_cons_iff {c : Char} {rest : Text} :
    Unsigned (c :: rest) ↔
      (∀ digit back code, c :: rest = '\\' :: '+' :: digit :: back → ¬ HexDigit digit code) ∧
        Unsigned rest := by
  constructor
  · intro h
    refine ⟨fun digit back code => h [] digit back code, ?_⟩
    intro front digit back code heq
    exact h (c :: front) digit back code (by rw [heq]; rfl)
  · rintro ⟨hhead, hrest⟩ front digit back code heq
    cases front with
    | nil => exact hhead digit back code heq
    | cons d front => exact hrest front digit back code (List.cons.inj heq).2

theorem unsigned_cons_of_ne {c : Char} {rest : Text} (h : c ≠ '\\') :
    Unsigned (c :: rest) ↔ Unsigned rest := by
  rw [unsigned_cons_iff]
  exact and_iff_right fun digit back code heq => absurd (List.cons.inj heq).1 h

/-- Without signed codes there is no other code to decode than hexadecimal pairs. -/
theorem Decoded.hexPair {value text : Text} (h : Decoded IsCode value text)
    (hunsigned : Unsigned value) : Decoded HexPair value text := by
  induction h with
  | nil => exact .nil
  | @code high low code value text his _ ih =>
      obtain ⟨hhead, hrest⟩ := unsigned_cons_iff.mp hunsigned
      rcases his with hpair | ⟨rfl, hlow⟩
      · obtain ⟨-, hrest⟩ := unsigned_cons_iff.mp hrest
        obtain ⟨-, hrest⟩ := unsigned_cons_iff.mp hrest
        exact .code hpair (ih hrest)
      · exact absurd hlow (hhead low value code rfl)
  | kept hkept _ ih =>
      obtain ⟨-, hrest⟩ := unsigned_cons_iff.mp hunsigned
      exact .kept (fun high low back code heq hpair => hkept high low back code heq (.inl hpair))
        (ih hrest)

/-- The characters with a number below sixteen do not include the backslash. -/
theorem backslash_ne_ofNat {code : Nat} (h : code < 16) : '\\' ≠ Char.ofNat code :=
  (by decide : ∀ n : Fin 16, '\\' ≠ Char.ofNat n.val) ⟨code, h⟩

/-- Where reading decodes hexadecimal pairs only, no code was signed. -/
theorem unsigned_of_decoded {value text : Text} (h : Decoded HexPair value text)
    (hread : text = unescape value) : Unsigned value := by
  induction h with
  | nil =>
      intro front digit back code heq
      exact absurd heq (by simp)
  | @code high low code value text hpair _ ih =>
      rw [unescape_of_code? (code?_eq_some_iff.mpr ⟨_, _, _, rfl, .inl hpair, rfl⟩)] at hread
      obtain ⟨n, l, hhigh, hlow, -⟩ := hpair
      rw [unsigned_cons_iff, unsigned_cons_of_ne (hhigh.ne (by decide)),
        unsigned_cons_of_ne (hlow.ne (by decide))]
      refine ⟨fun digit back code heq => ?_, ih (List.cons.inj hread).2⟩
      exact absurd (List.cons.inj (List.cons.inj heq).2).1 (hhigh.ne (by decide))
  | @kept c value text hkept _ ih =>
      by_cases hc : c = '\\'
      · subst hc
        cases hcode : code? value with
        | none =>
            rw [unescape_of_code?_none hcode] at hread
            refine unsigned_cons_iff.mpr ⟨?_, ih (List.cons.inj hread).2⟩
            intro digit back code heq hdigit
            obtain ⟨-, rfl⟩ := List.cons.inj heq
            rw [code?_eq_some_iff.mpr ⟨'+', digit, code, rfl, .inr ⟨rfl, hdigit⟩, rfl⟩] at hcode
            exact nomatch hcode
        | some found =>
            -- The code is no pair, so it is signed, and reading has put another character here.
            obtain ⟨coded, back⟩ := found
            rw [unescape_of_code? hcode] at hread
            obtain ⟨high, low, code, rfl, hpair | ⟨-, hlow⟩, rfl⟩ := code?_eq_some_iff.mp hcode
            · exact absurd hpair (hkept high low back code rfl)
            · exact absurd (List.cons.inj hread).1 (backslash_ne_ofNat hlow.bounds.1)
      · rw [unescape_cons_of_ne hc] at hread
        exact (unsigned_cons_of_ne hc).mpr (ih (List.cons.inj hread).2)

end DirectoryRecords.Filter
