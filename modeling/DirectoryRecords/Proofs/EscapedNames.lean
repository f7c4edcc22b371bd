import DirectoryRecords.Filter.Escape
import DirectoryRecords.Model.Write

/-!
# Escaped names — a value cannot end the component it is written into

    A written value is read sign by sign: a character that stands for itself, a
    character behind a backslash, or the code of a character. Each character of
    a value is written as one sign of it, which follows from where the
    character stands (`signOf`), and reading finds the sign whatever is written
    behind (`signs?_escapeChar`): the characters that get a backslash are no
    hexadecimal digits, so the backslash never starts a code by accident.
    Hence, by induction on the value, reading gives the signs of its
    characters (`signs?_escapeFrom`), and what they stand for is the value.

    The same induction shows that the search for a comma that no backslash
    escapes passes over a written value (`passes_escapeFrom`). So in a name that
    is built from a value and a base the first such comma is the one in front
    of the base.
-/

namespace DirectoryRecords

namespace Dn

/-! ## Reading -/

/-- The character that two hexadecimal digits are the code of. -/
def coded? (high low : Char) : Option Char :=
  match Filter.hexDigit? high, Filter.hexDigit? low with
  | some h, some l => some (Char.ofNat (16 * h + l))
  | _, _ => none

/-- A sign of a written value: a character as it is, behind a backslash, or as a code behind a
    backslash. -/
inductive Sign where
  | bare (c : Char)
  | escaped (c : Char)
  | coded (c : Char)
  deriving DecidableEq

/-- The character that a sign stands for. -/
def Sign.char : Sign → Char
  | bare c | escaped c | coded c => c

/-- The signs of a written value. A backslash at its end is no sign. -/
def signs? : Text → Option (List Sign)
  | [] => some []
  | c :: rest =>
    if c = '\\' then
      match rest with
      | [] => none
      | [d] => some [.escaped d]
      | high :: low :: rest =>
        match coded? high low with
        | some d => (signs? rest).map (.coded d :: ·)
        | none => (signs? (low :: rest)).map (.escaped high :: ·)
    else (signs? rest).map (.bare c :: ·)

/-- The two sides of the first `mark` that no backslash escapes, where `escaped` says whether a
    backslash escapes the first character. A backslash that is escaped itself escapes nothing. -/
def cutBareFrom (mark : Char) : (escaped : Bool) → Text → Option (Text × Text)
  | _, [] => none
  | true, c :: rest => (cutBareFrom mark false rest).map fun (before, after) => (c :: before, after)
  | false, c :: rest =>
    if c = mark then some ([], rest)
    else (cutBareFrom mark (c = '\\') rest).map fun (before, after) => (c :: before, after)

/-- The two sides of the first `mark` of a text that no backslash escapes. -/
def cutBare (mark : Char) (text : Text) : Option (Text × Text) :=
  cutBareFrom mark false text

/-! ## What is written for a character -/

/-- The sign that a character is written as, given whether it is the first or the last one. -/
def signOf (first last : Bool) (c : Char) : Sign :=
  if c ∈ specialChars then .escaped c
  else if c = '\x00' ∨ c = ' ' ∧ (first ∨ last) ∨ c = '#' ∧ first then .coded c
  else .bare c

theorem char_signOf (first last : Bool) (c : Char) : (signOf first last c).char = c := by
  rw [signOf]
  split
  · rfl
  · split <;> rfl

theorem signOf_of_special {c : Char} (h : c ∈ specialChars) (first last : Bool) :
    signOf first last c = .escaped c :=
  if_pos h

/-- A character that stands for itself is no special one, and none that an end would change. -/
theorem bare_of_signOf {first last : Bool} {c d : Char} (h : signOf first last c = .bare d) :
    d ∉ specialChars ∧ d ≠ '\x00' ∧ (first = true → d ≠ ' ' ∧ d ≠ '#') ∧
      (last = true → d ≠ ' ') := by
  rw [signOf] at h
  split at h
  · exact nomatch h
  · next hspecial =>
    split at h
    · exact nomatch h
    · next hplain =>
      obtain rfl := Sign.bare.inj h
      rw [not_or, not_or, not_and, not_and, not_or] at hplain
      obtain ⟨hnul, hspace, hsharp⟩ := hplain
      refine ⟨hspecial, hnul, fun hfirst => ⟨fun hc => ?_, fun hc => ?_⟩, fun hlast hc => ?_⟩
      · exact (hspace hc).1 hfirst
      · exact hsharp hc hfirst
      · exact (hspace hc).2 hlast

/-- How a character is written: behind a backslash, as a code, or as it is. -/
theorem escapeChar_cases (first last : Bool) (c : Char) :
    (c ∈ specialChars ∧ escapeChar first last c = ['\\', c]) ∨
      (∃ high low, escapeChar first last c = ['\\', high, low] ∧ coded? high low = some c ∧
        signOf first last c = .coded c) ∨
      (escapeChar first last c = [c] ∧ signOf first last c = .bare c) := by
  by_cases hspecial : c ∈ specialChars
  · exact .inl ⟨hspecial, if_pos hspecial⟩
  · refine .inr ?_
    by_cases hcode : c = '\x00' ∨ c = ' ' ∧ (first ∨ last) ∨ c = '#' ∧ first
    · have hsign : signOf first last c = .coded c := by
        rw [signOf, if_neg hspecial, if_pos hcode]
      rw [hsign]
      rcases hcode with rfl | ⟨rfl, hend⟩ | ⟨rfl, hfirst⟩
      · exact .inl ⟨'0', '0', rfl, by decide, rfl⟩
      · refine .inl ⟨'2', '0', ?_, by decide, rfl⟩
        rw [escapeChar, if_neg hspecial, if_neg (by decide), if_pos ⟨rfl, hend⟩]
      · refine .inl ⟨'2', '3', ?_, by decide, rfl⟩
        rw [escapeChar, if_neg hspecial, if_neg (by decide), if_neg (by simp), if_pos ⟨rfl, hfirst⟩]
    · refine .inr ⟨?_, ?_⟩
      · rw [not_or, not_or] at hcode
        rw [escapeChar, if_neg hspecial, if_neg hcode.1, if_neg hcode.2.1, if_neg hcode.2.2]
      · rw [signOf, if_neg hspecial, if_neg hcode]

/-- The digits of a code are digits. -/
theorem digits_of_coded? {high low c : Char} (h : coded? high low = some c) :
    (Filter.hexDigit? high).isSome = true ∧ (Filter.hexDigit? low).isSome = true := by
  rw [coded?] at h
  split at h
  · next hhigh hlow => rw [hhigh, hlow]; exact ⟨rfl, rfl⟩
  · exact nomatch h

theorem not_digit_of_special {c : Char} (h : c ∈ specialChars) : Filter.hexDigit? c = none := by
  have hall : specialChars.all (fun c => (Filter.hexDigit? c).isNone) = true := by decide
  exact Option.isNone_iff_eq_none.mp (List.all_eq_true.mp hall c h)

/-- A digit is none of the characters that are no digits. -/
theorem ne_of_digit {c d : Char} (hc : (Filter.hexDigit? c).isSome = true)
    (hd : Filter.hexDigit? d = none) : c ≠ d := by
  rintro rfl
  rw [hd] at hc
  exact nomatch hc

/-! ## Reading what was written -/

theorem signs?_coded {high low c : Char} (h : coded? high low = some c) (rest : Text) :
    signs? ('\\' :: high :: low :: rest) = (signs? rest).map (.coded c :: ·) := by
  rw [signs?, if_pos rfl, h]

/-- A character that is no digit starts no code behind a backslash. -/
theorem signs?_escaped {c : Char} (h : Filter.hexDigit? c = none) (rest : Text) :
    signs? ('\\' :: c :: rest) = (signs? rest).map (.escaped c :: ·) := by
  cases rest with
  | nil => rfl
  | cons low rest =>
      have hnone : coded? c low = none := by rw [coded?, h]
      rw [signs?, if_pos rfl, hnone]

theorem signs?_bare {c : Char} (h : c ≠ '\\') (rest : Text) :
    signs? (c :: rest) = (signs? rest).map (.bare c :: ·) := by
  rw [signs?.eq_def]
  exact if_neg h

/-- **A character is read as its sign, whatever is written behind it.** -/
theorem signs?_escapeChar (first last : Bool) (c : Char) (rest : Text) :
    signs? (escapeChar first last c ++ rest) = (signs? rest).map (signOf first last c :: ·) := by
  rcases escapeChar_cases first last c with ⟨hspecial, htext⟩ | ⟨high, low, htext, hcode, hsign⟩ |
    ⟨htext, hsign⟩
  · rw [htext, signOf_of_special hspecial]
    exact signs?_escaped (not_digit_of_special hspecial) rest
  · rw [htext, hsign]
    exact signs?_coded hcode rest
  · have hbackslash : c ≠ '\\' := by
      rintro rfl
      exact (bare_of_signOf hsign).1 (by decide)
    rw [htext, hsign]
    exact signs?_bare hbackslash rest

/-- The signs of the rest of a value, given whether it is the whole value. -/
def signsFrom : (first : Bool) → Text → List Sign
  | _, [] => []
  | first, c :: rest => signOf first rest.isEmpty c :: signsFrom false rest

theorem signs?_escapeFrom (first : Bool) (value : Text) :
    signs? (escapeFrom first value) = some (signsFrom first value) := by
  induction value generalizing first with
  | nil => rfl
  | cons c rest ih =>
      rw [escapeFrom, signs?_escapeChar, ih false]
      rfl

theorem map_char_signsFrom (first : Bool) (value : Text) :
    (signsFrom first value).map Sign.char = value := by
  induction value generalizing first with
  | nil => rfl
  | cons c rest ih => rw [signsFrom, List.map_cons, char_signOf, ih]

theorem exists_of_mem_signsFrom {first : Bool} {value : Text} {sign : Sign}
    (h : sign ∈ signsFrom first value) : ∃ first' last c, sign = signOf first' last c := by
  induction value generalizing first with
  | nil => exact nomatch h
  | cons c rest ih =>
      rcases List.mem_cons.mp h with rfl | hrest
      · exact ⟨_, _, c, rfl⟩
      · exact ih hrest

/-- The last sign is that of a last character. -/
theorem exists_of_getLast?_signsFrom {first : Bool} {value : Text} {sign : Sign}
    (h : (signsFrom first value).getLast? = some sign) :
    ∃ first' c, sign = signOf first' true c := by
  induction value generalizing first with
  | nil => exact nomatch h
  | cons c rest ih =>
      cases rest with
      | nil => exact ⟨first, c, (Option.some.inj h).symm⟩
      | cons d rest =>
          rw [signsFrom, signsFrom, List.getLast?_cons_cons] at h
          exact ih (show (signsFrom false (d :: rest)).getLast? = some sign from h)

/-! ## Searching what was written -/

/-- Whatever follows a text, the search for a mark passes over the text. -/
def Passes (mark : Char) (front : Text) : Prop :=
  ∀ rest, cutBare mark (front ++ rest)
    = (cutBare mark rest).map fun (before, after) => (front ++ before, after)

theorem passes_nil (mark : Char) : Passes mark [] := by
  intro rest
  rw [List.nil_append]
  exact (Option.map_id' ..).symm

theorem Passes.append {mark : Char} {front back : Text} (hfront : Passes mark front)
    (hback : Passes mark back) : Passes mark (front ++ back) := by
  intro rest
  rw [List.append_assoc, hfront, hback, Option.map_map]
  refine congrArg (Option.map · _) (funext fun sides => ?_)
  show (front ++ (back ++ sides.1), sides.2) = (front ++ back ++ sides.1, sides.2)
  rw [List.append_assoc]

/-- The search passes over a character other than the mark and the backslash. -/
theorem passes_singleton {mark c : Char} (hmark : c ≠ mark) (hbackslash : c ≠ '\\') :
    Passes mark [c] := by
  intro rest
  rw [List.singleton_append, cutBare, cutBareFrom, if_neg hmark, decide_eq_false hbackslash]
  rfl

/-- It passes over any character behind a backslash, unless the backslash is the mark. -/
theorem passes_escaped {mark : Char} (hmark : mark ≠ '\\') (c : Char) :
    Passes mark ['\\', c] := by
  intro rest
  rw [cutBare, List.cons_append, cutBareFrom, if_neg (Ne.symm hmark), decide_eq_true rfl,
    List.singleton_append, cutBareFrom, Option.map_map]
  rfl

theorem passes_of_free {mark : Char} {front : Text} (hmark : mark ∉ front)
    (hbackslash : '\\' ∉ front) : Passes mark front := by
  induction front with
  | nil => exact passes_nil mark
  | cons c rest ih =>
      rw [List.mem_cons, not_or] at hmark hbackslash
      have hfirst := passes_singleton (Ne.symm hmark.1) (Ne.symm hbackslash.1)
      exact hfirst.append (ih hmark.2 hbackslash.2)

/-- The search for a special character passes over every written character. -/
theorem passes_escapeChar {mark : Char} (hmark : mark ∈ specialChars) (hne : mark ≠ '\\')
    (first last : Bool) (c : Char) : Passes mark (escapeChar first last c) := by
  rcases escapeChar_cases first last c with ⟨-, htext⟩ | ⟨high, low, htext, hcode, -⟩ |
    ⟨htext, hsign⟩
  · rw [htext]
    exact passes_escaped hne c
  · have hlow := (digits_of_coded? hcode).2
    have hdigit : Passes mark [low] :=
      passes_singleton (ne_of_digit hlow (not_digit_of_special hmark))
        (ne_of_digit hlow (by decide))
    rw [htext]
    exact (passes_escaped hne high).append hdigit
  · have hplain := (bare_of_signOf hsign).1
    rw [htext]
    refine passes_singleton ?_ ?_
    · rintro rfl
      exact hplain hmark
    · rintro rfl
      exact hplain (by decide)

theorem passes_escapeFrom {mark : Char} (hmark : mark ∈ specialChars) (hne : mark ≠ '\\')
    (first : Bool) (value : Text) : Passes mark (escapeFrom first value) := by
  induction value generalizing first with
  | nil => exact passes_nil mark
  | cons c rest ih => exact (passes_escapeChar hmark hne first rest.isEmpty c).append (ih false)

/-! ## What is written -/

theorem nul_not_mem_escapeChar (first last : Bool) (c : Char) :
    '\x00' ∉ escapeChar first last c := by
  rcases escapeChar_cases first last c with ⟨hspecial, htext⟩ | ⟨high, low, htext, hcode, -⟩ |
    ⟨htext, hsign⟩
  · have hnul : c ≠ '\x00' := by
      rintro rfl
      exact absurd hspecial (by decide)
    rw [htext]
    simp [hnul.symm]
  · obtain ⟨hhigh, hlow⟩ := digits_of_coded? hcode
    have hhighNul : high ≠ '\x00' := ne_of_digit hhigh (by decide)
    have hlowNul : low ≠ '\x00' := ne_of_digit hlow (by decide)
    rw [htext]
    simp [hhighNul.symm, hlowNul.symm]
  · rw [htext, List.mem_singleton]
    exact (bare_of_signOf hsign).2.1.symm

theorem nul_not_mem_escapeFrom (first : Bool) (value : Text) :
    '\x00' ∉ escapeFrom first value := by
  induction value generalizing first with
  | nil => exact List.not_mem_nil
  | cons c rest ih =>
      rw [escapeFrom, List.mem_append, not_or]
      exact ⟨nul_not_mem_escapeChar first rest.isEmpty c, ih false⟩

/-- A written value starts with a backslash, or with a first character that may stand there. -/
theorem head_escape {value : Text} {c : Char} (h : (escape value).head? = some c) :
    c ≠ ' ' ∧ c ≠ '#' := by
  cases value with
  | nil => exact nomatch h
  | cons first rest =>
      rw [escape, escapeFrom] at h
      rcases escapeChar_cases true rest.isEmpty first with ⟨-, htext⟩ | ⟨high, low, htext, -⟩ |
        ⟨htext, hsign⟩
      · rw [htext] at h
        obtain rfl := Option.some.inj h
        decide
      · rw [htext] at h
        obtain rfl := Option.some.inj h
        decide
      · rw [htext] at h
        obtain rfl := Option.some.inj h
        exact (bare_of_signOf hsign).2.2.1 rfl

/-- A value behind a name and in front of a base: the comma of the base is found first. -/
theorem cutBare_below {name : Text} (hcomma : ',' ∉ name) (hbackslash : '\\' ∉ name)
    (value base : Text) :
    cutBare ',' (below base (name ++ '=' :: escape value))
      = if base.isEmpty then none else some (name ++ '=' :: escape value, base) := by
  have hname : Passes ',' name := passes_of_free hcomma hbackslash
  have hsign : Passes ',' ['='] := passes_singleton (by decide) (by decide)
  have hvalue : Passes ',' (escape value) :=
    passes_escapeFrom (by decide) (by decide) true value
  have hwhole : Passes ',' (name ++ '=' :: escape value) :=
    hname.append (hsign.append hvalue)
  have hnonempty : (name ++ '=' :: escape value).isEmpty = false := by
    cases name with
    | nil => rfl
    | cons c rest => rfl
  rw [below, hnonempty, if_neg Bool.false_ne_true]
  cases base with
  | nil =>
      have hend := hwhole []
      rw [List.append_nil] at hend
      exact hend
  | cons c rest =>
      rw [List.isEmpty_cons, if_neg Bool.false_ne_true, if_neg Bool.false_ne_true, hwhole]
      show some (name ++ '=' :: escape value ++ [], c :: rest) = _
      rw [List.append_nil]

end Dn

/-- A record without a name is created under the name that is built from the first value of the
    naming attribute. -/
theorem Model.creationDn_of_blank {model : Model} {record : Record} {value : Text}
    (hblank : Text.isAllBlank record.dn = true)
    (hvalue : record.firstValue? model.namingAttribute = some value) (hne : value ≠ []) :
    model.creationDn record
      = .ok (Dn.below model.baseDn (model.namingAttribute ++ '=' :: Dn.escape value)) := by
  obtain ⟨c, rest, rfl⟩ := List.exists_cons_of_ne_nil hne
  rw [creationDn, if_pos hblank, deriveDn, hvalue]

namespace Dn

/-- **A written value reads as the value and stays in its component.** Its signs stand for the
    characters of the value; none of them is a bare special character, and NUL does not occur;
    neither a space nor a number sign stands at the start, and no bare space at the end. So where
    a record without a name of its own is created under an attribute without commas and
    backslashes, the first comma of the new name that no backslash escapes is the one in front of
    the base, and there is none if the base is empty. Only from the empty value no name is made. -/
theorem escape_stays_in_component (value : Text) :
    (∃ signs, signs? (escape value) = some signs ∧ signs.map Sign.char = value ∧
        (∀ c ∈ [',', '+', '"', '<', '>', ';', '='], .bare c ∉ signs) ∧
        signs.getLast? ≠ some (.bare ' ')) ∧
      '\x00' ∉ escape value ∧
      (escape value).head? ≠ some ' ' ∧ (escape value).head? ≠ some '#' ∧
      ∀ (model : Model) (record : Record),
        ',' ∉ model.namingAttribute → '\\' ∉ model.namingAttribute →
        Text.isAllBlank record.dn = true →
        record.firstValue? model.namingAttribute = some value →
        (value = [] ∧ model.creationDn record
            = .error (.invalidData ("missing naming attribute '" ++ model.namingAttribute ++ "'"))) ∨
          ∃ dn, model.creationDn record = .ok dn ∧
            cutBare ',' dn = if model.baseDn.isEmpty then none
              else some (model.namingAttribute ++ '=' :: escape value, model.baseDn) := by
  refine ⟨⟨signsFrom true value, signs?_escapeFrom true value, map_char_signsFrom true value,
    ?_, ?_⟩, nul_not_mem_escapeFrom true value, fun h => (head_escape h).1 rfl,
    fun h => (head_escape h).2 rfl, ?_⟩
  · intro c hc hbare
    obtain ⟨first, last, d, hsign⟩ := exists_of_mem_signsFrom hbare
    have hspecial : [',', '+', '"', '<', '>', ';', '='].all (· ∈ specialChars) = true := by decide
    exact (bare_of_signOf hsign.symm).1 (of_decide_eq_true (List.all_eq_true.mp hspecial c hc))
  · intro hlast
    obtain ⟨first, c, hsign⟩ := exists_of_getLast?_signsFrom hlast
    exact (bare_of_signOf hsign.symm).2.2.2 rfl rfl
  · intro model record hcomma hbackslash hblank hvalue
    by_cases hne : value = []
    · refine .inl ⟨hne, ?_⟩
      rw [Model.creationDn, if_pos hblank, Model.deriveDn, hvalue, hne]
    · exact .inr ⟨_, Model.creationDn_of_blank hblank hvalue hne,
        cutBare_below hcomma hbackslash value _⟩

/-- A value that looks like the end of its component and the start of another name, with a code
    of its own and a backslash at its end. -/
theorem escape_stays_in_component_of_injection :
    let model := Model.ofName "person" "ou=People,dc=x"
    let value : Text := "#ann,dc=evil\\2c \\"
    let record := (Record.ofDn " ").set "uid" (.single value)
    ',' ∉ model.namingAttribute ∧ '\\' ∉ model.namingAttribute ∧
      Text.isAllBlank record.dn = true ∧
      record.firstValue? model.namingAttribute = some value ∧
      escape value = "\\23ann\\,dc\\=evil\\\\2c \\\\".toList ∧
      (∃ signs, signs? (escape value) = some signs ∧ signs.map Sign.char = value) ∧
      ∃ dn, model.creationDn record = .ok dn ∧
        cutBare ',' dn = some ("uid=".toList ++ escape value, "ou=People,dc=x".toList) := by
  intro model value record
  have hcomma : ',' ∉ model.namingAttribute := by decide
  have hbackslash : '\\' ∉ model.namingAttribute := by decide
  have hblank : Text.isAllBlank record.dn = true := by decide
  have hvalue : record.firstValue? model.namingAttribute = some value := by decide
  have hne : value ≠ [] := by decide
  obtain ⟨⟨signs, hsigns, hread, -⟩, -, -, -, hcreate⟩ := escape_stays_in_component value
  exact ⟨hcomma, hbackslash, hblank, hvalue, by decide, ⟨signs, hsigns, hread⟩,
    (hcreate model record hcomma hbackslash hblank hvalue).resolve_left fun h => hne h.1⟩

end Dn

end DirectoryRecords
