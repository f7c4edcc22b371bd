import DirectoryRecords.Filter.Reader
import DirectoryRecords.Proofs.DecodedCodes
import DirectoryRecords.Proofs.PatternSearch

/-!
# Code scan — looking for codes by offsets in bytes

    A value can be read in turns. A turn finds the next backslash, passes on
    what stands in front of it, and looks at the two bytes behind it: if they
    are a hexadecimal number, its character is passed on and the scan goes on
    behind them, otherwise the backslash is passed on and the scan goes on right
    behind it. All of this is done with offsets in bytes, and a part may be cut
    off only where a character ends.

    What lies in front of a backslash is as many bytes long as its offset, and
    the two bytes of a code are two characters, so every part that is cut off
    is in range (`turn_of_mem`). The two bytes that are looked at may be half a
    character or lie behind the end; then there is no number in them, just as
    there is no code behind the backslash (`ahead_eq`). So a turn leaves what
    has been passed on and the reading of the rest together as they were
    (`turn_cases`), uses up a backslash, and there are at most as many turns as
    backslashes, and a last one (`run_eq`).
-/

namespace DirectoryRecords

namespace Text

/-! ## Slices -/

/-- The text up to an offset in bytes, if it is in range: neither behind the end nor within a
    character. -/
def uptoByte? : (offset : Nat) → Text → Option Text
  | 0, _ => some []
  | _ + 1, [] => none
  | n + 1, c :: rest =>
    if c.utf8Size ≤ n + 1 then (uptoByte? (n + 1 - c.utf8Size) rest).map (c :: ·) else none

/-- The text between two offsets in bytes, if both are in range. -/
def betweenBytes? (first last : Nat) (text : Text) : Option Text :=
  (fromByte? first text).bind (uptoByte? (last - first))

/-- How many bytes lie in front of the first place of a character. -/
def byteOf? (mark : Char) (text : Text) : Option Nat :=
  (cut mark text).map fun (before, _) => String.utf8Len before

theorem uptoByte?_cons {c : Char} {n : Nat} (h : c.utf8Size ≤ n) (rest : Text) :
    uptoByte? n (c :: rest) = (uptoByte? (n - c.utf8Size) rest).map (c :: ·) := by
  have hpos := c.utf8Size_pos
  obtain ⟨m, rfl⟩ : ∃ m, n = m + 1 := ⟨n - 1, by omega⟩
  rw [uptoByte?, if_pos h]

theorem uptoByte?_cons_of_lt {c : Char} {n : Nat} (hn : 0 < n) (h : n < c.utf8Size) (rest : Text) :
    uptoByte? n (c :: rest) = none := by
  obtain ⟨m, rfl⟩ : ∃ m, n = m + 1 := ⟨n - 1, by omega⟩
  rw [uptoByte?, if_neg (by omega)]

/-- Up to the bytes of a text at the front is that text. -/
theorem uptoByte?_append (front rest : Text) :
    uptoByte? (String.utf8Len front) (front ++ rest) = some front := by
  induction front with
  | nil => rw [String.utf8Len_nil, List.nil_append, uptoByte?]
  | cons c front ih =>
      rw [List.cons_append, String.utf8Len_cons, uptoByte?_cons (by omega), Nat.add_sub_cancel, ih]
      rfl

/-- Behind a text at the front and the bytes of another is what follows both. -/
theorem fromByte?_append_append {middle : Text} {bytes : Nat}
    (h : String.utf8Len middle = bytes) (front rest : Text) :
    fromByte? (String.utf8Len front + bytes) (front ++ (middle ++ rest)) = some rest := by
  rw [← h, ← String.utf8Len_append, ← List.append_assoc]
  exact fromByte?_append (front ++ middle) rest

end Text

namespace Filter

open Text

/-! ## Hexadecimal numbers -/

/-- Reads the remaining hexadecimal digits after those that make up `value`. -/
def numberFrom? (limit : Nat) : (value : Nat) → Text → Option Nat
  | value, [] => some value
  | value, c :: rest =>
    match hexDigit? c with
    | none => none
    | some d =>
      if 16 * value + d ≤ limit then numberFrom? limit (16 * value + d) rest else none

/-- Reads a hexadecimal number of at most `limit`. A plus sign may stand in front of it. -/
def number? (limit : Nat) : Text → Option Nat
  | [] => none
  | ['+'] => none
  | '+' :: digits => numberFrom? limit 0 digits
  | digits => numberFrom? limit 0 digits

theorem numberFrom?_of_no_digit {c : Char} (h : hexDigit? c = none) (limit value : Nat)
    (rest : Text) : numberFrom? limit value (c :: rest) = none := by
  rw [numberFrom?, h]

theorem numberFrom?_of_digit {c : Char} {digit limit value : Nat} (h : hexDigit? c = some digit)
    (hlimit : 16 * value + digit ≤ limit) (rest : Text) :
    numberFrom? limit value (c :: rest) = numberFrom? limit (16 * value + digit) rest := by
  rw [numberFrom?, h]
  exact if_pos hlimit

theorem number?_of_head {c : Char} (h : c ≠ '+') (limit : Nat) (rest : Text) :
    number? limit (c :: rest) = numberFrom? limit 0 (c :: rest) := by
  rw [number?]
  · exact fun hnil => nomatch hnil
  · exact fun hsign => h (List.cons.inj hsign).1
  · exact fun _ hsign => h (List.cons.inj hsign).1

/-- One character is no number unless it is a digit. -/
theorem number?_singleton {c : Char} (h : hexDigit? c = none) (limit : Nat) :
    number? limit [c] = none := by
  by_cases hplus : c = '+'
  · rw [hplus]
    rfl
  · rw [number?_of_head hplus, numberFrom?_of_no_digit h]

/-- Two characters are the number of a code if they are the code. No such number is too large for
    a byte. -/
theorem number?_pair (high low : Char) :
    (number? 255 [high, low]).map Char.ofNat = codedChar? high low := by
  rw [codedChar?]
  by_cases hplus : high = '+'
  · rw [hplus, if_pos rfl]
    show (numberFrom? 255 0 [low]).map Char.ofNat = _
    cases hlow : hexDigit? low with
    | none => rw [numberFrom?_of_no_digit hlow]; rfl
    | some l =>
        have hbound := (hexDigit?_eq_some_iff.mp hlow).bounds.1
        rw [numberFrom?_of_digit hlow (by omega)]
        rfl
  · rw [number?_of_head hplus, if_neg hplus]
    cases hhigh : hexDigit? high with
    | none => rw [numberFrom?_of_no_digit hhigh]; rfl
    | some h =>
        have hbound := (hexDigit?_eq_some_iff.mp hhigh).bounds.1
        rw [numberFrom?_of_digit hhigh (by omega), Nat.mul_zero, Nat.zero_add]
        cases hlow : hexDigit? low with
        | none => rw [numberFrom?_of_no_digit hlow]; rfl
        | some l =>
            have hbound' := (hexDigit?_eq_some_iff.mp hlow).bounds.1
            rw [numberFrom?_of_digit hlow (by omega)]
            rfl

/-- A character that takes more than one byte is no digit. -/
theorem hexDigit?_of_wide {c : Char} (h : c.utf8Size ≠ 1) : hexDigit? c = none := by
  cases hdigit : hexDigit? c with
  | none => rfl
  | some value => exact absurd (hexDigit?_eq_some_iff.mp hdigit).bounds.2 h

/-- A character that takes more than one byte is in no code. -/
theorem codedChar?_of_wide {c : Char} (h : c.utf8Size ≠ 1) (d : Char) :
    codedChar? c d = none ∧ codedChar? d c = none := by
  refine codedChar?_of_no_digit ?_ (hexDigit?_of_wide h) d
  rintro rfl
  exact h rfl

theorem code?_of_wide {c : Char} (h : c.utf8Size ≠ 1) (rest : Text) : code? (c :: rest) = none := by
  cases rest with
  | nil => rfl
  | cons low rest =>
      rw [code?_cons_cons, (codedChar?_of_wide h low).1]
      rfl

/-- A code takes three bytes with its backslash. -/
theorem IsCode.utf8Len {high low : Char} {code : Nat} (h : IsCode high low code) :
    String.utf8Len ['\\', high, low] = 3 := by
  have hsizes : high.utf8Size = 1 ∧ low.utf8Size = 1 := by
    rcases h with ⟨_, _, hhigh, hlow, -⟩ | ⟨rfl, hlow⟩
    · exact ⟨hhigh.bounds.2, hlow.bounds.2⟩
    · exact ⟨rfl, hlow.bounds.2⟩
  rw [String.utf8Len_cons, String.utf8Len_cons, String.utf8Len_cons, hsizes.1, hsizes.2]
  rfl

/-- **The two bytes ahead** are the number of a code exactly when two characters are the code. -/
theorem ahead_eq (rest : Text) :
    ((uptoByte? 2 rest).bind (number? 255)).map Char.ofNat = (code? rest).map Prod.fst := by
  cases rest with
  | nil => rfl
  | cons high rest =>
      have hpos := high.utf8Size_pos
      by_cases hone : high.utf8Size = 1
      · rw [uptoByte?_cons (by omega), hone]
        cases rest with
        | nil => rfl
        | cons low back =>
            have hlow := low.utf8Size_pos
            by_cases hsecond : low.utf8Size = 1
            · rw [uptoByte?_cons (by omega), hsecond, Nat.sub_self, uptoByte?, code?_cons_cons]
              show (number? 255 [high, low]).map Char.ofNat = _
              rw [number?_pair]
              cases codedChar? high low with
              | none => rfl
              | some coded => rfl
            · -- The second of the two bytes does not end a character.
              rw [uptoByte?_cons_of_lt (by omega) (by omega), code?_cons_cons,
                (codedChar?_of_wide hsecond high).2]
              rfl
      · rw [code?_of_wide hone]
        by_cases htwo : high.utf8Size = 2
        · rw [uptoByte?_cons (by omega), htwo, Nat.sub_self, uptoByte?]
          show (number? 255 [high]).map Char.ofNat = _
          rw [number?_singleton (hexDigit?_of_wide hone)]
          rfl
        · rw [uptoByte?_cons_of_lt (by omega) (by omega)]
          rfl

/-! ## Turns -/

/-- What a scan has passed on, and what is left for it. -/
structure Scan where
  passed : Text
  left : Text

namespace Scan

/-- How far a scan has come. -/
inductive Outcome where
  | ended (text : Text)
  | outOfRange
  | unfinished
  deriving DecidableEq

/-- One turn: the text where no backslash is left, and otherwise the scan behind the next one.
    There is no turn where a part that is cut off is out of range. -/
def turn (scan : Scan) : Option (Text ⊕ Scan) :=
  match byteOf? '\\' scan.left with
  | none => some (.inl (scan.passed ++ scan.left))
  | some offset => do
    let front ← uptoByte? offset scan.left
    match (betweenBytes? (offset + 1) (offset + 3) scan.left).bind (number? 255) with
    | some code =>
      let left ← fromByte? (offset + 3) scan.left
      return .inr ⟨scan.passed ++ front ++ [Char.ofNat code], left⟩
    | none =>
      let left ← fromByte? (offset + 1) scan.left
      return .inr ⟨scan.passed ++ front ++ ['\\'], left⟩

/-- So many turns, or as many as it takes. -/
def run : (turns : Nat) → Scan → Outcome
  | 0, _ => .unfinished
  | turns + 1, scan =>
    match scan.turn with
    | none => .outOfRange
    | some (.inl text) => .ended text
    | some (.inr next) => run turns next

/-- The scan ends where no backslash is left. -/
theorem turn_of_not_mem {scan : Scan} (h : '\\' ∉ scan.left) :
    scan.turn = some (.inl (scan.passed ++ scan.left)) := by
  have hnone : byteOf? '\\' scan.left = none := by
    rw [byteOf?, cut_eq_none_iff.mpr h]
    rfl
  rw [turn, hnone]

/-- A turn passes on what stands in front of the next backslash, and then the character of the
    code behind it or the backslash itself. -/
theorem turn_of_mem {front : Text} (h : '\\' ∉ front) (passed rest : Text) :
    turn ⟨passed, front ++ '\\' :: rest⟩ = some (.inr (match code? rest with
      | some (coded, back) => ⟨passed ++ front ++ [coded], back⟩
      | none => ⟨passed ++ front ++ ['\\'], rest⟩)) := by
  have hoffset : byteOf? '\\' (front ++ '\\' :: rest) = some (String.utf8Len front) := by
    rw [byteOf?, cut_append h]
    rfl
  have hbehind : fromByte? (String.utf8Len front + 1) (front ++ '\\' :: rest) = some rest :=
    fromByte?_append_append (show String.utf8Len ['\\'] = 1 from rfl) front rest
  have hahead : betweenBytes? (String.utf8Len front + 1) (String.utf8Len front + 3)
      (front ++ '\\' :: rest) = uptoByte? 2 rest := by
    rw [betweenBytes?, hbehind, Nat.add_sub_add_left]
    rfl
  have hnumber := ahead_eq rest
  simp only [turn, hoffset, uptoByte?_append, hahead, hbehind]
  cases hcode : code? rest with
  | none =>
      rw [hcode] at hnumber
      rw [Option.map_eq_none_iff.mp hnumber]
      rfl
  | some found =>
      obtain ⟨coded, back⟩ := found
      rw [hcode] at hnumber
      obtain ⟨code, hread, hcoded⟩ := Option.map_eq_some_iff.mp hnumber
      obtain rfl : Char.ofNat code = coded := hcoded
      obtain ⟨high, low, _, rfl, his, -⟩ := code?_eq_some_iff.mp hcode
      have hback : fromByte? (String.utf8Len front + 3) (front ++ '\\' :: high :: low :: back)
          = some back := fromByte?_append_append his.utf8Len front back
      rw [hread]
      show (fromByte? (String.utf8Len front + 3) _).bind _ = _
      rw [hback]
      rfl

/-- **One turn.** A scan ends with what was passed on and the reading of what is left, or it goes
    on with fewer backslashes and the two together as they were. -/
theorem turn_cases (scan : Scan) :
    scan.turn = some (.inl (scan.passed ++ unescape scan.left)) ∨
      ∃ next, scan.turn = some (.inr next) ∧
        next.passed ++ unescape next.left = scan.passed ++ unescape scan.left ∧
        next.left.count '\\' < scan.left.count '\\' := by
  obtain ⟨passed, left⟩ := scan
  by_cases hmem : '\\' ∈ left
  · obtain ⟨front, rest, rfl, hfront⟩ := List.eq_append_cons_of_mem hmem
    have hturn := turn_of_mem hfront passed rest
    cases hcode : code? rest with
    | none =>
        rw [hcode] at hturn
        refine .inr ⟨⟨passed ++ front ++ ['\\'], rest⟩, hturn, ?_, ?_⟩
        · show passed ++ front ++ ['\\'] ++ unescape rest = _
          rw [unescape_append_of_not_mem hfront, unescape_of_code?_none hcode, List.append_assoc,
            List.append_assoc]
          rfl
        · show rest.count '\\' < (front ++ '\\' :: rest).count '\\'
          rw [List.count_append, List.count_cons_self]
          omega
    | some found =>
        obtain ⟨coded, back⟩ := found
        rw [hcode] at hturn
        refine .inr ⟨⟨passed ++ front ++ [coded], back⟩, hturn, ?_, ?_⟩
        · show passed ++ front ++ [coded] ++ unescape back = _
          rw [unescape_append_of_not_mem hfront, unescape_of_code? hcode, List.append_assoc,
            List.append_assoc]
          rfl
        · obtain ⟨high, low, _, rfl, -, -⟩ := code?_eq_some_iff.mp hcode
          have hback : back.count '\\' ≤ (high :: low :: back).count '\\' :=
            (List.sublist_append_right [high, low] back).count_le '\\'
          show back.count '\\' < (front ++ '\\' :: high :: low :: back).count '\\'
          rw [List.count_append, List.count_cons_self]
          omega
  · refine .inl ?_
    rw [turn_of_not_mem hmem, unescape_of_noCode (noCode_of_free hmem)]

/-- **A whole run** ends with what was passed on and the reading of what is left, if it has more
    turns than there are backslashes. No part that it cuts off is out of range. -/
theorem run_eq {turns : Nat} {scan : Scan} (h : scan.left.count '\\' < turns) :
    run turns scan = .ended (scan.passed ++ unescape scan.left) := by
  induction turns generalizing scan with
  | zero => exact absurd h (Nat.not_lt_zero _)
  | succ turns ih =>
      rcases turn_cases scan with hturn | ⟨next, hturn, hsame, hfewer⟩
      · rw [run, hturn]
      · rw [run, hturn]
        show run turns next = _
        rw [ih (by omega), hsame]

end Scan

/-- **What reading does to a value.** It decodes what it takes for codes, which are pairs of
    hexadecimal digits and signed digits, and nothing else; so it decodes the pairs only, and keeps
    all other backslashes, exactly for a value without signed codes. Read in turns by offsets in
    bytes, every value gives the same text after at most one turn for each backslash and one more,
    and no part is out of range or ends within a character. -/
theorem unescape_decodes_iff (value : Text) :
    (∀ text, Decoded IsCode value text ↔ text = unescape value) ∧
      (Decoded HexPair value (unescape value) ↔ Unsigned value) ∧
      Scan.run (value.count '\\' + 1) ⟨[], value⟩ = .ended (unescape value) := by
  refine ⟨fun text => decoded_iff, ⟨fun h => unsigned_of_decoded h rfl, ?_⟩, ?_⟩
  · exact (decoded_unescape value).hexPair
  · exact Scan.run_eq (Nat.lt_succ_self _)

/-- A backslash, a plus sign and a digit have no hexadecimal pair in them, so decoding keeps them.
    Reading puts the character of the number five in their place, also in a filter. -/
theorem unescape_signed_digit :
    let value : Text := "\\+5"
    Decoded HexPair value value ∧ unescape value = [Char.ofNat 5] ∧
      ¬ Decoded HexPair value (unescape value) ∧
      read? "(cn=\\+5)" = some (.equals "cn" [Char.ofNat 5]) := by
  intro value
  have hfive : HexDigit '5' 5 := hexDigit?_eq_some_iff.mp rfl
  have hkept : Decoded HexPair value value := by
    refine .kept (fun high low back code heq hpair => ?_) (.kept ?_ (.kept ?_ .nil))
    · obtain ⟨_, _, hhigh, -, -⟩ := hpair
      exact hhigh.ne (by decide) (List.cons.inj (List.cons.inj heq).2).1.symm
    · exact fun high low back code heq => absurd (List.cons.inj heq).1 (by decide)
    · exact fun high low back code heq => absurd (List.cons.inj heq).1 (by decide)
  refine ⟨hkept, by decide, fun hread => ?_, rfl⟩
  exact unsigned_of_decoded hread rfl [] '5' [] 5 rfl hfive

end Filter

end DirectoryRecords
