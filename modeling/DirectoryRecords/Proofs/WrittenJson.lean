import DirectoryRecords.Json.Printer
import DirectoryRecords.Json.Reader
import DirectoryRecords.Proofs.ConditionSpellings
import DirectoryRecords.Proofs.DecimalNumbers

/-!
# Written JSON — read back as the value it was written of

    Not every value can come back from its text: what is no JSON is written
    as null, and the parts of a number may be no digits. All others do.

    * A character of a string is read as it was written, whatever stands
      behind it (`readPieces_stringChar`), so a string comes back by induction
      on its characters.
    * Each part of a number is as long as its signs go on, so it matters what
      stands behind the number: nothing that could belong to it (`Ends`).
    * A value starts with a sign that tells what kind it is, and is never
      taken for white space or for the end of an array or object (`starts`).

    Values nest, and reading them takes a budget of steps. The induction is on
    this budget: with one more of it, a value, the items of an array and the
    members of an object are read if their parts are read with the one before
    (`Rereads`). The length of the text is budget enough, since each step has
    a sign of its own in it.
-/

namespace DirectoryRecords

namespace Decimal

theorem exists_digit_write (n : Nat) : ∃ c rest, write n = c :: rest ∧ c.isDigit = true := by
  have hdigits : ∀ c ∈ write n, c.isDigit = true := fun _ => isDigit_of_mem_write
  cases hwrite : write n with
  | nil => exact absurd hwrite Nat.toDigits_ne_nil
  | cons c rest =>
      rw [hwrite] at hdigits
      exact ⟨c, rest, rfl, hdigits c List.mem_cons_self⟩

/-- A positive number is written without leading zeros. -/
theorem exists_cons_write {n : Nat} (h : 0 < n) : ∃ c rest, write n = c :: rest ∧ c ≠ '0' := by
  induction n using Nat.strongRecOn with
  | ind n ih =>
      rcases Nat.lt_or_ge n 10 with hlt | hge
      · have hwrite : write n = [Nat.digitChar n] := Nat.toDigits_of_lt_base hlt
        exact ⟨Nat.digitChar n, [], hwrite, mt Nat.digitChar_eq_zero.mp (Nat.ne_of_gt h)⟩
      · have hwrite : write n = write (n / 10) ++ [Nat.digitChar (n % 10)] :=
          Nat.toDigits_of_base_le (by decide) hge
        obtain ⟨c, rest, hfront, hc⟩ := ih (n / 10) (by omega) (by omega)
        exact ⟨c, rest ++ [Nat.digitChar (n % 10)], by rw [hwrite, hfront]; rfl, hc⟩

end Decimal

namespace JsonNumber

/-- A number as it stands in a text: digits only, and no leading zeros of the whole part. -/
structure WellFormed (number : JsonNumber) : Prop where
  whole : number.whole = ['0'] ∨ ∃ c rest, number.whole = c :: rest ∧ c ≠ '0'
  whole_digits : ∀ c ∈ number.whole, c.isDigit = true
  decimals_digits : ∀ c ∈ number.decimals, c.isDigit = true

theorem WellFormed.exists_cons {number : JsonNumber} (h : number.WellFormed) :
    ∃ c rest, number.whole = c :: rest ∧ c.isDigit = true := by
  have hdigits := h.whole_digits
  rcases h.whole with hzero | ⟨c, rest, hwhole, -⟩
  · exact ⟨'0', [], hzero, rfl⟩
  · rw [hwhole] at hdigits
    exact ⟨c, rest, hwhole, hdigits c List.mem_cons_self⟩

theorem wellFormed_ofNat (n : Nat) : (ofNat n).WellFormed := by
  refine ⟨?_, fun _ => Decimal.isDigit_of_mem_write, fun _ hc => nomatch hc⟩
  rcases Nat.eq_zero_or_pos n with rfl | hn
  · exact .inl rfl
  · exact .inr (Decimal.exists_cons_write hn)

end JsonNumber

namespace Json

/-! ## Strings -/

theorem hexNumber?_digitChar : ∀ n < 0x20,
    hexNumber? '0' '0' (Nat.digitChar (n / 16)) (Nat.digitChar (n % 16)) = some n := by
  decide

theorem readPieces_of_plain {c : Char} (hquote : c ≠ '"') (hslash : c ≠ '\\')
    (hspace : ¬ c.toNat < 0x20) (rest : Text) :
    readPieces (c :: rest)
      = (readPieces rest).map fun (pieces, after) => (.char c :: pieces, after) := by
  have hplain : (decide (c.toNat < 0x20) || c == '\\') = false := by simp [hspace, hslash]
  rw [readPieces, hplain]
  · rfl
  · exact hquote
  · exact fun _ _ _ _ _ hc => absurd hc hslash
  · exact fun _ _ hc => absurd hc hslash

theorem readPieces_letter {letter c : Char} (h : escapedChar? letter = some c) (rest : Text) :
    readPieces ('\\' :: letter :: rest)
      = (readPieces rest).map fun (pieces, after) => (.char c :: pieces, after) := by
  rw [readPieces]
  · rw [h]
  · rintro a b c d rest rfl
    simp [escapedChar?] at h

theorem readPieces_code {n : Nat} {x y : Char} (h : hexNumber? '0' '0' x y = some n) (rest : Text) :
    readPieces ('\\' :: 'u' :: '0' :: '0' :: x :: y :: rest)
      = (readPieces rest).map fun (pieces, after) => (.ofNumber n :: pieces, after) := by
  rw [readPieces, h]

/-- A written character is read as it is, whatever stands behind it. -/
theorem readPieces_stringChar (c : Char) (rest : Text) :
    readPieces (stringChar c ++ rest)
      = (readPieces rest).map fun (pieces, after) => (.char c :: pieces, after) := by
  unfold stringChar
  split
  case h_8 hquote hslash _ _ _ _ _ =>
    split
    · next hspace =>
      have hcode := readPieces_code (hexNumber?_digitChar c.toNat hspace) rest
      have hpiece : Piece.ofNumber c.toNat = .char c := by
        rw [Piece.ofNumber, if_neg (by omega), Char.ofNat_toNat]
      rw [hpiece] at hcode
      exact hcode
    · next hspace => exact readPieces_of_plain hquote hslash hspace rest
  all_goals exact readPieces_letter rfl rest

theorem writeString_append (text rest : Text) :
    writeString text ++ rest = '"' :: (text.flatMap stringChar ++ '"' :: rest) := by
  rw [writeString, List.cons_append, List.cons_append, List.append_assoc]
  rfl

theorem readPieces_flatMap_stringChar (text rest : Text) :
    readPieces (text.flatMap stringChar ++ '"' :: rest) = some (text.map .char, rest) := by
  induction text with
  | nil => rw [List.flatMap_nil, List.nil_append, readPieces, List.map_nil]
  | cons c text ih =>
      rw [List.flatMap_cons, List.append_assoc, readPieces_stringChar, ih]
      rfl

theorem joinPieces_map_char (text : Text) : joinPieces (text.map .char) = some text := by
  induction text with
  | nil => rw [List.map_nil, joinPieces]
  | cons c text ih => rw [List.map_cons, joinPieces, ih]; rfl

/-! ## Numbers -/

/-- A text starts with none of the characters, or is empty. -/
def StartsWithout (p : Char → Bool) (text : Text) : Prop :=
  ∀ c ∈ text.head?, p c = false

theorem readDigits_append {digits rest : Text} (hne : digits ≠ [])
    (hdigits : ∀ c ∈ digits, c.isDigit = true) (hrest : StartsWithout Char.isDigit rest) :
    readDigits (digits ++ rest) = some (digits, rest) := by
  have hstop : rest.takeWhile Char.isDigit = [] ∧ rest.dropWhile Char.isDigit = rest := by
    cases rest with
    | nil => exact ⟨rfl, rfl⟩
    | cons c rest =>
        have hc := hrest c rfl
        exact ⟨List.takeWhile_cons_of_neg (by simp [hc]), List.dropWhile_cons_of_neg (by simp [hc])⟩
  have htake : (digits ++ rest).takeWhile Char.isDigit = digits := by
    rw [List.takeWhile_append_of_pos hdigits, hstop.1, List.append_nil]
  have hdrop : (digits ++ rest).dropWhile Char.isDigit = rest := by
    rw [List.dropWhile_append_of_pos hdigits, hstop.2]
  rw [readDigits, htake, hdrop]
  cases digits with
  | nil => exact absurd rfl hne
  | cons c rest => rfl

/-- What may stand behind a value: nothing, or the comma or bracket that ends it. -/
def Ends (rest : Text) : Prop :=
  ∀ c ∈ rest.head?, c = ',' ∨ c = ']' ∨ c = '\x7d'

theorem Ends.startsWithout {rest : Text} (h : Ends rest) {p : Char → Bool}
    (hcomma : p ',' = false) (hbracket : p ']' = false) (hbrace : p '\x7d' = false) :
    StartsWithout p rest := by
  intro c hc
  rcases h c hc with rfl | rfl | rfl
  · exact hcomma
  · exact hbracket
  · exact hbrace

theorem ends_cons {c : Char} (h : c = ',' ∨ c = ']' ∨ c = '\x7d') (rest : Text) :
    Ends (c :: rest) := by
  intro first hfirst
  obtain rfl := Option.some.inj hfirst
  exact h

theorem readWhole_append {number : JsonNumber} (h : number.WellFormed) {rest : Text}
    (hrest : StartsWithout Char.isDigit rest) :
    readWhole (number.whole ++ rest) = some (number.whole, rest) := by
  rcases h.whole with hzero | ⟨c, digits, hwhole, hc⟩
  · rw [hzero]
    rfl
  · have hread := readDigits_append (by rw [hwhole]; exact List.cons_ne_nil c digits)
      h.whole_digits hrest
    rw [hwhole] at hread ⊢
    rw [List.cons_append, readWhole]
    · exact hread
    · exact fun _ hsame => hc (List.cons.inj hsame).1

/-- The decimals of a number with their point. -/
def writeDecimals (decimals : Text) : Text :=
  if decimals.isEmpty then [] else '.' :: decimals

/-- The exponent of a number with its letter. -/
def writeExponent : Option Int → Text
  | none => []
  | some (.ofNat n) => 'e' :: Decimal.write n
  | some (.negSucc n) => 'e' :: '-' :: Decimal.write (n + 1)

theorem writeNumber_eq (number : JsonNumber) :
    writeNumber number = (if number.negative then ['-'] else []) ++ (number.whole ++
      (writeDecimals number.decimals ++ writeExponent number.exponent)) := by
  rw [writeNumber, List.append_assoc, List.append_assoc]
  rfl

theorem startsWithout_writeDecimals {p : Char → Bool} (hpoint : p '.' = false) (decimals : Text)
    {rest : Text} (hrest : StartsWithout p rest) :
    StartsWithout p (writeDecimals decimals ++ rest) := by
  cases decimals with
  | nil => exact hrest
  | cons c decimals =>
      intro first hfirst
      obtain rfl := Option.some.inj hfirst
      exact hpoint

theorem startsWithout_writeExponent {p : Char → Bool} (hletter : p 'e' = false)
    (exponent : Option Int) {rest : Text} (hrest : StartsWithout p rest) :
    StartsWithout p (writeExponent exponent ++ rest) := by
  cases exponent with
  | none => exact hrest
  | some exponent =>
      intro first hfirst
      cases exponent with
      | ofNat n =>
          obtain rfl := Option.some.inj hfirst
          exact hletter
      | negSucc n =>
          obtain rfl := Option.some.inj hfirst
          exact hletter

theorem readDecimals_append {decimals rest : Text} (hdigits : ∀ c ∈ decimals, c.isDigit = true)
    (hdigit : StartsWithout Char.isDigit rest) (hpoint : StartsWithout (· == '.') rest) :
    readDecimals (writeDecimals decimals ++ rest) = some (decimals, rest) := by
  cases decimals with
  | nil =>
      show readDecimals rest = some ([], rest)
      rw [readDecimals]
      rintro after rfl
      exact absurd (hpoint '.' rfl) (by decide)
  | cons c decimals => exact readDigits_append (List.cons_ne_nil c decimals) hdigits hdigit

theorem readDigits_write (n : Nat) {rest : Text} (hrest : StartsWithout Char.isDigit rest) :
    readDigits (Decimal.write n ++ rest) = some (Decimal.write n, rest) :=
  readDigits_append Nat.toDigits_ne_nil (fun _ => Decimal.isDigit_of_mem_write) hrest

/-- Digits without a sign are read as the value of an exponent. -/
theorem readExponentValue_write (n : Nat) {rest : Text} (hrest : StartsWithout Char.isDigit rest) :
    readExponentValue (Decimal.write n ++ rest) = some ((n : Int), rest) := by
  have hread := readDigits_write n hrest
  obtain ⟨c, digits, hwrite, hc⟩ := Decimal.exists_digit_write n
  rw [readExponentValue, hread]
  · show some ((Nat.ofDigitChars 10 (Decimal.write n) 0 : Int), rest) = some ((n : Int), rest)
    rw [Decimal.ofDigitChars_write]
  · intro after hminus
    rw [hwrite] at hminus
    obtain rfl := (List.cons.inj hminus).1
    exact absurd hc (by decide)
  · intro after hplus
    rw [hwrite] at hplus
    obtain rfl := (List.cons.inj hplus).1
    exact absurd hc (by decide)

theorem readExponent_append (exponent : Option Int) {rest : Text}
    (hdigit : StartsWithout Char.isDigit rest)
    (hletter : StartsWithout (fun c => c == 'e' || c == 'E') rest) :
    readExponent (writeExponent exponent ++ rest) = some (exponent, rest) := by
  cases exponent with
  | none =>
      show readExponent rest = some (none, rest)
      rw [readExponent]
      · rintro after rfl
        exact absurd (hletter 'e' rfl) (by decide)
      · rintro after rfl
        exact absurd (hletter 'E' rfl) (by decide)
  | some exponent =>
      cases exponent with
      | ofNat n =>
          show (readExponentValue (Decimal.write n ++ rest)).map _ = _
          rw [readExponentValue_write n hdigit]
          rfl
      | negSucc n =>
          show ((readDigits (Decimal.write (n + 1) ++ rest)).map _).map _ = _
          rw [readDigits_write (n + 1) hdigit]
          show some (some (-(Nat.ofDigitChars 10 (Decimal.write (n + 1)) 0 : Int)), rest) = _
          rw [Decimal.ofDigitChars_write]
          rfl

/-- **A number is read as it was written.** -/
theorem readNumber_writeNumber {number : JsonNumber} (h : number.WellFormed) {rest : Text}
    (hrest : Ends rest) : readNumber (writeNumber number ++ rest) = some (number, rest) := by
  have hdigit : StartsWithout Char.isDigit rest := hrest.startsWithout rfl rfl rfl
  have hpoint : StartsWithout (· == '.') rest := hrest.startsWithout rfl rfl rfl
  have hletter : StartsWithout (fun c => c == 'e' || c == 'E') rest :=
    hrest.startsWithout rfl rfl rfl
  -- From the last part to the first, since each part ends where the next one starts.
  have hexponent := readExponent_append number.exponent hdigit hletter
  have hdecimals := readDecimals_append h.decimals_digits
    (startsWithout_writeExponent rfl number.exponent hdigit)
    (startsWithout_writeExponent rfl number.exponent hpoint)
  have hwhole := readWhole_append h (startsWithout_writeDecimals rfl number.decimals
    (startsWithout_writeExponent rfl number.exponent hdigit))
  have hunsigned (negative : Bool) : readUnsigned negative (number.whole ++
      (writeDecimals number.decimals ++ (writeExponent number.exponent ++ rest)))
      = some ({ number with negative }, rest) := by
    rw [readUnsigned, hwhole]
    simp only [bind, Option.bind, hdecimals, hexponent]
    rfl
  rw [writeNumber_eq, List.append_assoc, List.append_assoc, List.append_assoc]
  cases hsign : number.negative with
  | true =>
      show readUnsigned true (number.whole ++ _) = _
      rw [hunsigned, ← hsign]
  | false =>
      obtain ⟨c, digits, hhead, hc⟩ := h.exists_cons
      show readNumber (number.whole ++ _) = _
      rw [readNumber, hunsigned, ← hsign]
      rintro after hminus
      rw [hhead] at hminus
      obtain rfl := (List.cons.inj hminus).1
      exact absurd hc (by decide)

/-! ## Values -/

mutual

/-- A value that is one of JSON, with numbers as they can stand in a text. -/
def WellFormed : Json → Prop
  | .null | .bool _ | .string _ => True
  | .illFormed => False
  | .number value => value.WellFormed
  | .array items => AllWellFormed items
  | .object members => AllMembersWellFormed members

/-- Every item of an array is well-formed. -/
def AllWellFormed : List Json → Prop
  | [] => True
  | item :: rest => WellFormed item ∧ AllWellFormed rest

/-- The value of every member of an object is well-formed. -/
def AllMembersWellFormed : List (Text × Json) → Prop
  | [] => True
  | (_, value) :: rest => WellFormed value ∧ AllMembersWellFormed rest

end

theorem allMembersWellFormed_iff {members : List (Text × Json)} :
    AllMembersWellFormed members ↔ ∀ member ∈ members, member.2.WellFormed := by
  induction members with
  | nil => exact ⟨fun _ _ hmember => absurd hmember List.not_mem_nil, fun _ => trivial⟩
  | cons member rest ih => rw [AllMembersWellFormed, ih, List.forall_mem_cons]

theorem wellFormed_string (text : Text) : (string text).WellFormed := by
  rw [WellFormed]
  trivial

theorem wellFormed_bool (value : Bool) : (bool value).WellFormed := by
  rw [WellFormed]
  trivial

theorem wellFormed_nat (n : Nat) : (nat n).WellFormed := by
  rw [nat, WellFormed]
  exact JsonNumber.wellFormed_ofNat n

theorem wellFormed_map {α : Type} {encode : α → Json} (h : ∀ a, (encode a).WellFormed)
    (given : Option α) : ∀ json ∈ given.map encode, json.WellFormed := by
  intro json hjson
  obtain ⟨a, -, rfl⟩ := Option.map_eq_some_iff.mp hjson
  exact h a

/-! ## How values start -/

/-- The characters that a value starts with. -/
def starts (c : Char) : Bool :=
  c.isDigit || ['"', '[', '\x7b', 'n', 't', 'f', '-'].contains c

theorem starts_numeral {c : Char} (h : c.isDigit = true ∨ c = '-') : starts c = true := by
  rcases h with h | rfl
  · rw [starts, h, Bool.true_or]
  · rfl

theorem skipSpace_cons {c : Char} (h : starts c = true) (rest : Text) :
    skipSpace (c :: rest) = c :: rest := by
  refine List.dropWhile_cons_of_neg ?_
  intro hspace
  simp only [Bool.or_eq_true, beq_iff_eq] at hspace
  rcases hspace with ((rfl | rfl) | rfl) | rfl
  all_goals exact absurd h (by decide)

theorem exists_numeral {number : JsonNumber} (h : number.WellFormed) :
    ∃ c rest, writeNumber number = c :: rest ∧ (c.isDigit = true ∨ c = '-') := by
  obtain ⟨c, rest, hwhole, hc⟩ := h.exists_cons
  rw [writeNumber_eq, hwhole]
  cases number.negative with
  | true => exact ⟨_, _, rfl, .inr rfl⟩
  | false => exact ⟨_, _, rfl, .inl hc⟩

theorem exists_starts {json : Json} (h : json.WellFormed) :
    ∃ c rest, write json = c :: rest ∧ starts c = true := by
  cases json with
  | null => exact ⟨_, _, rfl, rfl⟩
  | bool value =>
      cases value with
      | true => exact ⟨_, _, rfl, rfl⟩
      | false => exact ⟨_, _, rfl, rfl⟩
  | number value =>
      rw [WellFormed] at h
      obtain ⟨c, rest, htext, hc⟩ := exists_numeral h
      exact ⟨c, rest, by rw [write]; exact htext, starts_numeral hc⟩
  | string value => exact ⟨_, _, by rw [write]; rfl, rfl⟩
  | illFormed => exact absurd h id
  | array items => exact ⟨_, _, by rw [write]; rfl, rfl⟩
  | object members => exact ⟨_, _, by rw [write]; rfl, rfl⟩

theorem writeItems_cons (item next : Json) (items : List Json) :
    writeItems (item :: next :: items) = write item ++ ',' :: writeItems (next :: items) := by
  rw [writeItems]
  exact List.cons_ne_nil next items

theorem writeMembers_cons (key : Text) (value : Json) (next : Text × Json)
    (members : List (Text × Json)) :
    writeMembers ((key, value) :: next :: members)
      = writeString key ++ ':' :: write value ++ ',' :: writeMembers (next :: members) := by
  rw [writeMembers]
  exact List.cons_ne_nil next members

theorem exists_starts_items {item : Json} (h : item.WellFormed) (items : List Json) :
    ∃ c rest, writeItems (item :: items) = c :: rest ∧ starts c = true := by
  obtain ⟨c, text, htext, hc⟩ := exists_starts h
  cases items with
  | nil => exact ⟨c, text, by rw [writeItems]; exact htext, hc⟩
  | cons next items => exact ⟨c, _, by rw [writeItems_cons, htext]; rfl, hc⟩

theorem exists_starts_members (key : Text) (value : Json) (members : List (Text × Json)) :
    ∃ c rest, writeMembers ((key, value) :: members) = c :: rest ∧ starts c = true := by
  cases members with
  | nil => exact ⟨'"', _, by rw [writeMembers]; rfl, rfl⟩
  | cons next members => exact ⟨'"', _, by rw [writeMembers_cons]; rfl, rfl⟩

/-! ## One step -/

theorem readValue_string (budget : Nat) (text rest : Text) :
    readValue (budget + 1) (writeString text ++ rest) = some (.string text, rest) := by
  rw [writeString_append, readValue, skipSpace_cons rfl]
  show (readPieces (text.flatMap stringChar ++ '"' :: rest)).map _ = _
  rw [readPieces_flatMap_stringChar]
  show some (ofPieces (text.map .char), rest) = _
  rw [ofPieces, joinPieces_map_char]

theorem readValue_numeral (budget : Nat) {c : Char} (hc : c.isDigit = true ∨ c = '-')
    (rest : Text) : readValue (budget + 1) (c :: rest)
      = (readNumber (c :: rest)).map fun (n, after) => (.number n, after) := by
  rw [readValue, skipSpace_cons (starts_numeral hc)]
  split
  case h_7 => rfl
  all_goals
    next heq =>
    obtain ⟨rfl, -⟩ := List.cons.inj heq
    rcases hc with hc | hc
    · exact absurd hc (by decide)
    · exact absurd hc (by decide)

theorem readValue_array (budget : Nat) {c : Char} (hc : starts c = true) (rest : Text) :
    readValue (budget + 1) ('[' :: c :: rest)
      = (readItems budget (c :: rest)).map fun (items, after) => (.array items, after) := by
  rw [readValue, skipSpace_cons rfl]
  simp only [skipSpace_cons hc]
  split
  · next heq =>
    obtain ⟨rfl, -⟩ := List.cons.inj heq
    exact absurd hc (by decide)
  · rfl

theorem readValue_object (budget : Nat) {c : Char} (hc : starts c = true) (rest : Text) :
    readValue (budget + 1) ('\x7b' :: c :: rest)
      = (readMembers budget (c :: rest)).map fun (members, after) => (ofMembers members, after) := by
  rw [readValue, skipSpace_cons rfl]
  simp only [skipSpace_cons hc]
  split
  · next heq =>
    obtain ⟨rfl, -⟩ := List.cons.inj heq
    exact absurd hc (by decide)
  · rfl

/-- A member as it is read, with a key that might have been no text. -/
def asRead (member : Text × Json) : Option Text × Json :=
  (some member.1, member.2)

theorem ofMembers_map_asRead (members : List (Text × Json)) :
    ofMembers (members.map asRead) = .object members := by
  rw [ofMembers, (mapM_eq_some_iff_eq_map (fun member named => ?_)).mpr rfl]
  obtain ⟨key, value⟩ := member
  rw [Option.map_eq_some_iff, asRead, Prod.mk.injEq]
  constructor
  · rintro ⟨name, rfl, rfl⟩
    exact ⟨rfl, rfl⟩
  · rintro ⟨rfl, rfl⟩
    exact ⟨named.1, rfl, rfl⟩

/-! ## All steps -/

/-- With a budget of steps, values are read as they were written if their texts are within it, and
    so are items and members if their texts are below it. -/
structure Rereads (budget : Nat) : Prop where
  value : ∀ json rest, WellFormed json → Ends rest → (write json).length ≤ budget →
    readValue budget (write json ++ rest) = some (json, rest)
  items : ∀ items rest, items ≠ [] → AllWellFormed items → (writeItems items).length < budget →
    readItems budget (writeItems items ++ ']' :: rest) = some (items, rest)
  members : ∀ members rest, members ≠ [] → AllMembersWellFormed members →
    (writeMembers members).length < budget →
    readMembers budget (writeMembers members ++ '\x7d' :: rest)
      = some (members.map asRead, rest)

section

variable {budget : Nat}

theorem readValue_write_array (h : Rereads budget) {items : List Json} (rest : Text)
    (hitems : AllWellFormed items) (hlength : (write (.array items)).length ≤ budget + 1) :
    readValue (budget + 1) (write (.array items) ++ rest) = some (.array items, rest) := by
  rw [write] at hlength ⊢
  cases items with
  | nil => rw [writeItems]; rfl
  | cons item items =>
      rw [List.cons_append, List.length_cons, List.length_append, List.length_singleton] at hlength
      -- The first sign of the items shows that the array is not the empty one.
      obtain ⟨c, text, htext, hc⟩ := exists_starts_items hitems.1 items
      have hread := h.items (item :: items) rest (List.cons_ne_nil _ _) hitems (by omega)
      rw [List.cons_append, List.cons_append, List.append_assoc]
      rw [htext] at hread ⊢
      rw [List.cons_append, readValue_array budget hc, ← List.cons_append]
      exact congrArg (Option.map _) hread

theorem readValue_write_object (h : Rereads budget) {members : List (Text × Json)} (rest : Text)
    (hmembers : AllMembersWellFormed members)
    (hlength : (write (.object members)).length ≤ budget + 1) :
    readValue (budget + 1) (write (.object members) ++ rest) = some (.object members, rest) := by
  rw [write] at hlength ⊢
  cases members with
  | nil => rw [writeMembers]; rfl
  | cons member members =>
      rw [List.cons_append, List.length_cons, List.length_append, List.length_singleton] at hlength
      obtain ⟨c, text, htext, hc⟩ := exists_starts_members member.1 member.2 members
      have hread := h.members (member :: members) rest (List.cons_ne_nil _ _) hmembers (by omega)
      rw [← ofMembers_map_asRead, List.cons_append, List.cons_append, List.append_assoc]
      rw [htext] at hread ⊢
      rw [List.cons_append, readValue_object budget hc, ← List.cons_append]
      exact congrArg (Option.map _) hread

/-- A value is read with one more of the budget than its parts. -/
theorem readValue_write_succ (h : Rereads budget) {json : Json} {rest : Text}
    (hjson : json.WellFormed) (hrest : Ends rest) (hlength : (write json).length ≤ budget + 1) :
    readValue (budget + 1) (write json ++ rest) = some (json, rest) := by
  cases json with
  | null => rw [write]; rfl
  | bool value =>
      cases value with
      | true => rw [write]; rfl
      | false => rw [write]; rfl
  | number value =>
      rw [WellFormed] at hjson
      have hread := readNumber_writeNumber hjson hrest
      obtain ⟨c, text, htext, hc⟩ := exists_numeral hjson
      rw [write]
      rw [htext] at hread ⊢
      rw [List.cons_append, readValue_numeral budget hc, ← List.cons_append, hread]
      rfl
  | string value => rw [write]; exact readValue_string budget value rest
  | illFormed => exact absurd hjson id
  | array items => rw [WellFormed] at hjson; exact readValue_write_array h rest hjson hlength
  | object members => rw [WellFormed] at hjson; exact readValue_write_object h rest hjson hlength

theorem readItems_write_succ (h : Rereads budget) {items : List Json} (rest : Text)
    (hne : items ≠ []) (hitems : AllWellFormed items)
    (hlength : (writeItems items).length < budget + 1) :
    readItems (budget + 1) (writeItems items ++ ']' :: rest) = some (items, rest) := by
  cases items with
  | nil => exact absurd rfl hne
  | cons item items =>
      rw [AllWellFormed] at hitems
      cases items with
      | nil =>
          rw [writeItems] at hlength ⊢
          have hread := h.value item (']' :: rest) hitems.1 (ends_cons (by decide) rest) (by omega)
          rw [readItems, hread]
          rfl
      | cons next items =>
          rw [writeItems_cons, List.length_append, List.length_cons] at hlength
          have hitem := h.value item (',' :: (writeItems (next :: items) ++ ']' :: rest)) hitems.1
            (ends_cons (by decide) _) (by omega)
          have hrest := h.items (next :: items) rest (List.cons_ne_nil _ _) hitems.2 (by omega)
          rw [writeItems_cons, List.append_assoc, List.cons_append, readItems, hitem]
          show (readItems budget (writeItems (next :: items) ++ ']' :: rest)).map _ = _
          rw [hrest]
          rfl

theorem readMembers_next (key : Text) {value : Json} {text rest : Text}
    (h : readValue budget text = some (value, ',' :: rest)) :
    readMembers (budget + 1) (writeString key ++ ':' :: text)
      = (readMembers budget rest).map fun (members, after) =>
          ((some key, value) :: members, after) := by
  have hcolon : skipSpace (':' :: text) = ':' :: text := rfl
  have hcomma : skipSpace (',' :: rest) = ',' :: rest := rfl
  rw [writeString_append, readMembers, skipSpace_cons rfl]
  simp only [readPieces_flatMap_stringChar, hcolon, h, hcomma, joinPieces_map_char]

theorem readMembers_last (key : Text) {value : Json} {text after : Text}
    (h : readValue budget text = some (value, '\x7d' :: after)) :
    readMembers (budget + 1) (writeString key ++ ':' :: text)
      = some ([(some key, value)], after) := by
  have hcolon : skipSpace (':' :: text) = ':' :: text := rfl
  have hbrace : skipSpace ('\x7d' :: after) = '\x7d' :: after := rfl
  rw [writeString_append, readMembers, skipSpace_cons rfl]
  simp only [readPieces_flatMap_stringChar, hcolon, h, hbrace, joinPieces_map_char]

theorem readMembers_write_succ (h : Rereads budget) {members : List (Text × Json)} (rest : Text)
    (hne : members ≠ []) (hmembers : AllMembersWellFormed members)
    (hlength : (writeMembers members).length < budget + 1) :
    readMembers (budget + 1) (writeMembers members ++ '\x7d' :: rest)
      = some (members.map asRead, rest) := by
  cases members with
  | nil => exact absurd rfl hne
  | cons member members =>
      obtain ⟨key, value⟩ := member
      rw [AllMembersWellFormed] at hmembers
      cases members with
      | nil =>
          rw [writeMembers, List.length_append, List.length_cons] at hlength
          have hvalue := h.value value ('\x7d' :: rest) hmembers.1 (ends_cons (by decide) rest)
            (by omega)
          rw [writeMembers, List.append_assoc, List.cons_append]
          exact readMembers_last key hvalue
      | cons next members =>
          rw [writeMembers_cons, List.length_append, List.length_append, List.length_cons,
            List.length_cons] at hlength
          have hvalue := h.value value (',' :: (writeMembers (next :: members) ++ '\x7d' :: rest))
            hmembers.1 (ends_cons (by decide) _) (by omega)
          have hrest := h.members (next :: members) rest (List.cons_ne_nil _ _) hmembers.2
            (by omega)
          rw [writeMembers_cons, List.append_assoc, List.append_assoc, List.cons_append,
            List.cons_append, readMembers_next key hvalue, hrest]
          rfl

end

/-- **Every budget is enough for the texts within it.** -/
theorem rereads (budget : Nat) : Rereads budget := by
  induction budget with
  | zero =>
      refine ⟨fun json rest hjson _ hlength => ?_, fun _ _ _ _ hlength => ?_,
        fun _ _ _ _ hlength => ?_⟩
      · obtain ⟨c, text, htext, -⟩ := exists_starts hjson
        rw [htext] at hlength
        exact absurd hlength (Nat.not_succ_le_zero _)
      · exact absurd hlength (Nat.not_lt_zero _)
      · exact absurd hlength (Nat.not_lt_zero _)
  | succ budget ih =>
      exact ⟨fun _ _ => readValue_write_succ ih, fun _ => readItems_write_succ ih,
        fun _ => readMembers_write_succ ih⟩

/-- **A value is read as it was written.** -/
theorem read_write {json : Json} (h : json.WellFormed) : read (write json) = some json := by
  have hend : Ends [] := nofun
  have hread := (rereads (2 * (write json).length + 2)).value json [] h hend (by omega)
  rw [List.append_nil] at hread
  rw [read, hread]
  rfl

end Json

end DirectoryRecords
