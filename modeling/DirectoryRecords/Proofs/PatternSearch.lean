import DirectoryRecords.Proofs.Gaps
import Mathlib.Data.String.Basic

/-!
# Pattern search — looking for the parts of a pattern with a moving offset

    The test of a pattern hands on what is left of a text behind each part. It
    can be made in place as well: the text stays whole, an offset in bytes
    says how far the search has come, and the rest is sliced off where the
    next part is looked for. A slice that starts behind the end of the text or
    within a character is out of range, and the search has no answer then.

    This never happens. The offset is always the number of bytes of what lies
    in front of the rest, so the slice is the rest (`fromByte?_append`) and the
    search answers what the test does (`searchFrom_eq`, by induction on the
    parts with any text in front). And the test decides whether the text
    consists of the parts with any gaps between them, by the exchange of gaps
    on which leftmost search rests; the gaps are listed here one by one
    (`gapped_iff_exists_gaps`).
-/

namespace DirectoryRecords

namespace Text

/-! ## Slices -/

/-- The text from an offset in bytes on, if it is in range: neither behind the end nor within a
    character. -/
def fromByte? : (offset : Nat) → Text → Option Text
  | 0, text => some text
  | _ + 1, [] => none
  | n + 1, c :: rest =>
    if c.utf8Size ≤ n + 1 then fromByte? (n + 1 - c.utf8Size) rest else none

/-- Behind the bytes of a text at the front is what follows it. -/
theorem fromByte?_append (front rest : Text) :
    fromByte? (String.utf8Len front) (front ++ rest) = some rest := by
  induction front with
  | nil => rw [String.utf8Len_nil, List.nil_append, fromByte?]
  | cons c front ih =>
      have hpos := c.utf8Size_pos
      obtain ⟨n, hn⟩ : ∃ n, String.utf8Len front + c.utf8Size = n + 1 :=
        ⟨String.utf8Len front + c.utf8Size - 1, by omega⟩
      have hleft : n + 1 - c.utf8Size = String.utf8Len front := by omega
      rw [String.utf8Len_cons, hn, List.cons_append, fromByte?, if_pos (by omega), hleft, ih]

/-! ## Gaps one by one -/

/-- A text has the form of a pattern if it is the parts with certain gaps between them. -/
theorem gapped_iff_exists_gaps (part : Text) (parts : List Text) (text : Text) :
    Gapped (part :: parts) text ↔
      ∃ gaps : List Text, gaps.length = parts.length ∧
        text = part ++ (List.zipWith (· ++ ·) gaps parts).flatten := by
  induction parts generalizing part text with
  | nil =>
      rw [gapped_singleton]
      constructor
      · rintro rfl
        exact ⟨[], rfl, (List.append_nil part).symm⟩
      · rintro ⟨gaps, -, rfl⟩
        rw [List.zipWith_nil_right]
        exact (List.append_nil part).symm
  | cons next parts ih =>
      rw [gapped_cons_cons]
      constructor
      · rintro ⟨gap, rest, rfl, hrest⟩
        obtain ⟨gaps, hlength, rfl⟩ := (ih next rest).mp hrest
        refine ⟨gap :: gaps, by rw [List.length_cons, List.length_cons, hlength], ?_⟩
        rw [List.zipWith_cons_cons, List.flatten_cons, List.append_assoc]
      · rintro ⟨gaps, hlength, rfl⟩
        cases gaps with
        | nil => exact absurd hlength (by simp)
        | cons gap gaps =>
            have hshorter : gaps.length = parts.length := Nat.succ.inj hlength
            refine ⟨gap, next ++ (List.zipWith (· ++ ·) gaps parts).flatten, ?_,
              (ih next _).mpr ⟨gaps, hshorter, rfl⟩⟩
            rw [List.zipWith_cons_cons, List.flatten_cons, List.append_assoc]

end Text

namespace Filter

open Text

/-! ## The search -/

/-- The search for the parts behind an offset. An empty part is passed over, the last part has to
    stand at the end and behind the offset, and each other part is found as far to the left as
    possible. -/
def searchFrom (value : Text) : (offset : Nat) → (parts : List Text) → Option Bool
  | _, [] => some true
  | offset, [part] =>
    if part.isEmpty then some true
    else if offset + String.utf8Len part ≤ String.utf8Len value then
      (fromByte? offset value).map part.isSuffixOf
    else some false
  | offset, part :: next :: parts =>
    if part.isEmpty then searchFrom value offset (next :: parts)
    else
      match fromByte? offset value with
      | none => none
      | some rest =>
        match cutAt part rest with
        | some (before, _) =>
          searchFrom value (offset + (String.utf8Len before + String.utf8Len part)) (next :: parts)
        | none => some false

/-- The search of a text for the parts of a pattern, the first of which has to stand at the front.
    There is no answer where a slice is out of range. -/
def search (value : Text) : (parts : List Text) → Option Bool
  | [] => some true
  | part :: parts =>
    if part.isEmpty then searchFrom value 0 parts
    else if part.isPrefixOf value then searchFrom value (String.utf8Len part) parts
    else some false

/-- The last part is found at the end of what is left, which may be too short for it. -/
theorem searchFrom_singleton (part front rest : Text) :
    searchFrom (front ++ rest) (String.utf8Len front) [part] = some (part.isSuffixOf rest) := by
  rw [searchFrom]
  cases part with
  | nil => rw [if_pos List.isEmpty_nil, List.isSuffixOf_iff_suffix.mpr List.nil_suffix]
  | cons c part =>
      rw [if_neg (by simp), fromByte?_append, String.utf8Len_append]
      by_cases hroom : String.utf8Len (c :: part) ≤ String.utf8Len rest
      · rw [if_pos (by omega), Option.map_some]
      · have hlong : ¬ (c :: part).isSuffixOf rest = true := fun hsuffix =>
          hroom (String.utf8Len_le_of_suffix (List.isSuffixOf_iff_suffix.mp hsuffix))
        rw [if_neg (by omega), Bool.eq_false_iff.mpr hlong]

/-- Behind a text at the front the search answers what the test says of the rest. The induction
    is on the parts; what carries it is that the offset is the number of bytes in front. -/
theorem searchFrom_eq (parts : List Text) (front rest : Text) :
    searchFrom (front ++ rest) (String.utf8Len front) parts
      = some (fitsAfterGap parts rest) := by
  induction parts generalizing front rest with
  | nil => rfl
  | cons part parts ih =>
      cases parts with
      | nil => exact searchFrom_singleton part front rest
      | cons next parts =>
          rw [searchFrom, fitsAfterGap]
          · cases part with
            | nil =>
                rw [if_pos List.isEmpty_nil, cutAt_nil]
                exact ih front rest
            | cons c part =>
                rw [if_neg (by simp), fromByte?_append]
                cases hcut : cutAt (c :: part) rest with
                | none => simp only [hcut]
                | some sides =>
                    obtain ⟨before, after⟩ := sides
                    -- The offset moves behind the part, so the part joins what lies in front.
                    have hih := ih (front ++ (before ++ c :: part)) after
                    rw [String.utf8Len_append, String.utf8Len_append, List.append_assoc,
                      List.append_assoc, ← eq_of_cutAt hcut] at hih
                    simp only [hcut]
                    exact hih
          · simp

/-- **The search never leaves the text**, and it answers what the test says. -/
theorem search_eq (value : Text) (parts : List Text) :
    search value parts = some (fits parts value) := by
  cases parts with
  | nil => rfl
  | cons part parts =>
      rw [search, fits]
      cases part with
      | nil =>
          rw [if_pos List.isEmpty_nil]
          exact searchFrom_eq parts [] value
      | cons c part =>
          rw [if_neg (by simp), ← List.isSome_isPrefixOf?_eq_isPrefixOf]
          cases hp : (c :: part).isPrefixOf? value with
          | none => rfl
          | some after =>
              rw [← List.append_eq_of_isPrefixOf?_eq_some hp, Option.isSome_some, if_pos rfl]
              exact searchFrom_eq parts (c :: part) after

example : search "abab" ["ab", "bab"] = some false := by decide

/-- **Leftmost search is the matching of patterns.** With two parts or more, a value fits exactly
    when it is, in lower case, the parts in lower case with certain gaps between them; and the
    search for the parts says so without a slice that is out of range. -/
theorem valueFits_iff_exists_gaps (first next : Text) (rest : List Text) (value : Text) :
    (valueFits (first :: next :: rest) value = true ↔
      ∃ gaps : List Text, gaps.length = (next :: rest).length ∧
        lower value
          = lower first ++ (List.zipWith (· ++ ·) gaps ((next :: rest).map lower)).flatten) ∧
    search (lower value) ((first :: next :: rest).map lower)
      = some (valueFits (first :: next :: rest) value) := by
  refine ⟨?_, search_eq _ _⟩
  rw [valueFits, List.map_cons, List.map_cons, fits_iff_gapped, gapped_iff_exists_gaps,
    ← List.map_cons, List.length_map]

end Filter

end DirectoryRecords
