import DirectoryRecords.Directory.Basic
import DirectoryRecords.Proofs.Codes
import DirectoryRecords.Proofs.Gaps
import DirectoryRecords.Proofs.Grammar
import DirectoryRecords.Proofs.Nesting

/-!
# Pair meaning — what a search with pairs of name and value finds

    The test for a pair is written into a text, which the directory reads and
    decides on its own. This module follows a pair through all of it:

    * the text spells one test, `Filter.test`, whatever the value is, as long as
      the name keeps out of the grammar's way (`spells_term`); a value cannot
      leave its term, since its parentheses are in codes;
    * the test holds of an entry exactly when the pair does, if the value has
      no backslash that could start a code (`holds_test_iff`);
    * none, one or several pairs take different paths, and each spells the
      filter over the tests of the pairs (`spells_compilePairs`).

    What a pair says is `PairHolds`, which mentions neither filters nor the
    search for a pattern.
-/

namespace DirectoryRecords

namespace Conditions

open Text

/-! ## What a pair says -/

/-- A name that the signs of a filter stay out of. -/
structure PlainName (name : Text) : Prop where
  noOpen : '(' ∉ name
  noClose : ')' ∉ name
  noSign : '=' ∉ name
  start : ∀ c ∈ name.head?, c ∉ ['&', '|', '!']

/-- The values of the first attribute that the name of a pair means. -/
def heldValues (entry : Entry) (name : Text) : List Text :=
  (entry.values? (trim name)).getD []

/-- A pair holds of an entry: a lone star asks for any value, which the object class always has;
    a value with stars gives the form of some value, in lower case; any other value is one of
    the values, whatever the case of its ASCII letters. -/
def PairHolds (entry : Entry) (name value : Text) : Prop :=
  (value = ['*'] ∧ (agrees (trim name) "objectClass" = true ∨ heldValues entry name ≠ [])) ∨
  ('*' ∈ value ∧
    ∃ held ∈ heldValues entry name, Gapped ((value.splitOn '*').map lower) (lower held)) ∨
  ('*' ∉ value ∧ ∃ held ∈ heldValues entry name, agrees held value = true)

instance (entry : Entry) (name value : Text) : Decidable (PairHolds entry name value) :=
  inferInstanceAs (Decidable (_ ∨ _ ∨ _))

/-- All or any of the pairs hold of an entry; no pairs ask for nothing. -/
def PairsHold (combine : Combine) (pairs : List (Text × Text)) (entry : Entry) : Prop :=
  match combine with
  | .and => ∀ pair ∈ pairs, PairHolds entry pair.1 pair.2
  | .or => pairs = [] ∨ ∃ pair ∈ pairs, PairHolds entry pair.1 pair.2

instance (combine : Combine) (pairs : List (Text × Text)) (entry : Entry) :
    Decidable (PairsHold combine pairs entry) :=
  match combine with
  | .and => inferInstanceAs (Decidable (∀ pair ∈ pairs, PairHolds entry pair.1 pair.2))
  | .or => inferInstanceAs (Decidable (_ ∨ ∃ pair ∈ pairs, PairHolds entry pair.1 pair.2))

/-! ## The test for a pair -/

/-- A name without parentheses is written as it stands. -/
theorem escapeParentheses_of_free {name : Text} (ho : '(' ∉ name) (hc : ')' ∉ name) :
    Filter.escapeParentheses name = name := by
  induction name with
  | nil => rfl
  | cons c rest ih =>
      have hplain : Filter.escapeParenthesis c = [c] :=
        Filter.escapeParenthesis_of_ne (Ne.symm (List.ne_of_not_mem_cons ho))
          (Ne.symm (List.ne_of_not_mem_cons hc))
      have hrest := ih (List.not_mem_of_not_mem_cons ho) (List.not_mem_of_not_mem_cons hc)
      rw [Filter.escapeParentheses, List.flatMap_cons, hplain]
      exact congrArg (c :: ·) hrest

/-- The test for a written value is the test for the value. -/
theorem test_escape (name value : Text) :
    Filter.test name (Filter.escape value) = Filter.test name value := by
  by_cases hlone : value = ['*']
  · rw [hlone]
    rfl
  · by_cases hstar : '*' ∈ value
    · have hmore : Filter.escape value ≠ ['*'] := fun h =>
        hlone ((Filter.escape_eq_star value).mp h)
      rw [Filter.test_pattern name hmore ((Filter.star_mem_escape value).mpr hstar),
        Filter.test_pattern name hlone hstar, Filter.splitOn_escape, List.map_map]
      exact congrArg (Filter.pattern (trim name))
        (List.map_congr_left fun part _ => Filter.unescape_escape part)
    · have hnone : '*' ∉ Filter.escape value := fun h =>
        hstar ((Filter.star_mem_escape value).mp h)
      rw [Filter.test_equals name hnone, Filter.test_equals name hstar, Filter.unescape_escape]

/-- **A term stays one test.** The term of a pair spells the test for it, whatever characters
    the value consists of. -/
theorem spells_term {name : Text} (h : PlainName name) (value : Text) :
    Filter.Spells (term name value) (Filter.test name value) := by
  -- The term ends where the test ends: a parenthesis of the value is written by its code.
  have hclose : ')' ∉ name ++ '=' :: Filter.escape value := by
    intro hmem
    rcases List.mem_append.mp hmem with hmem | hmem
    · exact h.noClose hmem
    · rcases List.mem_cons.mp hmem with heq | hmem
      · exact absurd heq (by decide)
      · exact (free_escape value).2 hmem
  have hstart : Filter.StartsPlain (name ++ '=' :: Filter.escape value) := by
    cases name with
    | nil => exact forall_head_cons (by decide) _
    | cons d rest =>
        refine forall_head_cons ?_ _
        intro hmem
        rcases List.mem_cons.mp hmem with rfl | hmem
        · exact h.noOpen List.mem_cons_self
        · exact h.start d rfl hmem
  have hspells := Filter.Spells.test h.noSign hclose hstart
  rw [test_escape] at hspells
  have hterm : term name value = '(' :: (name ++ '=' :: Filter.escape value) ++ [')'] := by
    rw [term, escapeParentheses_of_free h.noOpen h.noClose]
    simp
  rw [hterm]
  exact hspells

/-! ## What the test asks -/

/-- Whether the test for a value passes a text: with stars as a pattern, else as a value. -/
def finds (value held : Text) : Bool :=
  if '*' ∈ value then Filter.valueFits ((value.splitOn '*').map Filter.unescape) held
  else agrees held (Filter.unescape value)

theorem finds_of_star {value : Text} (h : '*' ∈ value) :
    finds value = Filter.valueFits ((value.splitOn '*').map Filter.unescape) := by
  funext held
  rw [finds, if_pos h]

theorem finds_of_no_star {value : Text} (h : '*' ∉ value) :
    finds value = (agrees · (Filter.unescape value)) := by
  funext held
  rw [finds, if_neg h]

/-- A lone star passes every text, as the pattern of a gap between two empty parts. -/
theorem finds_lone_star : finds ['*'] = fun _ => true := by
  funext held
  have hgap : Gapped [[], []] ([] ++ (lower held ++ [])) :=
    Gapped.next [] (lower held) (Gapped.last [])
  rw [List.nil_append, List.append_nil] at hgap
  exact (Filter.fits_iff_gapped [] [] [] (lower held)).mpr hgap

/-- A test holds of an entry when it passes some value, or asks for the object class. -/
theorem holds_test (entry : Entry) (name value : Text) :
    Filter.holds entry (Filter.test name value)
      = (decide (value = ['*']) && agrees (trim name) "objectClass" ||
          (heldValues entry name).any (finds value)) := by
  by_cases hlone : value = ['*']
  · rw [hlone, finds_lone_star, Filter.test_star, Filter.holds]
    rfl
  · have hfalse : decide (value = ['*']) = false := decide_eq_false hlone
    rw [hfalse, Bool.false_and, Bool.false_or]
    by_cases hstar : '*' ∈ value
    · rw [finds_of_star hstar, Filter.test_pattern name hlone hstar, Filter.holds]
      rfl
    · rw [finds_of_no_star hstar, Filter.test_equals name hstar, Filter.holds]
      rfl

/-- The parts of a value without backslashes are read as they stand. -/
theorem unescape_parts {value : Text} (h : '\\' ∉ value) :
    (value.splitOn '*').map Filter.unescape = value.splitOn '*' := by
  have hpart : ∀ part ∈ value.splitOn '*', Filter.unescape part = part := by
    intro part hmem
    refine Filter.unescape_of_noCode (Filter.noCode_of_free ?_)
    intro hback
    exact h (mem_of_mem_splitOn hmem _ hback)
  exact (List.map_congr_left hpart).trans (List.map_id _)

/-- Without a backslash the test passes the texts of the value's form, or those that agree. -/
theorem finds_iff {value : Text} (hcode : '\\' ∉ value) (held : Text) :
    finds value held = true ↔
      ('*' ∈ value ∧ Gapped ((value.splitOn '*').map lower) (lower held)) ∨
        ('*' ∉ value ∧ agrees held value = true) := by
  by_cases hstar : '*' ∈ value
  · obtain ⟨part, next, parts, hparts⟩ := exists_pieces hstar
    have hfits : Filter.valueFits (value.splitOn '*') held = true ↔
        Gapped ((value.splitOn '*').map lower) (lower held) := by
      rw [hparts]
      exact Filter.fits_iff_gapped (lower part) (lower next) (parts.map lower) (lower held)
    rw [finds_of_star hstar, unescape_parts hcode, hfits]
    constructor
    · intro hheld
      exact Or.inl ⟨hstar, hheld⟩
    · rintro (⟨-, hheld⟩ | ⟨hno, -⟩)
      · exact hheld
      · exact absurd hstar hno
  · rw [finds_of_no_star hstar, Filter.unescape_of_noCode (Filter.noCode_of_free hcode)]
    constructor
    · intro hheld
      exact Or.inr ⟨hstar, hheld⟩
    · rintro (⟨hmem, -⟩ | ⟨-, hheld⟩)
      · exact absurd hmem hstar
      · exact hheld

/-- **The test asks what the pair says.** -/
theorem holds_test_iff {value : Text} (hcode : '\\' ∉ value) (name : Text) (entry : Entry) :
    Filter.holds entry (Filter.test name value) = true ↔ PairHolds entry name value := by
  rw [holds_test, Bool.or_eq_true, Bool.and_eq_true, decide_eq_true_iff, List.any_eq_true]
  constructor
  · rintro (⟨hlone, hclass⟩ | ⟨held, hmem, hfinds⟩)
    · exact Or.inl ⟨hlone, Or.inl hclass⟩
    · rcases (finds_iff hcode held).mp hfinds with ⟨hstar, hform⟩ | ⟨hstar, hagrees⟩
      · exact Or.inr (Or.inl ⟨hstar, held, hmem, hform⟩)
      · exact Or.inr (Or.inr ⟨hstar, held, hmem, hagrees⟩)
  · -- A pair with a lone star holds in two of the three ways, and both come down to some value.
    rintro (⟨rfl, hclass | hne⟩ | ⟨hstar, held, hmem, hform⟩ | ⟨hstar, held, hmem, hagrees⟩)
    · exact Or.inl ⟨rfl, hclass⟩
    · obtain ⟨held, rest, heq⟩ := List.exists_cons_of_ne_nil hne
      refine Or.inr ⟨held, ?_, by rw [finds_lone_star]⟩
      rw [heq]
      exact List.mem_cons_self
    · exact Or.inr ⟨held, hmem, (finds_iff hcode held).mpr (Or.inl ⟨hstar, hform⟩)⟩
    · exact Or.inr ⟨held, hmem, (finds_iff hcode held).mpr (Or.inr ⟨hstar, hagrees⟩)⟩

/-! ## None, one or several pairs -/

/-- The filter that pairs spell: a test that always holds when there are none. -/
def ofPairs (combine : Combine) : List (Text × Text) → Filter
  | [] => .present "objectClass"
  | several => combine.joined (several.map fun pair => Filter.test pair.1 pair.2)

/-- The filter that matches every entry is the term of a pair. -/
theorem spells_matchAll : Filter.Spells matchAll (.present "objectClass") := by
  have hname : PlainName "objectClass".toList :=
    ⟨by decide, by decide, by decide, forall_head_cons (by decide) _⟩
  exact spells_term hname ['*']

/-- Pairs compile to a text that spells the filter over their tests. -/
theorem spells_compilePairs (combine : Combine) {pairs : List (Text × Text)}
    (h : ∀ pair ∈ pairs, PlainName pair.1) :
    Filter.Spells (compilePairs combine pairs) (ofPairs combine pairs) := by
  match pairs with
  | [] => exact spells_matchAll
  | [(name, value)] => exact spells_term (h (name, value) List.mem_cons_self) value
  | first :: second :: rest =>
      -- Only from two pairs on there is an operator around the terms.
      let spelled := (first :: second :: rest).map fun pair =>
        (term pair.1 pair.2, Filter.test pair.1 pair.2)
      have hspelled : ∀ one ∈ spelled, Filter.Spells one.1 one.2 := by
        intro one hone
        obtain ⟨pair, hmem, rfl⟩ := List.mem_map.mp hone
        exact spells_term (h pair hmem) pair.2
      have hgroup := Filter.Spells.group combine hspelled
      rw [List.map_map, List.map_map] at hgroup
      exact hgroup

/-- The operator over tests holds when all or any of them hold. -/
theorem holds_joined (combine : Combine) (entry : Entry) {filters : List Filter}
    (hne : filters ≠ []) :
    Filter.holds entry (combine.joined filters) = true ↔
      match combine with
      | .and => ∀ filter ∈ filters, Filter.holds entry filter = true
      | .or => ∃ filter ∈ filters, Filter.holds entry filter = true := by
  match filters with
  | [] => exact absurd rfl hne
  | [filter] =>
      cases combine with
      | and =>
          show Filter.holds entry filter = true ↔ ∀ one ∈ [filter], _
          rw [List.forall_mem_singleton]
      | or =>
          show Filter.holds entry filter = true ↔ ∃ one ∈ [filter], _
          simp only [List.mem_singleton, exists_eq_left]
  | first :: second :: rest =>
      cases combine with
      | and =>
          show Filter.holds entry (.and (first :: second :: rest)) = true ↔ _
          rw [Filter.holds, Filter.allHold_eq_all]
          exact List.all_eq_true
      | or =>
          show Filter.holds entry (.or (first :: second :: rest)) = true ↔ _
          rw [Filter.holds, Filter.anyHolds_eq_any]
          exact List.any_eq_true

/-- The filter of pairs holds of an entry exactly when the pairs do. -/
theorem holds_ofPairs (combine : Combine) {pairs : List (Text × Text)}
    (h : ∀ pair ∈ pairs, '\\' ∉ pair.2) (entry : Entry) :
    Filter.holds entry (ofPairs combine pairs) = true ↔ PairsHold combine pairs entry := by
  cases pairs with
  | nil =>
      have hholds : Filter.holds entry (ofPairs combine []) = true := by
        show (agrees "objectClass" "objectClass" || _) = true
        rw [agrees_refl]
        rfl
      refine ⟨fun _ => ?_, fun _ => hholds⟩
      cases combine with
      | and => exact fun pair hmem => absurd hmem List.not_mem_nil
      | or => exact Or.inl rfl
  | cons pair rest =>
      have hne : (pair :: rest).map (fun pair => Filter.test pair.1 pair.2) ≠ [] :=
        List.cons_ne_nil _ _
      show Filter.holds entry (combine.joined ((pair :: rest).map _)) = true ↔ _
      rw [holds_joined combine entry hne]
      cases combine with
      | and =>
          constructor
          · intro hall one hmem
            exact (holds_test_iff (h one hmem) one.1 entry).mp (hall _ (List.mem_map_of_mem hmem))
          · intro hall filter hmem
            obtain ⟨one, hone, rfl⟩ := List.mem_map.mp hmem
            exact (holds_test_iff (h one hone) one.1 entry).mpr (hall one hone)
      | or =>
          constructor
          · rintro ⟨filter, hmem, hholds⟩
            obtain ⟨one, hone, rfl⟩ := List.mem_map.mp hmem
            exact Or.inr ⟨one, hone, (holds_test_iff (h one hone) one.1 entry).mp hholds⟩
          · rintro (hnil | ⟨one, hone, hholds⟩)
            · exact absurd hnil (List.cons_ne_nil pair rest)
            · exact ⟨_, List.mem_map_of_mem hone,
                (holds_test_iff (h one hone) one.1 entry).mpr hholds⟩

end Conditions

namespace Directory

/-! ## Searching -/

/-- A search with a text that spells a filter finds what the filter selects. -/
theorem search_of_spells {text : Text} {filter : Filter} (h : Filter.Spells text filter)
    (base : Text) (attributes : List Text) (limit : Option Nat) {directory : Directory}
    (hopen : directory.searchesFail = false) :
    search base text attributes limit directory
      = (.ok (directory.select base filter attributes limit),
          directory.log (.search base text attributes limit)) := by
  have hread : Filter.read text = .ok filter := by
    rw [Filter.read, Filter.read?_of_spells h]
  have hanswer : directory.searchAnswer base text attributes limit
      = .ok (directory.select base filter attributes limit) := by
    rw [searchAnswer, if_neg (by rw [hopen]; exact Bool.false_ne_true), hread]
    rfl
  rw [search, hanswer]

/-- **Pairs find what they say.** A search with compiled pairs succeeds and finds the entries
    below the base for which all or any of the pairs hold, in stored order; without pairs it
    finds every entry there. -/
theorem search_compile_pairs (combine : Combine) {pairs : List (Text × Text)}
    (hname : ∀ pair ∈ pairs, Conditions.PlainName pair.1) (hcode : ∀ pair ∈ pairs, '\\' ∉ pair.2)
    (base : Text) (attributes : List Text) {directory : Directory}
    (hopen : directory.searchesFail = false) :
    search base (Conditions.compile (.pairs pairs combine)) attributes none directory
      = (.ok ((directory.entries.filter fun entry =>
            entry.inSubtree base && decide (Conditions.PairsHold combine pairs entry)).map
              (Entry.project attributes)),
          directory.log
            (.search base (Conditions.compile (.pairs pairs combine)) attributes none)) := by
  have hspells := Conditions.spells_compilePairs combine hname
  rw [← Conditions.compile_pairs] at hspells
  rw [search_of_spells hspells base attributes none hopen, select]
  have hsame : ∀ entry ∈ directory.entries,
      (entry.inSubtree base && Filter.holds entry (Conditions.ofPairs combine pairs))
        = (entry.inSubtree base && decide (Conditions.PairsHold combine pairs entry)) := by
    intro entry _
    rw [Bool.eq_iff_iff.mpr ((Conditions.holds_ofPairs combine hcode entry).trans
      decide_eq_true_iff.symm)]
  rw [List.filter_congr hsame]

/-- A name and a pattern are looked for below a base, where one entry of two has both, and the
    name is not asked for. An entry elsewhere that has both is not found. -/
theorem search_compile_pairs_name_and_pattern :
    let people : Directory := { ofIdentity defaultIdentity with
      entries := [⟨"cn=a,ou=Group,dc=x", [⟨"cn", ["Ann"]⟩, ⟨"sn", ["Lee"]⟩]⟩,
        ⟨"cn=a,ou=People,dc=x", [⟨"CN", ["Ann"]⟩, ⟨"sn", ["Lee"]⟩, ⟨"mail", ["ann@x"]⟩]⟩,
        ⟨"cn=b,ou=People,dc=x", [⟨"cn", ["Ann"]⟩, ⟨"mail", ["b@x"]⟩]⟩] }
    let filter := Conditions.compile (.pairs [("cn", "ann"), (" sn", "l*e")] .and)
    search "OU=people,dc=x" filter ["SN", "mail"] none people
      = (.ok [⟨"cn=a,ou=People,dc=x", [⟨"sn", ["Lee"]⟩, ⟨"mail", ["ann@x"]⟩]⟩],
          people.log (.search "OU=people,dc=x" filter ["SN", "mail"] none)) := by
  intro people filter
  have hname : ∀ pair ∈ [("cn".toList, "ann".toList), (" sn".toList, "l*e".toList)],
      Conditions.PlainName pair.1 := by
    intro pair hmem
    simp only [List.mem_cons, List.not_mem_nil, or_false] at hmem
    rcases hmem with rfl | rfl
    · exact ⟨by decide, by decide, by decide, Text.forall_head_cons (by decide) _⟩
    · exact ⟨by decide, by decide, by decide, Text.forall_head_cons (by decide) _⟩
  have hopen : people.searchesFail = false := rfl
  exact (search_compile_pairs .and hname (by decide) "OU=people,dc=x" ["SN", "mail"]
    hopen).trans rfl

end Directory

end DirectoryRecords
