import DirectoryRecords.Proofs.PairMeaning
import DirectoryRecords.Proofs.Projection

/-!
# Search case — a search does not see ASCII letter case

    A search compares in two ways: names and values by agreement, bases and
    patterns by full lower case. Neither sees the case of the ASCII letters in
    what is searched for, and nor do the steps that come before:

    * the marks of a filter are no letters, and the codes of a value are read
      in both cases, so the parts of a test change their case and nothing
      else (`agrees_unescape`, `holds_test_of_agrees`);
    * a text spells what it spells in other letters, but for the case of names
      and values (`Spells.spellsLike`, by induction on the spelling);
    * so the same entries are below the base and pass the filter, and the same
      attributes are shown of them (`search_caseless`).
-/

namespace DirectoryRecords

open Text

namespace Filter

/-! ## Codes -/

theorem hexDigit?_toLower (c : Char) : hexDigit? c.toLower = hexDigit? c :=
  same_toLower (by decide) c

theorem codedChar?_toLower (high low : Char) :
    codedChar? high.toLower low.toLower = codedChar? high low := by
  have hplus : (high.toLower = '+') = (high = '+') :=
    propext ((by decide : Caseless '+').toLower_eq_iff high)
  simp only [codedChar?, hexDigit?_toLower, hplus]

/-- The digits of a code are read in both cases. -/
theorem code?_asciiLower (text : Text) :
    code? (asciiLower text) = (code? text).map fun (coded, back) => (coded, asciiLower back) := by
  match text with
  | [] => rfl
  | [_] => rfl
  | high :: low :: rest =>
      show code? (high.toLower :: low.toLower :: asciiLower rest) = _
      rw [code?_cons_cons, code?_cons_cons, codedChar?_toLower, Option.map_map]
      rfl

/-- Reading a value in lower case gives what reading the value gives, but for the case: a coded
    capital stays one. -/
theorem asciiLower_unescape_asciiLower (value : Text) :
    asciiLower (unescape (asciiLower value)) = asciiLower (unescape value) := by
  -- Reading goes on two characters behind a code, so the induction is on the length.
  induction hn : value.length using Nat.strong_induction_on generalizing value with
  | _ n ih =>
      cases value with
      | nil => rfl
      | cons c rest =>
          rw [List.length_cons] at hn
          have hback : Caseless '\\' := by decide
          by_cases hc : c = '\\'
          · subst hc
            have hcode := code?_asciiLower rest
            rw [hback.asciiLower_cons]
            cases hrest : code? rest with
            | none =>
                rw [hrest] at hcode
                rw [unescape_of_code?_none hcode, unescape_of_code?_none hrest,
                  hback.asciiLower_cons, hback.asciiLower_cons, ih rest.length (by omega) rest rfl]
            | some found =>
                obtain ⟨coded, back⟩ := found
                rw [hrest] at hcode
                have hlen := length_of_code? hrest
                rw [unescape_of_code? hcode, unescape_of_code? hrest]
                exact congrArg (coded.toLower :: ·) (ih back.length (by omega) back rfl)
          · have hlower : c.toLower ≠ '\\' := fun heq => hc ((hback.toLower_eq_iff c).mp heq)
            show asciiLower (unescape (c.toLower :: asciiLower rest)) = _
            rw [unescape_cons_of_ne hlower, unescape_cons_of_ne hc]
            show c.toLower.toLower :: asciiLower (unescape (asciiLower rest)) = _
            rw [same_toLower (f := Char.toLower) (by decide) c, ih rest.length (by omega) rest rfl]
            rfl

/-- Values that agree are read as values that agree. -/
theorem agrees_unescape {value other : Text} (h : agrees value other = true) :
    agrees (unescape value) (unescape other) = true := by
  rw [agrees_iff, ← asciiLower_unescape_asciiLower, (agrees_iff value other).mp h,
    asciiLower_unescape_asciiLower]

end Filter

/-! ## Tests -/

namespace Entry

/-- Names that agree mean the same attribute. -/
theorem values?_of_agrees {name other : Text} (h : agrees name other = true) (entry : Entry) :
    entry.values? name = entry.values? other := by
  simp only [values?, agrees_congr h]

end Entry

namespace Filter

variable {name name' value value' : Text}

/-- The parts of a pattern in other letters fit the same texts. -/
theorem valueFits_of_agrees (h : agrees value value' = true) (held : Text) :
    valueFits ((value.splitOn '*').map unescape) held
      = valueFits ((value'.splitOn '*').map unescape) held := by
  have hlower : ∀ text : Text, ((text.splitOn '*').map unescape).map lower
      = ((asciiLower text).splitOn '*').map fun part => lower (unescape part) := by
    intro text
    rw [splitOn_asciiLower (by decide), List.map_map, List.map_map]
    refine List.map_congr_left fun part _ => ?_
    exact (lower_eq_of_agrees (agrees_unescape (agrees_asciiLower part))).symm
  rw [valueFits, valueFits, hlower, (agrees_iff value value').mp h, hlower]

/-- **A test in other letters asks the same.** -/
theorem holds_test_of_agrees (hname : agrees name name' = true)
    (hvalue : agrees value value' = true) (entry : Entry) :
    holds entry (test name value) = holds entry (test name' value') := by
  have htrim := agrees_trim hname
  have hstar : Caseless '*' := by decide
  have hclass : agrees (trim name) "objectClass" = agrees (trim name') "objectClass" := by
    rw [agrees_comm, agrees_congr htrim, agrees_comm]
  have hheld : Conditions.heldValues entry name = Conditions.heldValues entry name' := by
    rw [Conditions.heldValues, Conditions.heldValues, Entry.values?_of_agrees htrim]
  have hfinds : Conditions.finds value = Conditions.finds value' := by
    funext held
    simp only [Conditions.finds, hstar.mem_iff_of_agrees hvalue, valueFits_of_agrees hvalue,
      agrees_congr (agrees_unescape hvalue)]
  rw [Conditions.holds_test, Conditions.holds_test, hclass, hheld, hfinds]
  simp only [hstar.eq_singleton_iff_of_agrees hvalue]

/-! ## Spellings -/

/-- What is put into parentheses stands in them in other letters. -/
theorem exists_parenthesized {text other : Text}
    (h : agrees ('(' :: text ++ [')']) other = true) :
    ∃ inner, other = '(' :: inner ++ [')'] ∧ agrees text inner = true := by
  obtain ⟨front, back, rfl, hfront, hback⟩ := exists_append_of_agrees h
  obtain ⟨inner, rfl, hinner⟩ := (by decide : Caseless '(').exists_cons_of_agrees hfront
  obtain rfl := ((by decide : Caseless ')').eq_singleton_iff_of_agrees hback).mp rfl
  exact ⟨inner, rfl, hinner⟩

theorem StartsPlain.of_agrees {text other : Text} (h : StartsPlain text)
    (heq : agrees text other = true) : StartsPlain other := by
  intro c hc hmem
  obtain ⟨rest, rfl⟩ := List.head?_eq_some_iff.mp hc
  -- The signs of a filter are marks, so one in front of the other text is in front of this one.
  have hmark : Caseless c := by
    simp only [List.mem_cons, List.not_mem_nil, or_false] at hmem
    rcases hmem with rfl | rfl | rfl | rfl <;> decide
  rw [agrees_comm] at heq
  obtain ⟨front, rfl, -⟩ := hmark.exists_cons_of_agrees heq
  exact h c rfl hmem

/-- An operator asks of its filters only whether they hold. -/
theorem holds_filter_congr (combine : Combine) {filters others : List Filter} {entry : Entry}
    (h : filters.map (holds entry) = others.map (holds entry)) :
    holds entry (combine.filter filters) = holds entry (combine.filter others) := by
  cases combine with
  | and =>
      show allHold entry filters = allHold entry others
      rw [allHold_eq_all, allHold_eq_all, ← Function.id_comp (holds entry), ← List.all_map, h,
        List.all_map]
  | or =>
      show anyHolds entry filters = anyHolds entry others
      rw [anyHolds_eq_any, anyHolds_eq_any, ← Function.id_comp (holds entry), ← List.any_map, h,
        List.any_map]

/-- A text spells a filter that holds of the same entries as another one. -/
def SpellsLike (text : Text) (filter : Filter) : Prop :=
  ∃ other, Spells text other ∧ ∀ entry, holds entry other = holds entry filter

/-- Filters in a row are spelled in other letters one by one. -/
theorem exists_spelled_of_agrees {spelled : List (Text × Filter)}
    (h : ∀ one ∈ spelled, ∀ other, agrees one.1 other = true → SpellsLike other one.2)
    {text : Text} (heq : agrees (spelled.map Prod.fst).flatten text = true) :
    ∃ others : List (Text × Filter), text = (others.map Prod.fst).flatten ∧
      (∀ one ∈ others, Spells one.1 one.2) ∧
      ∀ entry, others.map (fun one => holds entry one.2)
        = spelled.map (fun one => holds entry one.2) := by
  induction spelled generalizing text with
  | nil =>
      have hnil : text = [] := List.map_eq_nil_iff.mp ((agrees_iff _ _).mp heq).symm
      exact ⟨[], hnil, List.forall_mem_nil _, fun _ => rfl⟩
  | cons first rest ih =>
      obtain ⟨front, back, rfl, hfront, hback⟩ := exists_append_of_agrees heq
      obtain ⟨filter, hspells, hholds⟩ := h first List.mem_cons_self front hfront
      obtain ⟨others, rfl, hall, hsame⟩ :=
        ih (fun one hone => h one (List.mem_cons_of_mem _ hone)) hback
      refine ⟨(front, filter) :: others, rfl, List.forall_mem_cons.mpr ⟨hspells, hall⟩, ?_⟩
      intro entry
      rw [List.map_cons, List.map_cons, hsame, hholds]

/-- **A spelling in other letters.** A text that differs from a spelled filter in letter case
    only spells a filter that holds of the same entries. -/
theorem Spells.spellsLike {text : Text} {filter : Filter} (h : Spells text filter) :
    ∀ other, agrees text other = true → SpellsLike other filter := by
  induction h with
  | group combine h ih =>
      intro other heq
      obtain ⟨inner, rfl, hinner⟩ := exists_parenthesized heq
      have hsign : Caseless combine.sign := by cases combine <;> decide
      obtain ⟨body, rfl, hbody⟩ := hsign.exists_cons_of_agrees hinner
      obtain ⟨others, rfl, hall, hsame⟩ := exists_spelled_of_agrees ih hbody
      refine ⟨_, .group combine hall, fun entry => holds_filter_congr combine ?_⟩
      rw [List.map_map, List.map_map]
      exact hsame entry
  | not h ih =>
      intro other heq
      obtain ⟨inner, rfl, hinner⟩ := exists_parenthesized heq
      obtain ⟨body, rfl, hbody⟩ := (by decide : Caseless '!').exists_cons_of_agrees hinner
      obtain ⟨filter, hspells, hholds⟩ := ih body hbody
      refine ⟨_, .not hspells, fun entry => ?_⟩
      rw [holds, holds, hholds]
  | wrapped h ih =>
      intro other heq
      obtain ⟨inner, rfl, hinner⟩ := exists_parenthesized heq
      obtain ⟨filter, hspells, hholds⟩ := ih inner hinner
      exact ⟨filter, .wrapped hspells, hholds⟩
  | @test name value hsign hclose hstart =>
      intro other heq
      obtain ⟨inner, rfl, hinner⟩ := exists_parenthesized heq
      have hequals : Caseless '=' := by decide
      have hfree := ((by decide : Caseless ')').mem_iff_of_agrees hinner).not.mp hclose
      have hplain := hstart.of_agrees hinner
      obtain ⟨name', back, rfl, hname, hback⟩ := exists_append_of_agrees hinner
      obtain ⟨value', rfl, hvalue⟩ := hequals.exists_cons_of_agrees hback
      have hsign' := (hequals.mem_iff_of_agrees hname).not.mp hsign
      exact ⟨_, .test hsign' hfree hplain, fun entry =>
        (holds_test_of_agrees hname hvalue entry).symm⟩

/-- A text in other letters is read as a filter that holds of the same entries. -/
theorem exists_read?_of_agrees {text other : Text} {filter : Filter}
    (heq : agrees text other = true) (h : read? text = some filter) :
    ∃ filter', read? other = some filter' ∧ ∀ entry, holds entry filter' = holds entry filter := by
  obtain ⟨filter', hspells, hholds⟩ :=
    (read?_eq_some_iff.mp h).spellsLike (trim other) (agrees_trim heq)
  exact ⟨filter', read?_eq_some_iff.mpr hspells, hholds⟩

end Filter

/-! ## Bases and requests -/

namespace Entry

theorem inSubtree_of_agrees {base base' : Text} (h : agrees base base' = true) (entry : Entry) :
    entry.inSubtree base = entry.inSubtree base' := by
  have hempty : base.isEmpty = base'.isEmpty := by
    have hsame := congrArg List.isEmpty ((agrees_iff base base').mp h)
    rwa [asciiLower, asciiLower, List.isEmpty_map, List.isEmpty_map] at hsame
  rw [inSubtree, inSubtree, hempty, lower_eq_of_agrees h]

theorem shows_map_asciiLower (requested : List Text) (name : Text) :
    shows (requested.map asciiLower) name = shows requested name := by
  have hstar : (requested.map asciiLower).contains "*".toList = requested.contains "*".toList := by
    rw [Bool.eq_iff_iff, List.contains_iff_mem, List.contains_iff_mem, List.mem_map]
    simp only [show "*".toList = ['*'] from rfl,
      (by decide : Caseless '*').asciiLower_eq_singleton_iff, exists_eq_right]
  have hagrees : ∀ text, agrees (asciiLower text) name = agrees text name := by
    intro text
    rw [agrees_comm, agrees_congr (agrees_asciiLower text), agrees_comm]
  simp only [shows, List.isEmpty_map, hstar, List.any_map, Function.comp_def, hagrees]

/-- A request in other letters shows the same. -/
theorem project_of_agrees {requested requested' : List Text}
    (h : List.Forall₂ (fun name name' => agrees name name' = true) requested requested') :
    project requested = project requested' := by
  have hmap : requested.map asciiLower = requested'.map asciiLower := by
    rw [← List.forall₂_eq_eq_eq, List.forall₂_map_left_iff, List.forall₂_map_right_iff]
    exact h.imp fun name name' hname => (agrees_iff name name').mp hname
  funext entry
  rw [project_eq, project_eq]
  simp only [← shows_map_asciiLower requested, hmap, shows_map_asciiLower]

end Entry

namespace Directory

variable {base base' filter filter' : Text} {attributes attributes' : List Text}

/-- Filters that hold of the same entries select the same ones. -/
theorem select_of_agrees (source : Directory) {test test' : Filter}
    (hbase : agrees base base' = true)
    (htest : ∀ entry, Filter.holds entry test = Filter.holds entry test')
    (hattributes :
      List.Forall₂ (fun name name' => agrees name name' = true) attributes attributes')
    (limit : Option Nat) :
    source.select base test attributes limit = source.select base' test' attributes' limit := by
  have hsame : (fun entry : Entry => entry.inSubtree base && test.holds entry)
      = fun entry => entry.inSubtree base' && test'.holds entry := by
    funext entry
    rw [Entry.inSubtree_of_agrees hbase, htest]
  simp only [select, hsame, Entry.project_of_agrees hattributes]

/-- **A search does not see ASCII letter case.** Whatever the directory holds, a search for a
    base, a filter and attributes in other letters finds the same entries in the same order, each
    with the same attributes, or both searches fail. -/
theorem search_caseless (hbase : agrees base base' = true) (hfilter : agrees filter filter' = true)
    (hattributes :
      List.Forall₂ (fun name name' => agrees name name' = true) attributes attributes')
    (limit : Option Nat) (source : Directory) :
    (∃ entries, outcome (search base filter attributes limit) source = .ok entries ∧
      outcome (search base' filter' attributes' limit) source = .ok entries) ∨
    (∃ e e', outcome (search base filter attributes limit) source = .error e ∧
      outcome (search base' filter' attributes' limit) source = .error e') := by
  simp only [outcome, search, searchAnswer]
  by_cases hfails : source.searchesFail = true
  · rw [if_pos hfails, if_pos hfails]
    exact Or.inr ⟨_, _, rfl, rfl⟩
  · rw [if_neg hfails, if_neg hfails, Filter.read, Filter.read]
    cases hread : Filter.read? filter with
    | some test =>
        obtain ⟨test', hread', hholds⟩ := Filter.exists_read?_of_agrees hfilter hread
        rw [hread']
        have hselect := select_of_agrees source hbase (fun entry => (hholds entry).symm)
          hattributes limit
        exact Or.inl ⟨_, rfl, congrArg Except.ok hselect.symm⟩
    | none =>
        -- If the other text were read, so would be this one.
        cases hread' : Filter.read? filter' with
        | none => exact Or.inr ⟨_, _, rfl, rfl⟩
        | some test' =>
            rw [agrees_comm] at hfilter
            obtain ⟨test, hsome, -⟩ := Filter.exists_read?_of_agrees hfilter hread'
            exact absurd (hsome.symm.trans hread) (Option.some_ne_none test)

/-- A capital by its code, a pattern and a negated test are found in other letters, in the base
    and in the digits of the code as well. -/
theorem search_caseless_code_and_pattern :
    let person (uid cn : String) : Entry :=
      ⟨"uid=".toList ++ uid.toList ++ ",ou=People,dc=x".toList,
        [⟨"uid", [uid.toList]⟩, ⟨"cn", [cn.toList]⟩]⟩
    let source := { ofIdentity defaultIdentity with
      entries := [person "bob" "Joan", person "jon" "Jon"] }
    let found := [(⟨"uid=jon,ou=People,dc=x", [⟨"cn", ["Jon"]⟩]⟩ : Entry)]
    outcome (search "ou=people,dc=x" "(&(cn=\\4ao*n)(!(uid=bob)))" ["cn"] none) source = .ok found ∧
      outcome (search "OU=People,DC=X" "(&(CN=\\4AO*N)(!(Uid=BOB)))" ["CN"] none) source
        = .ok found := by
  intro person source found
  have hfound : outcome (search "ou=people,dc=x" "(&(cn=\\4ao*n)(!(uid=bob)))" ["cn"] none) source
      = .ok found := rfl
  refine ⟨hfound, ?_⟩
  have hfilter : agrees "(&(cn=\\4ao*n)(!(uid=bob)))" "(&(CN=\\4AO*N)(!(Uid=BOB)))" = true := by
    decide
  have hbase : agrees "ou=people,dc=x" "OU=People,DC=X" = true := by decide
  have hattributes : List.Forall₂ (fun name name' : Text => agrees name name' = true)
      ["cn"] ["CN"] := .cons (by decide) .nil
  rcases search_caseless hbase hfilter hattributes none source with
    ⟨entries, hleft, hright⟩ | ⟨e, e', hleft, -⟩
  · rw [hright, ← hleft, hfound]
  · rw [hfound] at hleft
    exact nomatch hleft

end Directory

end DirectoryRecords
