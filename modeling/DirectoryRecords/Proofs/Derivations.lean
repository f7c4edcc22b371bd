import DirectoryRecords.Proofs.Grammar

/-!
# Derivations — a text spells a filter in one way only

    `Spells` says that a text spells a filter, and forgets how. A `Derivation`
    is the tree of rules behind a spelling: an operator over any number of
    derivations, a negated one, one in a further pair of parentheses, or a
    test. Its text and its filter are read off it. The route to the reader:

    * the spellings are those of derivations (`spells`, `exists_of_spells`),
      so the reader accepts exactly the texts of derivations;
    * the character behind the first parenthesis tells which rule comes first
      (`exists_text_eq`), and a test ends at the first closing parenthesis;
    * so a derivation is known from any text that it stands in front of
      (`determined`, by induction on the derivation), where a list of them
      ends because no further one opens.
-/

namespace DirectoryRecords.Filter

open Text

/-! ## Tests -/

/-- What stands between the parentheses of a test: a name, the first equals sign, and a value. -/
structure Item where
  name : Text
  value : Text
  noSign : '=' ∉ name
  noClose : ')' ∉ name ++ '=' :: value
  start : StartsPlain (name ++ '=' :: value)

namespace Item

/-- The text between the parentheses. -/
def text (item : Item) : Text :=
  item.name ++ '=' :: item.value

/-- The test that is meant. -/
def filter (item : Item) : Filter :=
  test item.name item.value

theorem exists_text_eq (item : Item) :
    ∃ c rest, item.text = c :: rest ∧ c ∉ ['(', '&', '|', '!'] := by
  have hstart := item.start
  rw [text]
  cases hname : item.name with
  | nil => exact ⟨'=', item.value, rfl, by decide⟩
  | cons c rest =>
      rw [hname] at hstart
      exact ⟨c, rest ++ '=' :: item.value, rfl, hstart c rfl⟩

/-- A test is known from a text that goes on behind its parenthesis. -/
theorem eq_of_append_eq {left right : Item} {rest rest' : Text}
    (h : left.text ++ ')' :: rest = right.text ++ ')' :: rest') : left = right ∧ rest = rest' := by
  obtain ⟨htext, hrest⟩ := eq_of_append_mark_eq h left.noClose right.noClose
  obtain ⟨hname, hvalue⟩ := eq_of_append_mark_eq htext left.noSign right.noSign
  refine ⟨?_, hrest⟩
  cases left
  cases right
  cases hname
  cases hvalue
  rfl

end Item

/-! ## Derivations -/

/-- A tree of rules that spells a filter. -/
inductive Derivation where
  | group (combine : Combine) (parts : List Derivation)
  | not (part : Derivation)
  | wrapped (part : Derivation)
  | item (item : Item)

namespace Derivation

/-- What holds of a derivation because it holds of its parts holds of all derivations. -/
@[elab_as_elim, induction_eliminator]
theorem induct {motive : Derivation → Prop}
    (group : ∀ combine parts, (∀ part ∈ parts, motive part) → motive (group combine parts))
    (not : ∀ part, motive part → motive (not part))
    (wrapped : ∀ part, motive part → motive (wrapped part))
    (item : ∀ one, motive (item one)) (derivation : Derivation) : motive derivation :=
  Derivation.rec (motive_1 := motive) (motive_2 := fun parts => ∀ part ∈ parts, motive part)
    group not wrapped item
    (fun _ hmem => nomatch hmem)
    (fun _ _ hhead htail => List.forall_mem_cons.mpr ⟨hhead, htail⟩)
    derivation

mutual

/-- The text of a derivation. -/
def text : Derivation → Text
  | group combine parts => '(' :: combine.sign :: textOfAll parts ++ [')']
  | not part => '(' :: '!' :: text part ++ [')']
  | wrapped part => '(' :: text part ++ [')']
  | item one => '(' :: one.text ++ [')']

/-- The texts of some derivations, one after the other. -/
def textOfAll : List Derivation → Text
  | [] => []
  | part :: rest => text part ++ textOfAll rest

end

mutual

/-- The filter of a derivation. -/
def filter : Derivation → Filter
  | group combine parts => combine.filter (filters parts)
  | not part => .not (filter part)
  | wrapped part => filter part
  | item one => one.filter

/-- The filters of some derivations. -/
def filters : List Derivation → List Filter
  | [] => []
  | part :: rest => filter part :: filters rest

end

theorem textOfAll_eq (parts : List Derivation) : textOfAll parts = (parts.map text).flatten := by
  induction parts with
  | nil => rfl
  | cons part rest ih =>
      rw [textOfAll, ih]
      rfl

theorem filters_eq (parts : List Derivation) : filters parts = parts.map filter := by
  induction parts with
  | nil => rfl
  | cons part rest ih =>
      rw [filters, ih]
      rfl

/-! ## Spellings have derivations -/

/-- The text of a derivation spells its filter. -/
theorem spells (derivation : Derivation) : Spells derivation.text derivation.filter := by
  induction derivation with
  | group combine parts ih =>
      have hall : ∀ one ∈ parts.map fun part => (part.text, part.filter), Spells one.1 one.2 := by
        intro one hone
        obtain ⟨part, hpart, rfl⟩ := List.mem_map.mp hone
        exact ih part hpart
      have hgroup := Spells.group combine hall
      simp only [List.map_map] at hgroup
      rw [text, filter, textOfAll_eq, filters_eq]
      exact hgroup
  | not part ih => exact ih.not
  | wrapped part ih => exact ih.wrapped
  | item one => exact Spells.test one.noSign one.noClose one.start

/-- What a text spells has a derivation. -/
theorem exists_of_spells {spelled : Text} {found : Filter} (h : Spells spelled found) :
    ∃ derivation : Derivation, derivation.text = spelled ∧ derivation.filter = found := by
  induction h with
  | @group combine spelled h ih =>
      -- One derivation for each of the listed filters, in their order.
      have hparts : ∃ parts : List Derivation, parts.map text = spelled.map Prod.fst ∧
          parts.map filter = spelled.map Prod.snd := by
        clear h
        induction spelled with
        | nil => exact ⟨[], rfl, rfl⟩
        | cons one others ihOthers =>
            obtain ⟨part, htext, hfilter⟩ := ih one List.mem_cons_self
            obtain ⟨parts, htexts, hfilters⟩ :=
              ihOthers fun other hother => ih other (List.mem_cons_of_mem one hother)
            refine ⟨part :: parts, ?_, ?_⟩
            · rw [List.map_cons, List.map_cons, htext, htexts]
            · rw [List.map_cons, List.map_cons, hfilter, hfilters]
      obtain ⟨parts, htexts, hfilters⟩ := hparts
      refine ⟨group combine parts, ?_, ?_⟩
      · rw [text, textOfAll_eq, htexts]
      · rw [filter, filters_eq, hfilters]
  | not h ih =>
      obtain ⟨part, rfl, rfl⟩ := ih
      exact ⟨not part, rfl, rfl⟩
  | wrapped h ih =>
      obtain ⟨part, rfl, rfl⟩ := ih
      exact ⟨wrapped part, rfl, rfl⟩
  | @test name value hsign hclose hstart =>
      exact ⟨item ⟨name, value, hsign, hclose, hstart⟩, rfl, rfl⟩

/-! ## One derivation for a text -/

/-- The rules of the grammar, two of them for the operators. -/
inductive Rule where
  | group (combine : Combine)
  | not
  | wrapped
  | item

/-- The rule that a character behind the first parenthesis calls for. -/
def Rule.ofChar : Char → Rule
  | '&' => group .and
  | '|' => group .or
  | '!' => not
  | '(' => wrapped
  | _ => item

/-- The first rule of a derivation. -/
def rule : Derivation → Rule
  | group combine _ => .group combine
  | not _ => .not
  | wrapped _ => .wrapped
  | item _ => .item

theorem Rule.ofChar_of_plain {c : Char} (h : c ∉ ['(', '&', '|', '!']) :
    Rule.ofChar c = .item := by
  simp only [List.mem_cons, List.not_mem_nil, or_false, not_or] at h
  obtain ⟨hopen, hand, hor, hnot⟩ := h
  rw [ofChar]
  · exact hand
  · exact hor
  · exact hnot
  · exact hopen

/-- The character behind the first parenthesis calls for the first rule. -/
theorem exists_text_eq (derivation : Derivation) :
    ∃ c rest, derivation.text = '(' :: c :: rest ∧ Rule.ofChar c = derivation.rule := by
  cases derivation with
  | group combine parts =>
      refine ⟨combine.sign, textOfAll parts ++ [')'], rfl, ?_⟩
      cases combine with
      | and => rfl
      | or => rfl
  | not part => exact ⟨'!', part.text ++ [')'], rfl, rfl⟩
  | wrapped part =>
      obtain ⟨rest, hopens⟩ := part.spells.opens
      refine ⟨'(', rest ++ [')'], ?_, rfl⟩
      rw [text, hopens]
      rfl
  | item one =>
      obtain ⟨c, rest, htext, hplain⟩ := one.exists_text_eq
      refine ⟨c, rest ++ [')'], ?_, Rule.ofChar_of_plain hplain⟩
      rw [text, htext]
      rfl

/-- Derivations at the front of one text begin with the same rule. -/
theorem rule_eq_of_append_eq {left right : Derivation} {rest rest' : Text}
    (h : left.text ++ rest = right.text ++ rest') : left.rule = right.rule := by
  obtain ⟨c, more, hleft, hrule⟩ := left.exists_text_eq
  obtain ⟨c', more', hright, hrule'⟩ := right.exists_text_eq
  rw [hleft, hright] at h
  have hc : c = c' := (List.cons.inj (List.cons.inj h).2).1
  rw [← hrule, ← hrule', hc]

/-- The derivation is known from any text that it stands in front of, and so is the rest. -/
def Determined (left : Derivation) : Prop :=
  ∀ (right : Derivation) (rest rest' : Text),
    left.text ++ rest = right.text ++ rest' → left = right ∧ rest = rest'

/-- A list of such derivations is known from any text that goes on with a closing parenthesis:
    where the list has one more, another parenthesis opens. -/
theorem eq_of_textOfAll_append_eq {parts others : List Derivation} {rest rest' : Text}
    (hparts : ∀ part ∈ parts, part.Determined)
    (h : textOfAll parts ++ ')' :: rest = textOfAll others ++ ')' :: rest') :
    parts = others ∧ rest = rest' := by
  have hclosed (part : Derivation) (more : List Derivation) (after after' : Text) :
      textOfAll (part :: more) ++ after ≠ ')' :: after' := by
    intro heq
    obtain ⟨text, hopens⟩ := part.spells.opens
    rw [textOfAll, hopens] at heq
    exact absurd (List.cons.inj heq).1 (by decide)
  induction parts generalizing others with
  | nil =>
      cases others with
      | nil => exact ⟨rfl, (List.cons.inj h).2⟩
      | cons other others => exact absurd h.symm (hclosed other others _ rest)
  | cons part parts ih =>
      cases others with
      | nil => exact absurd h (hclosed part parts _ rest')
      | cons other others =>
          obtain ⟨hpart, hmore⟩ := List.forall_mem_cons.mp hparts
          rw [textOfAll, textOfAll, List.append_assoc, List.append_assoc] at h
          obtain ⟨rfl, htexts⟩ := hpart other _ _ h
          obtain ⟨rfl, hrest⟩ := ih hmore htexts
          exact ⟨rfl, hrest⟩

/-- **Every derivation is known from any text that it stands in front of.** -/
theorem determined (derivation : Derivation) : derivation.Determined := by
  induction derivation with
  | group combine parts ih =>
      intro right rest rest' h
      have hrule := rule_eq_of_append_eq h
      cases right with
      | group combine' others =>
          obtain rfl : combine = combine' := Rule.group.inj hrule
          rw [text, text, group_append, group_append] at h
          have htexts := (List.cons.inj (List.cons.inj h).2).2
          obtain ⟨rfl, hrest⟩ := eq_of_textOfAll_append_eq ih htexts
          exact ⟨rfl, hrest⟩
      | not | wrapped | item => exact nomatch hrule
  | not part ih =>
      intro right rest rest' h
      have hrule := rule_eq_of_append_eq h
      cases right with
      | not other =>
          rw [text, text, group_append, group_append] at h
          have htexts := (List.cons.inj (List.cons.inj h).2).2
          obtain ⟨rfl, hrest⟩ := ih other _ _ htexts
          exact ⟨rfl, (List.cons.inj hrest).2⟩
      | group | wrapped | item => exact nomatch hrule
  | wrapped part ih =>
      intro right rest rest' h
      have hrule := rule_eq_of_append_eq h
      cases right with
      | wrapped other =>
          rw [text, text, group_append, group_append] at h
          obtain ⟨rfl, hrest⟩ := ih other _ _ (List.cons.inj h).2
          exact ⟨rfl, (List.cons.inj hrest).2⟩
      | group | not | item => exact nomatch hrule
  | item one =>
      intro right rest rest' h
      have hrule := rule_eq_of_append_eq h
      cases right with
      | item other =>
          rw [text, text, group_append, group_append] at h
          obtain ⟨rfl, hrest⟩ := Item.eq_of_append_eq (List.cons.inj h).2
          exact ⟨rfl, hrest⟩
      | group | not | wrapped => exact nomatch hrule

/-- A derivation is known from its text. -/
theorem text_injective : Function.Injective text := by
  intro left right h
  exact (left.determined right [] [] (by rw [h])).1

end Derivation

/-! ## The reader -/

theorem read_eq_ok_iff {text : Text} {filter : Filter} :
    read text = .ok filter ↔ read? text = some filter := by
  rw [read]
  cases read? text with
  | none => exact ⟨nofun, nofun⟩
  | some found => exact ⟨fun h => congrArg some (Except.ok.inj h),
      fun h => congrArg Except.ok (Option.some.inj h)⟩

theorem read_eq_error_iff {text : Text} :
    read text = .error (.searchFailed ("bad search filter: " ++ text) none) ↔
      read? text = none := by
  rw [read]
  cases read? text with
  | none => exact ⟨fun _ => rfl, fun _ => rfl⟩
  | some found => exact ⟨nofun, nofun⟩

/-- A text is read as a filter if and only if some derivation has the text, without the blanks
    around it, and the filter. -/
theorem read?_eq_some_iff_derivation {text : Text} {filter : Filter} :
    read? text = some filter ↔
      ∃ derivation : Derivation, derivation.text = trim text ∧ derivation.filter = filter := by
  rw [read?_eq_some_iff]
  constructor
  · exact Derivation.exists_of_spells
  · rintro ⟨derivation, htext, rfl⟩
    rw [← htext]
    exact derivation.spells

/-- **The reader accepts exactly the texts of derivations.** A text is read as a filter if and only
    if, without the blanks around it, it is the text of a derivation of this filter. Where it has
    no derivation, the search fails with the text as it stands. And no text has two derivations. -/
theorem read_by_derivation :
    (∀ (text : Text) (filter : Filter), read text = .ok filter ↔
      ∃ derivation : Derivation, derivation.text = trim text ∧ derivation.filter = filter) ∧
    (∀ text : Text, read text = .error (.searchFailed ("bad search filter: " ++ text) none) ↔
      ∀ derivation : Derivation, derivation.text ≠ trim text) ∧
    Function.Injective Derivation.text := by
  refine ⟨?_, ?_, Derivation.text_injective⟩
  · intro text filter
    rw [read_eq_ok_iff, read?_eq_some_iff_derivation]
  · intro text
    rw [read_eq_error_iff, Option.eq_none_iff_forall_ne_some]
    constructor
    · intro hnone derivation htext
      exact hnone derivation.filter (read?_eq_some_iff_derivation.mpr ⟨derivation, htext, rfl⟩)
    · intro hno filter hread
      obtain ⟨derivation, htext, _⟩ := read?_eq_some_iff_derivation.mp hread
      exact hno derivation htext

end DirectoryRecords.Filter
