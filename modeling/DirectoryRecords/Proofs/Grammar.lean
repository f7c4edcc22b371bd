import DirectoryRecords.Conditions.Basic
import DirectoryRecords.Filter.Reader
import DirectoryRecords.Proofs.Cuts

/-!
# The grammar of filters — and the reader accepts exactly that

    `Spells text filter` says that a text spells a filter: an operator and
    any number of spelled filters, a negated one, one in a further pair of
    parentheses, or a test. The reader walks the text with a budget of calls;
    the route to the grammar is:

    * a test is what the first equals sign and the stars of its value make of
      it (`ofItem_eq_some_iff`), and it ends at the first closing parenthesis;
    * what the reader takes from the front of a text is spelled there
      (`spelled_of_read`, by induction on the budget);
    * what is spelled in front of a text is taken off by the reader, whatever
      comes behind (`readOne_of_spells`, by induction on the spelling): twice
      the length is budget enough, since every call but the last of a list is
      made on a parenthesis of its own.
-/

namespace DirectoryRecords

open Text

namespace Combine

/-! ## Under an operator -/

/-- The operator over several filters. -/
def filter : Combine → List Filter → Filter
  | and, filters => .and filters
  | or, filters => .or filters

/-- One filter stands for itself, several are put under the operator. -/
def joined (combine : Combine) : List Filter → Filter
  | [filter] => filter
  | filters => combine.filter filters

end Combine

namespace Filter

/-! ## The grammar -/

/-- The test for a name and a value: a lone star asks for presence, other stars for a pattern. -/
def test (name value : Text) : Filter :=
  if value = ['*'] then .present (trim name)
  else if '*' ∈ value then .pattern (trim name) ((value.splitOn '*').map unescape)
  else .equals (trim name) (unescape value)

theorem test_star (name : Text) : test name ['*'] = .present (trim name) := rfl

theorem test_pattern (name : Text) {value : Text} (hmore : value ≠ ['*']) (hstar : '*' ∈ value) :
    test name value = .pattern (trim name) ((value.splitOn '*').map unescape) := by
  rw [test, if_neg hmore, if_pos hstar]

theorem test_equals (name : Text) {value : Text} (hstar : '*' ∉ value) :
    test name value = .equals (trim name) (unescape value) := by
  have hmore : value ≠ ['*'] := by
    rintro rfl
    exact hstar List.mem_cons_self
  rw [test, if_neg hmore, if_neg hstar]

/-- No sign of a filter comes first. -/
def StartsPlain (text : Text) : Prop :=
  ∀ c ∈ text.head?, c ∉ ['(', '&', '|', '!']

/-- A filter in its parentheses. The filters below an operator are listed with their texts. -/
inductive Spells : Text → Filter → Prop where
  | group (combine : Combine) {spelled : List (Text × Filter)}
      (h : ∀ one ∈ spelled, Spells one.1 one.2) :
      Spells ('(' :: combine.sign :: (spelled.map Prod.fst).flatten ++ [')'])
        (combine.filter (spelled.map Prod.snd))
  | not {text : Text} {filter : Filter} (h : Spells text filter) :
      Spells ('(' :: '!' :: text ++ [')']) (.not filter)
  | wrapped {text : Text} {filter : Filter} (h : Spells text filter) :
      Spells ('(' :: text ++ [')']) filter
  | test {name value : Text} (hsign : '=' ∉ name) (hclose : ')' ∉ name ++ '=' :: value)
      (hstart : StartsPlain (name ++ '=' :: value)) :
      Spells ('(' :: (name ++ '=' :: value) ++ [')']) (test name value)

theorem Spells.opens {text : Text} {filter : Filter} (h : Spells text filter) :
    ∃ rest, text = '(' :: rest := by
  cases h with
  | group _ h => exact ⟨_, rfl⟩
  | not h => exact ⟨_, rfl⟩
  | wrapped h => exact ⟨_, rfl⟩
  | test _ _ _ => exact ⟨_, rfl⟩

theorem Spells.closes {text : Text} {filter : Filter} (h : Spells text filter) :
    text.getLast? = some ')' := by
  cases h with
  | group _ h => exact List.getLast?_concat
  | not h => exact List.getLast?_concat
  | wrapped h => exact List.getLast?_concat
  | test _ _ _ => exact List.getLast?_concat

theorem Spells.unpadded {text : Text} {filter : Filter} (h : Spells text filter) :
    Unpadded text := by
  obtain ⟨rest, htext⟩ := h.opens
  have hfirst : text.head? = some '(' := by rw [htext]; rfl
  exact unpadded_of_ends hfirst h.closes (by decide) (by decide)

/-! ## Tests -/

/-- A text is a test exactly when it has an equals sign, and the first one parts it. -/
theorem ofItem_eq_some_iff (item : Text) (filter : Filter) :
    ofItem item = some filter ↔
      ∃ name value, item = name ++ '=' :: value ∧ '=' ∉ name ∧ filter = test name value := by
  have htest : ∀ name value : Text,
      (if value = ['*'] then some (.present (trim name))
        else if '*' ∈ value then some (.pattern (trim name) ((value.splitOn '*').map unescape))
        else some (.equals (trim name) (unescape value))) = some (test name value) := by
    intro name value
    rw [test, apply_ite some, apply_ite some]
  constructor
  · intro h
    rw [ofItem] at h
    cases hcut : cut '=' item with
    | none =>
        rw [hcut] at h
        exact nomatch h
    | some sides =>
        obtain ⟨name, value⟩ := sides
        obtain ⟨rfl, hname⟩ := eq_of_cut hcut
        rw [hcut] at h
        exact ⟨name, value, rfl, hname, Option.some.inj (h.symm.trans (htest name value))⟩
  · rintro ⟨name, value, rfl, hname, rfl⟩
    rw [ofItem, cut_append hname]
    exact htest name value

/-- A test and its closing parenthesis are taken off the front of a text. -/
theorem readItem_append {name value : Text} (hsign : '=' ∉ name)
    (hclose : ')' ∉ name ++ '=' :: value) (rest : Text) :
    readItem (name ++ '=' :: value ++ ')' :: rest) = some (test name value, rest) := by
  have hall : ∀ c ∈ name ++ '=' :: value, (c != ')') = true := by
    intro c hc
    rw [bne_iff_ne]
    rintro rfl
    exact hclose hc
  have htake : (name ++ '=' :: value ++ ')' :: rest).takeWhile (· != ')')
      = name ++ '=' :: value := by
    rw [List.takeWhile_append_of_pos hall]
    exact List.append_nil _
  have hdrop : (name ++ '=' :: value ++ ')' :: rest).dropWhile (· != ')') = ')' :: rest := by
    rw [List.dropWhile_append_of_pos hall]
    rfl
  have hitem : ofItem (name ++ '=' :: value) = some (test name value) :=
    (ofItem_eq_some_iff _ _).mpr ⟨name, value, rfl, hsign, rfl⟩
  rw [readItem, htake, hdrop, hitem]
  rfl

theorem eq_of_close {filter found : Filter} {text rest : Text}
    (h : close filter text = some (found, rest)) : found = filter ∧ text = ')' :: rest := by
  rw [close.eq_def] at h
  split at h
  · obtain ⟨rfl, rfl⟩ := Prod.mk.inj (Option.some.inj h)
    exact ⟨rfl, rfl⟩
  · exact nomatch h

/-- What is read as a test is one, up to the first closing parenthesis. -/
theorem eq_of_readItem {text rest : Text} {filter : Filter}
    (h : readItem text = some (filter, rest)) :
    ∃ name value, text = name ++ '=' :: value ++ ')' :: rest ∧ '=' ∉ name ∧
      ')' ∉ name ++ '=' :: value ∧ filter = test name value := by
  rw [readItem] at h
  cases hitem : ofItem (text.takeWhile (· != ')')) with
  | none =>
      rw [hitem] at h
      exact nomatch h
  | some found =>
      rw [hitem] at h
      obtain ⟨rfl, hrest⟩ := eq_of_close h
      obtain ⟨name, value, hfront, hsign, rfl⟩ := (ofItem_eq_some_iff _ _).mp hitem
      refine ⟨name, value, ?_, hsign, ?_, rfl⟩
      · rw [← hrest, ← hfront]
        exact List.takeWhile_append_dropWhile.symm
      · intro hmem
        rw [← hfront] at hmem
        have := List.all_eq_true.mp List.all_takeWhile ')' hmem
        exact absurd this (by decide)

/-! ## One call of a reader -/

/-- What is read and then closed. -/
def readClose {α : Type} (make : α → Filter) (read : Option (α × Text)) :
    Option (Filter × Text) :=
  read.bind fun found => close (make found.1) found.2

/-- What is read and then closed was read up to a closing parenthesis. -/
theorem eq_of_readClose {α : Type} {make : α → Filter} {read : Option (α × Text)}
    {filter : Filter} {rest : Text} (h : readClose make read = some (filter, rest)) :
    ∃ part, read = some (part, ')' :: rest) ∧ filter = make part := by
  obtain ⟨⟨part, after⟩, hread, hclose⟩ := Option.bind_eq_some_iff.mp h
  obtain ⟨hfilter, hafter⟩ := eq_of_close hclose
  exact ⟨part, by rw [hread]; exact congrArg (fun t => some (part, t)) hafter, hfilter⟩

theorem readOne_group (budget : Nat) (combine : Combine) (body : Text) :
    readOne (budget + 1) ('(' :: combine.sign :: body)
      = readClose combine.filter (readMany budget body) := by
  cases combine with
  | and =>
      rw [show Combine.and.sign = '&' from rfl, readOne]
      cases readMany budget body with
      | none => rfl
      | some found => rfl
  | or =>
      rw [show Combine.or.sign = '|' from rfl, readOne]
      cases readMany budget body with
      | none => rfl
      | some found => rfl

theorem readOne_not (budget : Nat) (body : Text) :
    readOne (budget + 1) ('(' :: '!' :: body) = readClose .not (readOne budget body) := by
  rw [readOne]
  cases readOne budget body with
  | none => rfl
  | some found => rfl

theorem readOne_wrapped (budget : Nat) (body : Text) :
    readOne (budget + 1) ('(' :: '(' :: body) = readClose id (readOne budget ('(' :: body)) := by
  rw [readOne]
  cases readOne budget ('(' :: body) with
  | none => rfl
  | some found => rfl

/-- Where no sign of a filter follows the parenthesis, a test is read. -/
theorem readOne_item (budget : Nat) {text : Text} (hstart : StartsPlain text) :
    readOne (budget + 1) ('(' :: text) = readItem text := by
  cases text with
  | nil => rfl
  | cons c rest =>
      have hc : c ∉ ['(', '&', '|', '!'] := hstart c rfl
      have hne : ∀ d ∈ ['(', '&', '|', '!'], ∀ more, c :: rest = d :: more → False := by
        intro d hd more heq
        rw [(List.cons.inj heq).1] at hc
        exact hc hd
      rw [readOne]
      · exact hne '&' (by decide)
      · exact hne '|' (by decide)
      · exact hne '!' (by decide)
      · exact hne '(' (by decide)

/-- Nothing is read where no parenthesis opens. -/
theorem readOne_of_ne (budget : Nat) {c : Char} (hopen : c ≠ '(') (rest : Text) :
    readOne (budget + 1) (c :: rest) = none := by
  have hno : ∀ more, c :: rest = '(' :: more → False := by
    intro more heq
    exact hopen (List.cons.inj heq).1
  rw [readOne]
  · exact fun _ => hno _
  · exact fun _ => hno _
  · exact fun _ => hno _
  · exact fun _ => hno _
  · exact fun _ => hno _

/-- **What one call can take.** A filter that is taken off the front of a text is an operator
    with a list, a negation, a filter in a further pair of parentheses, or a test. -/
theorem readOne_cases {budget : Nat} {text rest : Text} {filter : Filter}
    (h : readOne (budget + 1) text = some (filter, rest)) :
    (∃ (combine : Combine) (body : Text) (filters : List Filter),
      text = '(' :: combine.sign :: body ∧
      readMany budget body = some (filters, ')' :: rest) ∧ filter = combine.filter filters) ∨
    (∃ body inner, text = '(' :: '!' :: body ∧
      readOne budget body = some (inner, ')' :: rest) ∧ filter = .not inner) ∨
    (∃ body, text = '(' :: body ∧ readOne budget body = some (filter, ')' :: rest)) ∨
    (∃ name value, text = '(' :: (name ++ '=' :: value) ++ ')' :: rest ∧ '=' ∉ name ∧
      ')' ∉ name ++ '=' :: value ∧ StartsPlain (name ++ '=' :: value) ∧
      filter = test name value) := by
  match text, h with
  | [], h => exact nomatch h
  | c :: tail, h =>
      by_cases hopen : c = '('
      · subst hopen
        -- The character behind the parenthesis decides, as it does for the reader.
        by_cases hsign : ∃ d ∈ ['(', '&', '|', '!'], ∃ body, tail = d :: body
        · obtain ⟨d, hd, body, rfl⟩ := hsign
          simp only [List.mem_cons, List.not_mem_nil, or_false] at hd
          rcases hd with rfl | rfl | rfl | rfl
          · rw [readOne_wrapped] at h
            obtain ⟨inner, hread, rfl⟩ := eq_of_readClose h
            exact Or.inr (Or.inr (Or.inl ⟨'(' :: body, rfl, hread⟩))
          · rw [show '&' = Combine.and.sign from rfl, readOne_group] at h
            obtain ⟨filters, hread, rfl⟩ := eq_of_readClose h
            exact Or.inl ⟨.and, body, filters, rfl, hread, rfl⟩
          · rw [show '|' = Combine.or.sign from rfl, readOne_group] at h
            obtain ⟨filters, hread, rfl⟩ := eq_of_readClose h
            exact Or.inl ⟨.or, body, filters, rfl, hread, rfl⟩
          · rw [readOne_not] at h
            obtain ⟨inner, hread, rfl⟩ := eq_of_readClose h
            exact Or.inr (Or.inl ⟨body, inner, rfl, hread, rfl⟩)
        · have hstart : StartsPlain tail := by
            intro d hd hmem
            exact hsign ⟨d, hmem, List.head?_eq_some_iff.mp hd⟩
          rw [readOne_item budget hstart] at h
          obtain ⟨name, value, rfl, hname, hclose, rfl⟩ := eq_of_readItem h
          refine Or.inr (Or.inr (Or.inr ⟨name, value, rfl, hname, hclose, ?_, rfl⟩))
          intro d hd
          refine hstart d ?_
          rw [List.head?_append, Option.mem_def.mp hd]
          rfl
      · rw [readOne_of_ne budget hopen] at h
        exact nomatch h

/-- **What one call of the list reader can take.** Either a filter and the list behind it, or
    nothing where no filter opens. -/
theorem readMany_cases {budget : Nat} {text rest : Text} {filters : List Filter}
    (h : readMany (budget + 1) text = some (filters, rest)) :
    (∃ filter after others, readOne budget text = some (filter, after) ∧
      readMany budget after = some (others, rest) ∧ filters = filter :: others) ∨
    (filters = [] ∧ text = rest) := by
  rw [readMany.eq_def] at h
  split at h
  · exact nomatch h
  · next body hbudget =>
      obtain rfl := Nat.succ.inj hbudget
      cases hread : readOne budget ('(' :: body) with
      | none =>
          rw [hread] at h
          exact nomatch h
      | some found =>
          obtain ⟨filter, after⟩ := found
          rw [hread] at h
          cases hmore : readMany budget after with
          | none =>
              simp only [hmore] at h
              exact nomatch h
          | some others =>
              obtain ⟨filters, last⟩ := others
              simp only [hmore] at h
              obtain ⟨rfl, rfl⟩ := Prod.mk.inj (Option.some.inj h)
              exact Or.inl ⟨filter, after, filters, rfl, hmore, rfl⟩
  · obtain ⟨rfl, rfl⟩ := Prod.mk.inj (Option.some.inj h)
    exact Or.inr ⟨rfl, rfl⟩

/-! ## What the reader takes is spelled -/

/-- **The reader takes spelled filters.** What is taken off the front of a text as one filter
    spells it, and what is taken off as a list is spelled filter by filter. -/
theorem spelled_of_read (budget : Nat) :
    (∀ text filter rest, readOne budget text = some (filter, rest) →
      ∃ front, text = front ++ rest ∧ Spells front filter) ∧
    (∀ text filters rest, readMany budget text = some (filters, rest) →
      ∃ spelled : List (Text × Filter), text = (spelled.map Prod.fst).flatten ++ rest ∧
        filters = spelled.map Prod.snd ∧ ∀ one ∈ spelled, Spells one.1 one.2) := by
  -- Both readers pay for every call, so one induction on the budget serves for both.
  induction budget with
  | zero =>
      constructor
      · intro text filter rest h
        exact nomatch h
      · intro text filters rest h
        exact nomatch h
  | succ budget ih =>
      obtain ⟨ihOne, ihMany⟩ := ih
      constructor
      · intro text filter rest h
        rcases readOne_cases h with ⟨combine, body, filters, rfl, hread, rfl⟩ |
          ⟨body, inner, rfl, hread, rfl⟩ | ⟨body, rfl, hread⟩ |
          ⟨name, value, rfl, hname, hclose, hstart, rfl⟩
        · obtain ⟨spelled, rfl, rfl, hall⟩ := ihMany _ _ _ hread
          exact ⟨_, by simp, Spells.group combine hall⟩
        · obtain ⟨front, rfl, hspells⟩ := ihOne _ _ _ hread
          exact ⟨_, by simp, Spells.not hspells⟩
        · obtain ⟨front, rfl, hspells⟩ := ihOne _ _ _ hread
          exact ⟨_, by simp, Spells.wrapped hspells⟩
        · exact ⟨_, by simp, Spells.test hname hclose hstart⟩
      · intro text filters rest h
        rcases readMany_cases h with ⟨filter, after, others, hread, hmore, rfl⟩ | ⟨rfl, rfl⟩
        · obtain ⟨front, rfl, hspells⟩ := ihOne _ _ _ hread
          obtain ⟨spelled, rfl, rfl, hall⟩ := ihMany _ _ _ hmore
          exact ⟨(front, filter) :: spelled, by simp, rfl,
            List.forall_mem_cons.mpr ⟨hspells, hall⟩⟩
        · exact ⟨[], rfl, rfl, fun one hone => nomatch hone⟩

/-! ## What is spelled is taken -/

/-- The list reader goes on where a filter opens. -/
theorem readMany_append {budget : Nat} {text after rest : Text} {filter : Filter}
    {filters : List Filter} (hopens : ∃ tail, text = '(' :: tail)
    (hread : readOne budget text = some (filter, after))
    (hmore : readMany budget after = some (filters, rest)) :
    readMany (budget + 1) text = some (filter :: filters, rest) := by
  obtain ⟨tail, rfl⟩ := hopens
  rw [readMany]
  simp only [hread, hmore]

/-- Spelled filters in a row are read as a list, up to where no further one opens. -/
theorem readMany_of_spelled {spelled : List (Text × Filter)}
    (hall : ∀ one ∈ spelled, Spells one.1 one.2)
    (hone : ∀ one ∈ spelled, ∀ budget rest, 2 * one.1.length ≤ budget →
      readOne budget (one.1 ++ rest) = some (one.2, rest)) :
    ∀ budget rest, 2 * (spelled.map Prod.fst).flatten.length + 1 ≤ budget →
      readMany budget ((spelled.map Prod.fst).flatten ++ ')' :: rest)
        = some (spelled.map Prod.snd, ')' :: rest) := by
  induction spelled with
  | nil =>
      intro budget rest hbudget
      cases budget with
      | zero => exact absurd hbudget (by simp)
      | succ budget => rfl
  | cons one others ih =>
      intro budget rest hbudget
      obtain ⟨tail, htail⟩ := (hall one List.mem_cons_self).opens
      have hlen : 1 ≤ one.1.length := by
        rw [htail]
        exact Nat.le_add_left 1 _
      rw [List.map_cons, List.flatten_cons, List.length_append] at hbudget
      rw [List.map_cons, List.flatten_cons, List.append_assoc, List.map_cons]
      cases budget with
      | zero => omega
      | succ budget =>
          refine readMany_append ⟨tail ++ ((others.map Prod.fst).flatten ++ ')' :: rest), ?_⟩
            (hone one List.mem_cons_self budget _ (by omega)) ?_
          · rw [htail]
            rfl
          · exact ih (fun o ho => hall o (List.mem_cons_of_mem _ ho))
              (fun o ho => hone o (List.mem_cons_of_mem _ ho)) budget rest (by omega)

/-- The budget for a text in parentheses pays for one call and for the text with some left. -/
theorem exists_budget {inner : Text} {budget : Nat}
    (h : 2 * ('(' :: inner ++ [')']).length ≤ budget) :
    ∃ left, budget = left + 1 ∧ 2 * inner.length + 3 ≤ left := by
  rw [List.length_append, List.length_cons, List.length_singleton] at h
  obtain ⟨left, rfl⟩ := Nat.exists_eq_add_of_le' (show 1 ≤ budget by omega)
  exact ⟨left, rfl, by omega⟩

theorem group_append (inner rest : Text) :
    '(' :: inner ++ [')'] ++ rest = '(' :: (inner ++ ')' :: rest) := by
  rw [List.append_assoc, List.cons_append]
  rfl

/-- **The reader takes whatever is spelled.** The text of a filter is taken off the front of any
    text, with twice its length as the budget. -/
theorem readOne_of_spells {text : Text} {filter : Filter} (h : Spells text filter) :
    ∀ budget rest, 2 * text.length ≤ budget →
      readOne budget (text ++ rest) = some (filter, rest) := by
  induction h with
  | group combine h ih =>
      intro budget rest hbudget
      obtain ⟨left, rfl, hleft⟩ := exists_budget hbudget
      rw [List.length_cons] at hleft
      rw [group_append, List.cons_append, readOne_group,
        readMany_of_spelled h ih left rest (by omega)]
      rfl
  | not h ih =>
      intro budget rest hbudget
      obtain ⟨left, rfl, hleft⟩ := exists_budget hbudget
      rw [List.length_cons] at hleft
      rw [group_append, List.cons_append, readOne_not, ih left (')' :: rest) (by omega)]
      rfl
  | wrapped h ih =>
      intro budget rest hbudget
      obtain ⟨left, rfl, hleft⟩ := exists_budget hbudget
      have hinner := ih left (')' :: rest) (by omega)
      -- The reader looks for the second parenthesis, which is the first of the inner filter.
      obtain ⟨tail, rfl⟩ := h.opens
      rw [group_append, List.cons_append, readOne_wrapped]
      rw [List.cons_append] at hinner
      rw [hinner]
      rfl
  | @test name value hsign hclose hstart =>
      intro budget rest hbudget
      obtain ⟨left, rfl, -⟩ := exists_budget hbudget
      have hplain : StartsPlain (name ++ '=' :: value ++ ')' :: rest) := by
        cases name with
        | nil => exact hstart
        | cons c more => exact hstart
      rw [group_append, readOne_item left hplain]
      exact readItem_append hsign hclose rest

/-- A text is read as the filter that it spells. -/
theorem read?_of_spells {text : Text} {filter : Filter} (h : Spells text filter) :
    read? text = some filter := by
  have hread := readOne_of_spells h (2 * text.length + 2) [] (by omega)
  rw [List.append_nil] at hread
  rw [read?]
  simp only [trim_of_unpadded h.unpadded, hread]

/-- A text without blanks at its ends that is read as a filter spells it. -/
theorem spells_of_read? {text : Text} {filter : Filter} (hpad : Unpadded text)
    (h : read? text = some filter) : Spells text filter := by
  rw [read?] at h
  simp only [trim_of_unpadded hpad] at h
  split at h
  · next found hread =>
      obtain rfl := Option.some.inj h
      obtain ⟨front, heq, hspells⟩ := (spelled_of_read _).1 _ _ _ hread
      rw [List.append_nil] at heq
      rw [heq]
      exact hspells
  · exact nomatch h

/-- **The reader accepts exactly what is spelled**, blanks around it aside. -/
theorem read?_eq_some_iff {text : Text} {filter : Filter} :
    read? text = some filter ↔ Spells (trim text) filter := by
  have htrim : read? text = read? (trim text) := by
    rw [read?, read?, trim_trim]
  rw [htrim]
  exact ⟨spells_of_read? (unpadded_trim text), read?_of_spells⟩

end Filter

end DirectoryRecords
