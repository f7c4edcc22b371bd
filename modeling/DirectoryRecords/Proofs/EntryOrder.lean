import DirectoryRecords.Entry
import DirectoryRecords.TextMap

/-!
# Entry order — sorting by the first value of an attribute

    Sorting is stable, and may be without an attribute, where everything
    stays as it is. Both cases are seen as one here: of two entries one
    `mayPrecede` the other, and sorting puts an entry behind those that it may
    not precede (`sort_cons`). Then:

    * entries that may all precede the others are sorted apart from them
      (`sort_append`, by induction on these entries);
    * so to sort the first entries only is to take the first ones of the
      order exactly when each of them may precede every later one
      (`take_sort_iff`).

    What sorting by an attribute comes to can also be said without it: keys
    never decrease, and the entries of one key are as they were. There is one
    such list only (`StableOrder.eq`).

    That everything of one key is as it was holds of whatever is sorted by a
    text, so this is said first, of any type (`Text.filter_mergeSort`).
-/

namespace DirectoryRecords

/-! ## Sorting by a text -/

namespace Text

section

variable {α : Type} (key : α → Text)

/-- Whether one thing may stand in front of another one: its key is not the greater one. -/
def inKeyOrder (a b : α) : Bool :=
  !decide (key b < key a)

theorem inKeyOrder_iff {a b : α} : inKeyOrder key a b = true ↔ ¬ key b < key a := by
  rw [inKeyOrder, Bool.not_eq_true', decide_eq_false_iff_not]

theorem inKeyOrder_trans (a b c : α) (hab : inKeyOrder key a b = true)
    (hbc : inKeyOrder key b c = true) : inKeyOrder key a c = true := by
  rw [inKeyOrder_iff] at hab hbc ⊢
  intro hca
  by_cases heq : key b = key a
  · rw [heq] at hbc
    exact hbc hca
  · exact hbc (List.lt_trans hca (lt_of_not_lt hab heq))

theorem inKeyOrder_total (a b : α) : (inKeyOrder key a b || inKeyOrder key b a) = true := by
  rw [Bool.or_eq_true, inKeyOrder_iff, inKeyOrder_iff]
  by_cases hlt : key b < key a
  · exact .inr (List.lt_asymm hlt)
  · exact .inl hlt

/-- What has one key is in order already, so sorting leaves it as a part of the whole. -/
theorem filter_mergeSort (list : List α) (text : Text) :
    (list.mergeSort (inKeyOrder key)).filter (key · = text) = list.filter (key · = text) := by
  have hsame : (list.filter (key · = text)).Pairwise fun a b => inKeyOrder key a b = true := by
    refine List.pairwise_of_forall_mem_list fun a ha b hb => ?_
    have hakey := of_decide_eq_true (List.mem_filter.mp ha).2
    have hbkey := of_decide_eq_true (List.mem_filter.mp hb).2
    rw [inKeyOrder_iff, hakey, hbkey]
    exact fun hlt => List.lt_asymm hlt hlt
  have hsub := List.sublist_mergeSort (inKeyOrder_trans key) (inKeyOrder_total key) hsame
    List.filter_sublist
  have hkept := hsub.filter (key · = text)
  rw [List.filter_filter] at hkept
  simp only [Bool.and_self] at hkept
  refine (hkept.eq_of_length ?_).symm
  exact (((List.mergeSort_perm list (inKeyOrder key)).filter _).length_eq).symm

end

end Text

namespace Entry

variable {order : Option Text} {name : Text}

/-- Whether an entry may stand in front of another one. -/
def mayPrecede : Option Text → Entry → Entry → Bool
  | none, _, _ => true
  | some name, a, b => !decide (b.sortKey name < a.sortKey name)

theorem mayPrecede_some_iff {a b : Entry} :
    mayPrecede (some name) a b = true ↔ ¬ b.sortKey name < a.sortKey name :=
  Text.inKeyOrder_iff (sortKey name)

theorem mayPrecede_trans (a b c : Entry) (hab : mayPrecede (some name) a b = true)
    (hbc : mayPrecede (some name) b c = true) : mayPrecede (some name) a c = true :=
  Text.inKeyOrder_trans (sortKey name) a b c hab hbc

theorem mayPrecede_total (name : Text) (a b : Entry) :
    (mayPrecede (some name) a b || mayPrecede (some name) b a) = true :=
  Text.inKeyOrder_total (sortKey name) a b

theorem sort_some (name : Text) (entries : List Entry) :
    sort (some name) entries = entries.mergeSort (mayPrecede (some name)) := rfl

theorem sort_nil (order : Option Text) : sort order [] = [] := by
  cases order with
  | none => rfl
  | some name => exact List.mergeSort_nil

theorem sort_singleton (order : Option Text) (entry : Entry) : sort order [entry] = [entry] := by
  cases order with
  | none => rfl
  | some name => exact List.mergeSort_singleton entry

theorem sort_perm (order : Option Text) (entries : List Entry) :
    (sort order entries).Perm entries := by
  cases order with
  | none => exact .refl entries
  | some name => exact List.mergeSort_perm entries _

theorem isEmpty_sort (order : Option Text) (entries : List Entry) :
    (sort order entries).isEmpty = entries.isEmpty :=
  (sort_perm order entries).isEmpty_eq

/-- Sorting puts entries in order. -/
theorem pairwise_sort (order : Option Text) (entries : List Entry) :
    (sort order entries).Pairwise fun a b => mayPrecede order a b = true := by
  cases order with
  | none => exact List.pairwise_of_forall fun _ _ => rfl
  | some name => exact List.pairwise_mergeSort mayPrecede_trans (mayPrecede_total name) entries

/-- Entries that are rewritten without a change of their keys are sorted as before. -/
theorem sort_map {f : Entry → Entry} {entries : List Entry}
    (h : ∀ name ∈ order, ∀ entry ∈ entries, (f entry).sortKey name = entry.sortKey name) :
    sort order (entries.map f) = (sort order entries).map f := by
  cases order with
  | none => rfl
  | some name =>
      refine (List.map_mergeSort fun a ha b hb => ?_).symm
      rw [h name rfl a ha, h name rfl b hb]

/-! ## Inserting -/

/-- A stretch at the end of a list in which nothing is taken. -/
theorem takeWhile_append_of_neg {α : Type} {p : α → Bool} (front : List α) {back : List α}
    (h : ∀ element ∈ back, p element = false) :
    (front ++ back).takeWhile p = front.takeWhile p ∧
      (front ++ back).dropWhile p = front.dropWhile p ++ back := by
  induction front with
  | nil =>
      cases back with
      | nil => exact ⟨rfl, rfl⟩
      | cons first rest =>
          have hfirst := h first List.mem_cons_self
          simp [hfirst]
  | cons first rest ih =>
      obtain ⟨htake, hdrop⟩ := ih
      rw [List.cons_append, List.takeWhile_cons, List.dropWhile_cons, List.takeWhile_cons,
        List.dropWhile_cons, htake, hdrop]
      by_cases hfirst : p first = true
      · simp [hfirst]
      · simp [hfirst]

/-- **Sorting puts an entry behind those that it may not precede.** -/
theorem sort_cons (order : Option Text) (entry : Entry) (entries : List Entry) :
    sort order (entry :: entries)
      = (sort order entries).takeWhile (fun b => !mayPrecede order entry b) ++
          entry :: (sort order entries).dropWhile (fun b => !mayPrecede order entry b) := by
  cases order with
  | none =>
      show entry :: entries = entries.takeWhile (fun _ => false) ++
        entry :: entries.dropWhile (fun _ => false)
      have hback : ∀ b ∈ entries, (fun _ => false) b = false := fun _ _ => rfl
      obtain ⟨htake, hdrop⟩ := takeWhile_append_of_neg [] hback
      rw [List.nil_append] at htake hdrop
      rw [htake, hdrop]
      rfl
  | some name =>
      obtain ⟨front, back, hsorted, hrest, hfront⟩ :=
        List.mergeSort_cons mayPrecede_trans (mayPrecede_total name) entry entries
      have hpairwise := pairwise_sort (some name) (entry :: entries)
      rw [sort_some, hsorted, List.pairwise_append, List.pairwise_cons] at hpairwise
      have hback : ∀ b ∈ back, (!mayPrecede (some name) entry b) = false := by
        intro b hb
        rw [hpairwise.2.1.1 b hb]
        rfl
      obtain ⟨htake, hdrop⟩ := takeWhile_append_of_neg [] hback
      rw [List.nil_append] at htake hdrop
      rw [sort_some, sort_some, hsorted, hrest, List.takeWhile_append_of_pos hfront,
        List.dropWhile_append_of_pos hfront, htake, hdrop]
      simp

/-! ## The front of the order -/

/-- Entries that may precede all others are sorted apart from them. -/
theorem sort_append {front back : List Entry}
    (h : ∀ a ∈ front, ∀ b ∈ back, mayPrecede order a b = true) :
    sort order (front ++ back) = sort order front ++ sort order back := by
  induction front with
  | nil => rw [List.nil_append, sort_nil, List.nil_append]
  | cons first rest ih =>
      have hback : ∀ b ∈ sort order back, (!mayPrecede order first b) = false := by
        intro b hb
        rw [h first List.mem_cons_self b ((sort_perm order back).mem_iff.mp hb)]
        rfl
      obtain ⟨htake, hdrop⟩ := takeWhile_append_of_neg (sort order rest) hback
      rw [List.cons_append, sort_cons, ih fun a ha => h a (List.mem_cons_of_mem first ha), htake,
        hdrop, sort_cons order first rest, List.append_assoc, List.cons_append]

/-- **The first entries in order are the first entries put in order** exactly when each of these
    may precede every later one. -/
theorem take_sort_iff (order : Option Text) (entries : List Entry) (n : Nat) :
    (sort order entries).take n = sort order (entries.take n)
      ↔ ∀ a ∈ entries.take n, ∀ b ∈ entries.drop n, mayPrecede order a b = true := by
  constructor
  · intro h a ha b hb
    have hsorted := pairwise_sort order entries
    rw [← List.take_append_drop n (sort order entries), List.pairwise_append] at hsorted
    -- What is left of the order behind the first entries is what is left of the entries.
    have hrest : ((sort order entries).drop n).Perm (entries.drop n) := by
      refine (List.perm_append_left_iff (entries.take n)).mp ?_
      have hfront : ((sort order entries).take n).Perm (entries.take n) := by
        rw [h]
        exact sort_perm order (entries.take n)
      refine (hfront.symm.append_right _).trans ?_
      rw [List.take_append_drop, List.take_append_drop]
      exact sort_perm order entries
    refine hsorted.2.2 a ?_ b (hrest.mem_iff.mpr hb)
    rw [h]
    exact (sort_perm order (entries.take n)).mem_iff.mpr ha
  · intro h
    have happend := sort_append h
    rw [List.take_append_drop] at happend
    rw [happend]
    rcases Nat.le_total n entries.length with hn | hn
    · refine List.take_left' ?_
      rw [(sort_perm order (entries.take n)).length_eq, List.length_take, Nat.min_eq_left hn]
    · rw [List.drop_of_length_le hn, sort_nil, List.append_nil, List.take_of_length_le hn]
      refine List.take_of_length_le ?_
      rw [(sort_perm order entries).length_eq]
      exact hn

/-! ## Stable orders -/

/-- No key is smaller than one before it. -/
def Increasing (key : Entry → Text) (entries : List Entry) : Prop :=
  entries.Pairwise fun a b => ¬ key b < key a

/-- Entries are in the stable order of their keys: they are the same entries, keys never decrease,
    and among the entries of one key everything is as it was. -/
structure StableOrder (key : Entry → Text) (entries ordered : List Entry) : Prop where
  perm : ordered.Perm entries
  increasing : Increasing key ordered
  stable : ∀ text, ordered.filter (key · = text) = entries.filter (key · = text)

/-- Sorting puts entries into the stable order of the first values of the attribute. -/
theorem stableOrder_sort (name : Text) (entries : List Entry) :
    StableOrder (sortKey name) entries (sort (some name) entries) := by
  refine ⟨sort_perm (some name) entries, ?_, fun text => ?_⟩
  · exact (pairwise_sort (some name) entries).imp mayPrecede_some_iff.mp
  · exact Text.filter_mergeSort (sortKey name) entries text

section

variable {key : Entry → Text} {left right : List Entry}

/-- Lists that have the same entries of every key have the same entries. -/
theorem mem_of_filter_eq (h : ∀ text, left.filter (key · = text) = right.filter (key · = text))
    {entry : Entry} (hentry : entry ∈ left) : entry ∈ right := by
  have hkey : entry ∈ left.filter (key · = key entry) :=
    List.mem_filter.mpr ⟨hentry, decide_eq_true rfl⟩
  rw [h] at hkey
  exact (List.mem_filter.mp hkey).1

/-- In increasing order no key is smaller than that of the first entry. -/
theorem not_lt_of_mem_increasing {first entry : Entry} {rest : List Entry}
    (h : Increasing key (first :: rest)) (hentry : entry ∈ first :: rest) :
    ¬ key entry < key first := by
  rcases List.mem_cons.mp hentry with rfl | hentry
  · exact fun hlt => List.lt_asymm hlt hlt
  · exact (List.pairwise_cons.mp h).1 entry hentry

/-- Two lists in increasing order are one list if they have the same entries of every key. The
    first entry has the least key of all, and is the first one of this key. -/
theorem eq_of_increasing (hleft : Increasing key left) (hright : Increasing key right)
    (h : ∀ text, left.filter (key · = text) = right.filter (key · = text)) : left = right := by
  induction left generalizing right with
  | nil =>
      refine (List.eq_nil_iff_forall_not_mem.mpr fun entry hentry => ?_).symm
      exact absurd (mem_of_filter_eq (fun text => (h text).symm) hentry) List.not_mem_nil
  | cons first rest ih =>
      cases right with
      | nil => exact absurd (mem_of_filter_eq h List.mem_cons_self) List.not_mem_nil
      | cons other others =>
          have hfirst : ¬ key other < key first := not_lt_of_mem_increasing hleft
            (mem_of_filter_eq (fun text => (h text).symm) List.mem_cons_self)
          have hother : ¬ key first < key other :=
            not_lt_of_mem_increasing hright (mem_of_filter_eq h List.mem_cons_self)
          have hkey : key first = key other :=
            Decidable.byContradiction fun hne => hfirst (Text.lt_of_not_lt hother hne)
          have hhead := h (key first)
          rw [List.filter_cons, List.filter_cons, if_pos (decide_eq_true rfl),
            if_pos (decide_eq_true hkey.symm)] at hhead
          obtain ⟨rfl, _⟩ := List.cons.inj hhead
          congr 1
          refine ih (List.pairwise_cons.mp hleft).2 (List.pairwise_cons.mp hright).2 fun text => ?_
          have htext := h text
          rw [List.filter_cons, List.filter_cons] at htext
          split at htext
          · exact (List.cons.inj htext).2
          · exact htext

/-- **There is one stable order.** -/
theorem StableOrder.eq {entries : List Entry} (hleft : StableOrder key entries left)
    (hright : StableOrder key entries right) : left = right :=
  eq_of_increasing hleft.increasing hright.increasing fun text =>
    (hleft.stable text).trans (hright.stable text).symm

end

end Entry

end DirectoryRecords
